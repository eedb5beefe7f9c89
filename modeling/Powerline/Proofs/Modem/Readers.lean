import Mathlib.Data.List.Chain
import Powerline.Proofs.Modem.Mailboxes
import Powerline.Proofs.Modem.Moments

/-!
# Reading a mailbox

A reader takes the messages out of its mailbox one by one, whenever it comes to it, and gives up
when nothing has come for too long. If there is room for the messages that matter to it, and each
of them comes soon enough after the one before, it gets all of them, whatever else comes in between
(`Hears.filterMap_collected_of_begins`).
-/

namespace Powerline.Modem

/-- The reports that a run brings to the subscribers, with their times. -/
def reports {β : Type} (report? : Message → Option β) (modem : Modem) :
    List Moment → List (Instant × β)
  | [] => []
  | moment :: rest =>
      (((modem.dispatched? moment.now moment.event).bind report?).map (moment.now, ·)).toList
        ++ (step moment.line moment.now modem moment.event).1.reports report? rest

/-- What waits in a mailbox. -/
def waitingFor (modem : Modem) (id : SubscriptionId) : List Message :=
  (modem.mailbox? id).elim [] Mailbox.waiting

/-- The message that an event takes out of a mailbox. -/
def taken? (modem : Modem) (id : SubscriptionId) : Event → Option Message
  | .receive other => if other = id then (modem.waitingFor id).head? else none
  | _ => none

/-- The wait of a reader has come to its end, and nothing is there for it. -/
def GivesUp (id : SubscriptionId) (timeout : Duration) (modem : Modem) (since now : Instant) :
    Prop :=
  modem.waitingFor id = [] ∧ since + timeout ≤ now

instance (id : SubscriptionId) (timeout : Duration) (modem : Modem) (since now : Instant) :
    Decidable (GivesUp id timeout modem since now) :=
  inferInstanceAs (Decidable (_ ∧ _))

/-- When the wait began that goes on after a moment. A reader waits anew for each message. -/
def waitsSince (modem : Modem) (id : SubscriptionId) (since : Instant) (moment : Moment) :
    Instant :=
  match modem.taken? id moment.event with
  | some _ => moment.now
  | none => since

/-- The messages that a reader takes out of its mailbox during a run until it gives up, and those
that still wait for it in the end. Its first wait begins at the given time. -/
def collected (id : SubscriptionId) (timeout : Duration) (modem : Modem) (since : Instant) :
    List Moment → List Message
  | [] => modem.waitingFor id
  | moment :: rest =>
      if GivesUp id timeout modem since moment.now then []
      else (modem.taken? id moment.event).toList
        ++ (step moment.line moment.now modem moment.event).1.collected id timeout
          (modem.waitsSince id since moment) rest

/-- The reader has not given up when the first report comes. -/
def Begins {β : Type} (report? : Message → Option β) (id : SubscriptionId) (timeout : Duration)
    (modem : Modem) (since : Instant) : List Moment → Prop
  | [] => True
  | moment :: rest =>
      ¬ GivesUp id timeout modem since moment.now ∧
        ((modem.dispatched? moment.now moment.event).bind report? = none →
          (step moment.line moment.now modem moment.event).1.Begins report? id timeout
            (modem.waitsSince id since moment) rest)

/-- There is room for every message of a run that the pattern holds for. -/
def HasRoom (id : SubscriptionId) (pattern : Pattern) (capacity : Nat) (modem : Modem)
    (moments : List Moment) : Prop :=
  ∀ past moment, past ++ [moment] <+: moments → ∀ message,
    (modem.run past).1.dispatched? moment.now moment.event = some message →
    pattern.holds message = true → ((modem.run past).1.waitingFor id).length < capacity

/-- The one comes before a wait that begins with the other has ended. -/
def InTime (timeout : Duration) (earlier later : Instant) : Prop :=
  later < earlier + timeout

variable {β : Type} {modem : Modem} {id : SubscriptionId} {pattern : Pattern} {capacity : Nat}
  {waiting : List Message} {report? : Message → Option β} {moment : Moment} {event : Event}
  {moments before after : List Moment} {timeout : Duration} {since latest : Instant}

/-! ### Runs -/

theorem reports_append (report? : Message → Option β) (modem : Modem) (before after : List Moment) :
    modem.reports report? (before ++ after)
      = modem.reports report? before ++ (modem.run before).1.reports report? after := by
  induction before generalizing modem with
  | nil => rfl
  | cons first rest ih => simp only [List.cons_append, reports, run, ih, List.append_assoc]

theorem exists_moment_of_mem_reports {entry : Instant × β}
    (mem : entry ∈ modem.reports report? moments) : ∃ moment ∈ moments, entry.1 = moment.now := by
  induction moments generalizing modem with
  | nil => contradiction
  | cons first rest ih =>
      rcases List.mem_append.mp mem with now | later
      · rw [Option.mem_toList, Option.map_eq_some_iff] at now
        rcases now with ⟨report, _, rfl⟩
        exact ⟨first, List.mem_cons_self, rfl⟩
      · rcases ih later with ⟨moment, behind, same⟩
        exact ⟨moment, List.mem_cons_of_mem _ behind, same⟩

theorem map_snd_reports_cons (report? : Message → Option β) (modem : Modem) (moment : Moment)
    (moments : List Moment) :
    (modem.reports report? (moment :: moments)).map Prod.snd
      = ((modem.dispatched? moment.now moment.event).bind report?).toList
        ++ ((step moment.line moment.now modem moment.event).1.reports report? moments).map
          Prod.snd := by
  rw [reports, List.map_append]
  cases (modem.dispatched? moment.now moment.event).bind report? with
  | none => rfl
  | some report => rfl

theorem hasRoom_cons (room : modem.HasRoom id pattern capacity (moment :: moments)) :
    (step moment.line moment.now modem moment.event).1.HasRoom id pattern capacity moments := by
  intro past later reached
  exact room (moment :: past) later (by simpa using reached)

theorem hasRoom_append (room : modem.HasRoom id pattern capacity (before ++ after)) :
    modem.HasRoom id pattern capacity before ∧
      (modem.run before).1.HasRoom id pattern capacity after := by
  constructor
  · intro past moment reached
    exact room past moment (reached.trans (List.prefix_append _ _))
  · intro past moment reached message brings
    have whole := room (before ++ past) moment (by simpa using reached) message
    rw [run_append] at whole
    exact whole brings

/-! ### One message -/

theorem filterMap_queued {arriving : Option Message}
    (heard : ∀ message report, report? message = some report → pattern.holds message = true)
    (room : ∀ message, arriving = some message → pattern.holds message = true →
      waiting.length < capacity) :
    (queued pattern capacity waiting arriving).filterMap report?
      = waiting.filterMap report? ++ (arriving.bind report?).toList := by
  cases arriving with
  | none => simp [queued]
  | some message =>
      cases reported : report? message with
      | some report =>
          have holds := heard message report reported
          have fits := room message rfl holds
          simp [queued, holds, fits, reported]
      | none =>
          simp only [queued, Option.bind_some, reported, Option.toList_none, List.append_nil]
          split
          · simp [reported]
          · rfl

theorem eq_nil_of_queued_eq_nil {arriving : Option Message}
    (empty : queued pattern capacity waiting arriving = []) : waiting = [] := by
  cases arriving with
  | none => exact empty
  | some message =>
      simp only [queued] at empty
      split at empty
      · simp at empty
      · exact empty

theorem length_queued_le (pattern : Pattern) (capacity : Nat) (waiting : List Message)
    (arriving : Option Message) :
    (queued pattern capacity waiting arriving).length ≤ waiting.length + 1 := by
  cases arriving with
  | none => simp [queued]
  | some message =>
      simp only [queued]
      split
      · simp
      · omega

theorem taken?_of_ne (kept : event ≠ .receive id) : modem.taken? id event = none := by
  cases event with
  | receive other =>
      have apart : other ≠ id := by
        rintro rfl
        exact kept rfl
      rw [taken?, if_neg apart]
  | submit | subscribe | unsubscribe | discard | close | take | arrive | lineEnd | tick
  | abandon => rfl

/-! ### Reports in time -/

/-- The time of the latest report after a moment. -/
def latestAfter (report? : Message → Option β) (modem : Modem) (latest : Instant)
    (moment : Moment) : Instant :=
  match (modem.dispatched? moment.now moment.event).bind report? with
  | some _ => moment.now
  | none => latest

theorem prompt_step
    (prompt : (latest :: (modem.reports report? (moment :: moments)).map Prod.fst).IsChain
      (InTime timeout)) :
    (latestAfter report? modem latest moment
      :: (((step moment.line moment.now modem moment.event).1.reports report? moments).map
        Prod.fst)).IsChain (InTime timeout) := by
  unfold reports at prompt
  unfold latestAfter
  cases brings : (modem.dispatched? moment.now moment.event).bind report? with
  | none =>
      rw [brings] at prompt
      exact prompt
  | some report =>
      rw [brings] at prompt
      exact (List.isChain_cons_cons.mp prompt).2

theorem ordered_step (ordered : (latest :: (moment :: moments).map Moment.now).Pairwise (· ≤ ·)) :
    (latestAfter report? modem latest moment :: moments.map Moment.now).Pairwise (· ≤ ·) := by
  rw [List.map_cons, List.pairwise_cons] at ordered
  unfold latestAfter
  split
  · exact ordered.2
  · rw [List.pairwise_cons]
    refine ⟨?_, (List.pairwise_cons.mp ordered.2).2⟩
    intro time mem
    exact ordered.1 time (List.mem_cons_of_mem _ mem)

/-- After the end of the wait for the next report, none comes. -/
theorem reports_eq_nil_of_ended
    (prompt : (latest :: (modem.reports report? (moment :: moments)).map Prod.fst).IsChain
      (InTime timeout))
    (ordered : (latest :: (moment :: moments).map Moment.now).Pairwise (· ≤ ·))
    (ended : latest + timeout ≤ moment.now) : modem.reports report? (moment :: moments) = [] := by
  cases found : modem.reports report? (moment :: moments) with
  | nil => rfl
  | cons entry later =>
      rw [found, List.map_cons, List.isChain_cons_cons] at prompt
      have mem : entry ∈ modem.reports report? (moment :: moments) := by
        rw [found]
        exact List.mem_cons_self
      rcases exists_moment_of_mem_reports mem with ⟨other, inside, same⟩
      have inTime : entry.1 < latest + timeout := prompt.1
      have behind : moment.now ≤ other.now := by
        rcases List.mem_cons.mp inside with rfl | later
        · exact Nat.le_refl _
        · have sorted := (List.pairwise_cons.mp (List.pairwise_cons.mp ordered).2).1
          exact sorted _ (List.mem_map_of_mem later)
      have late : entry.1 < other.now :=
        Nat.lt_of_lt_of_le inTime (Nat.le_trans ended behind)
      rw [same] at late
      exact absurd late (Nat.lt_irrefl _)

namespace Hears

theorem waitingFor_eq (hears : modem.Hears id pattern capacity waiting) :
    modem.waitingFor id = waiting := by
  rw [waitingFor, hears.mailbox]
  rfl

theorem step_taken (hears : modem.Hears id pattern capacity waiting) (line : Line) (now : Instant)
    (apart : ¬ event.Concerns id) :
    ∃ rest, waiting = (modem.taken? id event).toList ++ rest ∧
      (Modem.step line now modem event).1.Hears id pattern capacity
        (queued pattern capacity rest (modem.dispatched? now event)) := by
  have next := hears.step line now apart
  cases event with
  | receive other =>
      simp only [waitingAfter] at next
      simp only [taken?, hears.waitingFor_eq]
      split at next
      · next same =>
          refine ⟨waiting.tail, ?_, next⟩
          rw [if_pos same]
          cases waiting <;> rfl
      · next apart =>
          refine ⟨waiting, ?_, next⟩
          rw [if_neg apart]
          rfl
  | submit | subscribe | unsubscribe | discard | close | take | arrive | lineEnd | tick
  | abandon => exact ⟨waiting, rfl, next⟩

/-- What a moment takes out and brings in does not change what matters, on the whole. -/
theorem step_reports (hears : modem.Hears id pattern capacity waiting)
    (heard : ∀ message report, report? message = some report → pattern.holds message = true)
    (apart : ¬ moment.event.Concerns id)
    (room : modem.HasRoom id pattern capacity (moment :: moments)) :
    ∃ more,
      (Modem.step moment.line moment.now modem moment.event).1.Hears id pattern capacity more ∧
      waiting.filterMap report?
          ++ ((modem.dispatched? moment.now moment.event).bind report?).toList
        = (modem.taken? id moment.event).toList.filterMap report? ++ more.filterMap report? ∧
      (more = [] → waiting = (modem.taken? id moment.event).toList ∧
        (modem.dispatched? moment.now moment.event).bind report? = none) := by
  rcases hears.step_taken moment.line moment.now apart with ⟨rest, split, next⟩
  have fits : ∀ message, modem.dispatched? moment.now moment.event = some message →
      pattern.holds message = true → rest.length < capacity := by
    intro message brings holds
    have whole := room [] moment (by simp) message brings holds
    rw [run, hears.waitingFor_eq, split, List.length_append] at whole
    omega
  have kept := filterMap_queued heard fits
  refine ⟨_, next, ?_, ?_⟩
  · rw [split, kept, List.filterMap_append, List.append_assoc]
  · intro empty
    rw [empty, List.filterMap_nil, eq_comm, List.append_eq_nil_iff, Option.toList_eq_nil_iff]
      at kept
    rw [eq_nil_of_queued_eq_nil empty, List.append_nil] at split
    exact ⟨split, kept.2⟩

theorem holds_of_mem_collected (hears : modem.Hears id pattern capacity waiting)
    (apart : ∀ moment ∈ moments, ¬ moment.event.Concerns id) :
    ∀ message ∈ modem.collected id timeout since moments, pattern.holds message = true := by
  induction moments generalizing modem waiting since with
  | nil =>
      rw [collected, hears.waitingFor_eq]
      exact hears.wanted
  | cons first rest ih =>
      rw [List.forall_mem_cons] at apart
      rcases hears.step_taken first.line first.now apart.1 with ⟨kept, split, next⟩
      have wanted := hears.wanted
      rw [split] at wanted
      rw [collected]
      intro message mem
      split_ifs at mem
      · contradiction
      · rcases List.mem_append.mp mem with now | later
        · exact wanted message (List.mem_append_left _ now)
        · exact ih next apart.2 message later

theorem hasRoom_of_short (hears : modem.Hears id pattern capacity waiting)
    (apart : ∀ moment ∈ moments, ¬ moment.event.Concerns id)
    (short : waiting.length + moments.length ≤ capacity) :
    modem.HasRoom id pattern capacity moments := by
  induction moments generalizing modem waiting with
  | nil => exact forall_moments_nil
  | cons first rest ih =>
      rw [List.forall_mem_cons] at apart
      rw [List.length_cons] at short
      rcases hears.step_taken first.line first.now apart.1 with ⟨kept, split, next⟩
      have length := congrArg List.length split
      have bound := length_queued_le pattern capacity kept (modem.dispatched? first.now first.event)
      rw [List.length_append] at length
      apply forall_moments_cons
      · intro message _ _
        rw [run, hears.waitingFor_eq]
        omega
      · exact ih next apart.2 (by omega)

/-- While nobody reads, the reports that come are added to those that wait. -/
theorem run_unread (hears : modem.Hears id pattern capacity waiting)
    (heard : ∀ message report, report? message = some report → pattern.holds message = true)
    (apart : ∀ moment ∈ moments, ¬ moment.event.Concerns id)
    (unread : ∀ moment ∈ moments, moment.event ≠ .receive id)
    (room : modem.HasRoom id pattern capacity moments) :
    ∃ more, (modem.run moments).1.Hears id pattern capacity more ∧
      more.filterMap report?
        = waiting.filterMap report? ++ (modem.reports report? moments).map Prod.snd := by
  induction moments generalizing modem waiting with
  | nil => exact ⟨waiting, hears, by simp [reports]⟩
  | cons first rest ih =>
      rw [List.forall_mem_cons] at apart unread
      rcases hears.step_reports heard apart.1 room with ⟨middle, next, balance, _⟩
      rcases ih next apart.2 unread.2 (hasRoom_cons room) with ⟨more, later, collects⟩
      refine ⟨more, later, ?_⟩
      rw [taken?_of_ne unread.1, Option.toList_none, List.filterMap_nil, List.nil_append] at balance
      rw [collects, ← balance, map_snd_reports_cons, List.append_assoc]

/-- What a reader that goes on gets: what it takes now, and what it collects later. -/
theorem filterMap_collected_cons (hears : modem.Hears id pattern capacity waiting)
    (heard : ∀ message report, report? message = some report → pattern.holds message = true)
    (apart : ¬ moment.event.Concerns id)
    (room : modem.HasRoom id pattern capacity (moment :: moments))
    (goesOn : ¬ modem.GivesUp id timeout since moment.now)
    (later : ∀ more, (Modem.step moment.line moment.now modem moment.event).1.Hears id pattern
        capacity more →
      (more = [] → waiting = (modem.taken? id moment.event).toList ∧
        (modem.dispatched? moment.now moment.event).bind report? = none) →
      ((Modem.step moment.line moment.now modem moment.event).1.collected id timeout
          (modem.waitsSince id since moment) moments).filterMap report?
        = more.filterMap report? ++ ((Modem.step moment.line moment.now modem
            moment.event).1.reports report? moments).map Prod.snd) :
    (modem.collected id timeout since (moment :: moments)).filterMap report?
      = waiting.filterMap report? ++ (modem.reports report? (moment :: moments)).map Prod.snd := by
  rcases hears.step_reports heard apart room with ⟨more, next, balance, empties⟩
  rw [collected, if_neg goesOn, List.filterMap_append, later more next empties,
    ← List.append_assoc, ← balance, map_snd_reports_cons, List.append_assoc]

/-- A reader gets all reports that come in time, in their order: those that wait and those that the
run brings. -/
theorem filterMap_collected (hears : modem.Hears id pattern capacity waiting)
    (heard : ∀ message report, report? message = some report → pattern.holds message = true)
    (apart : ∀ moment ∈ moments, ¬ moment.event.Concerns id)
    (room : modem.HasRoom id pattern capacity moments)
    (ordered : (latest :: moments.map Moment.now).Pairwise (· ≤ ·))
    (prompt : (latest :: (modem.reports report? moments).map Prod.fst).IsChain (InTime timeout))
    (emptied : waiting = [] → latest ≤ since) :
    (modem.collected id timeout since moments).filterMap report?
      = waiting.filterMap report? ++ (modem.reports report? moments).map Prod.snd := by
  -- If nothing waits, the wait of the reader began at the latest report or after it.
  induction moments generalizing modem waiting since latest with
  | nil => simp [collected, hears.waitingFor_eq, reports]
  | cons first rest ih =>
      rw [List.forall_mem_cons] at apart
      by_cases done : modem.GivesUp id timeout since first.now
      · rcases done with ⟨empty, ends⟩
        rw [hears.waitingFor_eq] at empty
        have ended : latest + timeout ≤ first.now :=
          Nat.le_trans (Nat.add_le_add_right (emptied empty) timeout) ends
        rw [collected, if_pos ⟨by rw [hears.waitingFor_eq, empty], ends⟩, empty,
          reports_eq_nil_of_ended prompt ordered ended]
        rfl
      · apply hears.filterMap_collected_cons heard apart.1 room done
        intro more next empties
        apply ih next apart.2 (hasRoom_cons room) (ordered_step ordered) (prompt_step prompt)
        intro empty
        rcases empties empty with ⟨gone, silent⟩
        rw [latestAfter, silent, waitsSince]
        cases taken : modem.taken? id first.event with
        | some message => exact (List.pairwise_cons.mp ordered).1 _ List.mem_cons_self
        | none =>
            rw [taken] at gone
            exact emptied gone

/-- A reader gets all reports if it has not given up when the first one comes and each other one
comes in time. -/
theorem filterMap_collected_of_begins (hears : modem.Hears id pattern capacity waiting)
    (heard : ∀ message report, report? message = some report → pattern.holds message = true)
    (apart : ∀ moment ∈ moments, ¬ moment.event.Concerns id)
    (room : modem.HasRoom id pattern capacity moments)
    (ordered : (moments.map Moment.now).Pairwise (· ≤ ·))
    (spaced : ((modem.reports report? moments).map Prod.fst).IsChain (InTime timeout))
    (begins : modem.Begins report? id timeout since moments) :
    (modem.collected id timeout since moments).filterMap report?
      = waiting.filterMap report? ++ (modem.reports report? moments).map Prod.snd := by
  induction moments generalizing modem waiting since with
  | nil => simp [collected, hears.waitingFor_eq, reports]
  | cons first rest ih =>
      rw [List.forall_mem_cons] at apart
      rcases begins with ⟨goesOn, further⟩
      apply hears.filterMap_collected_cons heard apart.1 room goesOn
      intro more next empties
      cases brings : (modem.dispatched? first.now first.event).bind report? with
      | none =>
          rw [reports, brings] at spaced
          exact ih next apart.2 (hasRoom_cons room) (List.pairwise_cons.mp ordered).2 spaced
            (further brings)
      | some report =>
          rw [reports, brings] at spaced
          apply next.filterMap_collected heard apart.2 (hasRoom_cons room) ordered spaced
          intro empty
          rw [brings] at empties
          exact absurd (empties empty).2 (by simp)

end Hears

end Powerline.Modem
