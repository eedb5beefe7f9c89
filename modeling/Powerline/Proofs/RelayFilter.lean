import Mathlib.Data.FinEnum
import Mathlib.Data.List.DropRight
import Powerline.RelayFilter

/-!
# What the filter suppresses

The filter keeps a short list, from which messages fall out when they are too old or when there are
too many. As long as time goes on, it answers as if it knew its whole history: a message is a
relayed copy exactly if one of the last messages that were let through is no older than the window
and differs from it in the hops left only (`observe_eq_history`). The list holds what is left of
those last messages at the time of the latest one (`Remembers`), which every further message keeps
so. A message that is suppressed leaves no trace.
-/

namespace Powerline

namespace Flags

/-- The flags with a blank in place of the hops left. -/
def withoutHops (flags : Flags) : Flags := ⟨flags.byte &&& 0xf3⟩

theorem byte_withoutHops (flags : Flags) :
    flags.withoutHops.byte
      = flags.kind.toBits <<< 5 ||| flags.isExtended.toUInt8 <<< 4 ||| flags.hopLimit := by
  cases flags with
  | mk byte =>
      revert byte
      decide +kernel

theorem parts_withoutHops (flags : Flags) :
    flags.withoutHops.kind = flags.kind ∧ flags.withoutHops.isExtended = flags.isExtended ∧
      flags.withoutHops.hopLimit = flags.hopLimit := by
  cases flags with
  | mk byte =>
      revert byte
      decide +kernel

theorem byte_eq (flags : Flags) :
    flags.byte = flags.withoutHops.byte ||| flags.hopsLeft <<< 2 := by
  cases flags with
  | mk byte =>
      revert byte
      decide +kernel

variable {left right : Flags}

theorem withoutHops_eq_iff : left.withoutHops = right.withoutHops
    ↔ left.kind = right.kind ∧ left.isExtended = right.isExtended
      ∧ left.hopLimit = right.hopLimit := by
  constructor
  · intro same
    rcases left.parts_withoutHops with ⟨kind, extended, limit⟩
    rcases right.parts_withoutHops with ⟨otherKind, otherExtended, otherLimit⟩
    rw [← kind, ← extended, ← limit, same]
    exact ⟨otherKind, otherExtended, otherLimit⟩
  · rintro ⟨kind, extended, limit⟩
    apply congrArg Flags.mk (_ : left.withoutHops.byte = right.withoutHops.byte)
    rw [byte_withoutHops, byte_withoutHops, kind, extended, limit]

theorem eq_of_withoutHops (same : left.withoutHops = right.withoutHops)
    (hops : left.hopsLeft = right.hopsLeft) : left = right := by
  have bytes : left.byte = right.byte := by rw [left.byte_eq, right.byte_eq, same, hops]
  exact congrArg Flags.mk bytes

end Flags

namespace Message

/-- The message with a blank in place of the hops left. -/
def withoutHops (message : Message) : Message :=
  { message with flags := message.flags.withoutHops }

/-- A relayed copy is another message that differs in nothing but the hops left. -/
theorem isRelayOf_iff {left right : Message} :
    left.isRelayOf right = true ↔ left.withoutHops = right.withoutHops ∧ left ≠ right := by
  simp only [isRelayOf, withoutHops, Message.mk.injEq, Bool.and_eq_true, decide_eq_true_eq,
    bne_iff_ne, Flags.withoutHops_eq_iff]
  constructor
  · rintro ⟨⟨⟨⟨⟨⟨⟨source, destination⟩, command⟩, kind⟩, extended⟩, limit⟩, hops⟩, payload⟩
    refine ⟨⟨source, destination, ⟨kind, extended, limit⟩, command, payload⟩, ?_⟩
    rintro rfl
    exact hops rfl
  · rintro ⟨⟨source, destination, ⟨kind, extended, limit⟩, command, payload⟩, different⟩
    refine ⟨⟨⟨⟨⟨⟨⟨source, destination⟩, command⟩, kind⟩, extended⟩, limit⟩, ?_⟩, payload⟩
    intro hops
    have flags : left.flags = right.flags :=
      Flags.eq_of_withoutHops (Flags.withoutHops_eq_iff.mpr ⟨kind, extended, limit⟩) hops
    apply different
    cases left
    cases right
    subst source destination command flags payload
    rfl

end Message

namespace RelayFilter

/-- A message, and when it came. -/
abbrev Arrival := Instant × Message

/-- The answers to messages that come one after another. -/
def answers (filter : RelayFilter) : List Arrival → List Bool
  | [] => []
  | arrival :: rest =>
      (filter.observe arrival.1 arrival.2).1 :: (filter.observe arrival.1 arrival.2).2.answers rest

/-- The message, if the filter lets it through. -/
def admission (filter : RelayFilter) (arrival : Arrival) : List Arrival :=
  if (filter.observe arrival.1 arrival.2).1 then [] else [arrival]

/-- Those of the messages that the filter lets through. -/
def admitted (filter : RelayFilter) : List Arrival → List Arrival
  | [] => []
  | arrival :: rest =>
      filter.admission arrival ++ (filter.observe arrival.1 arrival.2).2.admitted rest

/-- The filter when the messages have come. -/
def after (filter : RelayFilter) (arrivals : List Arrival) : RelayFilter :=
  arrivals.foldl (fun filter arrival => (filter.observe arrival.1 arrival.2).2) filter

/-- The message came no longer ago than the window. -/
def isRecent (window : Duration) (now : Instant) (seen : Arrival) : Bool :=
  now - seen.1 ≤ window

/-- Messages in the order in which they came. -/
def InOrder (arrivals : List Arrival) : Prop :=
  arrivals.Pairwise fun earlier later => earlier.1 ≤ later.1

/-- At the time of the latest message, the list of the filter holds those of the last messages that
were let through which are recent. -/
structure Remembers (filter : RelayFilter) (clock : Instant) (history : List Arrival) : Prop where
  recent : filter.recent = (history.rtake capacity).filter (isRecent filter.window clock)
  inOrder : InOrder history
  past : ∀ seen ∈ history, seen.1 ≤ clock

section Lists

variable {α : Type} {list : List α} {first second keep : α → Bool}

theorem length_rtake (list : List α) (count : Nat) :
    (list.rtake count).length = min count list.length := by
  rw [List.rtake, List.length_drop]
  omega

theorem rtake_of_length_le {count : Nat} (short : list.length ≤ count) :
    list.rtake count = list := by
  rw [List.rtake, Nat.sub_eq_zero_of_le short, List.drop_zero]

theorem exists_rtake_succ {count : Nat} (long : count < list.length) :
    ∃ head, list.rtake (count + 1) = head :: list.rtake count := by
  have inside : list.length - (count + 1) < list.length := by omega
  have next : list.length - (count + 1) + 1 = list.length - count := by omega
  rw [List.rtake, List.drop_eq_getElem_cons inside, next]
  exact ⟨_, rfl⟩

theorem dropWhile_dropWhile (weaker : ∀ entry, first entry = true → second entry = true) :
    (list.dropWhile first).dropWhile second = list.dropWhile second := by
  induction list with
  | nil => rfl
  | cons head rest ih =>
      cases drops : first head with
      | true => rw [List.dropWhile_cons_of_pos drops, ih,
          List.dropWhile_cons_of_pos (weaker head drops)]
      | false => rw [List.dropWhile_cons_of_neg (by simp [drops])]

/-- Where those that are dropped stand before all others, none is left of them. -/
theorem dropWhile_eq_filter
    (ascending : list.Pairwise fun former latter => keep former = true → keep latter = true) :
    list.dropWhile (fun entry => !keep entry) = list.filter keep := by
  induction list with
  | nil => rfl
  | cons head rest ih =>
      rw [List.pairwise_cons] at ascending
      cases kept : keep head with
      | true =>
          have all : rest.filter keep = rest :=
            List.filter_eq_self.mpr fun entry mem => ascending.1 entry mem kept
          simp [kept, all]
      | false => simp [kept, ih ascending.2]

end Lists

variable {filter : RelayFilter} {clock now : Instant} {history : List Arrival}
  {window : Duration} {message : Message}

theorem isRecent_mono {former latter : Arrival} (order : former.1 ≤ latter.1)
    (recent : isRecent window now former = true) : isRecent window now latter = true := by
  rw [isRecent, decide_eq_true_eq] at recent ⊢
  exact Nat.le_trans (Nat.sub_le_sub_left order now) recent

theorem isRecent_of_later {seen : Arrival} (later : clock ≤ now)
    (recent : isRecent window now seen = true) : isRecent window clock seen = true := by
  rw [isRecent, decide_eq_true_eq] at recent ⊢
  exact Nat.le_trans (Nat.sub_le_sub_right later seen.1) recent

theorem InOrder.rtake (inOrder : InOrder history) (count : Nat) :
    InOrder (history.rtake count) :=
  inOrder.sublist (List.drop_sublist _ _)

theorem forget_eq (filter : RelayFilter) (now : Instant) :
    filter.forget now
      = filter.recent.dropWhile fun seen => !isRecent filter.window now seen := by
  rw [forget]
  congr 1
  funext seen
  rw [isRecent, ← decide_not, decide_eq_decide]
  exact Nat.not_le.symm

theorem forget_of_inOrder (inOrder : InOrder filter.recent) :
    filter.forget now = filter.recent.filter (isRecent filter.window now) := by
  rw [forget_eq]
  exact dropWhile_eq_filter (inOrder.imp fun order => isRecent_mono order)

namespace Remembers

theorem inOrder_recent (remembers : filter.Remembers clock history) : InOrder filter.recent := by
  rw [remembers.recent]
  exact (remembers.inOrder.rtake capacity).filter _

theorem length_recent_le (remembers : filter.Remembers clock history) :
    filter.recent.length ≤ capacity := by
  have taken : (history.rtake capacity).length ≤ capacity := by
    rw [length_rtake]
    exact Nat.min_le_left _ _
  rw [remembers.recent]
  exact Nat.le_trans (List.length_filter_le _ _) taken

theorem forget_eq (remembers : filter.Remembers clock history) (later : clock ≤ now) :
    filter.forget now = (history.rtake capacity).filter (isRecent filter.window now) := by
  rw [forget_of_inOrder remembers.inOrder_recent, remembers.recent, List.filter_filter]
  apply List.filter_congr
  intro seen _
  rw [Bool.and_eq_left_iff_imp]
  exact isRecent_of_later later

end Remembers

/-- Room is made by forgetting the one message that is no longer among the last. -/
theorem makeRoom_filter (inOrder : InOrder history) :
    makeRoom ((history.rtake capacity).filter (isRecent window now))
      = (history.rtake (capacity - 1)).filter (isRecent window now) := by
  have fits {entries : List Arrival} (fewer : entries.length < capacity) :
      makeRoom (entries.filter (isRecent window now)) = entries.filter (isRecent window now) := by
    rw [makeRoom, if_neg]
    exact Nat.ne_of_lt (Nat.lt_of_le_of_lt (List.length_filter_le _ _) fewer)
  by_cases long : capacity - 1 < history.length
  · rcases exists_rtake_succ long with ⟨oldest, split⟩
    have taken : (history.rtake (capacity - 1)).length = capacity - 1 := by
      rw [length_rtake, Nat.min_eq_left (Nat.le_of_lt long)]
    have sorted := inOrder.rtake capacity
    change history.rtake capacity = oldest :: history.rtake (capacity - 1) at split
    rw [split] at sorted ⊢
    have behind := (List.pairwise_cons.mp sorted).1
    cases recent : isRecent window now oldest with
    | true =>
        -- With the oldest one all others are recent, so that there is no room left.
        have others : (history.rtake (capacity - 1)).filter (isRecent window now)
            = history.rtake (capacity - 1) :=
          List.filter_eq_self.mpr fun seen mem => isRecent_mono (behind seen mem) recent
        have full : (oldest :: history.rtake (capacity - 1)).length = capacity := by
          rw [List.length_cons, taken]
          rfl
        rw [List.filter_cons_of_pos recent, others, makeRoom, if_pos full, List.drop_one,
          List.tail_cons]
    | false =>
        have fewer : (history.rtake (capacity - 1)).length < capacity := by
          rw [taken]
          exact Nat.lt_succ_self 31
        rw [List.filter_cons_of_neg (by simp [recent])]
        exact fits fewer
  · have short : history.length ≤ capacity - 1 := Nat.le_of_not_lt long
    have fewer : history.length < capacity := Nat.lt_succ_of_le short
    rw [rtake_of_length_le short, rtake_of_length_le (Nat.le_of_lt fewer)]
    exact fits fewer

theorem observe_eq (filter : RelayFilter) (now : Instant) (message : Message) :
    filter.observe now message
      = if (filter.forget now).any fun seen => message.isRelayOf seen.2 then
          (true, { filter with recent := filter.forget now })
        else (false, { filter with recent := makeRoom (filter.forget now) ++ [(now, message)] }) :=
  rfl

theorem window_observe (filter : RelayFilter) (now : Instant) (message : Message) :
    (filter.observe now message).2.window = filter.window := by
  rw [observe_eq]
  split
  · rfl
  · rfl

namespace Remembers

theorem observe (remembers : filter.Remembers clock history) (later : clock ≤ now)
    (message : Message) :
    (filter.observe now message).2.Remembers now
      (history ++ filter.admission (now, message)) := by
  have forgotten := remembers.forget_eq later
  have past : ∀ seen ∈ history, seen.1 ≤ now := fun seen mem =>
    Nat.le_trans (remembers.past seen mem) later
  rw [admission, observe_eq]
  split
  · rw [if_pos rfl, List.append_nil]
    exact ⟨forgotten, remembers.inOrder, past⟩
  · have current : isRecent filter.window now (now, message) = true := by
      rw [isRecent, Nat.sub_self]
      exact decide_eq_true (Nat.zero_le filter.window)
    rw [if_neg Bool.false_ne_true]
    refine ⟨?_, ?_, ?_⟩
    · have shifted : (history ++ [(now, message)]).rtake capacity
          = history.rtake (capacity - 1) ++ [(now, message)] := List.rtake_concat_succ _ _ _
      rw [shifted, List.filter_append, List.filter_singleton, current, forgotten,
        makeRoom_filter remembers.inOrder]
      rfl
    · rw [InOrder, List.pairwise_append]
      refine ⟨remembers.inOrder, List.pairwise_singleton _ _, ?_⟩
      intro seen mem newest here
      rw [List.mem_singleton.mp here]
      exact past seen mem
    · intro seen mem
      rcases List.mem_append.mp mem with before | here
      · exact past seen before
      · rw [List.mem_singleton.mp here]

theorem relayed_iff (remembers : filter.Remembers clock history) (later : clock ≤ now)
    (message : Message) :
    (filter.observe now message).1 = true ↔ ∃ seen ∈ history.rtake capacity,
      now - seen.1 ≤ filter.window ∧
        message.withoutHops = seen.2.withoutHops ∧ message ≠ seen.2 := by
  have compared : (filter.observe now message).1
      = (filter.forget now).any fun seen => message.isRelayOf seen.2 := by
    rw [observe_eq]
    split
    · next found => exact found.symm
    · next absent => exact (Bool.eq_false_iff.mpr absent).symm
  rw [compared, remembers.forget_eq later, List.any_eq_true]
  simp only [List.mem_filter, isRecent, decide_eq_true_eq, Message.isRelayOf_iff, and_assoc]

/-- The filter remembers through a series of messages what it needs of its history. -/
theorem after {arrivals : List Arrival} (remembers : filter.Remembers clock history)
    (inOrder : InOrder arrivals) (later : ∀ arrival ∈ arrivals, clock ≤ arrival.1) :
    (filter.after arrivals).Remembers ((arrivals.map Prod.fst).getLastD clock)
      (history ++ filter.admitted arrivals) := by
  induction arrivals generalizing filter clock history with
  | nil =>
      rw [admitted, List.append_nil]
      exact remembers
  | cons arrival rest ih =>
      rcases List.pairwise_cons.mp inOrder with ⟨first, ordered⟩
      rcases List.forall_mem_cons.mp later with ⟨next, _⟩
      have behind := ih (remembers.observe next arrival.2) ordered first
      rw [List.append_assoc] at behind
      rw [List.map_cons, List.getLastD_cons]
      exact behind

end Remembers

theorem getLastD_le {arrivals : List Arrival} (start : clock ≤ now)
    (past : ∀ arrival ∈ arrivals, arrival.1 ≤ now) :
    (arrivals.map Prod.fst).getLastD clock ≤ now := by
  have mem : (arrivals.map Prod.fst).getLastD clock ∈ clock :: arrivals.map Prod.fst :=
    List.getLastD_mem_cons
  rcases List.mem_cons.mp mem with same | later
  · rw [same]
    exact start
  · rcases List.mem_map.mp later with ⟨arrival, there, time⟩
    rw [← time]
    exact past arrival there

theorem remembers_nothing (window : Duration) (clock : Instant) :
    ({ window } : RelayFilter).Remembers clock [] where
  recent := rfl
  inOrder := List.Pairwise.nil
  past := by simp

theorem window_after (filter : RelayFilter) (arrivals : List Arrival) :
    (filter.after arrivals).window = filter.window := by
  induction arrivals generalizing filter with
  | nil => rfl
  | cons arrival rest ih => exact (ih _).trans (filter.window_observe arrival.1 arrival.2)

/-- A message that is suppressed makes no difference from then on. -/
theorem observe_of_suppressed {later : Instant} (suppressed : (filter.observe now message).1 = true)
    (order : now ≤ later) (other : Message) :
    (filter.observe now message).2.observe later other = filter.observe later other := by
  have next : (filter.observe now message).2 = { filter with recent := filter.forget now } := by
    rw [observe_eq] at suppressed ⊢
    split
    · rfl
    · next passed =>
        rw [if_neg passed] at suppressed
        contradiction
  have forgotten :
      forget { filter with recent := filter.forget now } later = filter.forget later := by
    rw [forget_eq, forget_eq, forget_eq]
    apply dropWhile_dropWhile
    intro seen old
    rw [Bool.not_eq_true', Bool.eq_false_iff] at old ⊢
    intro recent
    exact old (isRecent_of_later order recent)
  rw [next, observe_eq, forgotten]
  rfl

theorem answers_of_suppressed {later : List Arrival}
    (suppressed : (filter.observe now message).1 = true)
    (inOrder : InOrder ((now, message) :: later)) :
    (filter.observe now message).2.answers later = filter.answers later := by
  cases later with
  | nil => rfl
  | cons arrival rest =>
      have order : now ≤ arrival.1 := List.rel_of_pairwise_cons inOrder List.mem_cons_self
      rw [answers, answers, observe_of_suppressed suppressed order]

/-- Of messages that come in order, one is suppressed exactly if one of the last messages that were
let through came no longer ago than the window and differs from it in the hops left only. The
filter never holds more than it has room for, in the order of time. So a message passes when all
that it could be a copy of are the same as it is, hops and all. A message that is suppressed does
not change how any later one fares. -/
theorem observe_eq_history (window : Duration) (before : List Arrival) (now : Instant)
    (message : Message) (inOrder : InOrder (before ++ [(now, message)])) :
    let filter := after { window } before
    let lately := (admitted { window } before).rtake capacity
    let relayed := (filter.observe now message).1
    let next := (filter.observe now message).2
    (relayed = true ↔ ∃ seen ∈ lately, now - seen.1 ≤ window ∧
        message.withoutHops = seen.2.withoutHops ∧ message ≠ seen.2) ∧
      filter.recent.length ≤ capacity ∧ InOrder filter.recent ∧
      ((∀ seen ∈ lately, now - seen.1 ≤ window → message.withoutHops = seen.2.withoutHops →
        message = seen.2) → relayed = false) ∧
      (relayed = true → ∀ later, InOrder ((now, message) :: later) →
        next.answers later = filter.answers later) := by
  intro filter lately relayed next
  rcases List.pairwise_append.mp inOrder with ⟨ordered, _, order⟩
  have past : ∀ arrival ∈ before, arrival.1 ≤ now := fun arrival mem =>
    order arrival mem (now, message) List.mem_cons_self
  have remembers := (remembers_nothing window 0).after ordered fun _ _ => Nat.zero_le _
  rw [List.nil_append] at remembers
  have copied := remembers.relayed_iff (getLastD_le (Nat.zero_le now) past) message
  rw [window_after] at copied
  refine ⟨copied, remembers.length_recent_le, remembers.inOrder_recent, ?_, ?_⟩
  · intro copies
    rw [Bool.eq_false_iff]
    intro suppressed
    rcases copied.mp suppressed with ⟨seen, mem, recent, same, different⟩
    exact different (copies seen mem recent same)
  · intro suppressed later ordered
    exact answers_of_suppressed suppressed ordered

/-- A broadcast with three, two and one hops left. The second one is suppressed and not remembered,
so that the third one, at the very end of the window, is a copy of the first one. -/
theorem observe_eq_history_boundary :
    let sent (hops : UInt8) : Message :=
      .standard ⟨1, 2, 3⟩ ⟨0, 0, 1⟩ (.make .allLinkBroadcast false hops 3) (.standard 0x11 0)
    let before : List Arrival := [(0, sent 3), (2, sent 2)]
    InOrder (before ++ [(5, sent 1)]) ∧ admitted { window := 5 } before = [(0, sent 3)] ∧
      ((after { window := 5 } before).observe 5 (sent 1)).1 = true ∧
      ((after { window := 5 } before).observe 6 (sent 1)).1 = false := by
  intro sent before
  have inOrder : InOrder (before ++ [(5, sent 1)]) := by
    unfold InOrder
    decide
  have first : admitted { window := 5 } before = [(0, sent 3)] := by decide
  refine ⟨inOrder, first, ?_, by decide⟩
  apply (observe_eq_history 5 before 5 (sent 1) inOrder).1.mpr
  refine ⟨(0, sent 3), ?_, Nat.le_refl 5, by decide, by decide⟩
  rw [first]
  exact List.mem_cons_self

end RelayFilter

end Powerline
