import Powerline.Proofs.Link.Table

/-!
# New flags for a link

A table may have several records of one link. Where a link is asked for, the first of them stands
for it (`first?`). Giving a link new flags changes that record and leaves the identities in all
slots as they are, so it does not matter in which order different links get theirs, and for one
link the last flags count.
-/

namespace Powerline

namespace LinkRecord

/-- The same record with the flags that are wanted. -/
def reflagged (record wanted : LinkRecord) : LinkRecord :=
  { record with flags := wanted.notLast.flags }

variable {record wanted : LinkRecord}

theorem id_reflagged (same : record.id = wanted.id) : (record.reflagged wanted).id = record.id := by
  have flags := id_notLast wanted
  simp only [id, LinkId.mk.injEq] at same flags ⊢
  exact ⟨flags.1.trans same.1.symm, flags.2.1.trans same.2.1.symm, rfl, rfl⟩

@[simp]
theorem isLast_reflagged (record wanted : LinkRecord) :
    (record.reflagged wanted).flags.isLast = false :=
  isLast_notLast wanted.flags

@[simp]
theorem reflagged_reflagged (record first wanted : LinkRecord) :
    (record.reflagged first).reflagged wanted = record.reflagged wanted := rfl

theorem reflagged_eq_self_iff :
    record.reflagged wanted = record ↔ record.flags = wanted.notLast.flags := by
  constructor
  · intro same
    exact (congrArg flags same).symm
  · intro same
    rw [reflagged, ← same]

end LinkRecord

open LinkRecord (reflagged)

/-- The records with the wanted flags on the first one of the link. -/
def reflagFirst (wanted : LinkRecord) : List LinkRecord → List LinkRecord
  | [] => []
  | record :: rest =>
      if record.id = wanted.id then record.reflagged wanted :: rest
      else record :: reflagFirst wanted rest

section ReflagFirst

variable {wanted other : LinkRecord} {records : List LinkRecord} {slot : Nat}

@[simp]
theorem map_id_reflagFirst (wanted : LinkRecord) (records : List LinkRecord) :
    (reflagFirst wanted records).map LinkRecord.id = records.map LinkRecord.id := by
  induction records with
  | nil => rfl
  | cons record rest ih =>
      by_cases same : record.id = wanted.id
      · simp [reflagFirst, same, LinkRecord.id_reflagged same]
      · simp [reflagFirst, same, ih]

theorem find?_reflagFirst (wanted : LinkRecord) (records : List LinkRecord) (id : LinkId) :
    (reflagFirst wanted records).find? (fun record => record.id = id)
      = if wanted.id = id then
          (records.find? fun record => record.id = id).map (reflagged · wanted)
        else records.find? fun record => record.id = id := by
  induction records with
  | nil => simp [reflagFirst]
  | cons record rest ih =>
      by_cases same : record.id = wanted.id
      · by_cases found : wanted.id = id
        · simp [reflagFirst, same, found, LinkRecord.id_reflagged same]
        · simp [reflagFirst, same, found, LinkRecord.id_reflagged same]
      · by_cases found : record.id = id
        · have apart : ¬ wanted.id = id := by
            rintro rfl
            exact same found
          simp [reflagFirst, found, apart, Ne.symm apart]
        · simp [reflagFirst, same, found, ih]

theorem reflagFirst_eq_self (unchanged : ∀ record,
    records.find? (fun record => record.id = wanted.id) = some record →
      record.flags = wanted.notLast.flags) : reflagFirst wanted records = records := by
  induction records with
  | nil => rfl
  | cons record rest ih =>
      by_cases same : record.id = wanted.id
      · have flags : record.flags = wanted.notLast.flags := unchanged record (by simp [same])
        simp [reflagFirst, same, LinkRecord.reflagged_eq_self_iff.mpr flags]
      · have behind : reflagFirst wanted rest = rest := ih (by simpa [same] using unchanged)
        simp [reflagFirst, same, behind]

theorem reflagFirst_comm (apart : wanted.id ≠ other.id) (records : List LinkRecord) :
    reflagFirst wanted (reflagFirst other records)
      = reflagFirst other (reflagFirst wanted records) := by
  induction records with
  | nil => rfl
  | cons record rest ih =>
      by_cases same : record.id = wanted.id
      · have different : record.id ≠ other.id := fun equal => apart (same.symm.trans equal)
        simp [reflagFirst, same, apart, LinkRecord.id_reflagged same]
      · by_cases equal : record.id = other.id
        · simp [reflagFirst, equal, apart.symm, LinkRecord.id_reflagged equal]
        · simp [reflagFirst, same, equal, ih]

theorem reflagFirst_eq_set {record : LinkRecord}
    (position : records.findIdx? (fun record => record.id = wanted.id) = some slot)
    (present : records[slot]? = some record) :
    reflagFirst wanted records = records.set slot (record.reflagged wanted) := by
  induction records generalizing slot with
  | nil => simp at present
  | cons first rest ih =>
      by_cases same : first.id = wanted.id
      · have here : 0 = slot := by simpa [List.findIdx?_cons, same] using position
        subst here
        have head : first = record := by simpa using present
        rw [reflagFirst, if_pos same, List.set_cons_zero, head]
      · have behind : ∃ later, rest.findIdx? (fun record => record.id = wanted.id) = some later
            ∧ later + 1 = slot := by simpa [List.findIdx?_cons, same] using position
        rcases behind with ⟨later, found, rfl⟩
        have tail : rest[later]? = some record := by simpa using present
        simp [reflagFirst, same, ih found tail]

/-- The record of another link can be replaced before or after. -/
theorem reflagFirst_set (apart : other.id ≠ wanted.id)
    (unasked : ∀ record, records[slot]? = some record → record.id ≠ wanted.id) :
    reflagFirst wanted (records.set slot other) = (reflagFirst wanted records).set slot other := by
  induction records generalizing slot with
  | nil => rfl
  | cons first rest ih =>
      cases slot with
      | zero =>
          have different : first.id ≠ wanted.id := unasked first rfl
          simp [reflagFirst, apart, different]
      | succ slot =>
          by_cases same : first.id = wanted.id
          · simp [reflagFirst, same]
          · simp [reflagFirst, same, @ih slot (by simpa using unasked)]

theorem reflagFirst_append (apart : other.id ≠ wanted.id) :
    reflagFirst wanted (records ++ [other]) = reflagFirst wanted records ++ [other] := by
  induction records with
  | nil => simp [reflagFirst, apart]
  | cons first rest ih =>
      by_cases same : first.id = wanted.id
      · simp [reflagFirst, same]
      · simp [reflagFirst, same, ih]

/-- Only the first record of the link changes. -/
theorem getElem?_reflagFirst_of_ne {record : LinkRecord} (present : records[slot]? = some record)
    (behind : record.id = wanted.id →
      records.findIdx? (fun record => record.id = wanted.id) ≠ some slot) :
    (reflagFirst wanted records)[slot]? = some record := by
  induction records generalizing slot with
  | nil => simp at present
  | cons first rest ih =>
      cases slot with
      | zero =>
          have head : first = record := by simpa using present
          have different : record.id ≠ wanted.id := by
            intro same
            apply behind same
            simp [List.findIdx?_cons, head, same]
          simp [reflagFirst, head, different]
      | succ slot =>
          have tail : rest[slot]? = some record := by simpa using present
          by_cases same : first.id = wanted.id
          · simpa [reflagFirst, same] using tail
          · have later := ih tail (by simpa [List.findIdx?_cons, same] using behind)
            simpa [reflagFirst, same] using later

end ReflagFirst

/-- The record of a link that is given last. -/
def lastGiven (records : List LinkRecord) (id : LinkId) : Option LinkRecord :=
  records.reverse.find? fun record => record.id = id

/-- The record of a link that is given first. -/
def firstGiven (records : List LinkRecord) (id : LinkId) : Option LinkRecord :=
  records.find? fun record => record.id = id

theorem lastGiven_cons (record : LinkRecord) (rest : List LinkRecord) (id : LinkId) :
    lastGiven (record :: rest) id
      = (lastGiven rest id).or (if record.id = id then some record else none) := by
  rw [lastGiven, List.reverse_cons, List.find?_append, List.find?_singleton]
  simp only [lastGiven, decide_eq_true_eq]

namespace LinkTable

/-- The first record of a link. -/
def first? (table : LinkTable) (id : LinkId) : Option LinkRecord :=
  table.records.find? fun record => record.id = id

/-- The identities of the records in their slots. -/
def ids (table : LinkTable) : List LinkId :=
  table.records.map LinkRecord.id

/-- The table with the wanted flags on the first record of the link. -/
def reflag (table : LinkTable) (wanted : LinkRecord) : LinkTable :=
  .ofRecords (reflagFirst wanted table.records)

/-- The table with all the wanted flags, given one after another. -/
def reflagAll (table : LinkTable) (wanted : List LinkRecord) : LinkTable :=
  wanted.foldl reflag table

variable {table other : LinkTable} {slot : Nat} {record wanted : LinkRecord} {id : LinkId}

theorem first?_eq (table : LinkTable) (id : LinkId) :
    table.first? id = (table.position? id).bind fun slot => table.records[slot]? := by
  rw [position?_eq_findIdx?]
  exact List.find?_eq_bind_findIdx?_getElem?

theorem position?_eq (table : LinkTable) (id : LinkId) :
    table.position? id = table.ids.findIdx? fun other => other = id := by
  rw [position?_eq_findIdx?, ids, List.findIdx?_map]
  rfl

theorem isNone_position? (table : LinkTable) (id : LinkId) :
    (table.position? id).isNone = (table.first? id).isNone := by
  rw [first?, position?_eq_findIdx?, Bool.eq_iff_iff, Option.isNone_iff_eq_none,
    Option.isNone_iff_eq_none, List.findIdx?_eq_none_iff, List.find?_eq_none]
  simp

theorem size_congr (same : table.ids = other.ids) : table.size = other.size := by
  have lengths := congrArg List.length same
  rwa [ids, ids, List.length_map, List.length_map] at lengths

theorem position?_congr (same : table.ids = other.ids) (id : LinkId) :
    table.position? id = other.position? id := by
  rw [position?_eq, position?_eq, same]

@[simp]
theorem ids_reflag (table : LinkTable) (wanted : LinkRecord) :
    (table.reflag wanted).ids = table.ids :=
  map_id_reflagFirst wanted table.records

@[simp]
theorem ids_reflagAll (table : LinkTable) (wanted : List LinkRecord) :
    (table.reflagAll wanted).ids = table.ids := by
  induction wanted generalizing table with
  | nil => rfl
  | cons first rest ih => exact (ih (table.reflag first)).trans (table.ids_reflag first)

theorem first?_reflag (table : LinkTable) (wanted : LinkRecord) (id : LinkId) :
    (table.reflag wanted).first? id
      = if wanted.id = id then (table.first? id).map (reflagged · wanted)
        else table.first? id :=
  find?_reflagFirst wanted table.records id

/-- A link gets the flags that are given last for it. -/
theorem first?_reflagAll (table : LinkTable) (wanted : List LinkRecord) (id : LinkId) :
    (table.reflagAll wanted).first? id
      = (table.first? id).map fun record => (lastGiven wanted id).elim record record.reflagged := by
  induction wanted generalizing table with
  | nil => simp [reflagAll, lastGiven]
  | cons first rest ih =>
      have behind : (table.reflagAll (first :: rest)).first? id = _ := ih (table.reflag first)
      rw [behind, first?_reflag, lastGiven_cons]
      by_cases same : first.id = id
      · cases table.first? id with
        | none => simp [same]
        | some record =>
            cases lastGiven rest id with
            | none => simp [same]
            | some last => simp [same]
      · simp [same]

theorem reflag_eq_self (unchanged : ∀ record, table.first? wanted.id = some record →
    record.flags = wanted.notLast.flags) : table.reflag wanted = table := by
  rw [reflag, reflagFirst_eq_self unchanged, ofRecords_records]

theorem reflag_of_absent (absent : table.first? wanted.id = none) :
    table.reflag wanted = table := by
  apply reflag_eq_self
  intro record found
  rw [absent] at found
  contradiction

theorem reflag_comm (apart : wanted.id ≠ record.id) (table : LinkTable) :
    (table.reflag record).reflag wanted = (table.reflag wanted).reflag record := by
  exact congrArg ofRecords (reflagFirst_comm apart table.records)

theorem reflagAll_append (table : LinkTable) (first second : List LinkRecord) :
    table.reflagAll (first ++ second) = (table.reflagAll first).reflagAll second :=
  List.foldl_append

theorem reflagAll_reflag {others : List LinkRecord}
    (apart : ∀ other ∈ others, wanted.id ≠ other.id) (table : LinkTable) :
    (table.reflagAll others).reflag wanted = (table.reflag wanted).reflagAll others := by
  induction others generalizing table with
  | nil => rfl
  | cons first rest ih =>
      rw [List.forall_mem_cons] at apart
      change ((table.reflag first).reflagAll rest).reflag wanted = _
      rw [ih apart.2, reflag_comm apart.1]
      rfl

/-- Flags of links that are not in the table can be left out. -/
theorem reflagAll_filter {wanted : List LinkRecord} {keep : LinkRecord → Bool}
    (absent : ∀ record ∈ wanted, keep record = false → table.first? record.id = none) :
    table.reflagAll (wanted.filter keep) = table.reflagAll wanted := by
  induction wanted generalizing table with
  | nil => rfl
  | cons first rest ih =>
      rw [List.forall_mem_cons] at absent
      cases kept : keep first with
      | true =>
          rw [List.filter_cons_of_pos kept]
          apply ih
          intro record mem left
          simp [first?_reflag, absent.2 record mem left]
      | false =>
          rw [List.filter_cons_of_neg (by simp [kept]), ih absent.2]
          change _ = (table.reflag first).reflagAll rest
          rw [reflag_of_absent (absent.1 kept)]

theorem getElem?_reflagAll_of_ne (wanted : List LinkRecord)
    (present : table.records[slot]? = some record)
    (behind : table.position? record.id ≠ some slot) :
    (table.reflagAll wanted).records[slot]? = some record := by
  induction wanted generalizing table with
  | nil => exact present
  | cons first rest ih =>
      apply ih
      · apply getElem?_reflagFirst_of_ne present
        intro same position
        rw [← same, ← position?_eq_findIdx?] at position
        exact behind position
      · rw [position?_congr (table.ids_reflag first)]
        exact behind

/-- Nothing changes exactly if every link of the table has the flags that are given last for it. -/
theorem reflagAll_eq_self_iff (table : LinkTable) (wanted : List LinkRecord) :
    table.reflagAll wanted = table ↔ ∀ id record last, table.first? id = some record →
      lastGiven wanted id = some last → record.flags = last.notLast.flags := by
  constructor
  · intro same id record last found given
    have reflagged := table.first?_reflagAll wanted id
    rw [same, found, given, Option.map_some, Option.some.injEq] at reflagged
    exact LinkRecord.reflagged_eq_self_iff.mp reflagged.symm
  · intro unchanged
    have first (id : LinkId) : (table.reflagAll wanted).first? id = table.first? id := by
      rw [first?_reflagAll]
      cases found : table.first? id with
      | none => rfl
      | some record =>
          cases given : lastGiven wanted id with
          | none => rfl
          | some last =>
              have flags := unchanged id record last found given
              simp [LinkRecord.reflagged_eq_self_iff.mpr flags]
    have records : (table.reflagAll wanted).records = table.records := by
      apply List.ext_getElem?
      intro slot
      cases present : table.records[slot]? with
      | none =>
          rw [List.getElem?_eq_none_iff] at present ⊢
          have size := size_congr (table.ids_reflagAll wanted)
          exact Nat.le_trans (Nat.le_of_eq size) present
      | some record =>
          by_cases position : table.position? record.id = some slot
          · -- The record stands for its link, before and after.
            have before := table.first?_eq record.id
            have after := (table.reflagAll wanted).first?_eq record.id
            rw [position, Option.bind_some, present] at before
            rw [position?_congr (table.ids_reflagAll wanted), position, Option.bind_some, first,
              before] at after
            exact after.symm
          · exact getElem?_reflagAll_of_ne wanted present position
    exact LinkTable.ext records

end LinkTable

end Powerline
