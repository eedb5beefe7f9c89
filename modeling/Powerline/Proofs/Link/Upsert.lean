import Mathlib.Data.List.Nodup
import Powerline.Proofs.Link.Reflag
import Powerline.Proofs.Link.Vacancies

/-!
# Bringing links into a table

Links are brought into a table in two passes: those that it has get their flags, and then the
records of the others are put into its vacancies. In the second pass a link that has come in
meanwhile is passed over. So a link that was there before ends with the flags that are given last,
a new one with those that are given first (`first?_upsert`), and two passes over the whole differ
from two passes over each of its parts in the flags of new links that occur in both of them
(`upsert_upsert`).
-/

namespace Powerline.LinkTable

/-- The slot for the next record. -/
def vacancy (table : LinkTable) : Nat :=
  (table.nextAvailable? 0).getD table.size

/-- The table with a record in its first vacancy, unless it has the link already. -/
def insert (table : LinkTable) (record : LinkRecord) : LinkTable :=
  if (table.first? record.id).isNone then table.store table.vacancy record else table

/-- The table with all these records, put in one after another. -/
def insertAll (table : LinkTable) (records : List LinkRecord) : LinkTable :=
  records.foldl insert table

/-- The records of links that are not in the table, without last-record marks. -/
def missing (table : LinkTable) (records : List LinkRecord) : List LinkRecord :=
  (records.filter fun record => (table.first? record.id).isNone).map LinkRecord.notLast

/-- The table into which links were brought. -/
def upsert (table : LinkTable) (records : List LinkRecord) : LinkTable :=
  (table.reflagAll records).insertAll (table.missing records)

variable {table other : LinkTable} {slot : Nat} {record wanted : LinkRecord} {id : LinkId}
  {records : List LinkRecord}

theorem isFree_congr (same : table.ids = other.ids) (slot : Nat) :
    table.isFree slot = other.isFree slot := by
  have known (table : LinkTable) :
      table.isFree slot = table.ids[slot]?.any fun id => !id.inUse := by
    rw [ids, List.getElem?_map, Option.any_map]
    rfl
  rw [known, known, same]

/-- Which slots are free can be told from the identities. -/
theorem freeFrom_eq_of_ids (same : table.ids = other.ids) (start : Nat) :
    table.freeFrom start = other.freeFrom start :=
  freeFrom_congr (size_congr same) fun index _ => isFree_congr same index

theorem vacancy_congr (same : table.ids = other.ids) : table.vacancy = other.vacancy := by
  rw [vacancy, vacancy, nextAvailable?_eq, nextAvailable?_eq, freeFrom_eq_of_ids same,
    size_congr same]

theorem vacancies_congr (same : table.ids = other.ids) (start count : Nat) :
    table.vacancies start count = other.vacancies start count := by
  rw [vacancies, vacancies, freeFrom_eq_of_ids same, size_congr same]

theorem vacancy_le (table : LinkTable) : table.vacancy ≤ table.size :=
  getD_nextAvailable?_le 0

/-- The first vacancy is behind the table or holds a free record. -/
theorem isAvailable_of_vacancy (present : table.records[table.vacancy]? = some record) :
    record.flags.isAvailable = true := by
  have inside : table.vacancy < table.size := lt_size_of_getElem? present
  cases free : table.nextAvailable? 0 with
  | none => simp [vacancy, free] at inside
  | some slot =>
      rcases exists_of_nextAvailable? free with ⟨found, there, available⟩
      rw [vacancy, free, Option.getD_some, there, Option.some.injEq] at present
      rw [← present]
      exact available

theorem id_ne_of_vacancy (present : table.records[table.vacancy]? = some record)
    (inUse : id.inUse = true) : record.id ≠ id := by
  rintro rfl
  have available := isAvailable_of_vacancy present
  have free : record.flags.inUse = true := inUse
  simp [RecordFlags.isAvailable, free] at available

theorem find?_set_of_not {found : LinkRecord → Bool} (inside : slot < records.length)
    (skipped : ∀ old, records[slot]? = some old → found old = false)
    (first : found record = true → records.find? found = none) :
    (records.set slot record).find? found
      = (records.find? found).or (if found record then some record else none) := by
  induction records generalizing slot with
  | nil => contradiction
  | cons head rest ih =>
      cases slot with
      | zero =>
          have passed : found head = false := skipped head rfl
          cases wanted : found record with
          | true =>
              have absent : rest.find? found = none := by simpa [passed] using first wanted
              simp [wanted, passed, absent]
          | false => simp [wanted, passed]
      | succ slot =>
          cases hit : found head with
          | true => simp [hit]
          | false =>
              have tail := ih (by simpa using inside) (by simpa using skipped)
                (by simpa [hit] using first)
              simp [hit, tail]

/-- A record in a vacancy is found if its link was not in the table, and hides no other one. -/
theorem first?_insert (keepsOpen : record.flags.isLast = false) (inUse : id.inUse = true) :
    (table.insert record).first? id
      = (table.first? id).or (if record.id = id then some record else none) := by
  cases absent : table.first? record.id with
  | some old =>
      rw [insert, absent]
      by_cases same : record.id = id
      · rw [same] at absent
        simp [absent]
      · simp [same]
  | none =>
      have first : decide (record.id = id) = true →
          table.records.find? (fun record => record.id = id) = none := by
        intro same
        rw [← of_decide_eq_true same]
        exact absent
      rw [insert, absent, Option.isNone_none, if_pos rfl]
      rcases Nat.lt_or_eq_of_le table.vacancy_le with inside | atEnd
      · rw [store_inside inside keepsOpen, first?, records_ofRecords,
          find?_set_of_not inside _ first]
        · simp [first?]
        · intro old present
          simpa using id_ne_of_vacancy present inUse
      · rw [atEnd, store_behind table keepsOpen, first?, records_ofRecords, List.find?_append,
          List.find?_singleton]
        simp [first?]

theorem insert_of_present (present : table.first? record.id ≠ none) :
    table.insert record = table := by
  rw [insert, if_neg (by simpa using present)]

theorem first?_insertAll (keepOpen : ∀ record ∈ records, record.flags.isLast = false)
    (inUse : id.inUse = true) :
    (table.insertAll records).first? id = (table.first? id).or (firstGiven records id) := by
  induction records generalizing table with
  | nil => simp [insertAll, firstGiven]
  | cons first rest ih =>
      rw [List.forall_mem_cons] at keepOpen
      have behind : (table.insertAll (first :: rest)).first? id = _ := ih keepOpen.2
      rw [behind, first?_insert keepOpen.1 inUse, Option.or_assoc]
      by_cases same : first.id = id
      · simp [firstGiven, same]
      · simp [firstGiven, same]

theorem isLast_of_mem_missing (mem : record ∈ table.missing records) :
    record.flags.isLast = false := by
  rcases List.mem_map.mp mem with ⟨given, _, rfl⟩
  exact isLast_notLast given.flags

theorem inUse_of_mem_missing (inUse : ∀ record ∈ records, record.id.inUse = true)
    (mem : record ∈ table.missing records) : record.id.inUse = true := by
  rcases List.mem_map.mp mem with ⟨given, made, rfl⟩
  rw [id_notLast]
  exact inUse given (List.mem_filter.mp made).1

theorem absent_of_mem_missing (mem : record ∈ table.missing records) :
    table.first? record.id = none := by
  rcases List.mem_map.mp mem with ⟨given, made, rfl⟩
  rw [id_notLast, ← Option.isNone_iff_eq_none]
  exact (List.mem_filter.mp made).2

theorem firstGiven_missing (absent : table.first? id = none) (records : List LinkRecord) :
    firstGiven (table.missing records) id = (firstGiven records id).map LinkRecord.notLast := by
  induction records with
  | nil => rfl
  | cons first rest ih =>
      by_cases same : first.id = id
      · simp [missing, firstGiven, same, absent]
      · cases left : (table.first? first.id).isNone with
        | true => simpa [missing, firstGiven, left, same] using ih
        | false => simpa [missing, firstGiven, left, same] using ih

/-- A link that was in the table has the flags that are given last for it, and its data. Another
one has the record that is given first. -/
theorem first?_upsert (table : LinkTable) (records : List LinkRecord) (inUse : id.inUse = true) :
    (table.upsert records).first? id
      = ((table.first? id).map fun record =>
          (lastGiven records id).elim record record.reflagged).or
        ((firstGiven records id).map LinkRecord.notLast) := by
  rw [upsert, first?_insertAll (fun _ => isLast_of_mem_missing) inUse, first?_reflagAll]
  cases found : table.first? id with
  | some record => rfl
  | none => rw [firstGiven_missing found]

theorem insert_reflag (keepsOpen : record.flags.isLast = false) (inUse : wanted.id.inUse = true)
    (present : table.first? wanted.id ≠ none) :
    (table.insert record).reflag wanted = (table.reflag wanted).insert record := by
  have same := table.ids_reflag wanted
  have absence : ((table.reflag wanted).first? record.id).isNone
      = (table.first? record.id).isNone := by
    rw [← isNone_position?, ← isNone_position?, position?_congr same]
  rw [insert, insert, absence, vacancy_congr same]
  cases absent : (table.first? record.id).isNone with
  | false => rfl
  | true =>
      have apart : record.id ≠ wanted.id := by
        intro equal
        rw [equal, Option.isNone_iff_eq_none] at absent
        exact present absent
      simp only [↓reduceIte]
      rcases Nat.lt_or_eq_of_le table.vacancy_le with inside | atEnd
      · have insideToo : table.vacancy < (table.reflag wanted).size := by
          rwa [size_congr same]
        rw [store_inside inside keepsOpen, store_inside insideToo keepsOpen]
        refine congrArg LinkTable.ofRecords (reflagFirst_set apart ?_)
        intro old there
        exact id_ne_of_vacancy there inUse
      · have size := size_congr same
        rw [atEnd, store_behind table keepsOpen, ← size, store_behind _ keepsOpen]
        exact congrArg LinkTable.ofRecords (reflagFirst_append apart)

theorem present_insert {id : LinkId} (keepsOpen : record.flags.isLast = false)
    (inUse : id.inUse = true) (present : table.first? id ≠ none) :
    (table.insert record).first? id ≠ none := by
  rw [first?_insert keepsOpen inUse]
  intro absent
  exact present (Option.or_eq_none_iff.mp absent).1

theorem insertAll_reflag (keepOpen : ∀ record ∈ records, record.flags.isLast = false)
    (inUse : wanted.id.inUse = true) (present : table.first? wanted.id ≠ none) :
    (table.insertAll records).reflag wanted = (table.reflag wanted).insertAll records := by
  induction records generalizing table with
  | nil => rfl
  | cons first rest ih =>
      rw [List.forall_mem_cons] at keepOpen
      have behind := ih keepOpen.2 (present_insert keepOpen.1 inUse present)
      rw [insert_reflag keepOpen.1 inUse present] at behind
      exact behind

/-- Flags of links that are in the table can be given before or after others come in. -/
theorem insertAll_reflagAll {wanted : List LinkRecord}
    (keepOpen : ∀ record ∈ records, record.flags.isLast = false)
    (inUse : ∀ record ∈ wanted, record.id.inUse = true)
    (present : ∀ record ∈ wanted, table.first? record.id ≠ none) :
    (table.insertAll records).reflagAll wanted = (table.reflagAll wanted).insertAll records := by
  induction wanted generalizing table with
  | nil => rfl
  | cons first rest ih =>
      rw [List.forall_mem_cons] at inUse present
      change ((table.insertAll records).reflag first).reflagAll rest = _
      rw [insertAll_reflag keepOpen inUse.1 present.1]
      apply ih inUse.2
      intro record mem
      rw [first?_reflag]
      split
      · simpa using present.2 record mem
      · exact present.2 record mem

/-- Records whose link is in the table already can be left out. -/
theorem insertAll_filter {keep : LinkRecord → Bool}
    (keepOpen : ∀ record ∈ records, record.flags.isLast = false)
    (inUse : ∀ record ∈ records, record.id.inUse = true)
    (present : ∀ record ∈ records, keep record = false → table.first? record.id ≠ none) :
    table.insertAll (records.filter keep) = table.insertAll records := by
  induction records generalizing table with
  | nil => rfl
  | cons first rest ih =>
      rw [List.forall_mem_cons] at keepOpen inUse present
      cases kept : keep first with
      | true =>
          rw [List.filter_cons_of_pos kept]
          apply ih keepOpen.2 inUse.2
          intro record mem left
          exact present_insert keepOpen.1 (inUse.2 record mem) (present.2 record mem left)
      | false =>
          rw [List.filter_cons_of_neg (by simp [kept]), ih keepOpen.2 inUse.2 present.2]
          change _ = (table.insert first).insertAll rest
          rw [insert_of_present (present.1 kept)]

theorem exists_firstGiven (mem : record ∈ records) :
    ∃ first ∈ records, first.id = record.id ∧ firstGiven records record.id = some first := by
  have isGiven : (firstGiven records record.id).isSome = true := by
    rw [firstGiven, List.find?_isSome]
    exact ⟨record, mem, by simp⟩
  rcases Option.isSome_iff_exists.mp isGiven with ⟨first, given⟩
  have same : first.id = record.id := by simpa using List.find?_some given
  exact ⟨first, List.mem_of_find?_eq_some given, same, given⟩

theorem exists_lastGiven (mem : record ∈ records) :
    ∃ last ∈ records, last.id = record.id ∧ lastGiven records record.id = some last := by
  rcases exists_firstGiven (List.mem_reverse.mpr mem) with ⟨last, given, same, found⟩
  exact ⟨last, List.mem_reverse.mp given, same, found⟩

/-- Flags of some links can be given after those of the others. -/
theorem reflagAll_partition {wanted : List LinkRecord} (early : LinkId → Bool) :
    table.reflagAll wanted
      = (table.reflagAll (wanted.filter fun record => early record.id)).reflagAll
          (wanted.filter fun record => !early record.id) := by
  induction wanted generalizing table with
  | nil => rfl
  | cons first rest ih =>
      change (table.reflag first).reflagAll rest = _
      rw [ih]
      cases now : early first.id with
      | true =>
          simp only [List.filter_cons, now, Bool.not_true, Bool.false_eq_true, ↓reduceIte]
          rfl
      | false =>
          simp only [List.filter_cons, now, Bool.not_false, Bool.false_eq_true, ↓reduceIte]
          change _ = ((table.reflagAll _).reflag first).reflagAll _
          rw [reflagAll_reflag]
          intro other mem same
          have others := (List.mem_filter.mp mem).2
          rw [← same, now] at others
          contradiction

theorem missing_cons (table : LinkTable) (record : LinkRecord) (rest : List LinkRecord) :
    table.missing (record :: rest) = if (table.first? record.id).isNone
      then record.notLast :: table.missing rest else table.missing rest := by
  rw [missing, List.filter_cons]
  split
  · rfl
  · rfl

theorem missing_append (table : LinkTable) (first second : List LinkRecord) :
    table.missing (first ++ second) = table.missing first ++ table.missing second := by
  rw [missing, List.filter_append, List.map_append]
  rfl

theorem filter_missing (absence : ∀ record ∈ records, (other.first? record.id).isNone = true →
      (table.first? record.id).isNone = true) :
    (table.missing records).filter (fun record => (other.first? record.id).isNone)
      = other.missing records := by
  rw [missing, List.filter_map, List.filter_filter]
  refine congrArg (List.map LinkRecord.notLast) (List.filter_congr ?_)
  intro record mem
  rw [Bool.eq_iff_iff, Bool.and_eq_true, Function.comp_apply, id_notLast]
  constructor
  · exact fun both => both.1
  · exact fun absent => ⟨absent, absence record mem absent⟩

/-- The records of links that came into the table with earlier ones. -/
def recurring (table : LinkTable) (earlier records : List LinkRecord) : List LinkRecord :=
  records.filter fun record =>
    (table.first? record.id).isNone && (firstGiven earlier record.id).isSome

theorem isNone_first?_upsert (table : LinkTable) (records : List LinkRecord)
    (inUse : id.inUse = true) :
    ((table.upsert records).first? id).isNone
      = ((table.first? id).isNone && (firstGiven records id).isNone) := by
  rw [first?_upsert table records inUse]
  cases table.first? id with
  | some record => rfl
  | none => simp

theorem isNone_first?_reflagAll (table : LinkTable) (wanted : List LinkRecord) (id : LinkId) :
    ((table.reflagAll wanted).first? id).isNone = (table.first? id).isNone := by
  rw [first?_reflagAll, Option.isNone_map]

/-- The flags of the second batch can be given before the links of the first one come in, but for
those that come in with it. -/
theorem reflagAll_upsert {first second : List LinkRecord} (table : LinkTable)
    (inUse : ∀ record ∈ second, record.id.inUse = true) :
    (table.upsert first).reflagAll second
      = ((table.reflagAll (first ++ second)).insertAll (table.missing first)).reflagAll
          (table.recurring first second) := by
  have keepOpen : ∀ record ∈ table.missing first, record.flags.isLast = false :=
    fun _ => isLast_of_mem_missing
  have early : (table.upsert first).reflagAll
        (second.filter fun record => (table.first? record.id).isSome)
      = (table.reflagAll (first ++ second)).insertAll (table.missing first) := by
    rw [upsert, insertAll_reflagAll keepOpen, reflagAll_filter, ← reflagAll_append]
    · intro record _ absent
      rw [← Option.isNone_iff_eq_none, isNone_first?_reflagAll, ← Option.not_isSome, absent]
      rfl
    · intro record mem
      exact inUse record (List.mem_filter.mp mem).1
    · intro record mem
      have present := (List.mem_filter.mp mem).2
      rw [ne_eq, ← Option.isNone_iff_eq_none, isNone_first?_reflagAll, Option.isNone_iff_eq_none]
      exact Option.isSome_iff_ne_none.mp present
  have recurs : table.recurring first second
      = (second.filter fun record => !(table.first? record.id).isSome).filter
          fun record => (firstGiven first record.id).isSome := by
    rw [List.filter_filter]
    simp only [recurring, Option.not_isSome, Bool.and_comm]
  rw [reflagAll_partition fun id => (table.first? id).isSome, early, recurs]
  symm
  apply reflagAll_filter
  intro record mem unknown
  rcases List.mem_filter.mp mem with ⟨given, left⟩
  have absent : table.first? record.id = none := by simpa using left
  have notFirst : firstGiven first record.id = none := by simpa using unknown
  rw [first?_insertAll keepOpen (inUse record given), first?_reflagAll, absent,
    firstGiven_missing absent, notFirst]
  rfl

theorem isNone_first?_insertAll_missing (table : LinkTable) (wanted records : List LinkRecord)
    (inUse : id.inUse = true) :
    (((table.reflagAll wanted).insertAll (table.missing records)).first? id).isNone
      = ((table.upsert records).first? id).isNone := by
  have keepOpen : ∀ record ∈ table.missing records, record.flags.isLast = false :=
    fun _ => isLast_of_mem_missing
  rw [upsert, first?_insertAll keepOpen inUse, first?_insertAll keepOpen inUse, Option.isNone_or,
    Option.isNone_or, isNone_first?_reflagAll, isNone_first?_reflagAll]

/-- The links that are new to the second batch come in as they do in one batch. -/
theorem insertAll_missing_upsert {first second : List LinkRecord} (table : LinkTable)
    (inUse : ∀ record ∈ second, record.id.inUse = true) :
    ((table.reflagAll (first ++ second)).insertAll (table.missing first)).insertAll
        ((table.upsert first).missing second)
      = table.upsert (first ++ second) := by
  have joined : table.upsert (first ++ second)
      = ((table.reflagAll (first ++ second)).insertAll (table.missing first)).insertAll
          (table.missing second) := by
    rw [upsert.eq_def table, missing_append, insertAll, List.foldl_append]
    rfl
  have left : (table.missing second).filter
      (fun record => ((table.upsert first).first? record.id).isNone)
        = (table.upsert first).missing second := by
    apply filter_missing
    intro record mem absent
    rw [isNone_first?_upsert table first (inUse record mem), Bool.and_eq_true] at absent
    exact absent.1
  rw [joined, ← left]
  apply insertAll_filter (fun _ => isLast_of_mem_missing) fun _ => inUse_of_mem_missing inUse
  intro record mem present
  rw [← isNone_first?_insertAll_missing table (first ++ second) first
    (inUse_of_mem_missing inUse mem), Option.isNone_eq_false_iff] at present
  exact Option.isSome_iff_ne_none.mp present

/-- Two batches do what one does, but for the flags of links that came in with the first batch: the
second gives them anew. -/
theorem upsert_upsert {first second : List LinkRecord} (table : LinkTable)
    (inUse : ∀ record ∈ second, record.id.inUse = true) :
    (table.upsert first).upsert second
      = (table.upsert (first ++ second)).reflagAll (table.recurring first second) := by
  change ((table.upsert first).reflagAll second).insertAll ((table.upsert first).missing second) = _
  rw [reflagAll_upsert table inUse, ← insertAll_missing_upsert table inUse]
  symm
  apply insertAll_reflagAll fun _ => isLast_of_mem_missing
  · intro record mem
    exact inUse record (List.mem_filter.mp mem).1
  · intro record mem absent
    rcases List.mem_filter.mp mem with ⟨given, recurs⟩
    rw [Bool.and_eq_true] at recurs
    -- A link that recurs has come in with the first batch.
    rw [← Option.isNone_iff_eq_none, isNone_first?_insertAll_missing _ _ _ (inUse record given),
      isNone_first?_upsert table first (inUse record given), Bool.and_eq_true] at absent
    rw [← Option.not_isNone, absent.2] at recurs
    exact Bool.noConfusion recurs.2

theorem lastGiven_filter (kept : LinkId → Bool) (records : List LinkRecord) (id : LinkId) :
    lastGiven (records.filter fun record => kept record.id) id
      = if kept id then lastGiven records id else none := by
  induction records with
  | nil => simp [lastGiven]
  | cons first rest ih =>
      by_cases same : first.id = id
      · cases keep : kept id with
        | true => simp [same, keep, lastGiven_cons, ih]
        | false => simp [same, keep, ih]
      · cases keep : kept first.id with
        | true => simp [same, keep, lastGiven_cons, ih]
        | false => simp [same, keep, lastGiven_cons, ih]

theorem inUse_of_lastGiven (inUse : ∀ record ∈ records, record.id.inUse = true)
    (given : lastGiven records id = some record) : id.inUse = true := by
  have same : record.id = id := by simpa using List.find?_some given
  rw [← same]
  apply inUse record
  exact List.mem_reverse.mp (List.mem_of_find?_eq_some given)

/-- Two batches do what one does exactly if they agree about the flags of each link that is new to
the table and occurs in both: those that the first batch gives first are those that the second one
gives last. -/
theorem upsert_append_eq_iff {first second : List LinkRecord}
    (inUse : ∀ record ∈ second, record.id.inUse = true) :
    table.upsert (first ++ second) = (table.upsert first).upsert second ↔
      ∀ id early late, table.first? id = none → firstGiven first id = some early →
        lastGiven second id = some late → early.notLast.flags = late.notLast.flags := by
  rw [upsert_upsert table inUse, eq_comm, reflagAll_eq_self_iff]
  simp only [recurring]
  have recurs (id : LinkId) := lastGiven_filter
    (fun id => (table.first? id).isNone && (firstGiven first id).isSome) second id
  have brought {id : LinkId} {early late : LinkRecord} (absent : table.first? id = none)
      (given : firstGiven first id = some early) (again : lastGiven second id = some late) :
      (table.upsert (first ++ second)).first? id = some early.notLast := by
    rw [first?_upsert table _ (inUse_of_lastGiven inUse again), absent, firstGiven,
      List.find?_append]
    rw [firstGiven] at given
    rw [given]
    rfl
  constructor
  · intro unchanged id early late absent given again
    apply unchanged id early.notLast late (brought absent given again)
    rw [recurs, absent, given, again]
    rfl
  · intro agree id record late found kept
    rw [recurs] at kept
    split at kept
    · next new =>
        rw [Bool.and_eq_true, Option.isNone_iff_eq_none, Option.isSome_iff_exists] at new
        rcases new with ⟨absent, early, given⟩
        rw [brought absent given kept, Option.some.injEq] at found
        rw [← found]
        exact agree id early late absent given kept
    · contradiction

/-- If all links are different, the flags that are given first are those that are given last. -/
theorem first?_upsert_of_nodup (distinct : (records.map LinkRecord.id).Nodup)
    (mem : record ∈ records) (inUse : record.id.inUse = true) (table : LinkTable) :
    (table.upsert records).first? record.id = some
      (match table.first? record.id with
        | some old => old.reflagged record
        | none => record.notLast) := by
  rcases exists_firstGiven mem with ⟨first, firstMem, firstSame, firstGiven⟩
  rcases exists_lastGiven mem with ⟨last, lastMem, lastSame, lastGiven⟩
  rcases List.inj_on_of_nodup_map distinct firstMem mem firstSame with rfl
  rcases List.inj_on_of_nodup_map distinct lastMem mem lastSame with rfl
  rw [first?_upsert table records inUse, firstGiven, lastGiven]
  cases table.first? last.id with
  | some old => rfl
  | none => rfl

/-- The table has each of the links with the flags that are wanted. -/
def Settled (table : LinkTable) (records : List LinkRecord) : Prop :=
  ∀ record ∈ records, ∃ old, table.first? record.id = some old ∧ old.flags = record.notLast.flags

/-- Links that are in the table have what was wanted if no two records want different flags for the
same link. -/
theorem settled_upsert (table : LinkTable) (inUse : ∀ record ∈ records, record.id.inUse = true)
    (consistent : ∀ first ∈ records, ∀ second ∈ records, first.id = second.id →
      first.notLast.flags = second.notLast.flags) :
    (table.upsert records).Settled records := by
  intro record mem
  rw [first?_upsert table records (inUse record mem)]
  cases table.first? record.id with
  | none =>
      rcases exists_firstGiven mem with ⟨first, given, same, found⟩
      rw [found]
      exact ⟨_, rfl, consistent first given record mem same⟩
  | some old =>
      rcases exists_lastGiven mem with ⟨last, given, same, found⟩
      rw [found]
      exact ⟨_, rfl, consistent last given record mem same⟩

end Powerline.LinkTable
