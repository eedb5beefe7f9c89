import Powerline.Proofs.Link.Table

/-!
# Slots for new records

A new record goes to a free slot, or right behind the table when none is left. So the slots for
several new records are known from the table before the first of them: its free slots in ascending
order, and then the slots behind its end (`vacancies`). Writing a record uses the first of them up
and leaves the others.
-/

namespace Powerline.LinkTable

/-- The slot lies in the table and holds a free record. -/
def isFree (table : LinkTable) (slot : Nat) : Bool :=
  table.records[slot]?.any fun record => record.flags.isAvailable

/-- The free slots from a given one on, in ascending order. -/
def freeFrom (table : LinkTable) (start : Nat) : List Nat :=
  (List.range' start (table.size - start)).filter table.isFree

/-- The slots for new records: the free ones from a given one on, and behind these as many behind
the table as it takes. -/
def vacancies (table : LinkTable) (start count : Nat) : List Nat :=
  (table.freeFrom start).take count
    ++ List.range' table.size (count - (table.freeFrom start).length)

variable {table other : LinkTable} {slot start stop count index : Nat} {record : LinkRecord}

theorem isFree_eq (inside : slot < table.records.length) :
    table.isFree slot = table.records[slot].flags.isAvailable := by
  rw [isFree, List.getElem?_eq_getElem inside, Option.any_some]

theorem lt_size_of_isFree (free : table.isFree slot = true) : slot < table.size := by
  rcases (Option.any_eq_true _ _).mp free with ⟨record, present, _⟩
  exact lt_size_of_getElem? present

theorem mem_freeFrom : slot ∈ table.freeFrom start ↔ start ≤ slot ∧ table.isFree slot = true := by
  rw [freeFrom, List.mem_filter, List.mem_range'_1]
  constructor
  · rintro ⟨⟨behind, _⟩, free⟩
    exact ⟨behind, free⟩
  · rintro ⟨behind, free⟩
    have inside := lt_size_of_isFree free
    exact ⟨⟨behind, by omega⟩, free⟩

theorem freeFrom_zero (table : LinkTable) :
    table.freeFrom 0 = (List.range table.size).filter table.isFree := by
  rw [freeFrom, Nat.sub_zero, ← List.range_eq_range']

/-- The next free slot is the first one of them. -/
theorem nextAvailable?_eq (table : LinkTable) (start : Nat) :
    table.nextAvailable? start = (table.freeFrom start).head? := by
  have shifted (offset : Nat) (inside : offset < (table.records.drop start).length) :
      (table.records.drop start)[offset].flags.isAvailable = table.isFree (start + offset) := by
    rw [List.length_drop] at inside
    rw [List.getElem_drop, isFree_eq (by omega)]
  rw [freeFrom, List.head?_filter]
  apply Option.ext
  intro slot
  rw [List.find?_range'_eq_some, nextAvailable?, Option.map_eq_some_iff]
  constructor
  · rintro ⟨offset, found, rfl⟩
    rcases List.findIdx?_eq_some_iff_getElem.mp found with ⟨inside, available, first⟩
    rw [shifted offset inside] at available
    refine ⟨available, (List.mem_filter.mp (mem_freeFrom.mpr ⟨by omega, available⟩)).1, ?_⟩
    intro index behind before
    obtain ⟨earlier, rfl⟩ := Nat.exists_eq_add_of_le behind
    have taken := first earlier (by omega)
    rw [shifted earlier (by omega)] at taken
    simpa using taken
  · rintro ⟨free, inside, first⟩
    rw [List.mem_range'_1] at inside
    obtain ⟨offset, rfl⟩ := Nat.exists_eq_add_of_le inside.1
    have bound : offset < (table.records.drop start).length := by
      rw [List.length_drop]
      have size : table.size = table.records.length := rfl
      omega
    refine ⟨offset, List.findIdx?_eq_some_iff_getElem.mpr ⟨bound, ?_, ?_⟩, rfl⟩
    · rw [shifted offset bound]
      exact free
    · intro earlier before
      rw [shifted earlier (by omega)]
      simpa using first (start + earlier) (by omega) (by omega)

theorem pairwise_freeFrom (table : LinkTable) (start : Nat) :
    (table.freeFrom start).Pairwise (· < ·) :=
  List.Pairwise.filter _ (List.pairwise_lt_range' 1)

theorem freeFrom_eq (table : LinkTable) (start : Nat) :
    table.freeFrom start
      = if table.isFree start then start :: table.freeFrom (start + 1)
        else table.freeFrom (start + 1) := by
  by_cases inside : start < table.size
  · have count : table.size - start = (table.size - (start + 1)) + 1 := by omega
    rw [freeFrom, count, List.range'_succ, List.filter_cons]
    rfl
  · have taken : table.isFree start = false := by
      rw [isFree, List.getElem?_eq_none (Nat.not_lt.mp inside)]
      rfl
    have outside : table.size - start = 0 := by omega
    have outsideBehind : table.size - (start + 1) = 0 := by omega
    simp [freeFrom, taken, outside, outsideBehind]

/-- Slots that are not free can be left out. -/
theorem freeFrom_skip (order : start ≤ stop)
    (taken : ∀ index, start ≤ index → index < stop → table.isFree index = false) :
    table.freeFrom start = table.freeFrom stop := by
  induction order with
  | refl => rfl
  | @step stop order ih =>
      rw [ih fun index behind before => taken index behind (Nat.lt_succ_of_lt before),
        freeFrom_eq, taken stop order (Nat.lt_succ_self stop)]
      rfl

/-- Behind the first free slot come the others. -/
theorem freeFrom_of_cons {rest : List Nat} (free : table.freeFrom start = slot :: rest) :
    table.freeFrom (slot + 1) = rest ∧ start ≤ slot ∧ table.isFree slot = true ∧
      ∀ index, start ≤ index → index < slot → table.isFree index = false := by
  have head : slot ∈ table.freeFrom start := by
    rw [free]
    exact List.mem_cons_self
  rcases mem_freeFrom.mp head with ⟨order, isFree⟩
  have first : ∀ index, start ≤ index → index < slot → table.isFree index = false := by
    intro index behind before
    rw [Bool.eq_false_iff]
    intro freeToo
    have mem : index ∈ slot :: rest := by
      rw [← free]
      exact mem_freeFrom.mpr ⟨behind, freeToo⟩
    have sorted := table.pairwise_freeFrom start
    rw [free] at sorted
    rcases List.mem_cons.mp mem with same | later
    · omega
    · have above := List.rel_of_pairwise_cons sorted later
      omega
  refine ⟨?_, order, isFree, first⟩
  rw [freeFrom_skip order first, freeFrom_eq, isFree] at free
  exact (List.cons.inj free).2

/-- What is free behind a slot depends on the slots behind it. -/
theorem freeFrom_congr (size : other.size = table.size)
    (same : ∀ index, start ≤ index → other.isFree index = table.isFree index) :
    other.freeFrom start = table.freeFrom start := by
  rw [freeFrom, freeFrom, size]
  apply List.filter_congr
  intro index mem
  exact same index (List.mem_range'_1.mp mem).1

theorem vacancies_zero (table : LinkTable) (count : Nat) :
    table.vacancies 0 count = ((List.range table.size).filter table.isFree).take count
      ++ List.range' table.size
        (count - ((List.range table.size).filter table.isFree).length) := by
  rw [vacancies, freeFrom_zero]

@[simp]
theorem length_vacancies (table : LinkTable) (start count : Nat) :
    (table.vacancies start count).length = count := by
  rw [vacancies, List.length_append, List.length_take, List.length_range']
  omega

/-- No slot is used twice, and each lies behind the one before. -/
theorem pairwise_vacancies (table : LinkTable) (start count : Nat) :
    (table.vacancies start count).Pairwise (· < ·) := by
  rw [vacancies, List.pairwise_append]
  refine ⟨(table.pairwise_freeFrom start).take, List.pairwise_lt_range', ?_⟩
  intro slot free behind mem
  have inside := lt_size_of_isFree (mem_freeFrom.mp (List.mem_of_mem_take free)).2
  have outside := (List.mem_range'_1.mp mem).1
  omega

theorem isFree_store (inside : slot ≤ table.size) (keepsOpen : record.flags.isLast = false)
    (index : Nat) :
    (table.store slot record).isFree index
      = if index = slot then record.flags.isAvailable else table.isFree index := by
  rw [isFree, getElem?_store_of_keepsOpen inside keepsOpen]
  split
  · rfl
  · rfl

/-- A record that is put into the first vacancy takes a free slot and leaves the other free ones, or
it makes the table longer by one if no slot is free. -/
theorem store_vacancy (table : LinkTable) (start : Nat) (keepsOpen : record.flags.isLast = false) :
    let slot := (table.nextAvailable? start).getD table.size
    let next := table.store slot record
    table.freeFrom start = slot :: next.freeFrom (slot + 1) ∧ next.size = table.size ∨
      table.freeFrom start = [] ∧ next.freeFrom (slot + 1) = [] ∧ slot = table.size ∧
        next.size = table.size + 1 := by
  intro slot next
  have inside : slot ≤ table.size := getD_nextAvailable?_le start
  have size : next.size = max table.size (slot + 1) := size_store_of_keepsOpen inside keepsOpen
  cases free : table.freeFrom start with
  | nil =>
      right
      have atEnd : slot = table.size := by
        simp only [slot, nextAvailable?_eq, free, List.head?_nil, Option.getD_none]
      have longer : next.size = table.size + 1 := by omega
      refine ⟨rfl, ?_, atEnd, longer⟩
      rw [freeFrom, longer, atEnd, Nat.sub_self]
      rfl
  | cons first rest =>
      left
      have found : slot = first := by
        simp only [slot, nextAvailable?_eq, free, List.head?_cons, Option.getD_some]
      rcases freeFrom_of_cons free with ⟨behind, _, isFree, _⟩
      have before := lt_size_of_isFree isFree
      have same : next.size = table.size := by omega
      refine ⟨?_, same⟩
      rw [freeFrom_congr same, found, behind]
      intro index later
      rw [isFree_store inside keepsOpen, if_neg (by omega)]

/-- The first vacancy is where the next record goes, and what is left behind it are the vacancies
of the table with that record. -/
theorem vacancies_succ (table : LinkTable) (start count : Nat)
    (keepsOpen : record.flags.isLast = false) :
    let slot := (table.nextAvailable? start).getD table.size
    table.vacancies start (count + 1)
      = slot :: (table.store slot record).vacancies (slot + 1) count := by
  intro slot
  rcases table.store_vacancy start keepsOpen with ⟨free, same⟩ | ⟨full, fullBehind, atEnd, longer⟩
  · rw [vacancies, vacancies, free, same, List.length_cons, List.take_succ_cons, List.cons_append,
      Nat.add_sub_add_right]
  · rw [vacancies, vacancies, full, fullBehind, longer]
    simp only [List.take_nil, List.nil_append, List.length_nil, Nat.sub_zero, slot, atEnd]
    exact List.range'_succ

/-- A record in use leaves no vacancy up to its slot. -/
theorem vacancies_succ_of_inUse (table : LinkTable) (count : Nat)
    (keepsOpen : record.flags.isLast = false) (inUse : record.flags.inUse = true) :
    let slot := (table.nextAvailable? 0).getD table.size
    table.vacancies 0 (count + 1) = slot :: (table.store slot record).vacancies 0 count := by
  intro slot
  have inside : slot ≤ table.size := getD_nextAvailable?_le 0
  have taken : ∀ index, 0 ≤ index → index < slot + 1 →
      (table.store slot record).isFree index = false := by
    intro index _ before
    rw [isFree_store inside keepsOpen]
    split
    · simp [RecordFlags.isAvailable, inUse]
    · next other =>
        rw [Bool.eq_false_iff]
        intro isFree
        have mem := mem_freeFrom.mpr ⟨Nat.zero_le index, isFree⟩
        rcases table.store_vacancy 0 keepsOpen with ⟨free, _⟩ | ⟨full, _⟩
        · have first := (freeFrom_of_cons free).2.2.2 index (Nat.zero_le index) (by omega)
          rw [isFree] at first
          contradiction
        · rw [full] at mem
          contradiction
  rw [vacancies_succ table 0 count keepsOpen, vacancies,
    ← freeFrom_skip (Nat.zero_le (slot + 1)) taken]
  rfl

/-- Only the records for which no slot is free make the table longer. -/
theorem size_storeAll_vacancies {records : List LinkRecord} (table : LinkTable) (start : Nat)
    (keepOpen : ∀ record ∈ records, record.flags.isLast = false) :
    (table.storeAll ((table.vacancies start records.length).zip records)).size
      = table.size + (records.length - (table.freeFrom start).length) := by
  induction records generalizing table start with
  | nil =>
      rw [List.zip_nil_right, List.length_nil, Nat.zero_sub]
      rfl
  | cons record rest ih =>
      rw [List.forall_mem_cons] at keepOpen
      rw [List.length_cons, vacancies_succ table start rest.length keepOpen.1, List.zip_cons_cons]
      change ((table.store _ record).storeAll _).size = _
      rw [ih _ _ keepOpen.2]
      rcases table.store_vacancy start keepOpen.1 with ⟨free, same⟩ | ⟨full, fullBehind, _, longer⟩
      · rw [free, same, List.length_cons, Nat.add_sub_add_right]
      · rw [full, fullBehind, longer]
        simp only [List.length_nil]
        omega

/-- Each record is in its vacancy in the end, and all other slots are as before. -/
theorem getElem?_storeAll_vacancies {records : List LinkRecord} (table : LinkTable) (start : Nat)
    (keepOpen : ∀ record ∈ records, record.flags.isLast = false) :
    let slots := table.vacancies start records.length
    let final := table.storeAll (slots.zip records)
    (∀ place ∈ slots.zip records, final.records[place.1]? = some place.2) ∧
      ∀ index ∉ slots, final.records[index]? = table.records[index]? := by
  induction records generalizing table start with
  | nil => simp [storeAll]
  | cons record rest ih =>
      rw [List.forall_mem_cons] at keepOpen
      have slots := vacancies_succ table start rest.length keepOpen.1
      have inside : (table.nextAvailable? start).getD table.size ≤ table.size :=
        getD_nextAvailable?_le start
      have stored := getElem?_store_of_keepsOpen inside keepOpen.1
      have ascending := table.pairwise_vacancies start (rest.length + 1)
      rw [slots] at ascending
      generalize (table.nextAvailable? start).getD table.size = slot
        at slots inside stored ascending
      have behind : slot ∉ (table.store slot record).vacancies (slot + 1) rest.length := by
        intro mem
        exact Nat.lt_irrefl slot (List.rel_of_pairwise_cons ascending mem)
      rcases ih (table.store slot record) (slot + 1) keepOpen.2 with ⟨placed, untouched⟩
      rw [List.length_cons, slots]
      constructor
      · intro place mem
        rcases List.mem_cons.mp mem with rfl | later
        · exact (untouched slot behind).trans (by rw [stored, if_pos rfl])
        · exact placed place later
      · intro index unused
        rw [List.mem_cons, not_or] at unused
        exact (untouched index unused.2).trans (by rw [stored, if_neg unused.1])

end Powerline.LinkTable
