import Powerline.Link.Record

/-!
# Link indices

A table finds the slot of a link in an index, without going through its records. The index is built
by one walk over the records from the first slot on. A link that is met again keeps the slot in
which it was met first.
-/

namespace Powerline

/-- A slot for each of some links. -/
structure LinkIndex where
  entries : List (LinkId × Nat) := []
  deriving DecidableEq, Repr

namespace LinkIndex

/-- The slot of a link. -/
def slot? (index : LinkIndex) (id : LinkId) : Option Nat :=
  index.entries.lookup id

/-- The index with a slot for another link. A link that has one keeps it. -/
def insertNew (index : LinkIndex) (id : LinkId) (slot : Nat) : LinkIndex :=
  match index.slot? id with
  | some _ => index
  | none => ⟨(id, slot) :: index.entries⟩

/-- The index with the links of records in successive slots. -/
def insertFrom (index : LinkIndex) (slot : Nat) : List LinkRecord → LinkIndex
  | [] => index
  | record :: rest => (index.insertNew record.id slot).insertFrom (slot + 1) rest

/-- The index of a list of records. -/
def ofRecords (records : List LinkRecord) : LinkIndex :=
  insertFrom {} 0 records

theorem slot?_insertNew (index : LinkIndex) (id other : LinkId) (slot : Nat) :
    (index.insertNew id slot).slot? other
      = (index.slot? other).or (if other = id then some slot else none) := by
  cases present : index.slot? id with
  | some first =>
      rw [insertNew, present]
      by_cases same : other = id
      · rw [same, present, Option.some_or]
      · rw [if_neg same, Option.or_none]
  | none =>
      rw [insertNew, present]
      by_cases same : other = id
      · rw [same, present, Option.none_or, if_pos rfl, slot?, List.lookup_cons_self]
      · rw [if_neg same, Option.or_none, slot?, List.lookup_cons, beq_false_of_ne same]
        rfl

theorem slot?_insertFrom (index : LinkIndex) (slot : Nat) (records : List LinkRecord)
    (id : LinkId) :
    (index.insertFrom slot records).slot? id
      = (index.slot? id).or ((records.findIdx? fun record => record.id = id).map (slot + ·)) := by
  induction records generalizing index slot with
  | nil => simp [insertFrom]
  | cons record rest ih =>
      rw [insertFrom, ih, slot?_insertNew, Option.or_assoc, List.findIdx?_cons]
      by_cases same : record.id = id
      · simp [same]
      · simp only [same, Ne.symm same, ↓reduceIte, decide_false, Option.none_or, Option.map_map,
          Bool.false_eq_true]
        congr 2
        funext later
        simp only [Function.comp_apply]
        omega

/-- The index names the first slot of each link. -/
theorem slot?_ofRecords (records : List LinkRecord) (id : LinkId) :
    (ofRecords records).slot? id = records.findIdx? fun record => record.id = id := by
  rw [ofRecords, slot?_insertFrom]
  simp [slot?]

end LinkIndex

end Powerline
