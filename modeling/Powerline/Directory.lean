import Powerline.Address
import Powerline.Engine

/-!
# The device directory

What is known about devices without asking them again, one entry for each address. A later entry
for an address replaces the one before it.
-/

namespace Powerline

/-- The product category of a device. -/
structure DeviceCategory where
  category : UInt8
  subcategory : UInt8
  deriving DecidableEq, Repr

/-- What is known about a device. -/
structure DeviceInfo where
  address : Address
  engine : Engine
  category : Option DeviceCategory := none
  firmware : Option UInt8 := none
  deriving DecidableEq, Repr

/-- Entries for devices, no two with the same address. -/
structure Directory where
  entries : List DeviceInfo := []
  distinct : (entries.map DeviceInfo.address).Nodup := by simp
  deriving Repr

namespace Directory

/-- The number of devices known. -/
def size (directory : Directory) : Nat :=
  directory.entries.length

/-- The entry for an address. -/
def get? (directory : Directory) (address : Address) : Option DeviceInfo :=
  directory.entries.find? fun info => info.address = address

/-- The directory with this entry for its address. -/
def put (directory : Directory) (info : DeviceInfo) : Directory where
  entries := info :: directory.entries.filter fun other => other.address ≠ info.address
  distinct := by
    refine List.nodup_cons.mpr ⟨?_, ?_⟩
    · simp
    · exact directory.distinct.sublist (List.filter_sublist.map _)

@[simp] theorem get?_put (directory : Directory) (info : DeviceInfo) :
    (directory.put info).get? info.address = some info := by
  simp [get?, put]

theorem get?_put_of_ne (directory : Directory) {info : DeviceInfo} {address : Address}
    (different : address ≠ info.address) :
    (directory.put info).get? address = directory.get? address := by
  have apart : info.address ≠ address := fun same => different same.symm
  simp only [get?, put, apart, decide_false, Bool.false_eq_true, not_false_eq_true,
    List.find?_cons_of_neg, List.find?_filter]
  congr 1
  funext other
  by_cases same : other.address = address <;> simp_all

end Directory

end Powerline
