import Std.Data.TreeMap

/-!
# Byte storage of a region

The bytes behind a region are numbered from zero. Almost all of them are zero in a fresh guest, so
only the others are kept, by offset. `get` is the view in which every other operation is described:
`set` changes one byte of it, `store` a run of bytes, and `load` lists a run of bytes.
-/

namespace Paravirt

/-- A run of bytes of fixed length. -/
structure Storage where
  /-- How many bytes there are. -/
  length : Nat
  /-- The bytes that are not zero, by offset. -/
  cells : Std.TreeMap Nat UInt8

namespace Storage

/-- Storage in which every byte is zero. -/
def zeros (length : Nat) : Storage := ⟨length, ∅⟩

/-- The byte at an offset. -/
def get (storage : Storage) (offset : Nat) : UInt8 :=
  storage.cells.getD offset 0

/-- Replace the byte at an offset. A zero byte is forgotten rather than kept. -/
def set (storage : Storage) (offset : Nat) (byte : UInt8) : Storage :=
  { storage with
    cells := if byte = 0 then storage.cells.erase offset else storage.cells.insert offset byte }

/-- Replace the bytes from an offset on. -/
def store (storage : Storage) (offset : Nat) : List UInt8 → Storage
  | [] => storage
  | byte :: rest => (storage.set offset byte).store (offset + 1) rest

/-- The `count` bytes from an offset on. -/
def load (storage : Storage) (offset count : Nat) : List UInt8 :=
  (List.range count).map fun index => storage.get (offset + index)

/-- Storage that holds the given bytes. -/
def ofBytes (bytes : List UInt8) : Storage := (zeros bytes.length).store 0 bytes

@[simp]
theorem get_zeros (length offset : Nat) : (zeros length).get offset = 0 := by
  simp [get, zeros]

@[simp]
theorem length_zeros (length : Nat) : (zeros length).length = length := rfl

/-- Setting a byte changes that byte alone. -/
theorem get_set (storage : Storage) (offset : Nat) (byte : UInt8) (index : Nat) :
    (storage.set offset byte).get index = if index = offset then byte else storage.get index := by
  unfold get set
  by_cases zero : byte = 0
  · simp only [zero, if_true, Std.TreeMap.getD_erase, Std.LawfulEqCmp.compare_eq_iff_eq]
    by_cases same : index = offset
    · simp [same]
    · simp [same, Ne.symm same]
  · simp only [zero, if_false, Std.TreeMap.getD_insert, Std.LawfulEqCmp.compare_eq_iff_eq]
    by_cases same : index = offset
    · simp [same]
    · simp [same, Ne.symm same]

@[simp]
theorem length_set (storage : Storage) (offset : Nat) (byte : UInt8) :
    (storage.set offset byte).length = storage.length := rfl

@[simp]
theorem length_store (storage : Storage) (offset : Nat) (bytes : List UInt8) :
    (storage.store offset bytes).length = storage.length := by
  induction bytes generalizing storage offset with
  | nil => rfl
  | cons byte rest ih => rw [store, ih, length_set]

/-- Storing bytes changes the offsets they land on and no other. -/
theorem get_store (storage : Storage) (offset : Nat) (bytes : List UInt8) (index : Nat) :
    (storage.store offset bytes).get index =
      if offset ≤ index then (bytes[index - offset]?).getD (storage.get index)
      else storage.get index := by
  induction bytes generalizing storage offset with
  | nil => simp [store]
  | cons byte rest ih =>
    rw [store, ih, get_set]
    by_cases here : index = offset
    · have beyond : ¬index + 1 ≤ index := by omega
      simp [← here, beyond]
    · by_cases after : offset + 1 ≤ index
      · have before : offset ≤ index := by omega
        have step : index - offset = (index - (offset + 1)) + 1 := by omega
        simp [after, before, here, step]
      · have before : ¬offset ≤ index := by omega
        simp [after, before, here]

/-- Storing a run of bytes in two parts is storing it whole. -/
theorem store_append (storage : Storage) (offset : Nat) (first second : List UInt8) :
    storage.store offset (first ++ second) =
      (storage.store offset first).store (offset + first.length) second := by
  induction first generalizing storage offset with
  | nil => rfl
  | cons byte rest ih =>
    rw [List.cons_append, store, store, ih, List.length_cons, Nat.add_assoc, Nat.add_comm 1]

@[simp]
theorem length_load (storage : Storage) (offset count : Nat) :
    (storage.load offset count).length = count := by
  simp [load]

/-- A loaded byte is the stored one. -/
theorem getElem?_load (storage : Storage) {offset count index : Nat} (inside : index < count) :
    (storage.load offset count)[index]? = some (storage.get (offset + index)) := by
  simp [load, inside]

@[simp]
theorem length_ofBytes (bytes : List UInt8) : (ofBytes bytes).length = bytes.length := by
  simp [ofBytes]

/-- Storage made of given bytes holds them in order. -/
theorem get_ofBytes (bytes : List UInt8) (offset : Nat) :
    (ofBytes bytes).get offset = (bytes[offset]?).getD 0 := by
  simp [ofBytes, get_store]

end Storage

end Paravirt
