/-!
# Destinations

A destination is a buffer of fixed capacity that a transfer fills from the front.  All bytes are equal
at first, and those behind the last one in use are only counted.  Storing changes exactly the bytes in
question, and never the capacity.
-/

namespace Xmodem

/-- The reasons for which there is no destination of some capacity. -/
inductive CapacityError where
  /-- The capacity is negative. -/
  | negative
  /-- The capacity does not fit a signed word of sixty-four bits. -/
  | outOfRange
  /-- There is no memory of that size. -/
  | noMemory
  deriving DecidableEq, Repr

namespace CapacityError

/-- Explanation of an error; a lack of memory goes without one. -/
def message : CapacityError → String
  | negative => "negative count"
  | outOfRange => "cannot fit 'int' into an index-sized integer"
  | noMemory => ""

end CapacityError

/-- Where received bytes go. -/
structure Destination where
  /-- The bytes in use, from the front. -/
  used : ByteArray
  /-- How many bytes follow that were never in use. -/
  untouched : Nat
  /-- Value of those bytes. -/
  fill : UInt8
  /-- Whether the content must not change. -/
  readOnly : Bool

namespace Destination

/-- Content as a list. -/
def toList (destination : Destination) : List UInt8 :=
  destination.used.data.toList ++ List.replicate destination.untouched destination.fill

/-- Number of bytes that fit. -/
def capacity (destination : Destination) : Nat :=
  destination.used.size + destination.untouched

/-- A writable destination of equal bytes. -/
def filled (capacity : Nat) (fill : UInt8) : Destination where
  used := ByteArray.empty
  untouched := capacity
  fill := fill
  readOnly := false

/-- Bound of the signed words of sixty-four bits. -/
def wordLimit : Int :=
  0x8000000000000000

/-- A writable destination of equal bytes, unless there is none of that capacity in any memory. -/
def ofCapacity? (capacity : Int) (fill : UInt8) : Except CapacityError Destination :=
  if capacity < -wordLimit ∨ wordLimit ≤ capacity then .error .outOfRange
  else if capacity < 0 then .error .negative
  else .ok (filled capacity.toNat fill)

/-- Append some number of equal bytes. -/
def grow (content : ByteArray) (fill : UInt8) : Nat → ByteArray
  | 0 => content
  | count + 1 => grow (content.push fill) fill count

/-- Take the first bytes into use, as far as there are any. -/
def reach (destination : Destination) (count : Nat) : Destination :=
  let more := min (count - destination.used.size) destination.untouched
  { destination with
    used := grow destination.used destination.fill more
    untouched := destination.untouched - more }

/-- Overwrite bytes from an offset on; what lies beyond the end is dropped. -/
def overwrite (content : ByteArray) (offset : Nat) : List UInt8 → ByteArray
  | [] => content
  | byte :: bytes =>
      if inside : offset < content.size then
        overwrite (content.set offset byte inside) (offset + 1) bytes
      else
        content

/-- Store bytes from an offset on. -/
def store (destination : Destination) (offset : Nat) (bytes : List UInt8) : Destination :=
  let reached := destination.reach (offset + bytes.length)
  { reached with used := overwrite reached.used offset bytes }

/-- The bytes in a half-open range. -/
def slice (destination : Destination) (first last : Nat) : List UInt8 :=
  ((destination.reach last).used.extract first last).data.toList

theorem toList_grow (content : ByteArray) (fill : UInt8) (count : Nat) :
    (grow content fill count).data.toList =
      content.data.toList ++ List.replicate count fill := by
  induction count generalizing content with
  | zero => simp [grow]
  | succ count induction =>
      have pushed : (content.push fill).data = content.data.push fill := rfl
      rw [grow, induction, pushed, Array.toList_push, List.append_assoc, List.singleton_append,
        List.replicate_succ]

theorem size_grow (content : ByteArray) (fill : UInt8) (count : Nat) :
    (grow content fill count).size = content.size + count := by
  have lengths := congrArg List.length (toList_grow content fill count)
  simpa using lengths

theorem size_set (content : ByteArray) (index : Nat) (byte : UInt8)
    (inside : index < content.size) : (content.set index byte inside).size = content.size :=
  Array.size_set inside

theorem size_overwrite (content : ByteArray) (offset : Nat) (bytes : List UInt8) :
    (overwrite content offset bytes).size = content.size := by
  induction bytes generalizing content offset with
  | nil => rfl
  | cons byte bytes induction =>
      rw [overwrite]
      split
      · rw [induction, size_set]
      · rfl

theorem toList_overwrite (content : ByteArray) (offset : Nat) (bytes : List UInt8)
    (fits : offset + bytes.length ≤ content.size) :
    (overwrite content offset bytes).data.toList =
      content.data.toList.take offset ++ bytes ++
        content.data.toList.drop (offset + bytes.length) := by
  induction bytes generalizing content offset with
  | nil => simp [overwrite]
  | cons byte bytes induction =>
      rw [List.length_cons] at fits
      have inside : offset < content.size := by omega
      have shown : offset < content.data.toList.length := inside
      have written : (content.set offset byte inside).data.toList =
          content.data.toList.set offset byte := Array.toList_set (h := inside) ..
      rw [overwrite, dif_pos inside, induction _ _ (by rw [size_set]; omega), written,
        List.length_cons, List.drop_set_of_lt (by omega), List.take_add_one,
        List.take_set_of_le (Nat.le_refl _), List.getElem?_set_self shown]
      simp [Nat.add_comm 1, Nat.add_assoc]

theorem length_toList (destination : Destination) :
    destination.toList.length = destination.capacity := by
  simp [toList, capacity]

@[simp]
theorem toList_reach (destination : Destination) (count : Nat) :
    (destination.reach count).toList = destination.toList := by
  have split : min (count - destination.used.size) destination.untouched +
      (destination.untouched - min (count - destination.used.size) destination.untouched) =
        destination.untouched := by omega
  simp only [reach, toList, toList_grow]
  rw [List.append_assoc, List.replicate_append_replicate, split]

@[simp]
theorem capacity_reach (destination : Destination) (count : Nat) :
    (destination.reach count).capacity = destination.capacity := by
  rw [← length_toList, toList_reach, length_toList]

@[simp]
theorem capacity_store (destination : Destination) (offset : Nat) (bytes : List UInt8) :
    (destination.store offset bytes).capacity = destination.capacity := by
  have reached := destination.capacity_reach (offset + bytes.length)
  simpa only [store, capacity, size_overwrite] using reached

theorem le_size_reach (destination : Destination) (count : Nat)
    (fits : count ≤ destination.capacity) :
    count ≤ (destination.reach count).used.data.toList.length := by
  have grown := size_grow destination.used destination.fill
    (min (count - destination.used.size) destination.untouched)
  change count ≤ (grow _ _ _).size
  unfold capacity at fits
  omega

theorem toList_store (destination : Destination) (offset : Nat) (bytes : List UInt8)
    (fits : offset + bytes.length ≤ destination.capacity) :
    (destination.store offset bytes).toList =
      destination.toList.take offset ++ bytes ++
        destination.toList.drop (offset + bytes.length) := by
  have reached := destination.le_size_reach (offset + bytes.length) fits
  rw [← destination.toList_reach (offset + bytes.length)]
  simp only [store, toList]
  rw [toList_overwrite _ _ _ reached, List.take_append_of_le_length (by omega),
    List.drop_append_of_le_length reached, List.append_assoc]

theorem slice_eq (destination : Destination) (first last : Nat)
    (fits : last ≤ destination.capacity) :
    destination.slice first last = (destination.toList.take last).drop first := by
  have reached := destination.le_size_reach last fits
  rw [← destination.toList_reach last, toList, List.take_append_of_le_length reached]
  simp [slice, List.drop_take]

@[simp]
theorem toList_filled (capacity : Nat) (fill : UInt8) :
    (filled capacity fill).toList = List.replicate capacity fill := by
  simp [filled, toList]

end Destination
end Xmodem
