/-!
# Octet strings

A file is a fixed string of octets, and everything that is read is a piece of it, found by a
position.  The buffer never changes; only positions move.

* `Octets.slice?`: the piece of a given length at a given position, if the buffer holds all of it.
* `littleEndian`, `octets`: numbers as octets, least significant first.
* `octets_littleEndian`: octets are determined by their count and the number they denote.
-/

namespace GameBox

/-- The contents of a file. -/
abbrev Octets := Array UInt8

namespace Octets

/-- The `count` octets from position `start`; nothing if the buffer ends before. -/
def slice? (data : Octets) (start count : Nat) : Option (List UInt8) :=
  if start + count ≤ data.size then some (data.extract start (start + count)).toList else none

/-- The octets from position `start` to the end; none if `start` lies past the end. -/
def after (data : Octets) (start : Nat) : List UInt8 :=
  (data.extract start data.size).toList

theorem slice?_eq_some_iff {data : Octets} {start count : Nat} {piece : List UInt8} :
    data.slice? start count = some piece ↔
      start + count ≤ data.size ∧ piece = (data.toList.drop start).take count := by
  unfold slice?
  split
  · rename_i h
    simp only [Option.some.injEq, Array.toList_extract, List.extract_eq_take_drop, h, true_and]
    rw [Nat.add_sub_cancel_left]
    exact eq_comm
  · rename_i h
    simp [h]

theorem length_of_slice? {data : Octets} {start count : Nat} {piece : List UInt8}
    (h : data.slice? start count = some piece) : piece.length = count := by
  obtain ⟨hle, rfl⟩ := slice?_eq_some_iff.1 h
  simp only [List.length_take, List.length_drop, Array.length_toList]
  omega

end Octets

/-! ## Numbers as octets -/

/-- The number that octets denote, the least significant one first. -/
def littleEndian : List UInt8 → Nat
  | [] => 0
  | b :: bs => b.toNat + 256 * littleEndian bs

/-- A number as `width` octets, the least significant one first; higher octets are dropped. -/
def octets : (width : Nat) → Nat → List UInt8
  | 0, _ => []
  | width + 1, n => UInt8.ofNat n :: octets width (n / 256)

@[simp] theorem littleEndian_nil : littleEndian [] = 0 := rfl

@[simp] theorem littleEndian_cons (b : UInt8) (bs : List UInt8) :
    littleEndian (b :: bs) = b.toNat + 256 * littleEndian bs := rfl

@[simp] theorem length_octets (width n : Nat) : (octets width n).length = width := by
  induction width generalizing n with
  | zero => rfl
  | succ width ih => simp [octets, ih]

/-- Octets are determined by their count and the number they denote. -/
theorem octets_littleEndian (bs : List UInt8) : octets bs.length (littleEndian bs) = bs := by
  induction bs with
  | nil => rfl
  | cons b bs ih =>
    have hb : b.toNat < 256 := b.toNat_lt
    have hdiv : (b.toNat + 256 * littleEndian bs) / 256 = littleEndian bs := by omega
    rw [List.length_cons, littleEndian_cons, octets, hdiv, ih]
    congr 1
    apply UInt8.toNat_inj.1
    rw [UInt8.toNat_ofNat']
    omega

end GameBox
