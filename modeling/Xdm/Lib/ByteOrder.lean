/-
# Words in memory

A number that is read from memory depends on the order in which the machine takes the octets.
The highest octet decides about the highest bits, so a test of these bits looks at the first
octet on a machine of one kind and at the last one on a machine of the other kind.
-/
import Mathlib.Data.Nat.Digits.Defs

inductive ByteOrder
  | big
  | little
deriving DecidableEq

namespace ByteOrder

variable {order : ByteOrder} {bs : List UInt8}

/-- The octets from the lowest one on. -/
def fromLowest : ByteOrder → List UInt8 → List UInt8
  | big, bs => bs.reverse
  | little, bs => bs

/-- The number that is read. -/
def load (order : ByteOrder) (bs : List UInt8) : Nat :=
  Nat.ofDigits 256 ((order.fromLowest bs).map UInt8.toNat)

/-- The octet that counts most. -/
def highest (order : ByteOrder) (bs : List UInt8) : UInt8 := (order.fromLowest bs).getLastD 0

lemma length_fromLowest : (order.fromLowest bs).length = bs.length := by
  cases order
  · exact List.length_reverse
  · rfl

lemma highest_big : big.highest bs = bs.headD 0 := by
  cases bs with
  | nil => rfl
  | cons b bs => simp [highest, fromLowest, List.getLastD_eq_getLast?]

lemma load_lt : order.load bs < 256 ^ bs.length := by
  have hdigits : ∀ d ∈ (order.fromLowest bs).map UInt8.toNat, d < 256 :=
    List.forall_mem_map.2 fun b _ => b.toNat_lt
  have hlt := Nat.ofDigits_lt_base_pow_length (by decide) hdigits
  rwa [List.length_map, length_fromLowest] at hlt

/-- The highest octet is what remains of the number after all the others. -/
lemma load_div {n : Nat} (hlength : bs.length = n + 1) :
    order.load bs / 256 ^ n = (order.highest bs).toNat := by
  have hlength' : (order.fromLowest bs).length = n + 1 := length_fromLowest.trans hlength
  obtain ⟨low, top, hsnoc⟩ : ∃ low top, order.fromLowest bs = low ++ [top] := by
    rcases List.eq_nil_or_concat (order.fromLowest bs) with hnil | ⟨low, top, hsnoc⟩
    · rw [hnil] at hlength'
      exact absurd hlength' (Nat.succ_ne_zero n).symm
    · exact ⟨low, top, by rw [hsnoc, List.concat_eq_append]⟩
  have hlow : low.length = n := by
    rw [hsnoc, List.length_append] at hlength'
    exact Nat.succ.inj hlength'
  have hdigits : ∀ d ∈ low.map UInt8.toNat, d < 256 :=
    List.forall_mem_map.2 fun b _ => b.toNat_lt
  have hlt := Nat.ofDigits_lt_base_pow_length (by decide) hdigits
  rw [List.length_map, hlow] at hlt
  rw [load, highest, hsnoc, List.map_append, List.map_singleton, Nat.ofDigits_append,
    Nat.ofDigits_singleton, List.length_map, hlow, Nat.add_mul_div_left _ _ (by positivity),
    Nat.div_eq_of_lt hlt, Nat.zero_add, List.getLastD_eq_getLast?, List.getLast?_concat]
  rfl

/-- A mask for the highest bits of a number tests what is above the other ones. -/
lemma and_mask_eq_iff {x n k v : Nat} (hx : x < 2 ^ (k + n)) :
    x &&& (2 ^ n - 1) <<< k = v <<< k ↔ x / 2 ^ k = v := by
  have hmask : x &&& (2 ^ n - 1) <<< k = (x / 2 ^ k) <<< k := by
    refine Nat.eq_of_testBit_eq fun i => ?_
    rw [Nat.testBit_and, Nat.testBit_shiftLeft, Nat.testBit_shiftLeft, Nat.testBit_two_pow_sub_one,
      Nat.testBit_div_two_pow]
    rcases Nat.lt_or_ge i k with hi | hi
    · simp [hi.not_ge]
    · rw [Nat.sub_add_cancel hi]
      rcases Nat.lt_or_ge (i - k) n with hn | hn
      · simp [hi, hn]
      · have hzero : x.testBit i = false :=
          Nat.testBit_lt_two_pow (hx.trans_le (Nat.pow_le_pow_right Nat.two_pos (by omega)))
        simp [hzero]
  rw [hmask, Nat.shiftLeft_eq, Nat.shiftLeft_eq, Nat.mul_left_inj (by positivity)]

end ByteOrder
