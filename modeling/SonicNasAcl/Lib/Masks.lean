/-
# Lib.Masks -- when a masked comparison tells a value from all others

A ternary match compares a field with a value under a mask: only the bits of the mask
count.  `Separates admits v m` says that no other admitted number agrees with `v` on
the bits of `m`, so that the match is exact.

* `separates_low`: all bits of the width separate every value;
* `separates_even_iff`: without the lowest bit a value is told apart exactly when its
  neighbour is not admitted;
* `not_separates_zero`: without any bit nothing is told apart;
* `zipWith_and_ones`: bytes under a mask of ones are themselves.
-/
import Mathlib.Data.Nat.Bitwise

namespace SonicNasAcl.Lib

set_option autoImplicit false

/-- No other admitted number agrees with `v` on the bits of `m`. -/
def Separates (admits : Nat → Prop) (v m : Nat) : Prop :=
  ∀ w, admits w → w &&& m = v &&& m → w = v

variable {admits : Nat → Prop} {v k : Nat}

/-- All low bits tell every value of the width apart. -/
theorem separates_low (value : v < 2 ^ k) (narrow : ∀ w, admits w → w < 2 ^ k) :
    Separates admits v (2 ^ k - 1) := by
  intro w here same
  rw [Nat.and_two_pow_sub_one_of_lt_two_pow value,
    Nat.and_two_pow_sub_one_of_lt_two_pow (narrow w here)] at same
  exact same

/-- The bits above the lowest one are the half of a number. -/
theorem and_even_mask {n : Nat} (narrow : n < 2 ^ (k + 1)) : n &&& (2 ^ (k + 1) - 2) = 2 * (n / 2) := by
  have mask : 2 ^ (k + 1) - 2 = Nat.bit false (2 ^ k - 1) := by
    simp only [Nat.bit_false_apply, pow_succ]
    omega
  have number : n = Nat.bit n.bodd (n / 2) := by
    rw [← Nat.div2_val]
    exact (Nat.bit_bodd_div2 n).symm
  have half : n / 2 < 2 ^ k := by
    rw [pow_succ] at narrow
    omega
  rw [mask]
  nth_rewrite 1 [number]
  rw [Nat.land_bit, Bool.and_false, Nat.and_two_pow_sub_one_of_lt_two_pow half,
    Nat.bit_false_apply]

/-- Without the lowest bit, a value is told apart exactly when its neighbour, the number
that differs in that bit only, is not admitted. -/
theorem separates_even_iff (value : v < 2 ^ (k + 1)) (narrow : ∀ w, admits w → w < 2 ^ (k + 1)) :
    Separates admits v (2 ^ (k + 1) - 2) ↔ ∀ w, w / 2 = v / 2 → w ≠ v → ¬ admits w := by
  unfold Separates
  constructor
  · intro told w half other here
    apply other
    apply told w here
    rw [and_even_mask (narrow w here), and_even_mask value, half]
  · intro alone w here same
    rw [and_even_mask (narrow w here), and_even_mask value] at same
    by_contra other
    exact alone w (by omega) other here

/-- A mask of zero tells nothing apart. -/
theorem not_separates_zero {w : Nat} (here : admits w) (other : w ≠ v) :
    ¬ Separates admits v 0 := by
  intro told
  apply other
  apply told w here
  rw [Nat.and_zero, Nat.and_zero]

/-- Bytes under a mask of ones are themselves. -/
theorem zipWith_and_ones (l : List UInt8) :
    List.zipWith (· &&& ·) l (List.replicate l.length 0xff) = l := by
  induction l with
  | nil => rfl
  | cons b rest ih =>
      have byte : b &&& 0xff = b := by
        apply UInt8.toNat_inj.mp
        have narrow : b.toNat < 2 ^ 8 := b.toNat_lt
        rw [UInt8.toNat_and]
        exact Nat.and_two_pow_sub_one_of_lt_two_pow narrow
      rw [List.length_cons, List.replicate_succ, List.zipWith_cons_cons, byte, ih]

end SonicNasAcl.Lib
