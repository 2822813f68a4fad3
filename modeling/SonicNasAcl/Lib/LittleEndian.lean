/-
# Lib.LittleEndian -- fixed-width numbers as bytes

`toLe k n` lays the low `k` bytes of `n` out, lowest first, and `ofLe` reads a
run of bytes back.  `ofLe_toLe` is the round trip: what comes back is `n`
truncated to `k` bytes, so `n` itself whenever it fits (`ofLe_toLe_of_lt`).
-/
import Mathlib.Data.Nat.Init
import Mathlib.Tactic.Ring

namespace SonicNasAcl.Lib

set_option autoImplicit false

def toLe : Nat → Nat → List UInt8
  | 0, _ => []
  | k + 1, n => UInt8.ofNat n :: toLe k (n / 256)

def ofLe : List UInt8 → Nat
  | [] => 0
  | b :: rest => b.toNat + 256 * ofLe rest

@[simp] theorem toLe_length (k n : Nat) : (toLe k n).length = k := by
  induction k generalizing n with
  | zero => rfl
  | succ k ih => simp only [toLe, List.length_cons, ih]

theorem ofLe_toLe (k n : Nat) : ofLe (toLe k n) = n % 256 ^ k := by
  induction k generalizing n with
  | zero => simp only [toLe, ofLe, Nat.pow_zero, Nat.mod_one]
  | succ k ih =>
      have low : (UInt8.ofNat n).toNat = n % 256 := by simp
      simp only [toLe, ofLe, ih, low]
      rw [Nat.pow_succ, Nat.mul_comm (256 ^ k) 256, Nat.mod_mul]

theorem ofLe_toLe_of_lt {k n : Nat} (fits : n < 256 ^ k) : ofLe (toLe k n) = n := by
  rw [ofLe_toLe, Nat.mod_eq_of_lt fits]

end SonicNasAcl.Lib
