-- SUMMARY: Rust's integer operations the client uses beyond wrapping arithmetic: saturating `u32` subtraction and addition, `u32::try_from`, `div_ceil` with its panic at zero, and sums in `u128`, each in terms of the natural numbers.
import Mathlib
import EncointerNode.Stdlib.Command

/-! # Saturating, checked and wide arithmetic

Release builds of the client wrap `u32` arithmetic, which `UInt32` does. Where
the code asks for saturation instead, `saturating_sub` stops at zero and
`saturating_add` at `u32::MAX`: on the natural numbers they are truncated
subtraction and a sum capped at the maximum (`toNat_saturatingSub`,
`toNat_saturatingAdd`). `u32::try_from` fails on a value that does not fit,
and `div_ceil` is division rounded up, `(a + b - 1) / b`, which panics when
`b` is zero (`divCeil_of_pos`). A `u128` is `BitVec 128`, whose sums wrap
(`toNat_foldl_add`). -/

namespace UInt32

/-- `u32::saturating_sub`. -/
def saturatingSub (a b : UInt32) : UInt32 := if b ≤ a then a - b else 0

theorem toNat_saturatingSub (a b : UInt32) : (a.saturatingSub b).toNat = a.toNat - b.toNat := by
  unfold saturatingSub
  split
  · rename_i h
    exact UInt32.toNat_sub_of_le a b h
  · rename_i h
    rw [UInt32.le_iff_toNat_le] at h
    rw [UInt32.toNat_zero]
    omega

/-- `u32::saturating_add`. -/
def saturatingAdd (a b : UInt32) : UInt32 := if a.toNat + b.toNat < 2 ^ 32 then a + b else 4294967295

theorem toNat_saturatingAdd (a b : UInt32) :
    (a.saturatingAdd b).toNat = min (a.toNat + b.toNat) (2 ^ 32 - 1) := by
  unfold saturatingAdd
  split
  · rename_i h
    rw [UInt32.toNat_add, Nat.mod_eq_of_lt h]
    omega
  · rename_i h
    show 4294967295 = _
    omega

/-- `u32::try_from` an unsigned integer. -/
def tryFrom (n : Nat) : Except Unit UInt32 := if n < 2 ^ 32 then .ok (UInt32.ofNat n) else .error ()

end UInt32

/-- `a / b` rounded up, for `b` positive, as `div_ceil` computes it. -/
theorem Nat.div_add_ite_mod (a : Nat) {b : Nat} (hb : 0 < b) :
    a / b + (if a % b > 0 then 1 else 0) = (a + b - 1) / b := by
  have hsplit : a + b - 1 = (a % b + b - 1) + b * (a / b) := by
    have := Nat.div_add_mod a b
    omega
  rw [hsplit, Nat.add_mul_div_left _ _ hb]
  have hlt := Nat.mod_lt a hb
  split
  · -- A remainder adds one whole `b` to the numerator.
    rename_i hpos
    have hone : (a % b + b - 1) / b = 1 := Nat.div_eq_of_lt_le (by omega) (by omega)
    rw [hone]
    omega
  · rename_i hzero
    have hnone : (a % b + b - 1) / b = 0 := Nat.div_eq_of_lt (by omega)
    rw [hnone]
    omega

namespace Command

variable {σ : Type}

/-- `a.div_ceil(b)` of unsigned integers, with the panic of a division by zero. -/
def divCeil (a b : Nat) : Command σ Nat :=
  if b = 0 then stop (.panic "attempt to divide by zero")
  else
    let d := a / b
    let r := a % b
    pure (if r > 0 then d + 1 else d)

theorem divCeil_of_pos {a b : Nat} (hb : 0 < b) (s : σ) : divCeil a b s = .ok ((a + b - 1) / b) s := by
  rw [divCeil, if_neg (Nat.pos_iff_ne_zero.1 hb), ← Nat.div_add_ite_mod a hb]
  split <;> rfl

theorem divCeil_zero (a : Nat) (s : σ) :
    divCeil a 0 s = .stop (.panic "attempt to divide by zero") s := by
  rw [divCeil, if_pos rfl]
  rfl

end Command

/-- A sum in `w` bits is the sum of the values, wrapped. -/
theorem BitVec.toNat_foldl_add {w : Nat} :
    ∀ (l : List (BitVec w)) (x : BitVec w),
      (l.foldl (· + ·) x).toNat = (x.toNat + (l.map BitVec.toNat).sum) % 2 ^ w
  | [], x => by simp [Nat.mod_eq_of_lt x.isLt]
  | y :: l, x => by
    rw [List.foldl_cons, BitVec.toNat_foldl_add l, BitVec.toNat_add, List.map_cons, List.sum_cons,
      Nat.mod_add_mod, Nat.add_assoc]
