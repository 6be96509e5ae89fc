import Mathlib.Algebra.Group.Nat.Defs
import ChainParams.CompactTarget

/-!
# CompactValue — the number that a compact word stands for

A word with exponent `e` and mantissa `m` stands for `m * 256 ^ (e - 3)`, rounded down where the
exponent is below three. `magnitude` is this number without any bound, and `toTarget?_eq` says that
unpacking gives it unless the sign is set or it does not fit 256 bits.
-/

namespace ChainParams
namespace CompactTarget

/-! ## Parts of a word -/

theorem mantissa_lt (c : CompactTarget) : c.mantissa < 0x800000 :=
  Nat.mod_lt _ (by decide)

section Pack

variable {e m : Nat}

theorem word_pack (he : e < 256) (hm : m < 0x800000) :
    (pack e m).word.toNat = e * 0x1000000 + m := by
  have hfits : e * 0x1000000 + m < 2 ^ 32 := by
    omega
  simpa [pack] using Nat.mod_eq_of_lt hfits

theorem exponent_pack (he : e < 256) (hm : m < 0x800000) : (pack e m).exponent = e := by
  have hword := word_pack he hm
  simp only [exponent, hword]
  omega

theorem mantissa_pack (he : e < 256) (hm : m < 0x800000) : (pack e m).mantissa = m := by
  have hword := word_pack he hm
  simp only [mantissa, hword]
  omega

theorem signBit_pack (he : e < 256) (hm : m < 0x800000) : (pack e m).signBit = false := by
  have hword := word_pack he hm
  simp only [signBit, hword, beq_eq_false_iff_ne]
  omega

end Pack

/-! ## Magnitudes -/

/-- The natural number `m * 256 ^ e / 256 ^ 3` for an exponent `e` and a mantissa `m`, without a
limit of 256 bits. -/
def magnitude (e m : Nat) : Nat :=
  m * 256 ^ e / 256 ^ 3

theorem magnitude_of_ge {e : Nat} (he : 3 ≤ e) (m : Nat) : magnitude e m = m * 256 ^ (e - 3) := by
  have hpow : 256 ^ (e - 3) * 256 ^ 3 = 256 ^ e := Nat.pow_sub_mul_pow 256 he
  rw [magnitude, ← hpow, ← Nat.mul_assoc]
  exact Nat.mul_div_cancel _ (by decide)

theorem magnitude_of_le {e : Nat} (he : e ≤ 3) (m : Nat) : magnitude e m = m / 256 ^ (3 - e) := by
  have hpow : 256 ^ (3 - e) * 256 ^ e = 256 ^ 3 := Nat.pow_sub_mul_pow 256 he
  rw [magnitude, ← hpow]
  exact Nat.mul_div_mul_right _ _ (Nat.pow_pos (by decide))

theorem pow_le_scaled {a e m n : Nat} (hm : 256 ^ a ≤ m) (h : n ≤ a + e) :
    256 ^ n ≤ m * 256 ^ e := by
  calc
    256 ^ n ≤ 256 ^ (a + e) := Nat.pow_le_pow_right (by decide) h
    _ = 256 ^ a * 256 ^ e := Nat.pow_add 256 a e
    _ ≤ m * 256 ^ e := Nat.mul_le_mul_right _ hm

theorem scaled_lt_pow {a e m n : Nat} (hm : m < 256 ^ a) (h : a + e ≤ n) :
    m * 256 ^ e < 256 ^ n := by
  calc
    m * 256 ^ e < 256 ^ a * 256 ^ e := Nat.mul_lt_mul_of_pos_right hm (Nat.pow_pos (by decide))
    _ = 256 ^ (a + e) := (Nat.pow_add 256 a e).symm
    _ ≤ 256 ^ n := Nat.pow_le_pow_right (by decide) h

theorem two_pow_le_magnitude_iff {e m : Nat} :
    2 ^ 256 ≤ magnitude e m ↔ 256 ^ 35 ≤ m * 256 ^ e := by
  have hbound : 2 ^ 256 * 256 ^ 3 = 256 ^ 35 := by
    decide +kernel
  rw [magnitude, Nat.le_div_iff_mul_le (by decide), hbound]

/-- If no case of `overflows` applies, then `c.mantissa * 256 ^ c.exponent` stays below `256 ^ 35`:
a mantissa that is a byte shorter allows for an exponent that is larger by one. -/
theorem scaled_lt_of_fits {c : CompactTarget} (h : c.overflows = false) :
    c.mantissa * 256 ^ c.exponent < 256 ^ 35 := by
  have hm := c.mantissa_lt
  simp only [overflows, decide_eq_false_iff_not, not_and, not_or] at h
  by_cases hzero : c.mantissa = 0
  · simp [hzero]
  · rcases h hzero with ⟨h34, h33, h32⟩
    have hsize : c.exponent ≤ 32 ∨ c.exponent = 33 ∨ c.exponent = 34 := by
      omega
    rcases hsize with hexp | hexp | hexp
    · have hhigh : c.mantissa < 256 ^ 3 := by omega
      exact scaled_lt_pow hhigh (by omega)
    · have hhigh : c.mantissa < 256 ^ 2 := by omega
      exact scaled_lt_pow hhigh (by omega)
    · have hhigh : c.mantissa < 256 ^ 1 := by omega
      exact scaled_lt_pow hhigh (by omega)

/-- The three cases of `overflows` are together the words whose `magnitude` does not fit 256
bits. -/
theorem overflows_iff (c : CompactTarget) :
    c.overflows = true ↔ 2 ^ 256 ≤ magnitude c.exponent c.mantissa := by
  have hm := c.mantissa_lt
  rw [two_pow_le_magnitude_iff]
  constructor
  · -- In each case the size of the mantissa makes up for what the exponent lacks.
    intro h
    simp only [overflows, decide_eq_true_eq] at h
    rcases h with ⟨hzero, hexp | ⟨hbytes, hexp⟩ | ⟨hbytes, hexp⟩⟩
    · have hlow : 256 ^ 0 ≤ c.mantissa := by omega
      exact pow_le_scaled hlow (by omega)
    · have hlow : 256 ^ 1 ≤ c.mantissa := by omega
      exact pow_le_scaled hlow (by omega)
    · have hlow : 256 ^ 2 ≤ c.mantissa := by omega
      exact pow_le_scaled hlow (by omega)
  · intro h
    cases hover : c.overflows with
    | true =>
        rfl
    | false =>
        have hsmall : c.mantissa * 256 ^ c.exponent < 256 ^ 35 := scaled_lt_of_fits hover
        omega

/-! ## Unpacking -/

/-- The result of `toTarget?` in terms of `magnitude`: `none` for a negative word or for a magnitude
from `2 ^ 256` on, and the magnitude otherwise. -/
theorem toTarget?_eq (c : CompactTarget) :
    c.toTarget? =
      if c.mantissa ≠ 0 ∧ c.signBit = true then none
      else if 2 ^ 256 ≤ magnitude c.exponent c.mantissa then none
      else some (BitVec.ofNat 256 (magnitude c.exponent c.mantissa)) := by
  simp only [toTarget?, overflows_iff]
  -- The two shifts agree with the magnitude as it is written for small and for large exponents.
  congr 2
  by_cases he : c.exponent ≤ 3
  · have hshift : c.mantissa >>> (8 * (3 - c.exponent)) = magnitude c.exponent c.mantissa := by
      rw [magnitude_of_le he, Nat.shiftRight_eq_div_pow, Nat.pow_mul]
    simp [he, hshift]
  · have hshift : BitVec.ofNat 256 c.mantissa <<< (8 * (c.exponent - 3)) =
        BitVec.ofNat 256 (magnitude c.exponent c.mantissa) := by
      rw [magnitude_of_ge (by omega)]
      apply BitVec.eq_of_toNat_eq
      simp [Nat.shiftLeft_eq, Nat.pow_mul]
    simp [he, hshift]

/-- If `c.toTarget?` is `t`, then `t` is the magnitude of the parts of `c`. -/
theorem toNat_of_toTarget? {c : CompactTarget} {t : Word256} (h : c.toTarget? = some t) :
    t.toNat = magnitude c.exponent c.mantissa := by
  rw [toTarget?_eq] at h
  split at h
  · cases h
  · split at h
    · cases h
    · rename_i hfits
      cases h
      exact Nat.mod_eq_of_lt (Nat.lt_of_not_le hfits)

theorem toTarget?_pack {e m : Nat} {t : Word256} (he : e < 256) (hm : m < 0x800000)
    (ht : t.toNat = magnitude e m) : (pack e m).toTarget? = some t := by
  have hfits : ¬ 2 ^ 256 ≤ magnitude e m := by
    rw [← ht]
    exact Nat.not_le_of_lt t.isLt
  have hpositive : ¬ (m ≠ 0 ∧ false = true) := by
    rintro ⟨_, hsign⟩
    cases hsign
  have hword : BitVec.ofNat 256 (magnitude e m) = t := by
    simp [← ht]
  rw [toTarget?_eq, exponent_pack he hm, mantissa_pack he hm, signBit_pack he hm,
    if_neg hpositive, if_neg hfits, hword]

end CompactTarget
end ChainParams
