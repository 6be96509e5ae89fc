import Mathlib.Algebra.Order.Floor.Semifield
import Mathlib.Data.Nat.Bitwise
import Mathlib.Data.Rat.Floor
import ChainParams.Proofs.CompactValue

/-!
# CompactExact — unpacking as exact arithmetic on rationals

A compact word denotes the rational number `mantissa * 256 ^ (exponent - 3)`, where the power has a
negative exponent for targets of fewer than three bytes. Unpacking gives the floor of this number,
and refuses a word just when a mantissa that is not zero stands under the sign, or the number
reaches `2 ^ 256`. Main statement: `unpacking_is_exact`.
-/

namespace ChainParams
namespace CompactTarget

variable (c : CompactTarget)

/-! ## Parts of the word, by masks -/

theorem exponent_eq_shiftRight : c.exponent = (c.word >>> 24).toNat := by
  simp [exponent, Nat.shiftRight_eq_div_pow]

theorem mantissa_eq_and : c.mantissa = (c.word &&& 0x7fffff).toNat := by
  have hmask : c.word.toNat &&& (2 ^ 23 - 1) = c.word.toNat % 2 ^ 23 :=
    Nat.and_two_pow_sub_one_eq_mod _ 23
  simpa [mantissa] using hmask.symm

theorem signBit_eq_testBit : c.signBit = c.word.toNat.testBit 23 := by
  rw [signBit, Nat.testBit_eq_decide_div_mod_eq]
  rfl

theorem signBit_iff_and_ne_zero : c.signBit = true ↔ c.word &&& 0x800000 ≠ 0 := by
  have hmask : c.word.toNat &&& 2 ^ 23 = (c.word.toNat.testBit 23).toNat * 2 ^ 23 :=
    Nat.and_two_pow _ 23
  rw [signBit_eq_testBit, Ne, ← UInt32.toNat_inj]
  cases hbit : c.word.toNat.testBit 23 with
  | false =>
      simpa [hbit] using hmask
  | true =>
      simp [hbit] at hmask
      simp [hmask]

/-! ## The number that a word denotes -/

/-- The rational number `mantissa * 256 ^ (exponent - 3)` that `c` denotes, before anything is
rounded or refused. -/
def exactValue : ℚ :=
  c.mantissa * 256 ^ ((c.exponent : ℤ) - 3)

theorem exactValue_eq_div :
    c.exactValue = (c.mantissa * 256 ^ c.exponent : ℕ) / (256 ^ 3 : ℕ) := by
  have hpow : (256 : ℚ) ^ ((c.exponent : ℤ) - 3) = 256 ^ c.exponent / 256 ^ 3 := by
    rw [zpow_sub₀ (by norm_num)]
    rfl
  rw [exactValue, hpow]
  push_cast
  ring

/-- For every `c`, the `magnitude` of its parts is `c.exactValue` rounded down. -/
theorem magnitude_eq_floor : magnitude c.exponent c.mantissa = ⌊c.exactValue⌋₊ := by
  rw [exactValue_eq_div, Nat.floor_div_eq_div]
  rfl

theorem two_pow_le_magnitude_iff_le_exactValue :
    2 ^ 256 ≤ magnitude c.exponent c.mantissa ↔ 2 ^ 256 ≤ c.exactValue := by
  have hnonneg : 0 ≤ c.exactValue := by
    rw [exactValue_eq_div]
    positivity
  rw [magnitude_eq_floor, Nat.le_floor_iff hnonneg]
  norm_cast

/-- For an exponent from 3 on, `magnitude` is `exactValue` without rounding. -/
theorem cast_magnitude_of_ge {c : CompactTarget} (h : 3 ≤ c.exponent) :
    (magnitude c.exponent c.mantissa : ℚ) = c.exactValue := by
  have hpow : (256 : ℚ) ^ ((c.exponent : ℤ) - 3) = 256 ^ (c.exponent - 3) := by
    rw [← zpow_natCast]
    congr 1
    omega
  rw [magnitude_of_ge h, exactValue, hpow]
  push_cast
  rfl

theorem exactValue_of_mantissa_eq_zero {c : CompactTarget} (h : c.mantissa = 0) :
    c.exactValue = 0 := by
  rw [exactValue, h, Nat.cast_zero, zero_mul]

/-! ## Refused words -/

/-- The mantissa of `c` is not zero, and the sign is set or `exactValue` reaches `2 ^ 256`. -/
def Refused : Prop :=
  c.mantissa ≠ 0 ∧ (c.signBit = true ∨ 2 ^ 256 ≤ c.exactValue)

instance : Decidable c.Refused :=
  inferInstanceAs (Decidable (_ ∧ (_ ∨ _)))

theorem mantissa_ne_zero_of_le_exactValue {c : CompactTarget} (h : 2 ^ 256 ≤ c.exactValue) :
    c.mantissa ≠ 0 := by
  intro hzero
  rw [exactValue_of_mantissa_eq_zero hzero] at h
  norm_num at h

theorem toTarget?_eq_none_iff : c.toTarget? = none ↔ c.Refused := by
  simp only [toTarget?_eq, two_pow_le_magnitude_iff_le_exactValue, Refused]
  by_cases hsign : c.mantissa ≠ 0 ∧ c.signBit = true
  · simp [hsign]
  · rw [if_neg hsign]
    by_cases hlarge : 2 ^ 256 ≤ c.exactValue
    · have hmantissa := mantissa_ne_zero_of_le_exactValue hlarge
      simp [hlarge, hmantissa]
    · simp only [if_neg hlarge, reduceCtorEq, false_iff]
      rintro ⟨hmantissa, hbit | hnumber⟩
      · exact hsign ⟨hmantissa, hbit⟩
      · exact hlarge hnumber

theorem exists_toTarget?_of_not_refused {c : CompactTarget} (h : ¬ c.Refused) :
    ∃ t, c.toTarget? = some t := by
  rw [← toTarget?_eq_none_iff] at h
  exact Option.ne_none_iff_exists'.1 h

/-! ## Main statement -/

/-- The parts of `c` are its bits under the masks of the format. `toTarget?` gives `none` just when
`c.Refused`; otherwise it gives `⌊c.exactValue⌋₊`, which for an exponent from 3 on is `exactValue`
itself, since no bit of the mantissa is shifted out. A mantissa of zero unpacks to zero under every
exponent and sign. -/
theorem unpacking_is_exact (c : CompactTarget) :
    (c.exponent = (c.word >>> 24).toNat ∧ c.mantissa = (c.word &&& 0x7fffff).toNat ∧
      (c.signBit = true ↔ c.word &&& 0x800000 ≠ 0)) ∧
    (c.toTarget? = none ↔ c.Refused) ∧
    (¬ c.Refused →
      ∃ t, c.toTarget? = some t ∧ t.toNat = ⌊c.exactValue⌋₊ ∧
        (3 ≤ c.exponent → (t.toNat : ℚ) = c.exactValue ∧
          t.toNat = c.mantissa <<< (8 * (c.exponent - 3)))) ∧
    (c.mantissa = 0 → c.toTarget? = some 0) := by
  refine ⟨⟨exponent_eq_shiftRight c, mantissa_eq_and c, signBit_iff_and_ne_zero c⟩,
    toTarget?_eq_none_iff c, ?_, ?_⟩
  · intro h
    rcases exists_toTarget?_of_not_refused h with ⟨t, ht⟩
    have hmagnitude := toNat_of_toTarget? ht
    refine ⟨t, ht, hmagnitude.trans (magnitude_eq_floor c), ?_⟩
    intro hlong
    constructor
    · rw [hmagnitude, cast_magnitude_of_ge hlong]
    · rw [hmagnitude, magnitude_of_ge hlong, Nat.shiftLeft_eq, Nat.pow_mul]
  · intro hzero
    have haccepted : ¬ c.Refused := fun h => h.1 hzero
    rcases exists_toTarget?_of_not_refused haccepted with ⟨t, ht⟩
    have hvalue : t = 0 := by
      apply BitVec.eq_of_toNat_eq
      rw [toNat_of_toTarget? ht, hzero, magnitude, Nat.zero_mul, Nat.zero_div]
      rfl
    rw [ht, hvalue]

/-- Under exponent `0x21` the mantissa `0xffff` just fits and is unpacked without loss. The word
`0xff800000`, with no bit set below the sign, unpacks to zero. -/
theorem unpacking_largest_two_bytes :
    (¬ Refused ⟨0x2100ffff⟩ ∧
      ∃ t, toTarget? ⟨0x2100ffff⟩ = some t ∧ (t.toNat : ℚ) = exactValue ⟨0x2100ffff⟩ ∧
        t.toNat = 0xffff <<< 240) ∧
    (mantissa ⟨0xff800000⟩ = 0 ∧ toTarget? ⟨0xff800000⟩ = some 0) := by
  have hexponent : exponent ⟨0x2100ffff⟩ = 33 := by
    decide
  have hmantissa : mantissa ⟨0x2100ffff⟩ = 0xffff := by
    decide
  have haccepted : ¬ Refused ⟨0x2100ffff⟩ := by
    rintro ⟨_, hsign | hlarge⟩
    · exact absurd hsign (by decide)
    · rw [exactValue, hexponent, hmantissa] at hlarge
      norm_num at hlarge
  have hzero : mantissa ⟨0xff800000⟩ = 0 := by
    decide
  rcases (unpacking_is_exact ⟨0x2100ffff⟩).2.2.1 haccepted with ⟨t, ht, _, hexact⟩
  rcases hexact (by decide) with ⟨hvalue, hshift⟩
  exact ⟨⟨haccepted, t, ht, hvalue, hshift⟩,
    hzero, (unpacking_is_exact ⟨0xff800000⟩).2.2.2 hzero⟩

end CompactTarget
end ChainParams
