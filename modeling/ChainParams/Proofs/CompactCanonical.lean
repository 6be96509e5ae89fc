import Mathlib.Logic.ExistsUnique
import ChainParams.Proofs.CompactFloor

/-!
# CompactCanonical — the word that packing picks for a target

Many words stand for one target: leading zero bytes of the mantissa can be traded for the exponent,
and below exponent three the last bytes of the mantissa have no meaning. A canonical word has a
mantissa of at least `0x8000` and zeros where bits have no meaning; zero is the word of zeros. Main
statement: `canonical_words`, by which packing gives the canonical word of each target and no other.
-/

namespace ChainParams
namespace CompactTarget

/-- The word `c` is zero, or its mantissa reaches `0x8000` and has zeros in the bits that
`toTarget?` shifts out. -/
def IsCanonical (c : CompactTarget) : Prop :=
  c.word = 0 ∨
    (0x8000 ≤ c.mantissa ∧
      (c.exponent < 3 → c.mantissa % 2 ^ (8 * (3 - c.exponent)) = 0))

instance (c : CompactTarget) : Decidable c.IsCanonical :=
  inferInstanceAs (Decidable (_ ∨ _))

variable {c : CompactTarget} {v : Word256}

/-! ## Words without a sign -/

theorem eq_pack_of_signBit (h : c.signBit = false) : c = pack c.exponent c.mantissa := by
  have hword : c.exponent * 0x1000000 + c.mantissa = c.word.toNat := by
    simp only [signBit, beq_eq_false_iff_ne] at h
    simp only [exponent, mantissa]
    omega
  rw [pack, hword, UInt32.ofNat_toNat]

theorem signBit_of_toTarget? (hc : c.toTarget? = some v) (hm : c.mantissa ≠ 0) :
    c.signBit = false := by
  cases hsign : c.signBit with
  | false =>
      rfl
  | true =>
      rw [toTarget?_eq, if_pos ⟨hm, hsign⟩] at hc
      cases hc

/-! ## Normal parts of the target -/

/-- The mantissa `m` is recovered from `magnitude e m` just when the bits of `m` that are cut off
under `e < 3` are zero. -/
theorem scaled_magnitude_eq_iff {e m : Nat} :
    m = magnitude e m * 256 ^ 3 / 256 ^ e ↔ (e < 3 → m % 2 ^ (8 * (3 - e)) = 0) := by
  rcases Nat.lt_or_ge e 3 with hshort | hlong
  · have hscale : magnitude e m * 256 ^ 3 / 256 ^ e = m / 256 ^ (3 - e) * 256 ^ (3 - e) := by
      rw [magnitude_of_le (Nat.le_of_lt hshort), ← Nat.pow_sub_mul_pow 256 (Nat.le_of_lt hshort),
        ← Nat.mul_assoc]
      exact Nat.mul_div_cancel _ (Nat.pow_pos (by decide))
    have hbits : 2 ^ (8 * (3 - e)) = 256 ^ (3 - e) := Nat.pow_mul 2 8 _
    have hparts := Nat.div_add_mod' m (256 ^ (3 - e))
    rw [hscale, hbits]
    constructor
    · intro h _
      omega
    · intro h
      have hrest := h hshort
      omega
  · have hscale : magnitude e m * 256 ^ 3 / 256 ^ e = m := by
      rw [magnitude_of_ge hlong, Nat.mul_assoc, Nat.pow_sub_mul_pow 256 hlong]
      exact Nat.mul_div_cancel _ (Nat.pow_pos (by decide))
    rw [hscale]
    constructor
    · intro _ hshort
      omega
    · intro _
      rfl

theorem normalParts_iff (hc : c.toTarget? = some v) :
    NormalParts v.toNat c.exponent c.mantissa ↔
      0x8000 ≤ c.mantissa ∧ (c.exponent < 3 → c.mantissa % 2 ^ (8 * (3 - c.exponent)) = 0) := by
  rw [toNat_of_toTarget? hc, ← scaled_magnitude_eq_iff]
  constructor
  · intro h
    exact ⟨h.lower, h.mantissa_eq⟩
  · rintro ⟨hlower, hmantissa⟩
    exact ⟨hmantissa, hlower, c.mantissa_lt⟩

/-! ## What packing gives -/

/-- If `c` unpacks to `v`, then `ofTarget v` is `c` just when `c.IsCanonical`. -/
theorem ofTarget_eq_iff (hc : c.toTarget? = some v) : ofTarget v = c ↔ c.IsCanonical := by
  constructor
  · rintro rfl
    by_cases hv : v = 0
    · subst hv
      exact Or.inl rfl
    · rcases exists_normalParts hv with ⟨e, m, h, hpack⟩
      have hexp := h.exponent_le v.isLt
      refine Or.inr ((normalParts_iff hc).1 ?_)
      rw [hpack, exponent_pack (by omega) h.upper, mantissa_pack (by omega) h.upper]
      exact h
  · rintro (hzero | hparts)
    · -- The word of zeros stands for zero, and zero is packed to it.
      have hword : c = ⟨0⟩ := congrArg CompactTarget.mk hzero
      subst hword
      have hv : some v = some 0 := hc.symm.trans (by decide)
      cases hv
      rfl
    · have hsign : c.signBit = false := by
        refine signBit_of_toTarget? hc ?_
        have hlower := hparts.1
        omega
      rw [ofTarget_eq_pack ((normalParts_iff hc).2 hparts)]
      exact (eq_pack_of_signBit hsign).symm

theorem isCanonical_ofTarget (t : Word256) : (ofTarget t).IsCanonical := by
  rcases exists_greatest t with ⟨t', ht', _, _⟩
  exact (ofTarget_eq_iff ht').1 (ofTarget_of_toTarget?_ofTarget ht')

/-- If any word unpacks to `v`, then exactly one canonical word does. -/
theorem existsUnique_canonical (hc : c.toTarget? = some v) :
    ∃! c' : CompactTarget, c'.toTarget? = some v ∧ c'.IsCanonical := by
  refine ⟨ofTarget v, ⟨toTarget?_ofTarget_of_toTarget? hc, isCanonical_ofTarget v⟩, ?_⟩
  rintro c' ⟨hc', hcanonical⟩
  exact ((ofTarget_eq_iff hc').2 hcanonical).symm

/-! ## Main statement -/

/-- For every word `c` that unpacks to `v`, `ofTarget v = c` just when `c` is zero, or its mantissa
is at least `0x8000` and keeps no bit that is shifted out. Exactly one canonical word unpacks to
`v`; and `ofTarget t` is canonical for every `t`, and is what its own target packs to. -/
theorem canonical_words :
    (∀ c v, toTarget? c = some v →
      (ofTarget v = c ↔
        c.word = 0 ∨
          (0x8000 ≤ c.mantissa ∧
            (c.exponent < 3 → c.mantissa % 2 ^ (8 * (3 - c.exponent)) = 0)))) ∧
    (∀ c v, toTarget? c = some v → ∃! c', toTarget? c' = some v ∧ c'.IsCanonical) ∧
    (∀ t, (ofTarget t).IsCanonical ∧
      ∃ v, toTarget? (ofTarget t) = some v ∧ ofTarget v = ofTarget t) := by
  refine ⟨?_, ?_, ?_⟩
  · intro c v hc
    exact ofTarget_eq_iff hc
  · intro c v hc
    exact existsUnique_canonical hc
  · intro t
    rcases exists_greatest t with ⟨v, hv, _, _⟩
    exact ⟨isCanonical_ofTarget t, v, hv, ofTarget_of_toTarget?_ofTarget hv⟩

/-- The target `0x80` is packed to `0x02008000`. The word `0x02008001` stands for it too, with a bit
that is cut off, and so does `0x03000080`, whose mantissa is too short. -/
theorem canonical_word_of_one_byte :
    (toTarget? ⟨0x02008000⟩ = some 0x80 ∧ ofTarget 0x80 = ⟨0x02008000⟩) ∧
      (toTarget? ⟨0x02008001⟩ = some 0x80 ∧ ofTarget 0x80 ≠ ⟨0x02008001⟩) ∧
      (toTarget? ⟨0x03000080⟩ = some 0x80 ∧ ofTarget 0x80 ≠ ⟨0x03000080⟩) ∧
      ∃! c, toTarget? c = some 0x80 ∧ c.IsCanonical := by
  have hword : toTarget? ⟨0x02008000⟩ = some 0x80 := by decide
  have hcut : toTarget? ⟨0x02008001⟩ = some 0x80 := by decide
  have hshort : toTarget? ⟨0x03000080⟩ = some 0x80 := by decide
  rcases canonical_words with ⟨hiff, hunique, _⟩
  refine ⟨⟨hword, (hiff _ _ hword).2 (by decide)⟩, ⟨hcut, ?_⟩, ⟨hshort, ?_⟩, hunique _ _ hword⟩
  · rw [Ne, hiff _ _ hcut]
    decide
  · rw [Ne, hiff _ _ hshort]
    decide

end CompactTarget
end ChainParams
