import ChainParams.Proofs.CompactCanonical

/-!
# CompactOrder — compact words in the order of their targets

A word holds the exponent above the mantissa, so packed targets are compared by their length first
and by their leading bytes then. The sign bit stays clear and takes no part in this. Main statement:
`words_order_like_targets`, by which packing keeps the order of targets, and the packed words are in
the same strict order as what they are unpacked to.
-/

namespace ChainParams
namespace CompactTarget

/-! ## Parts of two numbers -/

namespace NormalParts

variable {n n' e m e' m' : Nat}

theorem mantissa_mono (h : NormalParts n e m) (h' : NormalParts n' e m') (hn : n ≤ n') :
    m ≤ m' := by
  rw [h.mantissa_eq, h'.mantissa_eq]
  exact Nat.div_le_div_right (Nat.mul_le_mul_right _ hn)

/-- For `n ≤ n'`, the packed fields `e * 0x1000000 + m` of the normal parts of `n` are at most those
of `n'`. -/
theorem packed_mono (h : NormalParts n e m) (h' : NormalParts n' e' m') (hn : n ≤ n') :
    e * 0x1000000 + m ≤ e' * 0x1000000 + m' := by
  rcases Nat.lt_or_eq_of_le (h.exponent_mono h' hn) with hlt | heq
  · have hupper := h.upper
    omega
  · subst heq
    exact Nat.add_le_add_left (h.mantissa_mono h' hn) _

end NormalParts

/-! ## Packed targets -/

variable {c c' : CompactTarget} {t t' v v' : Word256}

theorem word_ofTarget {e m : Nat} (h : NormalParts t.toNat e m) :
    (ofTarget t).word.toNat = e * 0x1000000 + m := by
  have hexp := h.exponent_le t.isLt
  rw [ofTarget_eq_pack h, word_pack (by omega) h.upper]

theorem word_ofTarget_mono (h : t ≤ t') : (ofTarget t).word ≤ (ofTarget t').word := by
  by_cases ht : t = 0
  · -- Zero has no leading bytes. It is packed to the least word of all.
    subst ht
    exact Nat.zero_le _
  · have ht' : t' ≠ 0 := by
      rintro rfl
      exact ht (BitVec.le_zero_iff.1 h)
    rcases exists_normalParts ht with ⟨e, m, hparts, _⟩
    rcases exists_normalParts ht' with ⟨e', m', hparts', _⟩
    rw [UInt32.le_iff_toNat_le, word_ofTarget hparts, word_ofTarget hparts']
    exact hparts.packed_mono hparts' h

/-! ## Canonical words -/

/-- Among canonical words, the order of the words is the order of the targets that they unpack
to. -/
theorem word_lt_word_iff (hc : c.toTarget? = some v) (hc' : c'.toTarget? = some v')
    (h : c.IsCanonical) (h' : c'.IsCanonical) : c.word < c'.word ↔ v < v' := by
  have hword : ofTarget v = c := (ofTarget_eq_iff hc).2 h
  have hword' : ofTarget v' = c' := (ofTarget_eq_iff hc').2 h'
  constructor
  · intro hlt
    rw [← BitVec.not_le]
    intro habove
    have hle := word_ofTarget_mono habove
    rw [hword, hword'] at hle
    exact UInt32.not_lt.2 hle hlt
  · intro hlt
    have hle := word_ofTarget_mono (BitVec.le_of_lt hlt)
    rw [hword, hword'] at hle
    refine UInt32.lt_of_le_of_ne hle ?_
    -- Equal words would be unpacked to the same target.
    intro heq
    have hsame : c = c' := congrArg CompactTarget.mk heq
    rw [hsame, hc'] at hc
    cases hc
    exact BitVec.lt_irrefl v hlt

/-- If words unpack to `t` and to `t'`, then `ofTarget` keeps their strict order. -/
theorem word_ofTarget_lt_iff (hc : c.toTarget? = some t) (hc' : c'.toTarget? = some t') :
    (ofTarget t).word < (ofTarget t').word ↔ t < t' :=
  word_lt_word_iff (toTarget?_ofTarget_of_toTarget? hc) (toTarget?_ofTarget_of_toTarget? hc')
    (isCanonical_ofTarget t) (isCanonical_ofTarget t')

/-! ## Main statement -/

/-- For all targets, `t ≤ t'` gives `(ofTarget t).word ≤ (ofTarget t').word`. The two words are in
the strict order of the targets `v` and `v'` that they unpack to, and in that of `t` and `t'`
themselves where some words unpack to these. -/
theorem words_order_like_targets (t t' : Word256) :
    (t ≤ t' → (ofTarget t).word ≤ (ofTarget t').word) ∧
    (∃ v v', (ofTarget t).toTarget? = some v ∧ (ofTarget t').toTarget? = some v' ∧
      ((ofTarget t).word < (ofTarget t').word ↔ v < v')) ∧
    (∀ c c', toTarget? c = some t → toTarget? c' = some t' →
      ((ofTarget t).word < (ofTarget t').word ↔ t < t')) := by
  rcases exists_greatest t with ⟨v, hv, _⟩
  rcases exists_greatest t' with ⟨v', hv', _⟩
  refine ⟨word_ofTarget_mono, ⟨v, v', hv, hv', ?_⟩, fun c c' hc hc' => ?_⟩
  · exact word_lt_word_iff hv hv' (isCanonical_ofTarget t) (isCanonical_ofTarget t')
  · exact word_ofTarget_lt_iff hc hc'

/-- From `0x7fffff` to `0x8000ff` the mantissa gets shorter, and yet the word grows: they are packed
to `0x037fffff` and to `0x04008000`, which stands for `0x800000`. -/
theorem words_order_at_sign_bit :
    ((0x7fffff : Word256) ≤ 0x8000ff ∧ (ofTarget 0x7fffff).word ≤ (ofTarget 0x8000ff).word) ∧
    (ofTarget 0x7fffff = ⟨0x037fffff⟩ ∧ ofTarget 0x8000ff = ⟨0x04008000⟩) ∧
    (toTarget? ⟨0x037fffff⟩ = some 0x7fffff ∧ toTarget? ⟨0x04008000⟩ = some 0x800000 ∧
      (ofTarget 0x7fffff).word < (ofTarget 0x800000).word) := by
  have hle : (0x7fffff : Word256) ≤ 0x8000ff := by
    decide
  have hlong : toTarget? ⟨0x037fffff⟩ = some 0x7fffff := by
    decide +kernel
  have hshort : toTarget? ⟨0x04008000⟩ = some 0x800000 := by
    decide +kernel
  refine ⟨⟨hle, (words_order_like_targets 0x7fffff 0x8000ff).1 hle⟩,
    ⟨by decide +kernel, by decide +kernel⟩, hlong, hshort, ?_⟩
  exact ((words_order_like_targets 0x7fffff 0x800000).2.2 _ _ hlong hshort).2 (by decide)

end CompactTarget
end ChainParams
