import ChainParams.Parameters.Validity
import ChainParams.Proofs.CompactNormalForm

/-!
# CompactFloor — packing rounds a target down

Among all targets that some word stands for, packing picks the greatest one that is not above the
target given. Main statement: `packing_is_floor`, with what follows for packing what was unpacked
and for the compact limit of a network.
-/

namespace ChainParams
namespace CompactTarget

variable {t : Word256}

theorem NormalParts.toNat_magnitude {e m : Nat} (h : NormalParts t.toNat e m) :
    (BitVec.ofNat 256 (magnitude e m)).toNat = magnitude e m := by
  have hfits : magnitude e m < 2 ^ 256 := Nat.lt_of_le_of_lt h.magnitude_le t.isLt
  exact Nat.mod_eq_of_lt hfits

theorem toTarget?_ofTarget_zero : (ofTarget 0).toTarget? = some 0 := by
  decide

/-- The word `ofTarget t` is unpacked to the magnitude of the normal parts of `t`. -/
theorem toTarget?_ofTarget {e m : Nat} (h : NormalParts t.toNat e m) :
    (ofTarget t).toTarget? = some (BitVec.ofNat 256 (magnitude e m)) := by
  have hexp := h.exponent_le t.isLt
  rw [ofTarget_eq_pack h]
  exact toTarget?_pack (by omega) h.upper h.toNat_magnitude

theorem signBit_ofTarget (t : Word256) : (ofTarget t).signBit = false := by
  by_cases ht : t = 0
  · subst ht
    decide
  · rcases exists_normalParts ht with ⟨e, m, h, hpack⟩
    have hexp := h.exponent_le t.isLt
    rw [hpack]
    exact signBit_pack (by omega) h.upper

/-- The word `ofTarget t` is unpacked to some `t' ≤ t`, and no word is unpacked to a target between
`t'` and `t`. -/
theorem exists_greatest (t : Word256) :
    ∃ t', (ofTarget t).toTarget? = some t' ∧ t' ≤ t ∧
      ∀ c v, toTarget? c = some v → v ≤ t → v ≤ t' := by
  by_cases ht : t = 0
  · subst ht
    refine ⟨0, toTarget?_ofTarget_zero, BitVec.le_refl 0, ?_⟩
    intro c v _ hv
    exact hv
  · rcases exists_normalParts ht with ⟨e, m, h, _⟩
    refine ⟨_, toTarget?_ofTarget h, ?_, ?_⟩
    · rw [BitVec.le_def, h.toNat_magnitude]
      exact h.magnitude_le
    · intro c v hc hv
      -- The other word need not be in normal form; all that counts is that its mantissa is short.
      have hmagnitude := toNat_of_toTarget? hc
      rw [BitVec.le_def, hmagnitude] at hv
      rw [BitVec.le_def, hmagnitude, h.toNat_magnitude]
      exact h.le_magnitude c.mantissa_lt hv

/-! ## Packing what was unpacked -/

theorem toTarget?_ofTarget_of_toTarget? {c : CompactTarget} {v : Word256}
    (hc : c.toTarget? = some v) : (ofTarget v).toTarget? = some v := by
  rcases exists_greatest v with ⟨v', hv', hbelow, hgreatest⟩
  have habove : v ≤ v' := hgreatest c v hc (BitVec.le_refl v)
  have hsame : v' = v := BitVec.le_antisymm hbelow habove
  rw [hv', hsame]

theorem ofTarget_of_toTarget?_ofTarget {t' : Word256} (ht' : (ofTarget t).toTarget? = some t') :
    ofTarget t' = ofTarget t := by
  by_cases ht : t = 0
  · subst ht
    rw [toTarget?_ofTarget_zero] at ht'
    cases ht'
    rfl
  · rcases exists_normalParts ht with ⟨e, m, h, hpack⟩
    rw [toTarget?_ofTarget h] at ht'
    cases ht'
    rw [hpack]
    refine ofTarget_eq_pack ?_
    rw [h.toNat_magnitude]
    exact h.of_magnitude

end CompactTarget

/-! ## Compact limits -/

theorem Violation.reason_inj {a b : Violation} : a.reason = b.reason ↔ a = b := by
  cases a <;> cases b <;> simp [Violation.reason]

namespace Parameters

theorem limitViolation?_ofTarget (t : Word256) :
    limitViolation? (CompactTarget.ofTarget t) t = none := by
  rcases CompactTarget.exists_greatest t with ⟨t', ht', hbelow, _⟩
  simp [limitViolation?, ht', hbelow]

theorem rule_ne_some {c : Prop} [Decidable c] {v w : Violation} {rest : Option Violation}
    (hv : v ≠ w) (hrest : rest ≠ some w) : (if c then some v else rest) ≠ some w := by
  split
  · simpa using hv
  · exact hrest

/-- If `limitViolation?` finds nothing, then `violation?` does not report a compact limit, since no
other rule does. -/
theorem violation?_ne_of_limitViolation? {p : Parameters} {v : Violation}
    (h : limitViolation? p.powLimitCompact p.powLimit = none)
    (hv : v = .compactLimitTooHigh ∨ v = .compactLimitMalformed) : p.violation? ≠ some v := by
  rw [violation?, h]
  -- The rules that are left are tried one by one, and each of them reports something else.
  rcases hv with rfl | rfl
  · repeat' first | decide | apply rule_ne_some
  · repeat' first | decide | apply rule_ne_some

theorem validate_eq_error_iff {p : Parameters} {v : Violation} :
    p.validate = .error (.invalidParameters v.reason) ↔ p.violation? = some v := by
  rw [validate]
  cases p.violation? with
  | none =>
      simp
  | some w =>
      simp [Violation.reason_inj]

end Parameters

namespace CompactTarget

/-! ## Main statement -/

/-- The word `ofTarget t` has no sign bit and unpacks to the greatest `t' ≤ t` that any word unpacks
to. So `toTarget?` undoes `ofTarget` on every target that some word stands for, `ofTarget t'` is
again `ofTarget t`, and parameters with `powLimitCompact = ofTarget powLimit` are not rejected on
account of their compact limit. -/
theorem packing_is_floor :
    (∀ t, (ofTarget t).signBit = false ∧
      ∃ t', (ofTarget t).toTarget? = some t' ∧ t' ≤ t ∧
        ∀ c v, toTarget? c = some v → v ≤ t → v ≤ t') ∧
    (∀ c v, toTarget? c = some v → (ofTarget v).toTarget? = some v) ∧
    (∀ t t', (ofTarget t).toTarget? = some t' → ofTarget t' = ofTarget t) ∧
    (∀ p : Parameters, p.powLimitCompact = ofTarget p.powLimit →
      p.validate ≠ .error (.invalidParameters Violation.compactLimitTooHigh.reason) ∧
        p.validate ≠ .error (.invalidParameters Violation.compactLimitMalformed.reason)) := by
  refine ⟨?_, ?_, ?_, ?_⟩
  · intro t
    exact ⟨signBit_ofTarget t, exists_greatest t⟩
  · intro c v hc
    exact toTarget?_ofTarget_of_toTarget? hc
  · intro t t' ht'
    exact ofTarget_of_toTarget?_ofTarget ht'
  · intro p hp
    have hlimit : Parameters.limitViolation? p.powLimitCompact p.powLimit = none := by
      rw [hp]
      exact Parameters.limitViolation?_ofTarget p.powLimit
    constructor
    · intro herror
      have hhigh := Parameters.validate_eq_error_iff.1 herror
      exact Parameters.violation?_ne_of_limitViolation? hlimit (Or.inl rfl) hhigh
    · intro herror
      have hmalformed := Parameters.validate_eq_error_iff.1 herror
      exact Parameters.violation?_ne_of_limitViolation? hlimit (Or.inr rfl) hmalformed

/-- A limit of 256 set bits is packed to `0x2100ffff`: the leading byte `0xff` would set the sign
bit, so the exponent is `0x21` and the mantissa keeps two bytes. -/
theorem packing_all_ones :
    (⟨0x2100ffff⟩ : CompactTarget).toTarget? = some (BitVec.allOnes 256 <<< 240) ∧
      ofTarget (BitVec.allOnes 256) = ⟨0x2100ffff⟩ ∧
      ofTarget (BitVec.allOnes 256 <<< 240) = ofTarget (BitVec.allOnes 256) := by
  have hpacked : ofTarget (BitVec.allOnes 256) = ⟨0x2100ffff⟩ := by
    decide +kernel
  have hunpacked : (⟨0x2100ffff⟩ : CompactTarget).toTarget? =
      some (BitVec.allOnes 256 <<< 240) := by
    decide +kernel
  have hagain := packing_is_floor.2.2.1 (BitVec.allOnes 256) (BitVec.allOnes 256 <<< 240)
    (by rw [hpacked, hunpacked])
  exact ⟨hunpacked, hpacked, hagain⟩

end CompactTarget
end ChainParams
