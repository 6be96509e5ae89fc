import ChainParams.Proofs.CompactValue

/-!
# CompactNormalForm — the parts that packing gives a target

Packing keeps the leading bytes of a target in a mantissa between `0x8000` and `0x800000`. These
bounds are one byte apart, so they fix the exponent (`NormalParts.unique`), and the magnitude of the
parts is the target with what the mantissa cannot hold cut off.
-/

namespace ChainParams
namespace CompactTarget

/-! ## Normal parts of a number -/

/-- The exponent `e` and the mantissa `m` that `n` is packed to: `m` holds the leading bytes of `n`,
as many of them as leave the sign bit clear. -/
structure NormalParts (n e m : Nat) : Prop where
  mantissa_eq : m = n * 256 ^ 3 / 256 ^ e
  lower : 0x8000 ≤ m
  upper : m < 0x800000

namespace NormalParts

variable {n n' e m e' m' : Nat}

/-- If `n ≤ n'`, then the exponent of `n` is at most that of `n'`. -/
theorem exponent_mono (h : NormalParts n e m) (h' : NormalParts n' e' m') (hn : n ≤ n') :
    e ≤ e' := by
  rcases Nat.lt_or_ge e' e with hlt | hge
  · -- A larger exponent would take a whole byte from the mantissa.
    have hstep : m ≤ m' / 256 := by
      calc
        m = n * 256 ^ 3 / 256 ^ e := h.mantissa_eq
        _ ≤ n' * 256 ^ 3 / 256 ^ (e' + 1) :=
            Nat.div_le_div (Nat.mul_le_mul_right _ hn) (Nat.pow_le_pow_right (by decide) hlt)
              (Nat.ne_of_gt (Nat.pow_pos (by decide)))
        _ = m' / 256 := by
            rw [h'.mantissa_eq, Nat.div_div_eq_div_mul, ← Nat.pow_succ]
    have hlower := h.lower
    have hupper := h'.upper
    omega
  · exact hge

theorem unique (h : NormalParts n e m) (h' : NormalParts n e' m') : e = e' ∧ m = m' := by
  have hexp : e = e' :=
    Nat.le_antisymm (h.exponent_mono h' (Nat.le_refl n)) (h'.exponent_mono h (Nat.le_refl n))
  subst hexp
  exact ⟨rfl, h.mantissa_eq.trans h'.mantissa_eq.symm⟩

theorem exponent_le (h : NormalParts n e m) (hn : n < 2 ^ 256) : e ≤ 33 := by
  rcases Nat.lt_or_ge 33 e with hlong | hshort
  · have hmantissa : m < 256 := by
      calc
        m = n * 256 ^ 3 / 256 ^ e := h.mantissa_eq
        _ ≤ n * 256 ^ 3 / 256 ^ 34 :=
            Nat.div_le_div_left (Nat.pow_le_pow_right (by decide) hlong) (by decide)
        _ < 256 := by omega
    have hlower := h.lower
    omega
  · exact hshort

/-! ## The magnitude of normal parts -/

theorem magnitude_le (h : NormalParts n e m) : magnitude e m ≤ n := by
  have hcut : m * 256 ^ e ≤ n * 256 ^ 3 := by
    rw [h.mantissa_eq]
    exact Nat.div_mul_le_self _ _
  calc
    magnitude e m = m * 256 ^ e / 256 ^ 3 := rfl
    _ ≤ n * 256 ^ 3 / 256 ^ 3 := Nat.div_le_div_right hcut
    _ = n := Nat.mul_div_cancel n (by decide)

/-- For an exponent up to 3, the magnitude of the normal parts of `n` is `n` itself. -/
theorem magnitude_eq_of_le (h : NormalParts n e m) (he : e ≤ 3) : magnitude e m = n := by
  have hm : m = n * 256 ^ (3 - e) := by
    calc
      m = n * 256 ^ 3 / 256 ^ e := h.mantissa_eq
      _ = n * 256 ^ (3 - e) * 256 ^ e / 256 ^ e := by
          rw [Nat.mul_assoc, Nat.pow_sub_mul_pow 256 he]
      _ = n * 256 ^ (3 - e) := Nat.mul_div_cancel _ (Nat.pow_pos (by decide))
  rw [magnitude_of_le he, hm]
  exact Nat.mul_div_cancel _ (Nat.pow_pos (by decide))

/-- The normal parts of `n` are also those of their own magnitude. -/
theorem of_magnitude (h : NormalParts n e m) : NormalParts (magnitude e m) e m := by
  rcases Nat.le_total e 3 with hshort | hlong
  · rwa [h.magnitude_eq_of_le hshort]
  · refine ⟨?_, h.lower, h.upper⟩
    have hpow : magnitude e m * 256 ^ 3 = m * 256 ^ e := by
      rw [magnitude_of_ge hlong, Nat.mul_assoc, Nat.pow_sub_mul_pow 256 hlong]
    rw [hpow]
    exact (Nat.mul_div_cancel m (Nat.pow_pos (by decide))).symm

/-- Among all parts with a mantissa below `0x800000` and a magnitude up to `n`, the normal parts of
`n` have the largest magnitude. -/
theorem le_magnitude (h : NormalParts n e m) (hm' : m' < 0x800000)
    (hle : magnitude e' m' ≤ n) : magnitude e' m' ≤ magnitude e m := by
  rcases Nat.le_total e 3 with hshort | hlong
  · rwa [h.magnitude_eq_of_le hshort]
  · have hscaled : m' * 256 ^ e' ≤ m * 256 ^ e := by
      rcases Nat.lt_or_ge e' e with hlt | hge
      · -- With a smaller exponent, the mantissa is too short to reach the leading byte.
        calc
          m' * 256 ^ e' ≤ 0x800000 * 256 ^ (e - 1) :=
              Nat.mul_le_mul (Nat.le_of_lt hm')
                (Nat.pow_le_pow_right (by decide) (Nat.le_pred_of_lt hlt))
          _ = 0x8000 * 256 ^ (e - 1 + 1) := by
              rw [Nat.pow_succ]
              omega
          _ = 0x8000 * 256 ^ e := by
              rw [Nat.sub_add_cancel (by omega)]
          _ ≤ m * 256 ^ e := Nat.mul_le_mul_right _ h.lower
      · -- With this exponent or a larger one, the number is a multiple of the last place.
        have hexact : magnitude e' m' * 256 ^ 3 = m' * 256 ^ (e' - e) * 256 ^ e := by
          have hlong' : 3 ≤ e' := Nat.le_trans hlong hge
          rw [magnitude_of_ge hlong', Nat.mul_assoc, Nat.pow_sub_mul_pow 256 hlong',
            Nat.mul_assoc, Nat.pow_sub_mul_pow 256 hge]
        have hquotient : m' * 256 ^ (e' - e) ≤ m := by
          rw [h.mantissa_eq, Nat.le_div_iff_mul_le (Nat.pow_pos (by decide)), ← hexact]
          exact Nat.mul_le_mul_right _ hle
        calc
          m' * 256 ^ e' = m' * 256 ^ (e' - e) * 256 ^ e := by
              rw [Nat.mul_assoc, Nat.pow_sub_mul_pow 256 hge]
          _ ≤ m * 256 ^ e := Nat.mul_le_mul_right _ hquotient
    exact Nat.div_le_div_right hscaled

end NormalParts

/-! ## Packing -/

theorem byteLength_bounds {t : Word256} (ht : t ≠ 0) :
    256 ^ (byteLength t - 1) ≤ t.toNat ∧ t.toNat < 256 ^ byteLength t ∧ 0 < byteLength t := by
  have hzero : t.toNat ≠ 0 := by
    intro h
    exact ht (BitVec.eq_of_toNat_eq h)
  have hbits : t.bitLength = Nat.log2 t.toNat + 1 := by
    simp [Word256.bitLength, hzero]
  have hlength : byteLength t = (Nat.log2 t.toNat + 1 + 7) / 8 := by
    rw [byteLength, hbits]
  have hlow : 2 ^ Nat.log2 t.toNat ≤ t.toNat := Nat.log2_self_le hzero
  have hhigh : t.toNat < 2 ^ (Nat.log2 t.toNat + 1) := Nat.lt_log2_self
  refine ⟨?_, ?_, by omega⟩
  · calc
      256 ^ (byteLength t - 1) = 2 ^ (8 * (byteLength t - 1)) := (Nat.pow_mul 2 8 _).symm
      _ ≤ 2 ^ Nat.log2 t.toNat := Nat.pow_le_pow_right (by decide) (by omega)
      _ ≤ t.toNat := hlow
  · calc
      t.toNat < 2 ^ (Nat.log2 t.toNat + 1) := hhigh
      _ ≤ 2 ^ (8 * byteLength t) := Nat.pow_le_pow_right (by decide) (by omega)
      _ = 256 ^ byteLength t := Nat.pow_mul 2 8 _

/-- Both branches of `leadingBytes`, the shift up and the shift down, compute
`t.toNat * 256 ^ 3 / 256 ^ size`. -/
theorem leadingBytes_eq (t : Word256) (size : Nat) :
    leadingBytes t size = t.toNat * 256 ^ 3 / 256 ^ size := by
  by_cases hsize : size ≤ 3
  · have hpow : t.toNat * 256 ^ 3 = t.toNat * 256 ^ (3 - size) * 256 ^ size := by
      rw [Nat.mul_assoc, Nat.pow_sub_mul_pow 256 hsize]
    rw [hpow, Nat.mul_div_cancel _ (Nat.pow_pos (by decide))]
    simp [leadingBytes, hsize, Nat.shiftLeft_eq, Nat.pow_mul]
  · have hlong : 3 ≤ size := by
      omega
    rw [← Nat.pow_sub_mul_pow 256 hlong, Nat.mul_div_mul_right _ _ (by decide)]
    simp [leadingBytes, hsize, Nat.shiftRight_eq_div_pow, Nat.pow_mul]

theorem leadingBytes_bounds {t : Word256} (ht : t ≠ 0) :
    0x10000 ≤ leadingBytes t (byteLength t) ∧ leadingBytes t (byteLength t) < 0x1000000 := by
  rcases byteLength_bounds ht with ⟨hlow, hhigh, hpos⟩
  rw [leadingBytes_eq]
  constructor
  · rw [Nat.le_div_iff_mul_le (Nat.pow_pos (by decide))]
    calc
      0x10000 * 256 ^ byteLength t = 0x10000 * 256 ^ (byteLength t - 1 + 1) := by
          rw [Nat.sub_add_cancel hpos]
      _ = 256 ^ (byteLength t - 1) * 256 ^ 3 := by
          rw [Nat.pow_succ]
          omega
      _ ≤ t.toNat * 256 ^ 3 := Nat.mul_le_mul_right _ hlow
  · rw [Nat.div_lt_iff_lt_mul (Nat.pow_pos (by decide)), Nat.mul_comm]
    exact Nat.mul_lt_mul_of_pos_left hhigh (by decide)

/-- For `t ≠ 0`, `ofTarget t` packs normal parts of `t`: where the leading byte would set the sign
bit, one byte less is kept under the next exponent. -/
theorem exists_normalParts {t : Word256} (ht : t ≠ 0) :
    ∃ e m, NormalParts t.toNat e m ∧ ofTarget t = pack e m := by
  rcases leadingBytes_bounds ht with ⟨hlow, hhigh⟩
  -- The leading byte is not zero, so even one byte less leaves a mantissa of at least `0x8000`.
  have hleading := leadingBytes_eq t (byteLength t)
  by_cases hsign : 0x800000 ≤ leadingBytes t (byteLength t)
  · refine ⟨byteLength t + 1, leadingBytes t (byteLength t) / 256, ⟨?_, ?_, ?_⟩, ?_⟩
    · rw [hleading, Nat.div_div_eq_div_mul, ← Nat.pow_succ]
    · omega
    · omega
    · rw [ofTarget, if_neg ht]
      exact if_pos hsign
  · refine ⟨byteLength t, leadingBytes t (byteLength t), ⟨hleading, ?_, ?_⟩, ?_⟩
    · omega
    · omega
    · rw [ofTarget, if_neg ht]
      exact if_neg hsign

/-- If `e` and `m` are normal parts of `t`, then `ofTarget t` is `pack e m`. -/
theorem ofTarget_eq_pack {t : Word256} {e m : Nat} (h : NormalParts t.toNat e m) :
    ofTarget t = pack e m := by
  -- Zero has no normal parts, so packing does not take its own way here.
  have ht : t ≠ 0 := by
    rintro rfl
    have hlower := h.lower
    rw [h.mantissa_eq] at hlower
    simp at hlower
  rcases exists_normalParts ht with ⟨e', m', h', hpack⟩
  rcases h.unique h' with ⟨rfl, rfl⟩
  exact hpack

end CompactTarget
end ChainParams
