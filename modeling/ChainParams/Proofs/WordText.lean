import ChainParams.Parameters.Summary
import ChainParams.Proofs.ByteText

/-!
# WordText — words of 256 bits and the texts that are read as them

A proof of work limit is read from at most 64 hexadecimal digits, behind one `0x` or none. Every
text that a word is written as is such a text: the numeral without leading zeros, the numeral behind
a label of a summary, and the 64 digits of a hash. Main statement: `text_of_a_limit`.
-/

namespace ChainParams

open Text

namespace Word256

variable {s : String} {w : Word256}

/-- The text `cs` has at most 64 octets, and each character is a hexadecimal digit of either
case. -/
def IsShortHex (cs : List Char) : Prop :=
  (cs.flatMap String.utf8EncodeChar).length ≤ 64 ∧
    ∀ o ∈ cs.flatMap String.utf8EncodeChar, IsHexDigit (Char.ofNat o.toNat)

instance (cs : List Char) : Decidable (IsShortHex cs) :=
  @instDecidableAnd _ _ _ (List.decidableBAll _ _)

/-! ## Octets and digits -/

theorem length_octets_of_digitValues? {cs : List Char} {ds : List Nat}
    (h : digitValues? 16 cs = some ds) : (cs.flatMap String.utf8EncodeChar).length = ds.length := by
  rw [← mapM_octetDigit?] at h
  exact length_of_mapM h

theorem isShortHex_iff {cs : List Char} :
    IsShortHex cs ↔ ∃ ds, digitValues? 16 cs = some ds ∧ ds.length ≤ 64 := by
  have hdigits : (∀ o ∈ cs.flatMap String.utf8EncodeChar, IsHexDigit (Char.ofNat o.toNat)) ↔
      ∃ ds, digitValues? 16 cs = some ds := by
    simp only [← mapM_octetDigit?, exists_mapM_iff, octetDigit?, exists_hexValue?_iff]
  rw [IsShortHex, hdigits]
  constructor
  · rintro ⟨hlength, ds, hds⟩
    exact ⟨ds, hds, length_octets_of_digitValues? hds ▸ hlength⟩
  · rintro ⟨ds, hds, hlength⟩
    exact ⟨(length_octets_of_digitValues? hds).symm ▸ hlength, ds, hds⟩

theorem dropMarker_eq_unmarked (s : String) : dropMarker s.toList = unmarked s := by
  rcases marker_cases s with ⟨cs, hs, _, hrest⟩ | ⟨hs, _, hrest⟩
  · rw [hs, hrest, dropMarker]
  · rw [hrest]
    unfold dropMarker
    split
    · rename_i cs hcs
      exact absurd hcs (hs cs)
    · rfl

/-- If `s` consists of hexadecimal digits, then `unmarked s` is all of it, since `x` is no digit. -/
theorem unmarked_of_digitValues? {ds : List Nat} (h : digitValues? 16 s.toList = some ds) :
    unmarked s = s.toList := by
  rcases marker_cases s with ⟨cs, hs, _, _⟩ | ⟨_, _, hrest⟩
  · have hx := isDigitOf_of_digitValues? h 'x' (by simp [hs])
    cases hx
  · exact hrest

/-! ## The reader -/

theorem ofHex_eq_ok_iff :
    ofHex s = .ok w ↔
      ∃ ds, digitValues? 16 (unmarked s) = some ds ∧ ds.length ≤ 64 ∧
        positional 16 ds = w.toNat := by
  rw [ofHex, dropMarker_eq_unmarked, numeral?, octetCount]
  cases hds : digitValues? 16 (unmarked s) with
  | none =>
      split
      · simp
      · simp
  | some ds =>
      -- Every digit is one octet, so the limit on octets is one on digits.
      rw [length_octets_of_digitValues? hds]
      by_cases hlength : ds.length ≤ 64
      · have hvalue := toNat_ofNat_positional (lt_of_digitValues? hds) hlength
        have hword : BitVec.ofNat 256 (positional 16 ds) = w ↔ positional 16 ds = w.toNat := by
          rw [← BitVec.toNat_inj, hvalue]
        simp [hlength, hword, Nat.not_lt.2 hlength]
      · simp [hlength, Nat.lt_of_not_le hlength]

theorem powLimitOfHex_eq_ok_iff : powLimitOfHex s = .ok w ↔ ofHex s = .ok w := by
  rw [powLimitOfHex]
  cases ofHex s with
  | ok v =>
      simp
  | error e =>
      simp

theorem powLimitOfHex_cases (s : String) :
    (∃ w, powLimitOfHex s = .ok w) ∨ powLimitOfHex s = .error .invalidHex := by
  rw [powLimitOfHex]
  cases ofHex s with
  | ok v =>
      exact Or.inl ⟨v, rfl⟩
  | error e =>
      exact Or.inr rfl

theorem powLimitOfHex_eq_ok_iff_numeral :
    powLimitOfHex s = .ok w ↔
      IsShortHex (unmarked s) ∧ numeral? 16 (unmarked s) = some w.toNat := by
  rw [powLimitOfHex_eq_ok_iff, ofHex_eq_ok_iff, isShortHex_iff]
  simp only [numeral?_eq_some_iff]
  constructor
  · rintro ⟨ds, hds, hlength, hvalue⟩
    exact ⟨⟨ds, hds, hlength⟩, ds, hds, hvalue⟩
  · rintro ⟨⟨ds, hds, hlength⟩, es, hes, hvalue⟩
    rw [hds] at hes
    cases hes
    exact ⟨ds, hds, hlength, hvalue⟩

theorem exists_powLimitOfHex_iff :
    (∃ w, powLimitOfHex s = .ok w) ↔ IsShortHex (unmarked s) := by
  constructor
  · rintro ⟨w, hw⟩
    exact (powLimitOfHex_eq_ok_iff_numeral.1 hw).1
  · intro hshort
    rcases isShortHex_iff.1 hshort with ⟨ds, hds, hlength⟩
    have hvalue := toNat_ofNat_positional (lt_of_digitValues? hds) hlength
    refine ⟨BitVec.ofNat 256 (positional 16 ds), powLimitOfHex_eq_ok_iff_numeral.2 ⟨hshort, ?_⟩⟩
    rw [hvalue]
    exact numeral?_eq_some_iff.2 ⟨ds, hds, rfl⟩

/-! ## Written words -/

theorem toList_toHex (w : Word256) : w.toHex.toList = '0' :: 'x' :: Nat.toDigits 16 w.toNat := by
  simp [toHex]

theorem unmarked_toHex (w : Word256) : unmarked w.toHex = Nat.toDigits 16 w.toNat := by
  have htext := toList_toHex w
  rcases marker_cases w.toHex with ⟨cs, hs, _, hrest⟩ | ⟨hs, _, _⟩
  · rw [hs] at htext
    rw [hrest]
    exact (List.cons.inj (List.cons.inj htext).2).2
  · exact absurd htext (hs _)

theorem powLimitOfHex_toHex (w : Word256) : powLimitOfHex w.toHex = .ok w := by
  rcases exists_digits_toDigits (show 1 < 16 by decide) w.toNat with ⟨ds, hchars, hlt, hvalue⟩
  have hlength : ds.length ≤ 64 := by
    have hdigits :=
      (Nat.length_toDigits_le_iff (show 1 < 16 by decide) (show 0 < 64 by decide)).2 w.isLt
    rwa [hchars, List.length_map] at hdigits
  apply powLimitOfHex_eq_ok_iff.2
  apply ofHex_eq_ok_iff.2
  refine ⟨ds, ?_, hlength, hvalue⟩
  rw [unmarked_toHex, hchars]
  exact digitValues?_map_digitChar (by decide) hlt

/-- Behind its `0x`, `w.toHex` does not begin with a `0` that another digit follows. -/
theorem toHex_ne_zero_cons (w : Word256) (c : Char) (cs : List Char) :
    w.toHex.toList ≠ '0' :: 'x' :: '0' :: c :: cs := by
  rw [toList_toHex]
  intro h
  exact toDigits_ne_zero_cons (by decide) (by decide) _ c cs (List.cons.inj (List.cons.inj h).2).2

/-- If `Hash256.ofHex s` is `h`, then `powLimitOfHex s` is `h.word`. -/
theorem powLimitOfHex_of_ofHex {h : Hash256} (hread : Hash256.ofHex s = .ok h) :
    powLimitOfHex s = .ok h.word := by
  rcases Hash256.ofHex_eq_ok_iff.1 hread with ⟨ds, hds, hlength, hvalue⟩
  apply powLimitOfHex_eq_ok_iff.2
  apply ofHex_eq_ok_iff.2
  refine ⟨ds, ?_, Nat.le_of_eq hlength, hvalue⟩
  rw [unmarked_of_digitValues? hds, hds]

/-! ## Main statement -/

/-- The reader `powLimitOfHex` accepts `s` just when `IsShortHex (unmarked s)`, gives the number
that these digits denote, and answers `.invalidHex` otherwise. It reads `w` from `toHex w`, which
the summary shows for the limit and which has no leading zeros, and from the text of the hash with
the word `w`; on every text that `Hash256.ofHex` accepts it agrees with it. -/
theorem text_of_a_limit :
    (∀ s, (∃ w, powLimitOfHex s = .ok w) ↔ IsShortHex (unmarked s)) ∧
    (∀ s w, powLimitOfHex s = .ok w → numeral? 16 (unmarked s) = some w.toNat) ∧
    (∀ s, ¬ IsShortHex (unmarked s) → powLimitOfHex s = .error .invalidHex) ∧
    (∀ p : Parameters, "pow limit:            " ++ p.powLimit.toHex ∈ p.summaryLines) ∧
    (∀ w, powLimitOfHex (toHex w) = .ok w ∧
      ∀ c cs, (toHex w).toList ≠ '0' :: 'x' :: '0' :: c :: cs) ∧
    (∀ w, powLimitOfHex (Hash256.mk w).render = .ok w ∧
      (Hash256.mk w).render.toList.length = 64) ∧
    (∀ s h, Hash256.ofHex s = .ok h → powLimitOfHex s = .ok h.word) := by
  refine ⟨fun _ => exists_powLimitOfHex_iff, ?_, ?_, ?_, ?_, ?_,
    fun _ _ => powLimitOfHex_of_ofHex⟩
  · intro s w hw
    exact (powLimitOfHex_eq_ok_iff_numeral.1 hw).2
  · intro s hs
    rcases powLimitOfHex_cases s with hread | herror
    · exact absurd (exists_powLimitOfHex_iff.1 hread) hs
    · exact herror
  · intro p
    simp [Parameters.summaryLines]
  · intro w
    exact ⟨powLimitOfHex_toHex w, toHex_ne_zero_cons w⟩
  · intro w
    exact ⟨powLimitOfHex_of_ofHex (Hash256.ofHex_render ⟨w⟩), Hash256.length_render ⟨w⟩⟩

/-- A text of a hash in mixed case is a limit as well. A second `0x` is not taken off. -/
theorem limit_of_hash_text :
    (∃ h, Hash256.ofHex "4A5E1E4BAAB89F3A32518A88C31BC87F618f76673e2cc77ab2127b7afdeda33b" = .ok h ∧
      powLimitOfHex "4A5E1E4BAAB89F3A32518A88C31BC87F618f76673e2cc77ab2127b7afdeda33b" =
        .ok h.word ∧
      numeral? 16
        (unmarked "4A5E1E4BAAB89F3A32518A88C31BC87F618f76673e2cc77ab2127b7afdeda33b") =
        some h.word.toNat) ∧
    (¬ IsShortHex (unmarked "0x0x1") ∧ powLimitOfHex "0x0x1" = .error .invalidHex) := by
  have htext : Hash256.IsText
      "4A5E1E4BAAB89F3A32518A88C31BC87F618f76673e2cc77ab2127b7afdeda33b" := by
    decide
  have hlong : ¬ IsShortHex (unmarked "0x0x1") := by
    decide
  rcases text_of_a_limit with ⟨_, hvalue, hother, _, _, _, hhash⟩
  rcases Hash256.exists_ofHex_of_isText htext with ⟨h, hread, _⟩
  have hlimit := hhash _ h hread
  exact ⟨⟨h, hread, hlimit, hvalue _ _ hlimit⟩, hlong, hother _ hlong⟩

end Word256
end ChainParams
