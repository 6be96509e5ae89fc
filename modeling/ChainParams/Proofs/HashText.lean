import ChainParams.Hash256
import ChainParams.Proofs.Numeral

/-!
# HashText — the text and the bytes of a hash

A hash is read from exactly the texts of 64 hexadecimal digits, and written as such a text in lower
case. Its bytes are the pairs of digits from the last to the first, although they are cut out of the
word and not out of the text: both lists of half bytes denote the word (`halves_reverse_bytes`).
Main statement: `text_of_a_hash`.
-/

namespace ChainParams
namespace Text

/-- The character `c` is one of `0`–`9` or `a`–`f`. -/
def IsLowerHexDigit (c : Char) : Prop :=
  ('0' ≤ c ∧ c ≤ '9') ∨ ('a' ≤ c ∧ c ≤ 'f')

/-- The character `c` is one of `0`–`9`, `a`–`f` or `A`–`F`. -/
def IsHexDigit (c : Char) : Prop :=
  IsLowerHexDigit c ∨ ('A' ≤ c ∧ c ≤ 'F')

instance (c : Char) : Decidable (IsLowerHexDigit c) :=
  inferInstanceAs (Decidable (_ ∨ _))

instance (c : Char) : Decidable (IsHexDigit c) :=
  inferInstanceAs (Decidable (_ ∨ _))

theorem exists_hexValue?_iff {c : Char} : (∃ v, hexValue? c = some v) ↔ IsHexDigit c := by
  unfold hexValue? IsHexDigit IsLowerHexDigit
  split
  · simp [*]
  · split
    · simp [*]
    · split
      · simp [*]
      · simp [*]

theorem isDigitOf_sixteen_iff (c : Char) : isDigitOf 16 c = true ↔ IsHexDigit c := by
  rw [isDigitOf, digitValue?_sixteen, Option.isSome_iff_exists, exists_hexValue?_iff]

theorem exists_digitValues?_iff {cs : List Char} :
    (∃ ds, digitValues? 16 cs = some ds) ↔ ∀ c ∈ cs, IsHexDigit c := by
  rw [digitValues?, exists_mapM_iff]
  simp only [digitValue?_sixteen, exists_hexValue?_iff]

/-! ## Lower case -/

theorem isLowerHexDigit_digitChar : ∀ d < 16, IsLowerHexDigit (Nat.digitChar d) := by
  decide

/-- If `hexValue? c` is `d`, then `c.toLower` is the character that `d` is written as. -/
theorem toLower_of_hexValue? {c : Char} {d : Nat} (h : hexValue? c = some d) :
    c.toLower = Nat.digitChar d := by
  have hascii : ∀ n < 128, ∀ d ∈ hexValue? (Char.ofNat n),
      (Char.ofNat n).toLower = Nat.digitChar d := by
    decide
  have hlower := hascii c.toNat (hexValue?_bounds h).2 d
  rw [Char.ofNat_toNat] at hlower
  exact hlower h

theorem toList_toLower (s : String) : s.toLower.toList = s.toList.map Char.toLower :=
  String.toList_map

theorem map_toLower_of_digitValues? {cs : List Char} {ds : List Nat}
    (h : digitValues? 16 cs = some ds) : cs.map Char.toLower = ds.map Nat.digitChar := by
  induction cs generalizing ds with
  | nil =>
      cases h
      rfl
  | cons c cs ih =>
      rcases digitValues?_cons_eq_some_iff.1 h with ⟨d, rest, hd, hrest, rfl⟩
      rw [digitValue?_sixteen] at hd
      rw [List.map_cons, List.map_cons, toLower_of_hexValue? hd, ih hrest]

/-! ## Halves of bytes -/

theorem lt_of_mem_halves (bytes : List UInt8) : ∀ d ∈ halves bytes, d < 16 := by
  intro d hd
  rcases List.mem_flatMap.1 hd with ⟨b, _, hb⟩
  have hbyte := b.toNat_lt
  simp only [List.mem_cons, List.not_mem_nil, or_false] at hb
  omega

/-- The halves of `bytes` in radix 16 denote the same number as `bytes` in radix 256. -/
theorem positional_halves (bytes : List UInt8) :
    positional 16 (halves bytes) = positional 256 (bytes.map UInt8.toNat) := by
  induction bytes with
  | nil =>
      rfl
  | cons b bytes ih =>
      have hbyte : b.toNat / 16 * 16 + b.toNat % 16 = b.toNat := Nat.div_add_mod' _ 16
      have hpow : 16 ^ (halves bytes).length = 256 ^ bytes.length := by
        rw [length_halves, Nat.pow_mul]
      rw [halves_cons, positional_cons, positional_cons, List.length_cons, Nat.pow_succ, hpow, ih,
        List.map_cons, positional_cons, List.length_map]
      calc
        b.toNat / 16 * (256 ^ bytes.length * 16) +
              (b.toNat % 16 * 256 ^ bytes.length + positional 256 (bytes.map UInt8.toNat))
            = (b.toNat / 16 * 16 + b.toNat % 16) * 256 ^ bytes.length +
                positional 256 (bytes.map UInt8.toNat) := by ring
        _ = b.toNat * 256 ^ bytes.length + positional 256 (bytes.map UInt8.toNat) := by
              rw [hbyte]

end Text

namespace Word256

open Text

/-- The bytes `n >>> (8 * i)` for `i < k`, with the highest in front, denote `n % 256 ^ k`. -/
theorem positional_reverse_range (n k : Nat) :
    positional 256 (((List.range k).map fun i => UInt8.ofNat (n >>> (8 * i))).reverse.map
      UInt8.toNat) = n % 256 ^ k := by
  induction k with
  | zero =>
      simp [Nat.mod_one]
  | succ k ih =>
      have hbyte : (UInt8.ofNat (n >>> (8 * k))).toNat = n / 256 ^ k % 256 := by
        rw [UInt8.toNat_ofNat', Nat.shiftRight_eq_div_pow, Nat.pow_mul]
      rw [List.range_succ, List.map_append, List.reverse_append, List.map_append]
      simp only [List.map_singleton, List.reverse_singleton, List.singleton_append]
      rw [positional_cons, ih, hbyte]
      simp only [List.length_map, List.length_reverse, List.length_range]
      rw [Nat.mod_pow_succ, Nat.mul_comm, Nat.add_comm]

@[simp] theorem length_bytes (w : Word256) : w.bytes.length = 32 := by
  simp [bytes]

theorem positional_reverse_bytes (w : Word256) :
    positional 256 (w.bytes.reverse.map UInt8.toNat) = w.toNat := by
  rw [bytes, positional_reverse_range]
  exact Nat.mod_eq_of_lt w.isLt

/-- Up to 64 digits `ds` denote a number below `2 ^ 256`, so that `BitVec.ofNat 256` keeps it. -/
theorem toNat_ofNat_positional {ds : List Nat} (hlt : ∀ d ∈ ds, d < 16) (hlength : ds.length ≤ 64) :
    (BitVec.ofNat 256 (positional 16 ds)).toNat = positional 16 ds := by
  rw [BitVec.toNat_ofNat]
  apply Nat.mod_eq_of_lt
  calc
    positional 16 ds < 16 ^ ds.length := positional_lt (by decide) hlt
    _ ≤ 16 ^ 64 := Nat.pow_le_pow_right (by decide) hlength
    _ = 2 ^ 256 := by decide

end Word256

namespace Hash256

open Text

variable {h : Hash256}

theorem ofHex_eq_ok_iff {s : String} :
    ofHex s = .ok h ↔
      ∃ ds, digitValues? 16 s.toList = some ds ∧ ds.length = 64 ∧
        positional 16 ds = h.word.toNat := by
  rw [ofHex]
  cases hds : digitValues? 16 s.toList with
  | none =>
      simp
  | some ds =>
      by_cases hlength : ds.length = 64
      · have hvalue :=
          Word256.toNat_ofNat_positional (lt_of_digitValues? hds) (Nat.le_of_eq hlength)
        have hword : Hash256.mk (BitVec.ofNat 256 (positional 16 ds)) = h ↔
            positional 16 ds = h.word.toNat := by
          cases h
          rw [Hash256.mk.injEq, ← BitVec.toNat_inj, hvalue]
        simp [hlength, hword]
      · simp [hlength]

/-! ## The written text -/

theorem toList_render (h : Hash256) : h.render.toList = paddedDigits 16 64 h.word.toNat :=
  String.toList_ofList

theorem length_render (h : Hash256) : h.render.toList.length = 64 := by
  rw [toList_render]
  exact length_paddedDigits (by decide) (by decide) h.word.isLt

/-- The text `h.render` consists of 64 digits `ds` below 16, which denote `h.word`. -/
theorem exists_digits_render (h : Hash256) :
    ∃ ds, h.render.toList = ds.map Nat.digitChar ∧ (∀ d ∈ ds, d < 16) ∧ ds.length = 64 ∧
      positional 16 ds = h.word.toNat := by
  rcases exists_digits_paddedDigits (show 1 < 16 by decide) 64 h.word.toNat with
    ⟨ds, hchars, hlt, hvalue⟩
  have hlength := length_render h
  rw [toList_render, hchars, List.length_map] at hlength
  exact ⟨ds, by rw [toList_render, hchars], hlt, hlength, hvalue⟩

theorem isLowerHexDigit_of_mem_render (h : Hash256) :
    ∀ c ∈ h.render.toList, IsLowerHexDigit c := by
  rcases exists_digits_render h with ⟨ds, hchars, hlt, _, _⟩
  rw [hchars]
  intro c hc
  rcases List.mem_map.1 hc with ⟨d, hd, rfl⟩
  exact isLowerHexDigit_digitChar d (hlt d hd)

theorem ofHex_render (h : Hash256) : ofHex h.render = .ok h := by
  rcases exists_digits_render h with ⟨ds, hchars, hlt, hlength, hvalue⟩
  have hdigits : digitValues? 16 h.render.toList = some ds := by
    rw [hchars]
    exact digitValues?_map_digitChar (by decide) hlt
  exact ofHex_eq_ok_iff.2 ⟨ds, hdigits, hlength, hvalue⟩

theorem render_inj {a b : Hash256} (hab : a.render = b.render) : a = b := by
  have hread := ofHex_render a
  rw [hab, ofHex_render b] at hread
  cases hread
  rfl

theorem render_zero : zero.render.toList = List.replicate 64 '0' := by
  decide

theorem isZero_iff (h : Hash256) : h.isZero = true ↔ ∀ c ∈ h.render.toList, c = '0' := by
  have hzero : h.isZero = true ↔ h = zero := by
    rw [isZero, beq_iff_eq]
    constructor
    · intro hword
      exact congrArg Hash256.mk hword
    · rintro rfl
      rfl
  rw [hzero]
  constructor
  · rintro rfl c hc
    rw [render_zero] at hc
    exact List.eq_of_mem_replicate hc
  · intro hdigits
    have hlist : h.render.toList = zero.render.toList := by
      rw [render_zero]
      exact List.eq_replicate_iff.2 ⟨length_render h, hdigits⟩
    exact render_inj (String.toList_inj.1 hlist)

/-! ## The bytes -/

/-- If the 64 digits `ds` denote `h.word`, then they are the halves of `h.bytes.reverse`. -/
theorem halves_reverse_bytes {ds : List Nat} (hlt : ∀ d ∈ ds, d < 16) (hlength : ds.length = 64)
    (hvalue : positional 16 ds = h.word.toNat) : halves h.bytes.reverse = ds := by
  refine positional_inj (by decide) (lt_of_mem_halves _) hlt ?_ ?_
  · rw [length_halves, List.length_reverse, bytes, Word256.length_bytes, hlength]
  · rw [positional_halves, bytes, Word256.positional_reverse_bytes, hvalue]

/-! ## The text that is read -/

/-- The text `s` consists of exactly 64 hexadecimal digits of either case. -/
def IsText (s : String) : Prop :=
  s.toList.length = 64 ∧ ∀ c ∈ s.toList, IsHexDigit c

instance (s : String) : Decidable (IsText s) :=
  decidable_of_iff
    (s.toList.length = 64 ∧ (s.toList.all fun c => decide (IsHexDigit c)) = true)
    (by simp [IsText])

theorem exists_digits_of_isText {s : String} (hs : IsText s) :
    ∃ ds, digitValues? 16 s.toList = some ds ∧ (∀ d ∈ ds, d < 16) ∧ ds.length = 64 := by
  rcases exists_digitValues?_iff.2 hs.2 with ⟨ds, hds⟩
  exact ⟨ds, hds, lt_of_digitValues? hds, (length_of_mapM hds).symm.trans hs.1⟩

theorem ofHex_of_not_isText {s : String} (hs : ¬ IsText s) : ofHex s = .error .invalidHash := by
  rw [ofHex]
  cases hdigits : digitValues? 16 s.toList with
  | none =>
      rfl
  | some ds =>
      have hlength : ds.length ≠ 64 := by
        intro hlength
        exact hs ⟨(length_of_mapM hdigits).trans hlength, exists_digitValues?_iff.1 ⟨ds, hdigits⟩⟩
      exact if_neg hlength

/-- If `IsText s`, then `ofHex s` is a hash `h` with `h.render = s.toLower`, and `s` spells
`h.bytes.reverse`. -/
theorem exists_ofHex_of_isText {s : String} (hs : IsText s) :
    ∃ h, ofHex s = .ok h ∧ h.render = s.toLower ∧ Spells s h.bytes.reverse := by
  rcases exists_digits_of_isText hs with ⟨ds, hdigits, hlt, hlength⟩
  have hword := Word256.toNat_ofNat_positional hlt (Nat.le_of_eq hlength)
  refine ⟨⟨BitVec.ofNat 256 (positional 16 ds)⟩, ?_, ?_, ?_⟩
  · exact ofHex_eq_ok_iff.2 ⟨ds, hdigits, hlength, hword.symm⟩
  · have hpositive : ds ≠ [] := List.ne_nil_of_length_pos (by omega)
    have hwritten := paddedDigits_positional (by decide) hpositive hlt
    rw [hlength] at hwritten
    apply String.toList_inj.1
    rw [toList_render, hword, hwritten, toList_toLower, map_toLower_of_digitValues? hdigits]
  · have hbytes : halves (Hash256.mk (BitVec.ofNat 256 (positional 16 ds))).bytes.reverse = ds :=
      halves_reverse_bytes hlt hlength hword.symm
    rw [Spells, hdigits, hbytes]

/-! ## Main statement -/

/-- The reader `ofHex` accepts `s` just when `IsText s`, and answers `.invalidHash` otherwise. The
hash that it reads renders as `s.toLower`, and `s` spells its 32 bytes from the last to the first.
Conversely `ofHex h.render = .ok h` for every `h`, where `h.render` is 64 digits in lower case, and
`h.isZero` just when all of them are `'0'`. -/
theorem text_of_a_hash :
    (∀ s, IsText s →
      ∃ h, ofHex s = .ok h ∧ h.render = s.toLower ∧ h.bytes.length = 32 ∧
        Spells s h.bytes.reverse) ∧
    (∀ s, ¬ IsText s → ofHex s = .error .invalidHash) ∧
    (∀ h : Hash256, ofHex h.render = .ok h ∧ h.render.toList.length = 64 ∧
      (∀ c ∈ h.render.toList, IsLowerHexDigit c) ∧
      (h.isZero = true ↔ ∀ c ∈ h.render.toList, c = '0')) := by
  refine ⟨?_, ?_, ?_⟩
  · intro s hs
    rcases exists_ofHex_of_isText hs with ⟨h, hread, hlower, hbytes⟩
    exact ⟨h, hread, hlower, Word256.length_bytes h.word, hbytes⟩
  · intro s hs
    exact ofHex_of_not_isText hs
  · intro h
    exact ⟨ofHex_render h, length_render h, isLowerHexDigit_of_mem_render h, isZero_iff h⟩

/-- A text in mixed case is read, and rendered in lower case. With `0x` in the place of its first
two digits it is not read. -/
theorem text_of_mixed_case :
    (IsText "4A5E1E4BAAB89F3A32518A88C31BC87F618f76673e2cc77ab2127b7afdeda33b" ∧
      ∃ h, ofHex "4A5E1E4BAAB89F3A32518A88C31BC87F618f76673e2cc77ab2127b7afdeda33b" = .ok h ∧
        h.render = "4a5e1e4baab89f3a32518a88c31bc87f618f76673e2cc77ab2127b7afdeda33b") ∧
    (¬ IsText "0x5e1e4baab89f3a32518a88c31bc87f618f76673e2cc77ab2127b7afdeda33b" ∧
      ofHex "0x5e1e4baab89f3a32518a88c31bc87f618f76673e2cc77ab2127b7afdeda33b" =
        .error .invalidHash) := by
  have hmixed : IsText "4A5E1E4BAAB89F3A32518A88C31BC87F618f76673e2cc77ab2127b7afdeda33b" := by
    decide
  have hmarked : ¬ IsText "0x5e1e4baab89f3a32518a88c31bc87f618f76673e2cc77ab2127b7afdeda33b" := by
    decide
  rcases text_of_a_hash.1 _ hmixed with ⟨h, hread, hlower, _, _⟩
  have htext : "4A5E1E4BAAB89F3A32518A88C31BC87F618f76673e2cc77ab2127b7afdeda33b".toLower =
      "4a5e1e4baab89f3a32518a88c31bc87f618f76673e2cc77ab2127b7afdeda33b" := by
    apply String.toList_inj.1
    rw [toList_toLower]
    decide
  exact ⟨⟨hmixed, h, hread, hlower.trans htext⟩, hmarked, text_of_a_hash.2.1 _ hmarked⟩

end Hash256
end ChainParams
