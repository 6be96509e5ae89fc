import ChainParams.Text.Hex

/-!
# HexText — byte strings and their hexadecimal digits

A text spells a byte string if its characters are the digits of the bytes, two a byte and in either
case. The reader accepts exactly such texts (`bytesOfHex_eq_ok_iff`), although it works on octets:
the octets of a character outside ASCII are no digits. The writer spells without capitals.
-/

namespace ChainParams
namespace Text

/-- The values `b / 16` and `b % 16` of each byte `b`, in this order. -/
def halves (bytes : List UInt8) : List Nat :=
  bytes.flatMap fun b => [b.toNat / 16, b.toNat % 16]

/-- The characters of `s` are hexadecimal digits with the values `halves bytes`, in either case. -/
def Spells (s : String) (bytes : List UInt8) : Prop :=
  digitValues? 16 s.toList = some (halves bytes)

@[simp] theorem halves_cons (b : UInt8) (bytes : List UInt8) :
    halves (b :: bytes) = b.toNat / 16 :: b.toNat % 16 :: halves bytes := rfl

theorem length_halves (bytes : List UInt8) : (halves bytes).length = 2 * bytes.length := by
  induction bytes with
  | nil =>
      rfl
  | cons b bytes ih =>
      simp only [halves_cons, List.length_cons, ih]
      omega

/-! ## Digits -/

theorem hexValue?_bounds {c : Char} {v : Nat} (h : hexValue? c = some v) :
    v < 16 ∧ c.toNat < 128 := by
  unfold hexValue? at h
  split at h
  · rename_i hdigit
    have hlast : c.toNat ≤ 57 := hdigit.2
    cases h
    omega
  · split at h
    · rename_i hsmall
      have hlast : c.toNat ≤ 102 := hsmall.2
      cases h
      omega
    · split at h
      · rename_i hcapital
        have hlast : c.toNat ≤ 70 := hcapital.2
        cases h
        omega
      · cases h

theorem hexValue?_of_not_ascii {c : Char} (h : 128 ≤ c.toNat) : hexValue? c = none := by
  cases hc : hexValue? c with
  | none =>
      rfl
  | some v =>
      have hascii := (hexValue?_bounds hc).2
      omega

theorem digitValue?_sixteen (c : Char) : digitValue? 16 c = hexValue? c := by
  cases hc : hexValue? c with
  | none =>
      simp [digitValue?, hc]
  | some v =>
      simp [digitValue?, hc, (hexValue?_bounds hc).1]

/-! ## Octets -/

/-- Value of `o` as a hexadecimal digit, if the character with this number is one. -/
def octetDigit? (o : UInt8) : Option Nat :=
  hexValue? (Char.ofNat o.toNat)

theorem octetValue_eq {o : UInt8} {i : Nat} :
    octetValue o i = (octetDigit? o).elim (.error (.invalidCharacter o i)) .ok := by
  rw [octetValue, octetDigit?]
  cases hexValue? (Char.ofNat o.toNat) with
  | none =>
      rfl
  | some v =>
      rfl

theorem toNat_octetChar (o : UInt8) : (Char.ofNat o.toNat).toNat = o.toNat := by
  have ho := o.toNat_lt
  have hvalid : o.toNat.isValidChar := Or.inl (by omega)
  rw [Char.ofNat, dif_pos hvalid]
  rfl

/-- A character below 128 is encoded as one octet, with `octetDigit?` the `hexValue?` of the
character. -/
theorem utf8EncodeChar_of_ascii {c : Char} (h : c.toNat < 128) :
    ∃ o, String.utf8EncodeChar c = [o] ∧ octetDigit? o = hexValue? c := by
  have hv : c.val.toNat ≤ 127 := Nat.le_of_lt_succ h
  have ho : (UInt8.ofNat c.val.toNat).toNat = c.toNat :=
    UInt8.toNat_ofNat_of_lt' (Nat.lt_trans h (by decide))
  refine ⟨UInt8.ofNat c.val.toNat, ?_, ?_⟩
  · unfold String.utf8EncodeChar
    exact if_pos hv
  · rw [octetDigit?, ho, Char.ofNat_toNat]

/-- The encoding of a character from 128 on begins with an octet that is no hexadecimal digit. -/
theorem utf8EncodeChar_of_not_ascii {c : Char} (h : 128 ≤ c.toNat) :
    ∃ o rest, String.utf8EncodeChar c = o :: rest ∧ octetDigit? o = none := by
  have hnone : ∀ n : Nat, 128 ≤ n → n < 256 → octetDigit? (UInt8.ofNat n) = none := by
    intro n hn hlimit
    refine hexValue?_of_not_ascii ?_
    rw [toNat_octetChar, UInt8.toNat_ofNat_of_lt' hlimit]
    exact hn
  have hv : ¬ c.val.toNat ≤ 127 := Nat.not_le_of_lt h
  unfold String.utf8EncodeChar
  simp only [hv, if_false]
  split
  · exact ⟨_, _, rfl, hnone _ (by omega) (by omega)⟩
  · split
    · exact ⟨_, _, rfl, hnone _ (by omega) (by omega)⟩
    · exact ⟨_, _, rfl, hnone _ (by omega) (by omega)⟩

/-- Digits read octet by octet with `octetDigit?` are those that `digitValues?` reads character by
character. -/
theorem mapM_octetDigit? (cs : List Char) :
    (cs.flatMap String.utf8EncodeChar).mapM octetDigit? = digitValues? 16 cs := by
  induction cs with
  | nil =>
      rfl
  | cons c cs ih =>
      rw [digitValues?] at ih ⊢
      rw [List.flatMap_cons, List.mapM_cons, digitValue?_sixteen]
      by_cases hascii : c.toNat < 128
      · rcases utf8EncodeChar_of_ascii hascii with ⟨o, hoctets, hdigit⟩
        rw [hoctets, List.singleton_append, List.mapM_cons, hdigit, ih]
      · rcases utf8EncodeChar_of_not_ascii (Nat.le_of_not_lt hascii) with
          ⟨o, rest, hoctets, hdigit⟩
        rw [hoctets, List.cons_append, List.mapM_cons, hdigit,
          hexValue?_of_not_ascii (Nat.le_of_not_lt hascii)]
        rfl

/-! ## Pairs of digits -/

theorem octetDigit?_lt {o : UInt8} {v : Nat} (h : octetDigit? o = some v) : v < 16 :=
  (hexValue?_bounds h).1

/-- The byte `16 * h + l` is `b` just when `h` and `l` are the two halves of `b`. -/
theorem ofNat_eq_iff {h l : Nat} (hh : h < 16) (hl : l < 16) {b : UInt8} :
    UInt8.ofNat (16 * h + l) = b ↔ h = b.toNat / 16 ∧ l = b.toNat % 16 := by
  have hbyte : (UInt8.ofNat (16 * h + l)).toNat = 16 * h + l :=
    UInt8.toNat_ofNat_of_lt' (by show 16 * h + l < 256; omega)
  rw [← UInt8.toNat_inj, hbyte]
  omega

/-- Inversion of one step of `pairs`: both octets are digits, the rest is read from index `i + 2`,
and the byte `16 * h + l` goes in front. -/
theorem pairs_cons_cons_eq_ok_iff {high low : UInt8} {rest bytes : List UInt8} {i : Nat} :
    pairs i (high :: low :: rest) = .ok bytes ↔
      ∃ h l tail, octetDigit? high = some h ∧ octetDigit? low = some l ∧
        pairs (i + 2) rest = .ok tail ∧ UInt8.ofNat (16 * h + l) :: tail = bytes := by
  rw [pairs, octetValue_eq, octetValue_eq]
  cases octetDigit? high <;> cases octetDigit? low <;> cases pairs (i + 2) rest <;>
    simp [bind, Except.bind, pure, Except.pure]

theorem pairs_eq_ok_iff {os : List UInt8} {i : Nat} {bytes : List UInt8} :
    pairs i os = .ok bytes ↔ os.mapM octetDigit? = some (halves bytes) := by
  induction i, os using pairs.induct generalizing bytes with
  | case1 i =>
      cases bytes with
      | nil =>
          simp [pairs, halves]
      | cons b bytes =>
          simp [pairs]
  | case2 i o =>
      -- One digit is not the halves of any bytes.
      cases bytes with
      | nil =>
          simp [pairs, halves, Option.bind_eq_some_iff]
      | cons b bytes =>
          simp [pairs, Option.bind_eq_some_iff]
  | case3 i high low rest ih =>
      rw [pairs_cons_cons_eq_ok_iff]
      cases bytes with
      | nil =>
          simp [halves, Option.bind_eq_some_iff]
      | cons b bytes =>
          constructor
          · rintro ⟨h, l, tail, hhigh, hlow, htail, hbytes⟩
            rcases List.cons.inj hbytes with ⟨hb, rfl⟩
            rcases (ofNat_eq_iff (octetDigit?_lt hhigh) (octetDigit?_lt hlow)).1 hb with ⟨hh, hl⟩
            simp [hhigh, hlow, ih.1 htail, ← hh, ← hl]
          · intro hdigits
            simp only [List.mapM_cons, halves_cons, Option.pure_def, Option.bind_eq_bind,
              Option.bind_eq_some_iff, Option.some.injEq, List.cons.injEq] at hdigits
            rcases hdigits with ⟨h, hhigh, _, ⟨l, hlow, tail, htail, rfl⟩, hh, hrest⟩
            rcases List.cons.inj hrest with ⟨hl, htail'⟩
            have hb := (ofNat_eq_iff (octetDigit?_lt hhigh) (octetDigit?_lt hlow)).2 ⟨hh, hl⟩
            exact ⟨h, l, bytes, hhigh, hlow, ih.2 (by rw [htail, htail']), by rw [hb]⟩

theorem length_of_mapM {α β : Type} {f : α → Option β} {xs : List α} {ys : List β}
    (h : xs.mapM f = some ys) : xs.length = ys.length := by
  induction xs generalizing ys with
  | nil =>
      cases h
      rfl
  | cons x xs ih =>
      simp only [List.mapM_cons, Option.pure_def, Option.bind_eq_bind, Option.bind_eq_some_iff,
        Option.some.injEq] at h
      rcases h with ⟨y, -, tail, htail, rfl⟩
      rw [List.length_cons, List.length_cons, ih htail]

theorem exists_mapM_iff {α β : Type} {f : α → Option β} {xs : List α} :
    (∃ ys, xs.mapM f = some ys) ↔ ∀ x ∈ xs, ∃ y, f x = some y := by
  induction xs with
  | nil =>
      simp
  | cons x xs ih =>
      rw [List.forall_mem_cons, ← ih]
      simp only [List.mapM_cons, Option.pure_def, Option.bind_eq_bind, Option.bind_eq_some_iff,
        Option.some.injEq]
      constructor
      · rintro ⟨_, y, hy, tail, htail, _⟩
        exact ⟨⟨y, hy⟩, tail, htail⟩
      · rintro ⟨⟨y, hy⟩, tail, htail⟩
        exact ⟨y :: tail, y, hy, tail, htail, rfl⟩

/-- For every `s`, `bytesOfHex s` is `bytes` just when `s` spells `bytes`. -/
theorem bytesOfHex_eq_ok_iff {s : String} {bytes : List UInt8} :
    bytesOfHex s = .ok bytes ↔ Spells s bytes := by
  have hspells : (octets s).mapM octetDigit? = some (halves bytes) ↔ Spells s bytes := by
    rw [octets, mapM_octetDigit?, Spells]
  rw [← hspells, bytesOfHex]
  split
  · rename_i hodd
    constructor
    · intro h
      cases h
    · intro hdigits
      -- The halves of a byte string are even in number.
      have hlength := length_of_mapM hdigits
      rw [length_halves] at hlength
      omega
  · exact pairs_eq_ok_iff

/-! ## Writing -/

/-- The text `s` spells `bytes` and holds no capital. -/
structure LowerHexOf (s : String) (bytes : List UInt8) : Prop where
  spells : Spells s bytes
  lower : ∀ c ∈ s.toList, c.isUpper = false

theorem hexValue?_digitChar : ∀ d < 16,
    hexValue? (Nat.digitChar d) = some d ∧ (Nat.digitChar d).isUpper = false := by
  decide

/-- For `n < 256`, `paddedDigits 16 2 n` is the digit of `n / 16` and then that of `n % 16`, also
where the first is `'0'`. -/
theorem paddedDigits_byte {n : Nat} (h : n < 256) :
    paddedDigits 16 2 n = [Nat.digitChar (n / 16), Nat.digitChar (n % 16)] := by
  by_cases hsmall : n < 16
  · have hhigh : n / 16 = 0 := Nat.div_eq_of_lt hsmall
    have hlow : n % 16 = n := Nat.mod_eq_of_lt hsmall
    rw [paddedDigits, Nat.toDigits_of_lt_base hsmall, hhigh, hlow]
    rfl
  · have hhigh : n / 16 < 16 := Nat.div_lt_of_lt_mul h
    rw [paddedDigits, Nat.toDigits_of_base_le (by decide) (Nat.le_of_not_lt hsmall),
      Nat.toDigits_of_lt_base hhigh]
    rfl

theorem toList_hexOfBytes_cons (b : UInt8) (bytes : List UInt8) :
    (hexOfBytes (b :: bytes)).toList =
      Nat.digitChar (b.toNat / 16) :: Nat.digitChar (b.toNat % 16) ::
        (hexOfBytes bytes).toList := by
  have hbyte := paddedDigits_byte b.toNat_lt
  simp only [hexOfBytes, String.toList_ofList, List.flatMap_cons, hbyte, List.cons_append,
    List.nil_append]

theorem lowerHexOf_hexOfBytes (bytes : List UInt8) : LowerHexOf (hexOfBytes bytes) bytes := by
  induction bytes with
  | nil =>
      exact ⟨rfl, by simp [hexOfBytes]⟩
  | cons b bytes ih =>
      rcases ih with ⟨hspells, hlower⟩
      have hbyte := b.toNat_lt
      rcases hexValue?_digitChar (b.toNat / 16) (by omega) with ⟨hhigh, hhighLower⟩
      rcases hexValue?_digitChar (b.toNat % 16) (by omega) with ⟨hlow, hlowLower⟩
      constructor
      · rw [Spells, digitValues?] at hspells ⊢
        simp [toList_hexOfBytes_cons, digitValue?_sixteen, hhigh, hlow, hspells]
      · intro c hc
        rw [toList_hexOfBytes_cons, List.mem_cons, List.mem_cons] at hc
        rcases hc with rfl | rfl | hc
        · exact hhighLower
        · exact hlowLower
        · exact hlower c hc

end Text
end ChainParams
