import ChainParams.Text.ByteNumeral
import ChainParams.Proofs.HashText

/-!
# ByteText — which texts are bytes, and what is wrong with the others

A numeral of a byte is read digit by digit, and reading ends at the first character that is no
digit or that takes the number past 255, whichever comes first (`byteReading_readByteDigits`). Main
statement: `text_of_a_byte`.
-/

namespace ChainParams
namespace Text

variable {radix : Nat} {cs : List Char}

/-! ## How reading ends -/

/-- How `readByteDigits` ends on `cs`: with the number of all its digits, or at a character `c`
behind a `front` whose number `n` is at most 255. Either `c` is no digit, or it takes the number
past 255. -/
inductive ByteReading (radix : Nat) (cs : List Char) : Except ByteError Nat → Prop
  | complete {n : Nat} (whole : numeral? radix cs = some n) (fits : n ≤ 255) :
      ByteReading radix cs (.ok n)
  | brokenOff {front back : List Char} {c : Char} {n : Nat} (split : cs = front ++ c :: back)
      (read : numeral? radix front = some n) (fits : n ≤ 255)
      (stop : isDigitOf radix c = false) :
      ByteReading radix cs (.error .invalidDigit)
  | runOver {front back : List Char} {c : Char} {n m : Nat} (split : cs = front ++ c :: back)
      (read : numeral? radix front = some n) (fits : n ≤ 255)
      (more : numeral? radix (front ++ [c]) = some m) (exceeds : 255 < m) :
      ByteReading radix cs (.error .tooLarge)

theorem byteReading_of_read {front : List Char} {n : Nat} (hread : numeral? radix front = some n)
    (hfits : n ≤ 255) (cs : List Char) :
    ByteReading radix (front ++ cs) (readByteDigits radix n cs) := by
  -- `front` is what has been read so far, and it grows with every digit.
  induction cs generalizing front n with
  | nil =>
      rw [List.append_nil]
      exact .complete hread hfits
  | cons c cs ih =>
      rw [readByteDigits]
      cases hc : digitValue? radix c with
      | none =>
          exact .brokenOff rfl hread hfits (by rw [isDigitOf, hc, Option.isSome_none])
      | some d =>
          have hmore := numeral?_concat hread hc
          by_cases hnext : radix * n + d ≤ 255
          · simpa [hnext] using ih hmore hnext
          · simpa [hnext] using ByteReading.runOver rfl hread hfits hmore (Nat.lt_of_not_le hnext)

theorem byteReading_readByteDigits (radix : Nat) (cs : List Char) :
    ByteReading radix cs (readByteDigits radix 0 cs) :=
  byteReading_of_read numeral?_nil (Nat.zero_le 255) cs

/-! ## Positions -/

/-- The character at position `i` is no digit. -/
def NoDigitAt (radix : Nat) (cs : List Char) (i : Nat) : Prop :=
  ∃ c ∈ cs[i]?, isDigitOf radix c = false

instance (radix : Nat) (cs : List Char) (i : Nat) : Decidable (NoDigitAt radix cs i) :=
  cs[i]?.decidableExistsMem

/-- The characters up to position `i` are digits of a number above 255. -/
def ExceedsAt (radix : Nat) (cs : List Char) (i : Nat) : Prop :=
  ∃ n ∈ numeral? radix (cs.take (i + 1)), 255 < n

instance (radix : Nat) (cs : List Char) (i : Nat) : Decidable (ExceedsAt radix cs i) :=
  (numeral? radix (cs.take (i + 1))).decidableExistsMem

section Positions

variable {front back : List Char} {c : Char} {n i : Nat}

theorem noDigitAt_of_split (h : isDigitOf radix c = false) :
    NoDigitAt radix (front ++ c :: back) front.length :=
  ⟨c, by simp, h⟩

theorem not_noDigitAt_of_numeral? (h : numeral? radix front = some n) (hi : i < front.length) :
    ¬ NoDigitAt radix (front ++ back) i := by
  rintro ⟨c, hc, hno⟩
  rw [List.getElem?_append_left hi] at hc
  rw [isDigitOf_of_numeral? h c (List.mem_of_getElem? hc)] at hno
  cases hno

theorem exceedsAt_of_split {m : Nat} (h : numeral? radix (front ++ [c]) = some m) (hm : 255 < m) :
    ExceedsAt radix (front ++ c :: back) front.length := by
  refine ⟨m, ?_, hm⟩
  have htake : (front ++ c :: back).take (front.length + 1) = front ++ [c] := by
    rw [List.append_cons, List.take_left' (by simp)]
  rw [htake]
  exact h

theorem not_exceedsAt_of_numeral? (hradix : 0 < radix) (h : numeral? radix front = some n)
    (hn : n ≤ 255) (hi : i < front.length) : ¬ ExceedsAt radix (front ++ back) i := by
  rintro ⟨m, hm, hexceeds⟩
  rw [List.take_append_of_le_length hi] at hm
  -- The digits up to here begin a numeral that is small enough.
  rw [← List.take_append_drop (i + 1) front] at h
  have hle := numeral?_le_append hradix hm h
  omega

end Positions

theorem readByteDigits_eq_ok_iff (hradix : 0 < radix) {n : Nat} :
    readByteDigits radix 0 cs = .ok n ↔ numeral? radix cs = some n ∧ n ≤ 255 := by
  have hreading := byteReading_readByteDigits radix cs
  constructor
  · intro hok
    rw [hok] at hreading
    cases hreading with
    | complete whole fits =>
        exact ⟨whole, fits⟩
  · rintro ⟨hn, hfits⟩
    generalize readByteDigits radix 0 cs = result at hreading
    cases hreading with
    | complete whole fits =>
        rw [hn] at whole
        cases whole
        rfl
    | brokenOff split read fits stop =>
        subst split
        rw [isDigitOf_of_numeral? hn _ (by simp)] at stop
        cases stop
    | @runOver front back c k m split read fits more exceeds =>
        rw [split, List.append_cons] at hn
        have hle := numeral?_le_append hradix more hn
        omega

/-- The error `.invalidDigit` comes of a position `i` without a digit, and no number above 255
before `i`. -/
theorem readByteDigits_eq_invalidDigit_iff (hradix : 0 < radix) :
    readByteDigits radix 0 cs = .error .invalidDigit ↔
      ∃ i, NoDigitAt radix cs i ∧ ∀ j < i, ¬ ExceedsAt radix cs j := by
  have hreading := byteReading_readByteDigits radix cs
  constructor
  · intro herror
    rw [herror] at hreading
    cases hreading with
    | brokenOff split read fits stop =>
        subst split
        exact ⟨_, noDigitAt_of_split stop, fun j hj =>
          not_exceedsAt_of_numeral? hradix read fits hj⟩
  · rintro ⟨i, hno, hbefore⟩
    generalize readByteDigits radix 0 cs = result at hreading
    cases hreading with
    | complete whole fits =>
        have hi : i < cs.length := by
          rcases hno with ⟨c, hc, _⟩
          exact (List.getElem?_eq_some_iff.1 hc).1
        rw [← List.append_nil cs] at hno
        exact absurd hno (not_noDigitAt_of_numeral? whole hi)
    | brokenOff split read fits stop =>
        rfl
    | @runOver front back c k m split read fits more exceeds =>
        subst split
        -- The number does not run over in front of position `i`, so only digits are there.
        have hi : i ≤ front.length := by
          by_contra hlate
          exact hbefore _ (Nat.lt_of_not_le hlate) (exceedsAt_of_split more exceeds)
        rw [List.append_cons] at hno
        have hlength : i < (front ++ [c]).length := by
          simpa using Nat.lt_succ_of_le hi
        exact absurd hno (not_noDigitAt_of_numeral? more hlength)

/-- The error `.tooLarge` comes of a position `i` at which the number is above 255, and no missing
digit up to `i`. -/
theorem readByteDigits_eq_tooLarge_iff (hradix : 0 < radix) :
    readByteDigits radix 0 cs = .error .tooLarge ↔
      ∃ i, ExceedsAt radix cs i ∧ ∀ j ≤ i, ¬ NoDigitAt radix cs j := by
  have hreading := byteReading_readByteDigits radix cs
  constructor
  · intro herror
    rw [herror] at hreading
    cases hreading with
    | @runOver front back c n m split read fits more exceeds =>
        subst split
        refine ⟨_, exceedsAt_of_split more exceeds, ?_⟩
        intro j hj
        have hlength : j < (front ++ [c]).length := by
          simpa using Nat.lt_succ_of_le hj
        rw [List.append_cons]
        exact not_noDigitAt_of_numeral? more hlength
  · rintro ⟨i, hexceeds, hdigits⟩
    generalize readByteDigits radix 0 cs = result at hreading
    cases hreading with
    | complete whole fits =>
        rcases hexceeds with ⟨m, hm, hlarge⟩
        rw [← List.take_append_drop (i + 1) cs] at whole
        have hle := numeral?_le_append hradix hm whole
        omega
    | @brokenOff front back c n split read fits stop =>
        subst split
        -- The missing digit comes later, and what is in front of it still is a byte.
        have hi : i < front.length := by
          by_contra hlate
          exact hdigits _ (Nat.le_of_not_lt hlate) (noDigitAt_of_split stop)
        exact absurd hexceeds (not_exceedsAt_of_numeral? hradix read fits hi)
    | runOver split read fits more exceeds =>
        rfl

/-! ## Markers and signs -/

/-- Sixteen for a text that begins with `0x`, ten for any other. -/
def radixOf (s : String) : Nat :=
  if ['0', 'x'].isPrefixOf s.toList then 16 else 10

/-- The text behind one leading `0x`, or all of it where there is none. -/
def unmarked (s : String) : List Char :=
  if ['0', 'x'].isPrefixOf s.toList then s.toList.drop 2 else s.toList

/-- The text behind one leading `+`, or all of it where there is none. -/
def unsigned (cs : List Char) : List Char :=
  if cs.head? = some '+' then cs.tail else cs

theorem marker_cases (s : String) :
    (∃ cs, s.toList = '0' :: 'x' :: cs ∧ radixOf s = 16 ∧ unmarked s = cs) ∨
    ((∀ cs, s.toList ≠ '0' :: 'x' :: cs) ∧ radixOf s = 10 ∧ unmarked s = s.toList) := by
  rw [radixOf, unmarked]
  cases hmarked : ['0', 'x'].isPrefixOf s.toList with
  | true =>
      left
      rcases List.isPrefixOf_iff_prefix.1 hmarked with ⟨cs, hcs⟩
      exact ⟨cs, hcs.symm, rfl, by simp [← hcs]⟩
  | false =>
      right
      refine ⟨?_, rfl, rfl⟩
      intro cs hcs
      simp [hcs] at hmarked

theorem radixOf_pos (s : String) : 0 < radixOf s := by
  rw [radixOf]
  split
  · decide
  · decide

theorem byteOfNumeral_eq (s : String) :
    byteOfNumeral s = (readByte (radixOf s) (unmarked s)).map UInt8.ofNat := by
  rcases marker_cases s with ⟨cs, hs, hradix, hrest⟩ | ⟨hs, hradix, hrest⟩
  · rw [byteOfNumeral, hs, hradix, hrest]
    rfl
  · rw [byteOfNumeral, hradix, hrest]
    split
    · rename_i cs hcs
      exact absurd hcs (hs cs)
    · rfl

/-- What `readByte` does with a text that is empty, that is `+` alone, or that has something left
after `unsigned`. -/
theorem readByte_cases (radix : Nat) (cs : List Char) :
    (cs = [] ∧ readByte radix cs = .error .empty) ∨
    (cs = ['+'] ∧ readByte radix cs = .error .invalidDigit) ∨
    (unsigned cs ≠ [] ∧ readByte radix cs = readByteDigits radix 0 (unsigned cs)) := by
  cases cs with
  | nil =>
      exact Or.inl ⟨rfl, rfl⟩
  | cons c cs =>
      right
      by_cases hc : c = '+'
      · subst hc
        cases cs with
        | nil =>
            exact Or.inl ⟨rfl, rfl⟩
        | cons d cs =>
            exact Or.inr ⟨by simp [unsigned], rfl⟩
      · right
        simp [unsigned, readByte, hc]

theorem not_noDigitAt_nil (i : Nat) : ¬ NoDigitAt radix [] i := by
  simp [NoDigitAt]

theorem not_exceedsAt_nil (i : Nat) : ¬ ExceedsAt radix [] i := by
  simp [ExceedsAt]

/-! ## Grammar and causes -/

/-- An optional `+` and then one digit of `radix` or more, which denote `n`. -/
def Denotes (radix : Nat) (cs : List Char) (n : Nat) : Prop :=
  ∃ digits, digits ≠ [] ∧ (cs = digits ∨ cs = '+' :: digits) ∧
    (∀ c ∈ digits, isDigitOf radix c = true) ∧ numeral? radix digits = some n

theorem denotes_iff {n : Nat} :
    Denotes radix cs n ↔ unsigned cs ≠ [] ∧ numeral? radix (unsigned cs) = some n := by
  constructor
  · rintro ⟨digits, hne, rfl | rfl, hdigits, hn⟩
    · -- A plus sign is no digit, so there is none.
      have hhead : cs.head? ≠ some '+' := by
        intro hplus
        have hdigit := hdigits '+' (List.mem_of_head? hplus)
        cases hdigit
      rw [unsigned, if_neg hhead]
      exact ⟨hne, hn⟩
    · exact ⟨hne, hn⟩
  · rintro ⟨hne, hn⟩
    refine ⟨unsigned cs, hne, ?_, isDigitOf_of_numeral? hn, hn⟩
    cases cs with
    | nil =>
        exact Or.inl rfl
    | cons c cs =>
        by_cases hc : c = '+'
        · exact Or.inr (by simp [unsigned, hc])
        · exact Or.inl (by simp [unsigned, hc])

theorem readByte_eq_ok_iff (hradix : 0 < radix) {n : Nat} :
    readByte radix cs = .ok n ↔ Denotes radix cs n ∧ n ≤ 255 := by
  rw [denotes_iff, and_assoc]
  rcases readByte_cases radix cs with ⟨rfl, hread⟩ | ⟨rfl, hread⟩ | ⟨hne, hread⟩
  · simp [hread, unsigned]
  · simp [hread, unsigned]
  · rw [hread, readByteDigits_eq_ok_iff hradix, and_iff_right hne]

theorem readByte_eq_empty_iff : readByte radix cs = .error .empty ↔ cs = [] := by
  rcases readByte_cases radix cs with ⟨rfl, hread⟩ | ⟨rfl, hread⟩ | ⟨hne, hread⟩
  · simp [hread]
  · simp [hread]
  · have hcs : cs ≠ [] := by
      rintro rfl
      exact hne rfl
    have hother : readByteDigits radix 0 (unsigned cs) ≠ .error .empty := by
      intro hempty
      have hreading := byteReading_readByteDigits radix (unsigned cs)
      rw [hempty] at hreading
      cases hreading
    simp [hread, hcs, hother]

theorem readByte_eq_invalidDigit_iff (hradix : 0 < radix) :
    readByte radix cs = .error .invalidDigit ↔
      cs = ['+'] ∨
        ∃ i, NoDigitAt radix (unsigned cs) i ∧ ∀ j < i, ¬ ExceedsAt radix (unsigned cs) j := by
  rcases readByte_cases radix cs with ⟨rfl, hread⟩ | ⟨rfl, hread⟩ | ⟨hne, hread⟩
  · simp [hread, unsigned, not_noDigitAt_nil]
  · simp [hread]
  · have hcs : cs ≠ ['+'] := by
      rintro rfl
      exact hne rfl
    rw [hread, readByteDigits_eq_invalidDigit_iff hradix, or_iff_right hcs]

theorem readByte_eq_tooLarge_iff (hradix : 0 < radix) :
    readByte radix cs = .error .tooLarge ↔
      ∃ i, ExceedsAt radix (unsigned cs) i ∧ ∀ j ≤ i, ¬ NoDigitAt radix (unsigned cs) j := by
  rcases readByte_cases radix cs with ⟨rfl, hread⟩ | ⟨rfl, hread⟩ | ⟨hne, hread⟩
  · simp [hread, unsigned, not_exceedsAt_nil]
  · simp [hread, unsigned, not_exceedsAt_nil]
  · rw [hread, readByteDigits_eq_tooLarge_iff hradix]

/-! ## Main statement -/

/-- The numeral `s` is not read as a byte, and the message quotes `s` and names `cause`. -/
def Rejected (s cause : String) : Prop :=
  ∃ e, byteOfNumeral s = .error e ∧ e.message s = "invalid byte " ++ quoted s ++ ": " ++ cause

theorem ByteError.reason_inj {e f : ByteError} (h : e.reason = f.reason) : e = f := by
  revert h
  cases e <;> cases f <;> decide

theorem rejected_reason_iff (s : String) (e : ByteError) :
    Rejected s e.reason ↔ readByte (radixOf s) (unmarked s) = .error e := by
  have herror : ∀ f, byteOfNumeral s = .error f ↔ readByte (radixOf s) (unmarked s) = .error f := by
    intro f
    rw [byteOfNumeral_eq]
    cases readByte (radixOf s) (unmarked s) with
    | ok n =>
        simp [Except.map]
    | error g =>
        simp [Except.map]
  constructor
  · rintro ⟨f, hf, hmessage⟩
    delta ByteError.message at hmessage
    rw [String.append_right_inj] at hmessage
    rw [← ByteError.reason_inj hmessage]
    exact (herror f).1 hf
  · intro he
    exact ⟨e, (herror e).2 he, rfl⟩

theorem exists_byteOfNumeral_iff {s : String} {n : Nat} :
    (∃ b, byteOfNumeral s = .ok b ∧ b.toNat = n) ↔
      readByte (radixOf s) (unmarked s) = .ok n ∧ n ≤ 255 := by
  rw [byteOfNumeral_eq]
  cases hread : readByte (radixOf s) (unmarked s) with
  | ok m =>
      have hm : m ≤ 255 := ((readByte_eq_ok_iff (radixOf_pos s)).1 hread).2
      have hbyte : (UInt8.ofNat m).toNat = m := UInt8.toNat_ofNat_of_lt' (by show m < 256; omega)
      have hfits : m = n → n ≤ 255 := by
        rintro rfl
        exact hm
      simpa [Except.map, hbyte] using hfits
  | error e =>
      simp [Except.map]

/-- In `300x` the number is too large before the letter comes; in `30x0` the letter comes first. -/
example :
    byteOfNumeral "300x" = .error .tooLarge ∧ byteOfNumeral "30x0" = .error .invalidDigit := by
  decide

end Text
end ChainParams
