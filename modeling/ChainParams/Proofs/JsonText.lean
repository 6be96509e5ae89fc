import ChainParams.Json.Form
import ChainParams.Proofs.Numeral

/-!
# JsonText — data written as JSON and read again

The reader takes back what the writer writes, whatever comes after it, as long as that can end a
value: a comma, a closing bracket or brace, or the end of the text (`Closes`). Only a `.scalar`,
which is kept as it was written, is left out, since nothing says that it is JSON at all
(`Datum.Plain`). The bound on the reader's work is never reached, as each level of nesting and each
item takes a character. There is one lemma for a list and one for a table (`readValue_list`,
`readValue_table`), and `readValue_write` puts them together along the data. Main statement:
`read?_render`.
-/

namespace ChainParams

/-- Data without a `.scalar`, which is kept as it was written. -/
inductive Datum.Plain : Datum → Prop
  | null : Plain .null
  | bool (b : Bool) : Plain (.bool b)
  | integer (n : Int) : Plain (.integer n)
  | text (s : String) : Plain (.text s)
  | unpaired : Plain .unpaired
  | list {items : List Datum} : (∀ x ∈ items, Plain x) → Plain (.list items)
  | table {members : List (String × Datum)} : (∀ m ∈ members, Plain m.2) → Plain (.table members)

namespace Json

open Text

/-! ## Texts -/

theorem readParts_letter {l c : Char} (hl : unescape? l = some c) (cs : List Char) :
    readParts ('\\' :: l :: cs) =
      (readParts cs).map fun (parts, rest) => (.char c :: parts, rest) := by
  have hu : l ≠ 'u' := by
    rintro rfl
    cases hl
  rw [readParts]
  · rw [hl]
    cases readParts cs with
    | none =>
        rfl
    | some read =>
        rfl
  · intro a b c d rest hl'
    exact absurd hl' hu

theorem readParts_unit {n : Nat} (hn : n < 32) (cs : List Char) :
    readParts ('\\' :: 'u' :: (paddedDigits 16 4 n ++ cs)) =
      (readParts cs).map fun (parts, rest) => (.unit n :: parts, rest) := by
  have hnumeral := numeral?_paddedDigits (show 1 < 16 by decide) (by decide) 4 n
  have hlength := length_paddedDigits (show 1 < 16 by decide) (show 0 < 4 by decide)
    (show n < 16 ^ 4 by omega)
  rcases hdigits : paddedDigits 16 4 n with _ | ⟨a, _ | ⟨b, _ | ⟨c, _ | ⟨d, _ | ⟨e, ds⟩⟩⟩⟩⟩
  all_goals
    rw [hdigits] at hlength hnumeral
    simp at hlength
  simp only [List.cons_append, List.nil_append]
  rw [readParts, hnumeral]
  cases readParts cs with
  | none =>
      rfl
  | some read =>
      rfl

theorem readParts_plain {c : Char} (hquote : c ≠ '\x22') (hslash : c ≠ '\\') (hn : ¬ c.toNat < 32)
    (cs : List Char) :
    readParts (c :: cs) = (readParts cs).map fun (parts, rest) => (.char c :: parts, rest) := by
  rw [readParts]
  · rw [if_neg hquote, if_neg (by simp [hn, hslash])]
    cases readParts cs with
    | none =>
        rfl
    | some read =>
        rfl
  · intro a b c d rest hl'
    exact absurd hl' hslash
  · intro a b hl'
    exact absurd hl' hslash

theorem joinParts_unit {n : Nat} (hn : n < 32) (parts : List TextPart) :
    joinParts (.unit n :: parts) = (joinParts parts).map (Char.ofNat n :: ·) := by
  have hhigh : isHighSurrogate n = false := by
    simp [isHighSurrogate]
    omega
  have hlow : isLowSurrogate n = false := by
    simp [isLowSurrogate]
    omega
  rcases parts with _ | ⟨_ | _, _⟩
  all_goals simp [joinParts, hhigh, hlow]

/-- What `escapeChar c` writes is read by `readParts` as one part, and `joinParts` takes that part
for `c`. -/
theorem exists_part_escapeChar (c : Char) :
    ∃ part,
      (∀ cs, readParts (escapeChar c ++ cs) =
        (readParts cs).map fun (parts, rest) => (part :: parts, rest)) ∧
      ∀ parts, joinParts (part :: parts) = (joinParts parts).map (c :: ·) := by
  unfold escapeChar
  split
  · rename_i hself
    have hletter : unescape? c = some c := by
      rcases hself with rfl | rfl
      · rfl
      · rfl
    exact ⟨.char c, readParts_letter hletter, fun _ => rfl⟩
  split
  · rename_i hback
    exact ⟨.char c, readParts_letter (hback ▸ rfl), fun _ => rfl⟩
  split
  · rename_i hfeed
    exact ⟨.char c, readParts_letter (hfeed ▸ rfl), fun _ => rfl⟩
  split
  · rename_i hline
    exact ⟨.char c, readParts_letter (hline ▸ rfl), fun _ => rfl⟩
  split
  · rename_i hreturn
    exact ⟨.char c, readParts_letter (hreturn ▸ rfl), fun _ => rfl⟩
  split
  · rename_i htab
    exact ⟨.char c, readParts_letter (htab ▸ rfl), fun _ => rfl⟩
  split
  · rename_i hcontrol
    refine ⟨.unit c.toNat, readParts_unit hcontrol, ?_⟩
    intro parts
    rw [joinParts_unit hcontrol, Char.ofNat_toNat]
  · rename_i hself _ _ _ _ _ hcontrol
    rw [not_or] at hself
    exact ⟨.char c, readParts_plain hself.1 hself.2 hcontrol, fun _ => rfl⟩

theorem exists_parts_written (cs rest : List Char) :
    ∃ parts, readParts (cs.flatMap escapeChar ++ '\x22' :: rest) = some (parts, rest) ∧
      joinParts parts = some cs := by
  induction cs with
  | nil =>
      exact ⟨[], by simp [readParts], rfl⟩
  | cons c cs ih =>
      rcases ih with ⟨parts, hread, hjoin⟩
      rcases exists_part_escapeChar c with ⟨part, hpart, hchar⟩
      refine ⟨part :: parts, ?_, ?_⟩
      · rw [List.flatMap_cons, List.append_assoc, hpart, hread, Option.map_some]
      · rw [hchar, hjoin, Option.map_some]

theorem readText_written (s : String) (rest : List Char) :
    readText (s.toList.flatMap escapeChar ++ '\x22' :: rest) = some (some s, rest) := by
  rcases exists_parts_written s.toList rest with ⟨parts, hread, hjoin⟩
  simp [readText, hread, hjoin]

/-! ## Integers -/

/-- The text `rest` is empty or begins with a comma, a closing bracket or a closing brace. -/
def Closes (rest : List Char) : Prop :=
  ∀ c ∈ rest.head?, c = ',' ∨ c = ']' ∨ c = '\x7d'

theorem closes_cons {c : Char} {rest : List Char} (h : c = ',' ∨ c = ']' ∨ c = '\x7d') :
    Closes (c :: rest) := by
  intro d hd
  rw [List.head?_cons, Option.mem_some_iff] at hd
  exact hd ▸ h

theorem readDigits_append {digits rest : List Char} (h : ∀ c ∈ digits, isDigitOf 10 c = true)
    (hrest : Closes rest) : readDigits (digits ++ rest) = (digits, rest) := by
  have hstop : Stops (isDigitOf 10) rest := by
    intro c hc
    rcases hrest c hc with rfl | rfl | rfl <;> decide
  rw [readDigits, takeWhile_append_of_stops h hstop, dropWhile_append_of_stops h hstop]

theorem readFraction_of_closes {rest : List Char} (h : Closes rest) :
    readFraction rest = some ([], rest) := by
  rw [readFraction.eq_def]
  split
  · rename_i tail
    exact absurd (h '.' rfl) (by decide)
  · rfl

theorem readExponent_of_closes {rest : List Char} (h : Closes rest) :
    readExponent rest = some ([], rest) := by
  cases rest with
  | nil =>
      rfl
  | cons c rest =>
      have hletter : ¬ (c = 'e' ∨ c = 'E') := by
        rcases h c rfl with rfl | rfl | rfl <;> decide
      exact if_neg hletter

theorem isDigitOf_of_mem_toDigits (n : Nat) : ∀ c ∈ Nat.toDigits 10 n, isDigitOf 10 c = true := by
  simpa using isDigitOf_of_mem_paddedDigits (show 1 < 10 by decide) (by decide) 0 n

theorem exists_toDigits_eq_cons (n : Nat) :
    ∃ c cs, Nat.toDigits 10 n = c :: cs ∧ isDigitOf 10 c = true := by
  simpa using exists_paddedDigits_eq_cons (show 1 < 10 by decide) (by decide) 0 n

theorem readUnsigned_toDigits (negative : Bool) (n : Nat) {rest : List Char} (h : Closes rest) :
    readUnsigned negative (Nat.toDigits 10 n ++ rest) =
      some (integerDatum negative (Nat.toDigits 10 n), rest) := by
  rw [readUnsigned, readDigits_append (isDigitOf_of_mem_toDigits n) h]
  split
  · rename_i hnil
    exact absurd (Prod.mk.inj hnil).1 Nat.toDigits_ne_nil
  · rename_i hzero
    exact absurd (Prod.mk.inj hzero).1 (toDigits_ne_zero_cons (by decide) (by decide) n _ _)
  · rename_i hdigits
    rcases Prod.mk.inj hdigits with ⟨rfl, rfl⟩
    simp [readFraction_of_closes h, readExponent_of_closes h]

theorem integerDatum_toDigits (n : Nat) :
    integerDatum false (Nat.toDigits 10 n) = .integer n := by
  rw [integerDatum, numeral?_toDigits (by decide) (by decide)]
  rfl

theorem integerDatum_toDigits_negative {n : Nat} (hn : n ≠ 0) :
    integerDatum true (Nat.toDigits 10 n) = .integer (-n) := by
  have hvalue := numeral?_toDigits (show 1 < 10 by decide) (by decide) n
  cases n with
  | zero =>
      exact absurd rfl hn
  | succ n =>
      simp [integerDatum, hvalue]

/-- The text of `writeInteger n` begins with a digit or `-`. -/
theorem exists_writeInteger_eq_cons (n : Int) :
    ∃ c cs, writeInteger n = c :: cs ∧ (c = '-' ∨ isDigitOf 10 c = true) := by
  rw [writeInteger]
  split
  · exact ⟨'-', _, rfl, Or.inl rfl⟩
  · rcases exists_toDigits_eq_cons n.natAbs with ⟨c, cs, hchars, hdigit⟩
    exact ⟨c, cs, hchars, Or.inr hdigit⟩

theorem readNumber_of_ne_minus {c : Char} (hc : c ≠ '-') (cs : List Char) :
    readNumber (c :: cs) = readUnsigned false (c :: cs) := by
  rw [readNumber]
  intro rest h
  exact hc (List.cons.inj h).1

theorem readNumber_writeInteger (n : Int) {rest : List Char} (h : Closes rest) :
    readNumber (writeInteger n ++ rest) = some (.integer n, rest) := by
  rw [writeInteger]
  split
  · rename_i hnegative
    have habs : n.natAbs ≠ 0 := by
      omega
    have hvalue : -(n.natAbs : Int) = n := by
      omega
    rw [List.cons_append, readNumber, readUnsigned_toDigits true n.natAbs h,
      integerDatum_toDigits_negative habs, hvalue]
  · have hvalue : (n.natAbs : Int) = n := by
      omega
    have hread := readUnsigned_toDigits false n.natAbs h
    rw [integerDatum_toDigits, hvalue] at hread
    rcases exists_toDigits_eq_cons n.natAbs with ⟨c, cs, hchars, hdigit⟩
    have hminus : c ≠ '-' := by
      rintro rfl
      exact absurd hdigit (by decide)
    rw [hchars] at hread
    rw [hchars, List.cons_append, readNumber_of_ne_minus hminus]
    exact hread

/-! ## The first character of a value -/

theorem skipSpaces_cons {c : Char} (hc : isSpace c = false) (cs : List Char) :
    skipSpaces (c :: cs) = c :: cs :=
  List.dropWhile_cons_of_neg (by simp [hc])

theorem isSpace_of_number {c : Char} (hc : c = '-' ∨ isDigitOf 10 c = true) :
    isSpace c = false := by
  rcases hc with rfl | hdigit
  · rfl
  · cases hblank : isSpace c with
    | false =>
        rfl
    | true =>
        simp only [isSpace, Bool.or_eq_true, beq_iff_eq] at hblank
        rcases hblank with ((rfl | rfl) | rfl) | rfl <;> exact absurd hdigit (by decide)

/-- A value that begins with a digit or `-` is read by `readNumber`. -/
theorem readValue_number {c : Char} (hc : c = '-' ∨ isDigitOf 10 c = true) (bound : Nat)
    (cs : List Char) : readValue (bound + 1) (c :: cs) = readNumber (c :: cs) := by
  -- No other kind of value has such a first character.
  have hother : ∀ {d : Char} {tail}, c :: cs = d :: tail → d = '-' ∨ isDigitOf 10 d = true := by
    intro d tail h
    rcases List.cons.inj h with ⟨rfl, _⟩
    exact hc
  rw [readValue, skipSpaces_cons (isSpace_of_number hc)]
  split
  all_goals
    first
    | rfl
    | rename_i h
      exact absurd (hother h) (by decide)

/-- The text of `write d` begins neither with a space nor with the `]` that would end a list. -/
theorem exists_write_eq_cons {d : Datum} (h : d.Plain) :
    ∃ c cs, write d = c :: cs ∧ isSpace c = false ∧ c ≠ ']' := by
  cases h with
  | null =>
      exact ⟨'n', _, by rw [write], by decide, by decide⟩
  | bool b =>
      cases b with
      | false =>
          exact ⟨'f', _, by rw [write], by decide, by decide⟩
      | true =>
          exact ⟨'t', _, by rw [write], by decide, by decide⟩
  | integer n =>
      rcases exists_writeInteger_eq_cons n with ⟨c, cs, hchars, hc⟩
      refine ⟨c, cs, by rw [write, hchars], isSpace_of_number hc, ?_⟩
      rintro rfl
      exact absurd hc (by decide)
  | text s =>
      exact ⟨'\x22', _, by rw [write]; rfl, by decide, by decide⟩
  | unpaired =>
      exact ⟨'\x22', _, by rw [write], by decide, by decide⟩
  | @list items _ =>
      cases items with
      | nil =>
          exact ⟨'[', _, by rw [write], by decide, by decide⟩
      | cons x xs =>
          exact ⟨'[', _, by rw [write]; rfl, by decide, by decide⟩
  | @table members _ =>
      cases members with
      | nil =>
          exact ⟨'\x7b', _, by rw [write], by decide, by decide⟩
      | cons m ms =>
          exact ⟨'\x7b', _, by rw [write]; rfl, by decide, by decide⟩

theorem skipSpaces_write {d : Datum} (h : d.Plain) (rest : List Char) :
    skipSpaces (write d ++ rest) = write d ++ rest := by
  rcases exists_write_eq_cons h with ⟨c, cs, hchars, hspace, _⟩
  rw [hchars, List.cons_append, skipSpaces_cons hspace]

/-! ## Lists and tables -/

section Parts

variable {item : List Char → Option (Datum × List Char)} {rest : List Char}

theorem readItems_write {bound : Nat} {x : Datum} {xs : List Datum}
    (hitem : ∀ y ∈ x :: xs, ∀ rest, Closes rest → item (write y ++ rest) = some (y, rest))
    (hbound : xs.length < bound) :
    readItems item bound (write x ++ (writeItems xs ++ ']' :: rest)) = some (x :: xs, rest) := by
  induction xs generalizing x bound with
  | nil =>
      cases bound with
      | zero =>
          cases hbound
      | succ bound =>
          have hread := hitem x List.mem_cons_self (']' :: rest) (closes_cons (by decide))
          rw [writeItems, List.nil_append, readItems, hread]
          rfl
  | cons y ys ih =>
      cases bound with
      | zero =>
          cases hbound
      | succ bound =>
          have hread := hitem x List.mem_cons_self
            (',' :: (write y ++ (writeItems ys ++ ']' :: rest))) (closes_cons (by decide))
          have hrest : readItems item bound (write y ++ (writeItems ys ++ ']' :: rest)) =
              some (y :: ys, rest) :=
            ih (fun z hz => hitem z (List.mem_cons_of_mem x hz)) (Nat.lt_of_succ_lt_succ hbound)
          rw [writeItems, List.cons_append, List.cons_append, List.append_assoc, readItems, hread]
          simp only [skipSpaces_cons (show isSpace ',' = false by decide), hrest]

theorem readMember_write {k : String} {v : Datum}
    (hitem : item (write v ++ rest) = some (v, rest)) :
    readMember item (writeText k ++ ':' :: (write v ++ rest)) = some ((some k, v), rest) := by
  have hkey := readText_written k (':' :: (write v ++ rest))
  rw [readMember, writeText, List.append_assoc, List.append_assoc, List.singleton_append,
    List.singleton_append, skipSpaces_cons (by decide)]
  simp only [hkey, skipSpaces_cons (show isSpace ':' = false by decide), hitem]

theorem readMembers_write {bound : Nat} {m : String × Datum} {ms : List (String × Datum)}
    (hitem : ∀ m' ∈ m :: ms, ∀ rest, Closes rest →
      item (write m'.2 ++ rest) = some (m'.2, rest))
    (hbound : ms.length < bound) :
    readMembers item bound
        (writeText m.1 ++ ':' :: (write m.2 ++ (writeMembers ms ++ '\x7d' :: rest))) =
      some ((m :: ms).map fun m => (some m.1, m.2), rest) := by
  induction ms generalizing m bound with
  | nil =>
      cases bound with
      | zero =>
          cases hbound
      | succ bound =>
          have hread := hitem m List.mem_cons_self ('\x7d' :: rest) (closes_cons (by decide))
          rw [writeMembers, List.nil_append, readMembers, readMember_write hread]
          rfl
  | cons m' ms ih =>
      cases bound with
      | zero =>
          cases hbound
      | succ bound =>
          have hread := hitem m List.mem_cons_self
            (',' :: (writeText m'.1 ++
              ':' :: (write m'.2 ++ (writeMembers ms ++ '\x7d' :: rest))))
            (closes_cons (by decide))
          have hrest : readMembers item bound (writeText m'.1 ++
              ':' :: (write m'.2 ++ (writeMembers ms ++ '\x7d' :: rest))) =
              some ((m' :: ms).map fun m => (some m.1, m.2), rest) :=
            ih (fun z hz => hitem z (List.mem_cons_of_mem m hz)) (Nat.lt_of_succ_lt_succ hbound)
          simp only [writeMembers, List.cons_append, List.append_assoc]
          rw [readMembers, readMember_write hread]
          simp only [skipSpaces_cons (show isSpace ',' = false by decide), hrest, List.map_cons]

theorem tableDatum_map (members : List (String × Datum)) :
    tableDatum (members.map fun m => (some m.1, m.2)) = .table members := by
  have hnames : (members.map fun m => (some m.1, m.2)).mapM
      (fun m => m.1.map fun k => (k, m.2)) = some members := by
    induction members with
    | nil =>
        rfl
    | cons m ms ih =>
        rw [List.map_cons, List.mapM_cons, ih]
        rfl
  rw [tableDatum]
  split
  · rename_i found hfound
    rw [Option.some.inj (hfound.symm.trans hnames)]
  · rename_i hfound
    cases hfound.symm.trans hnames

end Parts

/-! ## The bound on the work -/

theorem length_writeItems (xs : List Datum) :
    xs.length ≤ (writeItems xs).length ∧
      ∀ x ∈ xs, (write x).length ≤ (writeItems xs).length := by
  induction xs with
  | nil =>
      simp
  | cons y ys ih =>
      rcases ih with ⟨hcount, hmem⟩
      simp only [writeItems, List.length_cons, List.length_append]
      refine ⟨by omega, ?_⟩
      intro x hx
      rcases List.mem_cons.1 hx with rfl | hx
      · omega
      · have hshort := hmem x hx
        omega

theorem length_writeMembers (ms : List (String × Datum)) :
    ms.length ≤ (writeMembers ms).length ∧
      ∀ m ∈ ms, (write m.2).length ≤ (writeMembers ms).length := by
  induction ms with
  | nil =>
      simp
  | cons m' ms ih =>
      rcases ih with ⟨hcount, hmem⟩
      simp only [writeMembers, List.length_cons, List.length_append]
      refine ⟨by omega, ?_⟩
      intro m hm
      rcases List.mem_cons.1 hm with rfl | hm
      · omega
      · have hshort := hmem m hm
        omega

/-- In a list whose text has at most `bound + 1` characters, each item has at most `bound`, and
there are fewer than `bound` items behind the first. -/
theorem length_write_list {x : Datum} {xs : List Datum} {bound : Nat}
    (h : (write (.list (x :: xs))).length ≤ bound + 1) :
    xs.length < bound ∧ ∀ y ∈ x :: xs, (write y).length ≤ bound := by
  rcases length_writeItems xs with ⟨hcount, hmem⟩
  simp only [write, List.length_cons, List.length_append, List.length_nil] at h
  refine ⟨by omega, ?_⟩
  intro y hy
  rcases List.mem_cons.1 hy with rfl | hy
  · omega
  · have hshort := hmem y hy
    omega

theorem length_write_table {m : String × Datum} {ms : List (String × Datum)} {bound : Nat}
    (h : (write (.table (m :: ms))).length ≤ bound + 1) :
    ms.length < bound ∧ ∀ m' ∈ m :: ms, (write m'.2).length ≤ bound := by
  rcases length_writeMembers ms with ⟨hcount, hmem⟩
  simp only [write, List.length_cons, List.length_append, List.length_nil] at h
  refine ⟨by omega, ?_⟩
  intro m' hm'
  rcases List.mem_cons.1 hm' with rfl | hm'
  · omega
  · have hshort := hmem m' hm'
    omega

theorem exists_eq_succ_of_length_write {d : Datum} (hd : d.Plain) {bound : Nat}
    (h : (write d).length ≤ bound) : ∃ b, bound = b + 1 := by
  rcases exists_write_eq_cons hd with ⟨c, cs, hchars, _⟩
  rw [hchars, List.length_cons] at h
  exact Nat.exists_eq_add_one.2 (by omega)

/-! ## Values -/

section Nested

variable {bound : Nat} {rest : List Char}

theorem readValue_list {x : Datum} {xs : List Datum} (hx : x.Plain)
    (hitem : ∀ y ∈ x :: xs, ∀ rest, Closes rest →
      readValue bound (write y ++ rest) = some (y, rest))
    (hbound : xs.length < bound) :
    readValue (bound + 1) (write (.list (x :: xs)) ++ rest) = some (.list (x :: xs), rest) := by
  have hread : readItems (readValue bound) bound (write x ++ (writeItems xs ++ ']' :: rest)) =
      some (x :: xs, rest) := readItems_write hitem hbound
  have hfirst := skipSpaces_write hx (writeItems xs ++ ']' :: rest)
  simp only [write, List.cons_append, List.append_assoc, List.nil_append]
  rw [readValue, skipSpaces_cons (by decide)]
  simp only [hfirst]
  split
  · -- The first item is no closing bracket.
    rename_i hclose
    rcases exists_write_eq_cons hx with ⟨c, cs, hchars, _, hne⟩
    rw [hchars] at hclose
    exact absurd (List.cons.inj hclose).1 hne
  · rw [hread]

theorem readValue_table {m : String × Datum} {ms : List (String × Datum)}
    (hitem : ∀ m' ∈ m :: ms, ∀ rest, Closes rest →
      readValue bound (write m'.2 ++ rest) = some (m'.2, rest))
    (hbound : ms.length < bound) :
    readValue (bound + 1) (write (.table (m :: ms)) ++ rest) = some (.table (m :: ms), rest) := by
  have hread : readMembers (readValue bound) bound
      (writeText m.1 ++ ':' :: (write m.2 ++ (writeMembers ms ++ '\x7d' :: rest))) =
        some ((m :: ms).map fun m => (some m.1, m.2), rest) := readMembers_write hitem hbound
  -- A table that is not empty goes on with the quote of its first name.
  have hfirst : skipSpaces (writeText m.1 ++
      ':' :: (write m.2 ++ (writeMembers ms ++ '\x7d' :: rest))) =
        writeText m.1 ++ ':' :: (write m.2 ++ (writeMembers ms ++ '\x7d' :: rest)) :=
    skipSpaces_cons (by decide) _
  simp only [write, List.cons_append, List.append_assoc, List.nil_append]
  rw [readValue, skipSpaces_cons (by decide)]
  simp only [hfirst]
  split
  · rename_i hclose
    exact absurd (List.cons.inj hclose).1 (by decide)
  · rw [hread]
    simp only [tableDatum_map]

end Nested

/-- If `d` is plain and `bound` is at least the length of `write d`, then `readValue bound` reads
`d` and stops in front of `rest`. -/
theorem readValue_write {d : Datum} (hd : d.Plain) {bound : Nat} {rest : List Char}
    (hbound : (write d).length ≤ bound) (hrest : Closes rest) :
    readValue bound (write d ++ rest) = some (d, rest) := by
  induction hd generalizing bound rest with
  | null =>
      rcases exists_eq_succ_of_length_write .null hbound with ⟨b, rfl⟩
      rw [write, readValue]
      rfl
  | bool v =>
      rcases exists_eq_succ_of_length_write (.bool v) hbound with ⟨b, rfl⟩
      cases v with
      | false =>
          rw [write, readValue]
          rfl
      | true =>
          rw [write, readValue]
          rfl
  | integer n =>
      rcases exists_eq_succ_of_length_write (.integer n) hbound with ⟨b, rfl⟩
      rcases exists_writeInteger_eq_cons n with ⟨c, cs, hchars, hc⟩
      have hread := readNumber_writeInteger n hrest
      rw [hchars] at hread
      rw [write, hchars, List.cons_append, readValue_number hc]
      exact hread
  | text s =>
      rcases exists_eq_succ_of_length_write (.text s) hbound with ⟨b, rfl⟩
      have hread := readText_written s rest
      rw [write, writeText, List.append_assoc, List.append_assoc, List.singleton_append,
        List.singleton_append, readValue, skipSpaces_cons (by decide)]
      simp only [hread]
      rfl
  | unpaired =>
      rcases exists_eq_succ_of_length_write .unpaired hbound with ⟨b, rfl⟩
      have hread : readText ('\\' :: 'u' :: 'd' :: '8' :: '0' :: '0' :: '\x22' :: rest) =
          some (none, rest) := by
        have hunit : numeral? 16 ['d', '8', '0', '0'] = some 0xd800 := by
          decide
        simp [readText, readParts, hunit, joinParts, isHighSurrogate]
      simp only [write, List.cons_append, List.nil_append]
      rw [readValue, skipSpaces_cons (by decide)]
      simp only [hread]
      rfl
  | @list items hitems ih =>
      rcases exists_eq_succ_of_length_write (.list hitems) hbound with ⟨b, rfl⟩
      cases items with
      | nil =>
          rw [write, readValue]
          rfl
      | cons x xs =>
          rcases length_write_list hbound with ⟨hcount, hshort⟩
          refine readValue_list (hitems x List.mem_cons_self) ?_ hcount
          intro y hy rest hrest
          exact ih y hy (hshort y hy) hrest
  | @table members hmembers ih =>
      rcases exists_eq_succ_of_length_write (.table hmembers) hbound with ⟨b, rfl⟩
      cases members with
      | nil =>
          rw [write, readValue]
          rfl
      | cons m ms =>
          rcases length_write_table hbound with ⟨hcount, hshort⟩
          refine readValue_table ?_ hcount
          intro m' hm' rest hrest
          exact ih m' hm' (hshort m' hm') hrest

/-- For plain `d`, `read? (render d)` is `d`. -/
theorem read?_render {d : Datum} (hd : d.Plain) : read? (render d) = some d := by
  have hclosed : Closes [] := by
    intro c hc
    cases hc
  have hread := readValue_write hd (Nat.le_succ (write d).length) hclosed
  rw [List.append_nil] at hread
  simp [read?, render, hread, skipSpaces]

end Json
end ChainParams
