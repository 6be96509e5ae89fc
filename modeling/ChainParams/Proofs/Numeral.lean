import Mathlib.Data.Nat.Digits.Defs
import ChainParams.Proofs.HexText

/-!
# Numeral — numbers and their digits

The number `positional radix ds` is `Nat.ofDigits` of the digits in the other order
(`positional_eq_ofDigits`), so a list of digits below the radix is known by its length and its
number (`positional_inj`). The writer gives digits that denote the number that was written, whatever
the padding (`exists_digits_paddedDigits`), so the reader takes it back (`numeral?_paddedDigits`),
and a text of digits is written again from its number in lower case (`paddedDigits_positional`).
-/

namespace ChainParams
namespace Text

variable {radix : Nat}

/-! ## The number of a list of digits -/

@[simp] theorem positional_nil : positional radix [] = 0 := rfl

theorem positional_concat (ds : List Nat) (d : Nat) :
    positional radix (ds ++ [d]) = radix * positional radix ds + d := by
  simp [positional]

/-- The digits of `Nat.ofDigits` begin with the lowest one, those of `positional` end with it. -/
theorem positional_eq_ofDigits (ds : List Nat) :
    positional radix ds = Nat.ofDigits radix ds.reverse := by
  rw [Nat.ofDigits_eq_foldr, List.foldr_reverse, positional]
  simp only [Nat.cast_id, Nat.add_comm]

theorem positional_append (ds es : List Nat) :
    positional radix (ds ++ es) =
      positional radix ds * radix ^ es.length + positional radix es := by
  simp only [positional_eq_ofDigits]
  rw [List.reverse_append, Nat.ofDigits_append, List.length_reverse, Nat.add_comm, Nat.mul_comm]

theorem positional_cons (d : Nat) (ds : List Nat) :
    positional radix (d :: ds) = d * radix ^ ds.length + positional radix ds := by
  have hfirst : positional radix [d] = d := by
    rw [positional_eq_ofDigits, List.reverse_singleton, Nat.ofDigits_singleton]
  rw [← List.singleton_append, positional_append, hfirst]

theorem positional_zeros (k : Nat) (ds : List Nat) :
    positional radix (List.replicate k 0 ++ ds) = positional radix ds := by
  simp only [positional_eq_ofDigits]
  rw [List.reverse_append, List.reverse_replicate, Nat.ofDigits_append_replicate_zero]

theorem positional_lt {ds : List Nat} (hradix : 1 < radix) (h : ∀ d ∈ ds, d < radix) :
    positional radix ds < radix ^ ds.length := by
  rw [positional_eq_ofDigits, ← List.length_reverse]
  refine Nat.ofDigits_lt_base_pow_length hradix ?_
  intro d hd
  exact h d (List.mem_reverse.1 hd)

/-- Among lists of one length with digits below `radix`, `positional radix` is injective. -/
theorem positional_inj {ds es : List Nat} (hradix : 1 < radix) (hds : ∀ d ∈ ds, d < radix)
    (hes : ∀ e ∈ es, e < radix) (hlength : ds.length = es.length)
    (h : positional radix ds = positional radix es) : ds = es := by
  rw [positional_eq_ofDigits, positional_eq_ofDigits] at h
  apply List.reverse_inj.1
  refine Nat.ofDigits_inj_of_len_eq hradix ?_ ?_ ?_ h
  · rw [List.length_reverse, List.length_reverse, hlength]
  · intro d hd
    exact hds d (List.mem_reverse.1 hd)
  · intro e he
    exact hes e (List.mem_reverse.1 he)

/-! ## Digits as characters -/

theorem digitValue?_digitChar {d : Nat} (hradix : radix ≤ 16) (hd : d < radix) :
    digitValue? radix (Nat.digitChar d) = some d := by
  have hvalue := (hexValue?_digitChar d (Nat.lt_of_lt_of_le hd hradix)).1
  simp [digitValue?, hvalue, hd]

theorem isDigitOf_ten_iff (c : Char) : isDigitOf 10 c = true ↔ '0' ≤ c ∧ c ≤ '9' := by
  constructor
  · intro h
    rcases Option.isSome_iff_exists.1 h with ⟨d, hd⟩
    rcases Option.filter_eq_some_iff.1 hd with ⟨hvalue, hlt⟩
    rw [decide_eq_true_eq] at hlt
    unfold hexValue? at hvalue
    split at hvalue
    · assumption
    · -- Letters are worth ten and more.
      split at hvalue
      · rename_i hletter
        have hfirst : 97 ≤ c.toNat := hletter.1
        cases hvalue
        omega
      · split at hvalue
        · rename_i hletter
          have hfirst : 65 ≤ c.toNat := hletter.1
          cases hvalue
          omega
        · cases hvalue
  · intro h
    have hlast : c.toNat ≤ 57 := h.2
    have hvalue : hexValue? c = some (c.toNat - 48) := if_pos h
    have hlt : c.toNat - 48 < 10 := by omega
    rw [isDigitOf, digitValue?, hvalue, Option.filter_some, if_pos (by simpa using hlt),
      Option.isSome_some]

theorem digitValue?_lt {c : Char} {d : Nat} (h : digitValue? radix c = some d) : d < radix := by
  simpa using (Option.filter_eq_some_iff.1 h).2

theorem isDigitOf_digitChar {d : Nat} (hradix : radix ≤ 16) (hd : d < radix) :
    isDigitOf radix (Nat.digitChar d) = true := by
  rw [isDigitOf, digitValue?_digitChar hradix hd, Option.isSome_some]

theorem digitValues?_map_digitChar {ds : List Nat} (hradix : radix ≤ 16)
    (h : ∀ d ∈ ds, d < radix) : digitValues? radix (ds.map Nat.digitChar) = some ds := by
  induction ds with
  | nil =>
      rfl
  | cons d ds ih =>
      have hfirst := digitValue?_digitChar hradix (h d List.mem_cons_self)
      have hrest := ih fun d hd => h d (List.mem_cons_of_mem _ hd)
      rw [digitValues?] at hrest ⊢
      simp [hfirst, hrest]

theorem digitValues?_cons_eq_some_iff {c : Char} {cs : List Char} {ds : List Nat} :
    digitValues? radix (c :: cs) = some ds ↔
      ∃ d rest, digitValue? radix c = some d ∧ digitValues? radix cs = some rest ∧
        ds = d :: rest := by
  simp only [digitValues?, List.mapM_cons, Option.pure_def, Option.bind_eq_bind,
    Option.bind_eq_some_iff, Option.some.injEq]
  constructor
  · rintro ⟨d, hd, rest, hrest, rfl⟩
    exact ⟨d, rest, hd, hrest, rfl⟩
  · rintro ⟨d, rest, hd, hrest, rfl⟩
    exact ⟨d, hd, rest, hrest, rfl⟩

theorem lt_of_digitValues? {cs : List Char} {ds : List Nat}
    (h : digitValues? radix cs = some ds) : ∀ d ∈ ds, d < radix := by
  induction cs generalizing ds with
  | nil =>
      cases h
      simp
  | cons c cs ih =>
      rcases digitValues?_cons_eq_some_iff.1 h with ⟨d, rest, hd, hrest, rfl⟩
      intro e he
      rcases List.mem_cons.1 he with rfl | he
      · exact digitValue?_lt hd
      · exact ih hrest e he

theorem isDigitOf_of_digitValues? {cs : List Char} {ds : List Nat}
    (h : digitValues? radix cs = some ds) : ∀ c ∈ cs, isDigitOf radix c = true := by
  induction cs generalizing ds with
  | nil =>
      simp
  | cons c cs ih =>
      rcases digitValues?_cons_eq_some_iff.1 h with ⟨d, rest, hd, hrest, _⟩
      rw [List.forall_mem_cons]
      exact ⟨by rw [isDigitOf, hd, Option.isSome_some], ih hrest⟩

theorem digitValues?_append_eq_some_iff {front rest : List Char} {ds : List Nat} :
    digitValues? radix (front ++ rest) = some ds ↔
      ∃ es fs, digitValues? radix front = some es ∧ digitValues? radix rest = some fs ∧
        ds = es ++ fs := by
  simp only [digitValues?, List.mapM_append, Option.pure_def, Option.bind_eq_bind,
    Option.bind_eq_some_iff, Option.some.injEq]
  constructor
  · rintro ⟨es, hes, fs, hfs, rfl⟩
    exact ⟨es, fs, hes, hfs, rfl⟩
  · rintro ⟨es, fs, hes, hfs, rfl⟩
    exact ⟨es, hes, fs, hfs, rfl⟩

/-! ## The number of a text -/

theorem numeral?_eq_some_iff {cs : List Char} {n : Nat} :
    numeral? radix cs = some n ↔ ∃ ds, digitValues? radix cs = some ds ∧ positional radix ds = n :=
  Option.map_eq_some_iff

@[simp] theorem numeral?_nil : numeral? radix [] = some 0 := rfl

theorem isDigitOf_of_numeral? {cs : List Char} {n : Nat} (h : numeral? radix cs = some n) :
    ∀ c ∈ cs, isDigitOf radix c = true := by
  rcases numeral?_eq_some_iff.1 h with ⟨ds, hds, _⟩
  exact isDigitOf_of_digitValues? hds

/-- A digit `c` behind `cs` takes the number from `n` to `radix * n + d`, where `d` is the value of
`c`. -/
theorem numeral?_concat {cs : List Char} {c : Char} {n d : Nat} (h : numeral? radix cs = some n)
    (hc : digitValue? radix c = some d) : numeral? radix (cs ++ [c]) = some (radix * n + d) := by
  rcases numeral?_eq_some_iff.1 h with ⟨ds, hds, rfl⟩
  have hlast : digitValues? radix [c] = some [d] :=
    digitValues?_cons_eq_some_iff.2 ⟨d, [], hc, rfl, rfl⟩
  have hall : digitValues? radix (cs ++ [c]) = some (ds ++ [d]) :=
    digitValues?_append_eq_some_iff.2 ⟨ds, [d], hds, hlast, rfl⟩
  exact numeral?_eq_some_iff.2 ⟨ds ++ [d], hall, positional_concat ds d⟩

/-- The number `m` of `front` is at most the number `n` of `front ++ rest`. -/
theorem numeral?_le_append (hradix : 0 < radix) {front rest : List Char} {m n : Nat}
    (hfront : numeral? radix front = some m) (h : numeral? radix (front ++ rest) = some n) :
    m ≤ n := by
  rcases numeral?_eq_some_iff.1 h with ⟨ds, hds, rfl⟩
  rcases digitValues?_append_eq_some_iff.1 hds with ⟨es, fs, hes, _, rfl⟩
  have hm : m = positional radix es := by
    rw [numeral?_eq_some_iff.2 ⟨es, hes, rfl⟩] at hfront
    exact (Option.some.inj hfront).symm
  calc
    m = positional radix es := hm
    _ = positional radix es * 1 := (Nat.mul_one _).symm
    _ ≤ positional radix es * radix ^ fs.length :=
          Nat.mul_le_mul_left _ (Nat.one_le_pow _ _ hradix)
    _ ≤ positional radix es * radix ^ fs.length + positional radix fs := Nat.le_add_right _ _
    _ = positional radix (es ++ fs) := (positional_append es fs).symm

/-! ## Printed numbers -/

theorem exists_digits_toDigits (hradix : 1 < radix) (n : Nat) :
    ∃ ds, Nat.toDigits radix n = ds.map Nat.digitChar ∧ (∀ d ∈ ds, d < radix) ∧
      positional radix ds = n := by
  induction n using Nat.strongRecOn with
  | _ n ih =>
      rcases Nat.lt_or_ge n radix with hsmall | hlarge
      · refine ⟨[n], Nat.toDigits_of_lt_base hsmall, by simpa using hsmall, ?_⟩
        simp [positional]
      · have hpos : 0 < n := by omega
        rcases ih (n / radix) (Nat.div_lt_self hpos hradix) with ⟨ds, hchars, hlt, hvalue⟩
        refine ⟨ds ++ [n % radix], ?_, ?_, ?_⟩
        · rw [Nat.toDigits_of_base_le hradix hlarge, hchars, List.map_append, List.map_singleton]
        · intro d hd
          rcases List.mem_append.1 hd with hd | hd
          · exact hlt d hd
          · rw [List.mem_singleton.1 hd]
            exact Nat.mod_lt _ (by omega)
        · rw [positional_concat, hvalue]
          exact Nat.div_add_mod n radix

/-- The characters of `paddedDigits radix width n` are those of digits below `radix` which denote
`n`. -/
theorem exists_digits_paddedDigits (hradix : 1 < radix) (width n : Nat) :
    ∃ ds, paddedDigits radix width n = ds.map Nat.digitChar ∧ (∀ d ∈ ds, d < radix) ∧
      positional radix ds = n := by
  rcases exists_digits_toDigits hradix n with ⟨ds, hchars, hlt, hvalue⟩
  refine ⟨List.replicate (width - ds.length) 0 ++ ds, ?_, ?_, ?_⟩
  · rw [paddedDigits, hchars, List.leftpad, List.length_map, List.map_append, List.map_replicate]
    rfl
  · intro d hd
    rcases List.mem_append.1 hd with hd | hd
    · rw [List.eq_of_mem_replicate hd]
      omega
    · exact hlt d hd
  · rw [positional_zeros, hvalue]

theorem numeral?_paddedDigits (hradix : 1 < radix) (hradix' : radix ≤ 16) (width n : Nat) :
    numeral? radix (paddedDigits radix width n) = some n := by
  rcases exists_digits_paddedDigits hradix width n with ⟨ds, hchars, hlt, hvalue⟩
  rw [hchars]
  exact numeral?_eq_some_iff.2 ⟨ds, digitValues?_map_digitChar hradix' hlt, hvalue⟩

/-- Behind the digits of `n`, `k` zeros multiply it by `radix ^ k`. -/
theorem numeral?_paddedDigits_zeros (hradix : 1 < radix) (hradix' : radix ≤ 16) (width n k : Nat) :
    numeral? radix (paddedDigits radix width n ++ List.replicate k '0') =
      some (n * radix ^ k) := by
  rcases exists_digits_paddedDigits hradix width n with ⟨ds, hchars, hlt, hvalue⟩
  have hall : ∀ d ∈ ds ++ List.replicate k 0, d < radix := by
    intro d hd
    rcases List.mem_append.1 hd with hd | hd
    · exact hlt d hd
    · rw [List.eq_of_mem_replicate hd]
      omega
  have htext : ds.map Nat.digitChar ++ List.replicate k '0' =
      (ds ++ List.replicate k 0).map Nat.digitChar := by
    rw [List.map_append, List.map_replicate]
    rfl
  have hzeros : positional radix (List.replicate k 0) = 0 := by
    simpa using positional_zeros k []
  rw [numeral?, hchars, htext, digitValues?_map_digitChar hradix' hall, Option.map_some,
    positional_append, hvalue, hzeros, List.length_replicate, Nat.add_zero]

@[simp] theorem paddedDigits_zero_width (n : Nat) :
    paddedDigits radix 0 n = Nat.toDigits radix n := by
  simp [paddedDigits, List.leftpad]

theorem numeral?_toDigits (hradix : 1 < radix) (hradix' : radix ≤ 16) (n : Nat) :
    numeral? radix (Nat.toDigits radix n) = some n := by
  simpa using numeral?_paddedDigits hradix hradix' 0 n

/-- If `Nat.toDigits radix n` begins with `'0'`, then there is no second digit. -/
theorem toDigits_ne_zero_cons (hradix : 1 < radix) (hradix' : radix ≤ 16) (n : Nat) (c : Char)
    (cs : List Char) : Nat.toDigits radix n ≠ '0' :: c :: cs := by
  induction n using Nat.strongRecOn generalizing c cs with
  | _ n ih =>
      rcases Nat.lt_or_ge n radix with hsmall | hlarge
      · rw [Nat.toDigits_of_lt_base hsmall]
        intro h
        cases (List.cons.inj h).2
      · have hquotient : 0 < n / radix := Nat.div_pos hlarge (by omega)
        rw [Nat.toDigits_of_base_le hradix hlarge]
        intro h
        cases hfront : Nat.toDigits radix (n / radix) with
        | nil =>
            exact Nat.toDigits_ne_nil hfront
        | cons d ds =>
            rw [hfront, List.cons_append] at h
            rcases List.cons.inj h with ⟨rfl, _⟩
            cases ds with
            | nil =>
                -- A front of one zero denotes zero, but the number has a second digit.
                have hvalue := numeral?_toDigits hradix hradix' (n / radix)
                have hdigit : digitValue? radix '0' = some 0 :=
                  digitValue?_digitChar hradix' (Nat.zero_lt_of_lt hradix)
                have hzero : numeral? radix ['0'] = some 0 :=
                  numeral?_concat numeral?_nil hdigit
                rw [hfront, hzero] at hvalue
                exact absurd (Option.some.inj hvalue) (Nat.ne_of_lt hquotient)
            | cons e es =>
                exact ih (n / radix) (Nat.div_lt_self (by omega) hradix) e es hfront

theorem isDigitOf_of_mem_paddedDigits (hradix : 1 < radix) (hradix' : radix ≤ 16) (width n : Nat) :
    ∀ c ∈ paddedDigits radix width n, isDigitOf radix c = true := by
  rcases exists_digits_paddedDigits hradix width n with ⟨ds, hchars, hlt, _⟩
  rw [hchars]
  intro c hc
  rcases List.mem_map.1 hc with ⟨d, hd, rfl⟩
  exact isDigitOf_digitChar hradix' (hlt d hd)

/-- The list `paddedDigits radix width n` is not empty, and its head is a digit of `radix`. -/
theorem exists_paddedDigits_eq_cons (hradix : 1 < radix) (hradix' : radix ≤ 16) (width n : Nat) :
    ∃ c cs, paddedDigits radix width n = c :: cs ∧ isDigitOf radix c = true := by
  have hne : paddedDigits radix width n ≠ [] := by
    simp [paddedDigits, List.leftpad, Nat.toDigits_ne_nil]
  rcases List.exists_cons_of_ne_nil hne with ⟨c, cs, hchars⟩
  refine ⟨c, cs, hchars, isDigitOf_of_mem_paddedDigits hradix hradix' width n c ?_⟩
  rw [hchars]
  exact List.mem_cons_self

theorem length_paddedDigits {width n : Nat} (hradix : 1 < radix) (hwidth : 0 < width)
    (hn : n < radix ^ width) : (paddedDigits radix width n).length = width := by
  have hlength := (Nat.length_toDigits_le_iff hradix hwidth).2 hn
  rw [paddedDigits, List.length_leftpad]
  omega

/-- Digits `ds` below `radix` are written again from `positional radix ds`, padded to
`ds.length`. -/
theorem paddedDigits_positional {ds : List Nat} (hradix : 1 < radix) (hds : ds ≠ [])
    (hlt : ∀ d ∈ ds, d < radix) :
    paddedDigits radix ds.length (positional radix ds) = ds.map Nat.digitChar := by
  have hlength := length_paddedDigits hradix (List.length_pos_iff.2 hds) (positional_lt hradix hlt)
  rcases exists_digits_paddedDigits hradix ds.length (positional radix ds) with
    ⟨es, hchars, hes, hvalue⟩
  rw [hchars, List.length_map] at hlength
  rw [hchars, positional_inj hradix hes hlt hlength hvalue]

/-! ## Runs of characters -/

/-- The list `cs` is empty, or `p` fails for its first character. -/
def Stops (p : Char → Bool) (cs : List Char) : Prop :=
  ∀ c ∈ cs.head?, p c = false

instance (p : Char → Bool) (cs : List Char) : Decidable (Stops p cs) :=
  cs.head?.decidableForallMem

section Runs

variable {p : Char → Bool} {cs rest : List Char}

theorem stops_cons {c : Char} (h : p c = false) (cs : List Char) : Stops p (c :: cs) := by
  intro d hd
  rw [List.head?_cons, Option.mem_some_iff] at hd
  exact hd ▸ h

theorem takeWhile_of_stops (h : Stops p cs) : cs.takeWhile p = [] := by
  cases cs with
  | nil =>
      rfl
  | cons c cs =>
      exact List.takeWhile_cons_of_neg (by simp [h c rfl])

theorem dropWhile_of_stops (h : Stops p cs) : cs.dropWhile p = cs := by
  cases cs with
  | nil =>
      rfl
  | cons c cs =>
      exact List.dropWhile_cons_of_neg (by simp [h c rfl])

/-- If `p` holds throughout `cs` and stops at `rest`, then `takeWhile p` cuts off exactly `cs`. -/
theorem takeWhile_append_of_stops (h : ∀ c ∈ cs, p c = true) (hrest : Stops p rest) :
    (cs ++ rest).takeWhile p = cs := by
  rw [List.takeWhile_append_of_pos h, takeWhile_of_stops hrest, List.append_nil]

theorem dropWhile_append_of_stops (h : ∀ c ∈ cs, p c = true) (hrest : Stops p rest) :
    (cs ++ rest).dropWhile p = rest := by
  rw [List.dropWhile_append_of_pos h, dropWhile_of_stops hrest]

/-- If `p` holds throughout `cs` and `ds` and stops at what follows them, then equal texts are cut
at the same place. -/
theorem append_inj_of_stops {ds rest' : List Char} (hcs : ∀ c ∈ cs, p c = true)
    (hds : ∀ c ∈ ds, p c = true) (hrest : Stops p rest) (hrest' : Stops p rest')
    (h : cs ++ rest = ds ++ rest') : cs = ds ∧ rest = rest' := by
  constructor
  · rw [← takeWhile_append_of_stops hcs hrest, h, takeWhile_append_of_stops hds hrest']
  · rw [← dropWhile_append_of_stops hcs hrest, h, dropWhile_append_of_stops hds hrest']

end Runs

end Text
end ChainParams
