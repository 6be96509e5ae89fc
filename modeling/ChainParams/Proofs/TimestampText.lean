import Mathlib.Data.List.TakeWhile
import ChainParams.Time.Rfc3339
import ChainParams.Proofs.CalendarDays
import ChainParams.Proofs.Numeral

/-!
# TimestampText — timestamps through their text

A rendered timestamp is read again (`Rfc3339.read?_render`), also in a leap second and in a year
that needs a sign. The reader goes over the parts of the text one by one: each part that the writer
makes is taken off as a whole and gives its number, since what follows cannot belong to it.
-/

namespace ChainParams

open Text

/-! ## Scans -/

namespace Text.Scan

/-- If `p` reads `a` from `cs` and leaves `rest`, then `p >>= f` goes on as `f a` on `rest`. -/
theorem bind_of_eq_some {α β : Type} {p : Scan α} {f : α → Scan β} {cs rest : List Char} {a : α}
    (h : p cs = some (a, rest)) : (p >>= f) cs = f a rest := by
  change (p cs >>= fun read => f read.1 read.2) = f a rest
  rw [h]
  rfl

theorem bind_of_eq_none {α β : Type} {p : Scan α} (f : α → Scan β) {cs : List Char}
    (h : p cs = none) : (p >>= f) cs = none := by
  change (p cs >>= fun read => f read.1 read.2) = none
  rw [h]
  rfl

theorem run_of_stops {p : Char → Bool} {cs : List Char} (h : Stops p cs) :
    run p cs = some ([], cs) := by
  rw [run, takeWhile_of_stops h, dropWhile_of_stops h]

theorem run_append {p : Char → Bool} {cs rest : List Char} (h : ∀ c ∈ cs, p c = true)
    (hrest : Stops p rest) : run p (cs ++ rest) = some (cs, rest) := by
  rw [run, takeWhile_append_of_stops h hrest, dropWhile_append_of_stops h hrest]

/-- If `p` holds throughout `cs`, then `runUpTo cs.length p` stops behind `cs`, whatever comes
next. -/
theorem runUpTo_append {p : Char → Bool} {cs : List Char} (h : ∀ c ∈ cs, p c = true)
    (rest : List Char) : runUpTo cs.length p (cs ++ rest) = some (cs, rest) := by
  have htaken : cs.takeWhile p = cs :=
    List.takeWhile_eq_self_iff.2 h
  simp only [runUpTo, List.take_left, htaken, List.drop_left]

end Text.Scan

namespace Rfc3339

/-! ## Digits and blanks -/

theorem isBlank_of_isDigitOf {c : Char} (h : isDigitOf 10 c = true) : isBlank c = false := by
  have hbounds : 48 ≤ c.toNat ∧ c.toNat ≤ 57 := (isDigitOf_ten_iff c).1 h
  simp [isBlank]
  omega

theorem isDigitOf_decimal (width n : Nat) :
    ∀ c ∈ paddedDigits 10 width n, isDigitOf 10 c = true :=
  isDigitOf_of_mem_paddedDigits (by decide) (by decide) width n

theorem exists_decimal_eq_cons (width n : Nat) :
    ∃ c cs, paddedDigits 10 width n = c :: cs ∧ isDigitOf 10 c = true :=
  exists_paddedDigits_eq_cons (by decide) (by decide) width n

theorem stops_blank_decimal (width n : Nat) (rest : List Char) :
    Stops isBlank (paddedDigits 10 width n ++ rest) := by
  rcases exists_decimal_eq_cons width n with ⟨c, cs, hchars, hc⟩
  rw [hchars]
  exact stops_cons (isBlank_of_isDigitOf hc) _

/-! ## Parts of a text -/

theorem blanks_of_stops {cs : List Char} (h : Stops isBlank cs) : blanks cs = some ((), cs) := by
  rw [blanks, Scan.bind_of_eq_some (Scan.run_of_stops h)]
  rfl

theorem char_cons (c : Char) (cs : List Char) : Scan.char c (c :: cs) = some ((), cs) := by
  have hread : Scan.satisfy (· == c) (c :: cs) = some (c, cs) := by
    simp [Scan.satisfy]
  rw [Scan.char, Scan.bind_of_eq_some hread]
  rfl

theorem char_of_stops {c : Char} {cs : List Char} (h : Stops (· == c) cs) :
    Scan.char c cs = none := by
  have hread : Scan.satisfy (· == c) cs = none := by
    cases cs with
    | nil =>
        rfl
    | cons d cs =>
        simpa [Scan.satisfy] using h d rfl
  exact Scan.bind_of_eq_none _ hread

theorem divider_cons {c : Char} {cs : List Char} (hc : isBlank c = false) (h : Stops isBlank cs) :
    divider c (c :: cs) = some ((), cs) := by
  rw [divider, Scan.bind_of_eq_some (blanks_of_stops (stops_cons hc cs)),
    Scan.bind_of_eq_some (char_cons c cs), blanks_of_stops h]

theorem number_decimal {width n : Nat} (hwidth : 0 < width) (hn : n < 10 ^ width)
    (rest : List Char) : number width (paddedDigits 10 width n ++ rest) = some (n, rest) := by
  have hlength := length_paddedDigits (show 1 < 10 by decide) hwidth hn
  have hread := Scan.runUpTo_append (isDigitOf_decimal width n) rest
  have hvalue := numeral?_paddedDigits (show 1 < 10 by decide) (by decide) width n
  rcases exists_decimal_eq_cons width n with ⟨c, cs, hchars, _⟩
  -- There are as many digits as the limit, so a digit after them is not taken.
  rw [hlength] at hread
  rw [number, Scan.bind_of_eq_some hread]
  rw [hchars] at hvalue ⊢
  simp only [hvalue]
  rfl

theorem longNumber_decimal (width n : Nat) {rest : List Char}
    (hrest : Stops (isDigitOf 10) rest) :
    longNumber (paddedDigits 10 width n ++ rest) = some (n, rest) := by
  have hread := Scan.run_append (isDigitOf_decimal width n) hrest
  have hvalue := numeral?_paddedDigits (show 1 < 10 by decide) (by decide) width n
  rcases exists_decimal_eq_cons width n with ⟨c, cs, hchars, _⟩
  rw [longNumber, Scan.bind_of_eq_some hread]
  rw [hchars] at hvalue ⊢
  simp only [hvalue]
  rfl

@[simp] theorem toList_decimalPadded (width n : Nat) :
    (decimalPadded width n).toList = paddedDigits 10 width n :=
  String.toList_ofList

theorem toList_renderYear (y : Int) :
    (CivilTime.renderYear y).toList =
      (if y < 0 then ['-'] else if y < 10000 then [] else ['+']) ++
        paddedDigits 10 4 y.natAbs := by
  simp only [CivilTime.renderYear]
  split
  · simp
  · split
    · simp
    · simp

/-- The scanner `year` takes `renderYear y` back to `y`, since a sign is written unless the year has
four digits. -/
theorem year_renderYear (y : Int) {rest : List Char} (hrest : Stops (isDigitOf 10) rest) :
    year ((CivilTime.renderYear y).toList ++ rest) = some (y, rest) := by
  have hread := longNumber_decimal 4 y.natAbs hrest
  have hpeek : ∀ c cs, Scan.peek (c :: cs) = some (c, c :: cs) := fun _ _ => rfl
  rw [toList_renderYear]
  split
  · -- After a sign any number of digits is taken.
    rename_i hnegative
    have hvalue : -(y.natAbs : Int) = y := by
      omega
    rw [List.append_assoc, List.singleton_append, year, Scan.bind_of_eq_some (hpeek '-' _)]
    simp only
    rw [Scan.bind_of_eq_some (char_cons '-' _), Scan.bind_of_eq_some hread]
    rw [Int.ofNat_eq_natCast, hvalue]
    rfl
  · rename_i hnonnegative
    have hvalue : (y.natAbs : Int) = y := by
      omega
    split
    · -- Without one the first character is a digit, and four digits are taken.
      rename_i hfour
      have hshort : number 4 (paddedDigits 10 4 y.natAbs ++ rest) = some (y.natAbs, rest) :=
        number_decimal (by decide) (by omega) rest
      rcases exists_decimal_eq_cons 4 y.natAbs with ⟨c, cs, hchars, hc⟩
      rw [hchars, List.cons_append] at hshort
      rw [hchars, List.nil_append, List.cons_append, year, Scan.bind_of_eq_some (hpeek c _)]
      split
      · exact absurd hc (by decide)
      · exact absurd hc (by decide)
      · rw [Scan.bind_of_eq_some hshort, Int.ofNat_eq_natCast, hvalue]
        rfl
    · rw [List.append_assoc, List.singleton_append, year, Scan.bind_of_eq_some (hpeek '+' _)]
      simp only
      rw [Scan.bind_of_eq_some (char_cons '+' _), Scan.bind_of_eq_some hread,
        Int.ofNat_eq_natCast, hvalue]
      rfl

/-- The text `renderYear y` begins with a digit or a sign, not with a blank. -/
theorem stops_blank_renderYear (y : Int) (rest : List Char) :
    Stops isBlank ((CivilTime.renderYear y).toList ++ rest) := by
  rw [toList_renderYear, List.append_assoc]
  split
  · exact stops_cons (by decide) _
  · split
    · exact stops_blank_decimal 4 y.natAbs rest
    · exact stops_cons (by decide) _

/-- The text `renderFraction nanos` is a point and `width ≤ 9` digits of some `n`, with
`n * 10 ^ (9 - width) = nanos`. -/
theorem toList_renderFraction {nanos : Nat} (hzero : nanos ≠ 0) (hnanos : nanos < nanosPerSecond) :
    ∃ width n, (CivilTime.renderFraction nanos).toList = '.' :: paddedDigits 10 width n ∧
      0 < width ∧ width ≤ 9 ∧ n < 10 ^ width ∧ n * 10 ^ (9 - width) = nanos := by
  rw [nanosPerSecond] at hnanos
  rw [CivilTime.renderFraction, if_neg hzero]
  split
  · exact ⟨3, nanos / 1000000, by simp, by decide, by decide, by omega, by omega⟩
  · split
    · exact ⟨6, nanos / 1000, by simp, by decide, by decide, by omega, by omega⟩
    · exact ⟨9, nanos, by simp, by decide, by decide, by omega, by omega⟩

theorem fraction_renderFraction {nanos : Nat} (hnanos : nanos < nanosPerSecond)
    {rest : List Char} (hpoint : Stops (· == '.') rest) (hdigit : Stops (isDigitOf 10) rest) :
    fraction ((CivilTime.renderFraction nanos).toList ++ rest) = some (nanos, rest) := by
  by_cases hzero : nanos = 0
  · have htext : (CivilTime.renderFraction nanos).toList = [] := by
      simp [CivilTime.renderFraction, hzero]
    have hnone : Scan.maybe (Scan.char '.') rest = some (none, rest) := by
      rw [Scan.maybe, char_of_stops hpoint]
    rw [htext, List.nil_append, fraction, Scan.bind_of_eq_some hnone, hzero]
    rfl
  · rcases toList_renderFraction hzero hnanos with ⟨width, n, htext, hpos, hnine, hn, hvalue⟩
    have hlength := length_paddedDigits (show 1 < 10 by decide) hpos hn
    -- The reader fills up to nine digits with the zeros that the writer left out.
    have hpadded : (paddedDigits 10 width n ++ List.replicate 9 '0').take 9 =
        paddedDigits 10 width n ++ List.replicate (9 - width) '0' := by
      rw [List.take_append, hlength, List.take_of_length_le (by omega), List.take_replicate]
      congr
      omega
    have hnumber :=
      numeral?_paddedDigits_zeros (show 1 < 10 by decide) (by decide) width n (9 - width)
    rw [← hpadded, hvalue] at hnumber
    have hsome : Scan.maybe (Scan.char '.') ('.' :: (paddedDigits 10 width n ++ rest)) =
        some (some (), paddedDigits 10 width n ++ rest) := by
      rw [Scan.maybe, char_cons]
    rw [htext, List.cons_append, fraction, Scan.bind_of_eq_some hsome]
    simp only
    rw [Scan.bind_of_eq_some (Scan.run_append (isDigitOf_decimal width n) hdigit)]
    rcases exists_decimal_eq_cons width n with ⟨c, cs, hchars, _⟩
    rw [hchars] at hnumber ⊢
    simp only [hnumber]
    rfl

/-! ## Timestamps -/

theorem toList_render (t : CivilTime) :
    (t.render "T").toList =
      (CivilTime.renderYear t.date.year).toList ++ '-' ::
        (paddedDigits 10 2 t.date.month ++ '-' :: (paddedDigits 10 2 t.date.day ++ 'T' ::
          (paddedDigits 10 2 t.hour ++ ':' :: (paddedDigits 10 2 t.minute ++ ':' ::
            (paddedDigits 10 2 t.second ++ (CivilTime.renderFraction t.fraction).toList))))) := by
  simp [CivilTime.render]

/-- If `t.isValid`, then the scanner `civilTime` reads `t.render` and `Z` as `t` at an offset of
zero. -/
theorem civilTime_render {t : CivilTime} (h : t.isValid = true) :
    civilTime ((t.render "T").toList ++ ['Z']) = some ((t, 0), []) := by
  rcases decide_eq_true_iff.1 h with ⟨_, hdate, hhour, hminute, hsecond, hfraction⟩
  rcases CivilDate.isValid_iff.1 hdate with ⟨_, hmonth, _, hday⟩
  have hlength := CivilDate.daysInMonth_le t.date.year t.date.month
  have hnumber : ∀ n, n < 10 ^ 2 → ∀ rest,
      number 2 (paddedDigits 10 2 n ++ rest) = some (n, rest) := by
    intro n hn rest
    exact number_decimal (by decide) hn rest
  have hdivider : ∀ c, isBlank c = false → ∀ n rest,
      divider c (c :: (paddedDigits 10 2 n ++ rest)) =
        some ((), paddedDigits 10 2 n ++ rest) := by
    intro c hc n rest
    exact divider_cons hc (stops_blank_decimal 2 n rest)
  have hsatisfy : ∀ rest, Scan.satisfy (fun c => c == 'T' || c == 't' || c == ' ')
      ('T' :: rest) = some ('T', rest) := fun _ => rfl
  rw [toList_render]
  simp only [List.append_assoc, List.cons_append]
  -- The parts of the text, in their order.
  rw [civilTime, Scan.bind_of_eq_some (blanks_of_stops (stops_blank_renderYear _ _)),
    Scan.bind_of_eq_some (year_renderYear _ (stops_cons (by decide) _)),
    Scan.bind_of_eq_some (hdivider '-' (by decide) _ _),
    Scan.bind_of_eq_some (hnumber t.date.month (by omega) _),
    Scan.bind_of_eq_some (hdivider '-' (by decide) _ _),
    Scan.bind_of_eq_some (hnumber t.date.day (by omega) _),
    Scan.bind_of_eq_some (hsatisfy _),
    Scan.bind_of_eq_some (blanks_of_stops (stops_blank_decimal 2 t.hour _)),
    Scan.bind_of_eq_some (hnumber t.hour (by omega) _),
    Scan.bind_of_eq_some (hdivider ':' (by decide) _ _),
    Scan.bind_of_eq_some (hnumber t.minute (by omega) _),
    Scan.bind_of_eq_some (hdivider ':' (by decide) _ _),
    Scan.bind_of_eq_some (hnumber t.second (by omega) _),
    Scan.bind_of_eq_some (fraction_renderFraction hfraction (stops_cons (by decide) _)
      (stops_cons (by decide) _))]
  rfl

/-- For every `t`, `read? (render t)` is `t`. -/
theorem read?_render (t : Timestamp) : read? (render t) = some t := by
  have hread := civilTime_render t.isValid_civil
  have htext : (render t).toList = (t.civil.render "T").toList ++ ['Z'] := by
    simp [render]
  rw [read?, htext, Scan.whole?, hread]
  exact t.timestamp?_civil

/-- Half a second into a leap second, which is written as second 60. -/
example : render ⟨1483228799, 1500000000, by decide, by decide⟩ = "2016-12-31T23:59:60.500Z" := by
  decide +kernel

end Rfc3339
end ChainParams
