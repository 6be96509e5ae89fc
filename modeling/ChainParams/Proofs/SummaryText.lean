import Mathlib.Data.List.Induction
import ChainParams.Parameters.Summary
import ChainParams.Proofs.DataForms
import ChainParams.Proofs.HashText
import ChainParams.Proofs.TimestampText

/-!
# SummaryText — what a summary tells about the parameters

A summary is joined from lines, of which only the first can hold line breaks, as it shows the name.
Read from the end, the text therefore gives back its lines, whatever the name imitates
(`lines_inj`). Most lines are runs of digits between fixed texts, and no such text begins with a
digit, so a line gives back its runs (`Line.chars_inj`). Main statement: `summary_eq_iff`.
-/

namespace ChainParams

open Text

/-! ## Joined lines -/

/-- If `l` and `m` have no line break, equal texts are cut at the same place by their last line
break. -/
theorem last_line_inj {xs ys l m : List Char} (hl : '\n' ∉ l) (hm : '\n' ∉ m)
    (h : xs ++ '\n' :: l = ys ++ '\n' :: m) : xs = ys ∧ l = m := by
  have hin : ∀ k : List Char, '\n' ∉ k → ∀ c ∈ k.reverse, (c != '\n') = true := by
    intro k hk c hc
    rw [bne_iff_ne]
    rintro rfl
    exact hk (List.mem_reverse.1 hc)
  have hreverse : l.reverse ++ '\n' :: xs.reverse = m.reverse ++ '\n' :: ys.reverse := by
    simpa using congrArg List.reverse h
  rcases append_inj_of_stops (hin l hl) (hin m hm) (stops_cons rfl _) (stops_cons rfl _) hreverse
    with ⟨hlines, hrest⟩
  exact ⟨List.reverse_inj.1 (List.cons.inj hrest).2, List.reverse_inj.1 hlines⟩

/-- Equally many lines without line breaks, the first aside, are recovered from
`String.intercalate "\n"`. -/
theorem lines_inj {xs ys : List String} (hlength : xs.length = ys.length)
    (hxs : ∀ s ∈ xs.tail, '\n' ∉ s.toList) (hys : ∀ s ∈ ys.tail, '\n' ∉ s.toList)
    (h : String.intercalate "\n" xs = String.intercalate "\n" ys) : xs = ys := by
  -- The last lines are told apart first.
  induction xs using List.reverseRecOn generalizing ys with
  | nil =>
      exact (List.length_eq_zero_iff.1 hlength.symm).symm
  | append_singleton xs x ih =>
      rcases List.eq_nil_or_concat ys with rfl | ⟨ys, y, rfl⟩
      · simp at hlength
      · have hlength' : xs.length = ys.length := by
          simpa using hlength
        by_cases hnil : xs = []
        · -- A single line may have line breaks: nothing is joined to it.
          have hnil' : ys = [] := by
            simpa [hnil] using hlength'.symm
          subst hnil hnil'
          simpa using h
        · have hnil' : ys ≠ [] := by
            rintro rfl
            exact hnil (List.length_eq_zero_iff.1 hlength')
          rw [List.concat_eq_append] at hys h ⊢
          rw [List.tail_append_of_ne_nil hnil] at hxs
          rw [List.tail_append_of_ne_nil hnil'] at hys
          rw [String.intercalate_append_of_ne_nil hnil (by simp),
            String.intercalate_append_of_ne_nil hnil' (by simp)] at h
          have hchars : (String.intercalate "\n" xs).toList ++ '\n' :: x.toList =
              (String.intercalate "\n" ys).toList ++ '\n' :: y.toList := by
            simpa using congrArg String.toList h
          rcases last_line_inj (hxs x (by simp)) (hys y (by simp)) hchars with ⟨hfront, hlast⟩
          have hfront' : xs = ys := by
            refine ih hlength' ?_ ?_ (String.toList_inj.1 hfront)
            · intro s hs
              exact hxs s (List.mem_append_left _ hs)
            · intro s hs
              exact hys s (List.mem_append_left _ hs)
          rw [hfront', String.toList_inj.1 hlast]

/-! ## Runs of digits -/

/-- A run of hexadecimal digits, which decimal ones are among. -/
structure DigitRun where
  chars : List Char
  digits : ∀ c ∈ chars, isDigitOf 16 c = true

namespace DigitRun

def decimal (n : Nat) : DigitRun where
  chars := Nat.toDigits 10 n
  digits := by
    intro c hc
    rw [← paddedDigits_zero_width] at hc
    have hten := isDigitOf_of_mem_paddedDigits (by decide) (by decide) 0 n c hc
    exact (isDigitOf_sixteen_iff c).2 (Or.inl (Or.inl ((isDigitOf_ten_iff c).1 hten)))

def hex (width n : Nat) : DigitRun where
  chars := paddedDigits 16 width n
  digits := isDigitOf_of_mem_paddedDigits (by decide) (by decide) width n

def key (id : ExtendedKeyId) : DigitRun where
  chars := id.toHex.toList
  digits := isDigitOf_of_digitValues? (lowerHexOf_hexOfBytes id.bytes).spells

@[simp] theorem decimal_inj {n m : Nat} : decimal n = decimal m ↔ n = m := by
  constructor
  · intro h
    simp only [decimal, mk.injEq] at h
    have hn := numeral?_toDigits (show 1 < 10 by decide) (by decide) n
    rw [h, numeral?_toDigits (by decide) (by decide)] at hn
    exact (Option.some.inj hn).symm
  · rintro rfl
    rfl

@[simp] theorem hex_inj {width n m : Nat} : hex width n = hex width m ↔ n = m := by
  constructor
  · intro h
    simp only [hex, mk.injEq] at h
    have hn := numeral?_paddedDigits (show 1 < 16 by decide) (by decide) width n
    rw [h, numeral?_paddedDigits (by decide) (by decide)] at hn
    exact (Option.some.inj hn).symm
  · rintro rfl
    rfl

@[simp] theorem key_inj {a b : ExtendedKeyId} : key a = key b ↔ a = b := by
  constructor
  · intro h
    simp only [key, mk.injEq, String.toList_inj] at h
    have hread : ∀ id : ExtendedKeyId, ExtendedKeyId.ofHex? id.toHex = some id := fun id =>
      ExtendedKeyId.ofHex?_eq_some_iff.2 (lowerHexOf_hexOfBytes id.bytes).spells
    have ha := hread a
    rw [h, hread b] at ha
    exact (Option.some.inj ha).symm
  · rintro rfl
    rfl

theorem newline_not_mem (r : DigitRun) : '\n' ∉ r.chars := by
  intro hmem
  cases r.digits '\n' hmem

end DigitRun

/-! ## Lines by their parts -/

/-- The label of a line and, if the line is made of runs of digits, the texts that end them in
`dividers`. -/
structure Layout where
  label : String
  dividers : Option (List String)

namespace Layout

/-- No text begins with a hexadecimal digit, and none but the last one is empty. -/
def Divides (texts : List String) : Prop :=
  (∀ t ∈ texts, Stops (isDigitOf 16) t.toList) ∧ ∀ t ∈ texts.dropLast, t ≠ ""

/-- Neither `label` nor `dividers` have a line break, and the dividers keep runs of digits apart. -/
def Clear (f : Layout) : Prop :=
  '\n' ∉ f.label.toList ∧
    ∀ texts ∈ f.dividers, (∀ t ∈ texts, '\n' ∉ t.toList) ∧ Divides texts

instance (texts : List String) : Decidable (Divides texts) :=
  inferInstanceAs (Decidable (_ ∧ _))

instance (f : Layout) : Decidable f.Clear :=
  inferInstanceAs (Decidable (_ ∧ ∀ texts ∈ f.dividers, _))

theorem Divides.tail {t : String} {texts : List String} (h : Divides (t :: texts)) :
    Divides texts := by
  rcases h with ⟨hstops, hnonempty⟩
  constructor
  · intro u hu
    exact hstops u (List.mem_cons_of_mem t hu)
  · intro u hu
    cases texts with
    | nil =>
        simp at hu
    | cons v texts =>
        exact hnonempty u (List.mem_cons_of_mem t hu)

end Layout

open Layout

/-- A line of a summary: behind its label either a text of its own, or runs of digits with the texts
that end them. -/
inductive Line
  | plain (label text : String)
  | filled (label : String) (parts : List (DigitRun × String))

namespace Line

def join (parts : List (DigitRun × String)) : List Char :=
  parts.flatMap fun part => part.1.chars ++ part.2.toList

def chars : Line → List Char
  | plain label text => label.toList ++ text.toList
  | filled label parts => label.toList ++ join parts

def layout : Line → Layout
  | plain label _ => ⟨label, none⟩
  | filled label parts => ⟨label, some (parts.map Prod.snd)⟩

/-- The text of a `plain` line, which need not be made of digits. -/
def ownText : Line → String
  | plain _ text => text
  | filled _ _ => ""

theorem newline_not_mem_chars {l : Line} (hclear : l.layout.Clear)
    (htext : '\n' ∉ l.ownText.toList) : '\n' ∉ l.chars := by
  rcases hclear with ⟨hlabel, hdividers⟩
  cases l with
  | plain label text =>
      simp only [chars, List.mem_append, not_or]
      exact ⟨hlabel, htext⟩
  | filled label parts =>
      have htexts := (hdividers _ rfl).1
      simp only [chars, join, List.mem_append, List.mem_flatMap, not_or, not_exists, not_and]
      refine ⟨hlabel, ?_⟩
      intro part hpart
      exact ⟨part.1.newline_not_mem, htexts _ (List.mem_map_of_mem hpart)⟩

/-- If `t` and the dividers behind it satisfy `Divides`, then a run of digits stops in front of
`t`. -/
theorem stops_join {t : String} {parts : List (DigitRun × String)}
    (h : Divides (t :: parts.map Prod.snd)) : Stops (isDigitOf 16) (t.toList ++ join parts) := by
  rcases h with ⟨hstops, hnonempty⟩
  cases parts with
  | nil =>
      simpa [join] using hstops t (by simp)
  | cons part parts =>
      -- More runs follow, so the divider is not empty.
      have ht : t.toList ≠ [] := by
        simpa using hnonempty t (by simp)
      rcases List.exists_cons_of_ne_nil ht with ⟨c, cs, hcs⟩
      have hc : isDigitOf 16 c = false := hstops t (by simp) c (by simp [hcs])
      rw [hcs, List.cons_append]
      exact stops_cons hc _

/-- Runs of digits with the same dividers are recovered from the text that `join` makes of them. -/
theorem join_inj {ps qs : List (DigitRun × String)}
    (htexts : ps.map Prod.snd = qs.map Prod.snd) (hdivides : Divides (ps.map Prod.snd))
    (h : join ps = join qs) : ps = qs := by
  induction ps generalizing qs with
  | nil =>
      simpa using htexts.symm
  | cons part ps ih =>
      rcases part with ⟨r, t⟩
      rcases List.map_eq_cons_iff.1 htexts.symm with ⟨⟨r', u⟩, qs, rfl, hu, htexts'⟩
      have hu : u = t := hu
      subst hu
      have hdivides' : Divides (u :: qs.map Prod.snd) := by
        rw [htexts']
        exact hdivides
      -- On both sides the first run ends where the divider begins.
      have hruns : r.chars ++ (u.toList ++ join ps) = r'.chars ++ (u.toList ++ join qs) := by
        simpa [join] using h
      rcases append_inj_of_stops r.digits r'.digits (stops_join hdivides) (stops_join hdivides')
        hruns with ⟨hchars, hrest⟩
      have hr : r = r' := by
        cases r
        cases r'
        simpa using hchars
      rw [hr, ih htexts'.symm hdivides.tail (List.append_cancel_left hrest)]

/-- Lines with the same `Clear` layout are equal if their texts are. -/
theorem chars_inj {a b : Line} (hlayout : a.layout = b.layout) (hclear : a.layout.Clear)
    (h : a.chars = b.chars) : a = b := by
  cases a with
  | plain label text =>
      cases b with
      | plain label' text' =>
          simp only [layout, Layout.mk.injEq] at hlayout
          simp only [chars, hlayout.1, List.append_cancel_left_eq, String.toList_inj] at h
          rw [hlayout.1, h]
      | filled label' parts' =>
          simp [layout] at hlayout
  | filled label parts =>
      cases b with
      | plain label' text' =>
          simp [layout] at hlayout
      | filled label' parts' =>
          have hdivides : Divides (parts.map Prod.snd) := (hclear.2 _ rfl).2
          simp only [layout, Layout.mk.injEq, Option.some.injEq] at hlayout
          simp only [chars, hlayout.1, List.append_cancel_left_eq] at h
          rw [hlayout.1, join_inj hlayout.2 hdivides h]

theorem map_chars_inj {ls ms : List Line} (hlayouts : ls.map layout = ms.map layout)
    (hclear : ∀ f ∈ ls.map layout, f.Clear) (h : ls.map chars = ms.map chars) : ls = ms := by
  induction ls generalizing ms with
  | nil =>
      simpa using h.symm
  | cons l ls ih =>
      rcases List.map_eq_cons_iff.1 h.symm with ⟨m, ms, rfl, hchars, hrest⟩
      rcases List.cons.inj hlayouts with ⟨hlayout, hlayouts⟩
      rw [List.map_cons, List.forall_mem_cons] at hclear
      rw [chars_inj hlayout hclear.1 hchars.symm, ih hlayouts hclear.2 hrest.symm]

end Line

/-! ## Timestamps -/

theorem newline_not_mem_decimal (width n : Nat) : '\n' ∉ paddedDigits 10 width n := by
  intro hmem
  cases isDigitOf_of_mem_paddedDigits (by decide) (by decide) width n '\n' hmem

theorem CivilTime.newline_not_mem_renderFraction (nanos : Nat) :
    '\n' ∉ (renderFraction nanos).toList := by
  unfold renderFraction
  split
  · simp
  · split
    · simp [Rfc3339.toList_decimalPadded, newline_not_mem_decimal]
    · split
      · simp [Rfc3339.toList_decimalPadded, newline_not_mem_decimal]
      · simp [Rfc3339.toList_decimalPadded, newline_not_mem_decimal]

theorem CivilTime.newline_not_mem_renderYear (y : Int) : '\n' ∉ (renderYear y).toList := by
  rw [Rfc3339.toList_renderYear]
  split
  · simp [newline_not_mem_decimal]
  · split
    · simp [newline_not_mem_decimal]
    · simp [newline_not_mem_decimal]

/-- The text `t.render` has no line break. -/
theorem Timestamp.newline_not_mem_render (t : Timestamp) : '\n' ∉ t.render.toList := by
  simp [Timestamp.render, CivilTime.render, Rfc3339.toList_decimalPadded, newline_not_mem_decimal,
    CivilTime.newline_not_mem_renderFraction, CivilTime.newline_not_mem_renderYear]

/-! ## Lines of a summary -/

namespace Parameters

open DigitRun Line

/-- The lines of `p.summaryLines`, each taken apart into its label and the rest. -/
def lines (p : Parameters) : List Line :=
  [ plain "name:                 " p.name
  , filled ("magic:                " ++ "0x") [(hex 8 p.networkMagic.word.toNat, "")]
  , filled "default port:         " [(decimal p.defaultPort.toNat, "")]
  , filled "genesis hash:         " [(hex 64 p.genesisHash.word.toNat, "")]
  , plain "genesis time:         " p.genesisBlock.time.render
  , filled "validator keys:       " [(decimal p.initialValidatorKeys.length, "")]
  , filled ("pow limit:            " ++ "0x") [(hex 0 p.powLimit.toNat, "")]
  , filled ("pow limit (compact):  " ++ "0x") [(hex 8 p.powLimitCompact.word.toNat, "")]
  , filled "coinbase maturity:    " [(decimal p.coinbaseMaturity.toNat, "")]
  , filled "target block time:    " [(decimal p.targetBlockTime.seconds.toNat, "s")]
  , plain "reduce min diff:      " (if p.reduceMinDifficulty then "true" else "false")
  , filled "upgrade thresholds:   "
      [ (decimal p.blockVersionEnforceThreshold.toNat, "/")
      , (decimal p.blockVersionRejectThreshold.toNat, "/")
      , (decimal p.blockVersionSampleSize.toNat, "") ]
  , filled ("prefixes:             p2pkh=" ++ "0x")
      [ (hex 2 p.pubkeyHashPrefix.toNat, " p2sh=" ++ "0x")
      , (hex 2 p.scriptHashPrefix.toNat, " aztec=" ++ "0x")
      , (hex 2 p.aztecPrefix.toNat, " wif=" ++ "0x")
      , (hex 2 p.privateKeyPrefix.toNat, "") ]
  , filled "hd magics:            prv="
      [ (key p.hdPrivateId, " pub=")
      , (key p.hdPublicId, " coin type=")
      , (decimal p.hdCoinType.toNat, "") ]
  , filled "averaging window:     "
      [ (decimal p.averagingWindow.toNat, " blocks (")
      , (decimal p.windowTimespan.seconds.toNat, "s" ++ ")") ]
  , filled "actual timespan:      "
      [ (decimal p.minTimespan.seconds.toNat, "s" ++ "..=")
      , (decimal p.maxTimespan.seconds.toNat, "s" ++ " (up ")
      , (decimal p.maxAdjustUpPct.toNat, "%, down ")
      , (decimal p.maxAdjustDownPct.toNat, "%)") ]
  , filled "signer limits:        trailing="
      [ (decimal p.trailingSignerLimit.toNat, " window share=")
      , (decimal p.windowShareLimitPct.toNat, "%") ] ]

theorem toList_summaryLines (p : Parameters) :
    p.summaryLines.map String.toList = p.lines.map Line.chars := by
  simp only [summaryLines, lines, List.map_cons, List.map_nil, Line.chars, join, List.flatMap_cons,
    List.flatMap_nil, decimal, hex, key, NetworkMagic.render, CompactTarget.render, Hash256.render,
    Word256.toHex, wordLiteral, byteLiteral, hexPadded, secondsText, String.toList_append,
    String.toList_ofList, String.toList_empty, Nat.toString_eq_repr, Nat.toList_repr,
    paddedDigits_zero_width, List.append_assoc, List.append_nil]

theorem layout_lines (p q : Parameters) : p.lines.map layout = q.lines.map layout := by
  simp only [lines, List.map_cons, List.map_nil, layout]

theorem clear_layouts (p : Parameters) : ∀ f ∈ p.lines.map layout, f.Clear := by
  -- What is left to decide does not depend on the parameters.
  simp only [lines, List.map_cons, List.map_nil, layout, List.forall_mem_cons]
  constructorm* _ ∧ _
  all_goals decide

theorem newline_not_mem_ownText (p : Parameters) :
    ∀ l ∈ p.lines.tail, '\n' ∉ l.ownText.toList := by
  have hflag : '\n' ∉ (if p.reduceMinDifficulty then "true" else "false").toList := by
    split
    · decide
    · decide
  have htime := p.genesisBlock.time.newline_not_mem_render
  simp [lines, ownText, hflag, htime]

/-- No line of `p.summaryLines` behind the first, which shows the name, has a line break in it. -/
theorem newline_not_mem_summaryLines (p : Parameters) :
    ∀ s ∈ p.summaryLines.tail, '\n' ∉ s.toList := by
  intro s hs
  have hchars : s.toList ∈ p.lines.tail.map Line.chars := by
    rw [List.map_tail, ← toList_summaryLines, ← List.map_tail]
    exact List.mem_map_of_mem hs
  rcases List.mem_map.1 hchars with ⟨l, hl, hline⟩
  rw [← hline]
  have hlayout : l.layout ∈ p.lines.map layout := List.mem_map_of_mem (List.mem_of_mem_tail hl)
  exact newline_not_mem_chars (p.clear_layouts _ hlayout) (p.newline_not_mem_ownText l hl)

variable {p q : Parameters}

theorem summary_eq_iff_lines_eq : p.summary = q.summary ↔ p.lines = q.lines := by
  constructor
  · intro h
    have hlength : p.summaryLines.length = q.summaryLines.length := by
      simp only [summaryLines, List.length_cons]
    have hlines : p.summaryLines = q.summaryLines :=
      lines_inj hlength p.newline_not_mem_summaryLines q.newline_not_mem_summaryLines h
    refine map_chars_inj (layout_lines p q) p.clear_layouts ?_
    rw [← toList_summaryLines, ← toList_summaryLines, hlines]
  · intro h
    have hchars : p.summaryLines.map String.toList = q.summaryLines.map String.toList := by
      rw [toList_summaryLines, toList_summaryLines, h]
    rw [summary, summary, List.map_inj_right (fun _ _ => String.toList_inj.1) |>.1 hchars]

/-! ## Main statement -/

/-- The parameters `p` and `q` agree on what a summary shows: spans in whole seconds, the genesis
time by its text, and the validator keys by their number. -/
structure ShownAlike (p q : Parameters) : Prop where
  name : p.name = q.name
  networkMagic : p.networkMagic = q.networkMagic
  defaultPort : p.defaultPort = q.defaultPort
  genesisHash : p.genesisHash = q.genesisHash
  genesisTime : p.genesisBlock.time.render = q.genesisBlock.time.render
  validatorKeys : p.initialValidatorKeys.length = q.initialValidatorKeys.length
  powLimit : p.powLimit = q.powLimit
  powLimitCompact : p.powLimitCompact = q.powLimitCompact
  coinbaseMaturity : p.coinbaseMaturity = q.coinbaseMaturity
  blockSeconds : p.targetBlockTime.seconds = q.targetBlockTime.seconds
  reduceMinDifficulty : p.reduceMinDifficulty = q.reduceMinDifficulty
  enforceThreshold : p.blockVersionEnforceThreshold = q.blockVersionEnforceThreshold
  rejectThreshold : p.blockVersionRejectThreshold = q.blockVersionRejectThreshold
  sampleSize : p.blockVersionSampleSize = q.blockVersionSampleSize
  pubkeyHashPrefix : p.pubkeyHashPrefix = q.pubkeyHashPrefix
  scriptHashPrefix : p.scriptHashPrefix = q.scriptHashPrefix
  aztecPrefix : p.aztecPrefix = q.aztecPrefix
  privateKeyPrefix : p.privateKeyPrefix = q.privateKeyPrefix
  hdPrivateId : p.hdPrivateId = q.hdPrivateId
  hdPublicId : p.hdPublicId = q.hdPublicId
  hdCoinType : p.hdCoinType = q.hdCoinType
  averagingWindow : p.averagingWindow = q.averagingWindow
  windowSeconds : p.windowTimespan.seconds = q.windowTimespan.seconds
  minSeconds : p.minTimespan.seconds = q.minTimespan.seconds
  maxSeconds : p.maxTimespan.seconds = q.maxTimespan.seconds
  maxAdjustUpPct : p.maxAdjustUpPct = q.maxAdjustUpPct
  maxAdjustDownPct : p.maxAdjustDownPct = q.maxAdjustDownPct
  trailingSignerLimit : p.trailingSignerLimit = q.trailingSignerLimit
  windowShareLimitPct : p.windowShareLimitPct = q.windowShareLimitPct

theorem flagText_inj {a b : Bool} :
    ((if a then "true" else "false") = if b then "true" else "false") ↔ a = b := by
  cases a <;> cases b <;> decide

theorem lines_eq_iff : p.lines = q.lines ↔ ShownAlike p q := by
  constructor
  · intro h
    simp only [lines, List.cons.injEq, plain.injEq, filled.injEq, Prod.mk.injEq, decimal_inj,
      hex_inj, key_inj, flagText_inj, true_and, and_true, UInt8.toNat_inj, UInt16.toNat_inj,
      UInt32.toNat_inj, UInt64.toNat_inj, BitVec.toNat_inj] at h
    rcases h with ⟨hname, hmagic, hport, hhash, htime, hkeys, hlimit, hcompact, hmaturity, hblock,
      hflag, ⟨henforce, hreject, hsample⟩, ⟨hpubkey, hscript, haztec, hprivate⟩,
      ⟨hhdPrivate, hhdPublic, hcoin⟩, ⟨hwindow, hspan⟩, ⟨hmin, hmax, hup, hdown⟩, htrailing, hshare⟩
    exact {
      name := hname
      networkMagic := congrArg NetworkMagic.mk hmagic
      defaultPort := hport
      genesisHash := congrArg Hash256.mk hhash
      genesisTime := htime
      validatorKeys := hkeys
      powLimit := hlimit
      powLimitCompact := congrArg CompactTarget.mk hcompact
      coinbaseMaturity := hmaturity
      blockSeconds := hblock
      reduceMinDifficulty := hflag
      enforceThreshold := henforce
      rejectThreshold := hreject
      sampleSize := hsample
      pubkeyHashPrefix := hpubkey
      scriptHashPrefix := hscript
      aztecPrefix := haztec
      privateKeyPrefix := hprivate
      hdPrivateId := hhdPrivate
      hdPublicId := hhdPublic
      hdCoinType := hcoin
      averagingWindow := hwindow
      windowSeconds := hspan
      minSeconds := hmin
      maxSeconds := hmax
      maxAdjustUpPct := hup
      maxAdjustDownPct := hdown
      trailingSignerLimit := htrailing
      windowShareLimitPct := hshare }
  · intro h
    simp only [lines, h.name, h.networkMagic, h.defaultPort, h.genesisHash, h.genesisTime,
      h.validatorKeys, h.powLimit, h.powLimitCompact, h.coinbaseMaturity, h.blockSeconds,
      h.reduceMinDifficulty, h.enforceThreshold, h.rejectThreshold, h.sampleSize,
      h.pubkeyHashPrefix, h.scriptHashPrefix, h.aztecPrefix, h.privateKeyPrefix, h.hdPrivateId,
      h.hdPublicId, h.hdCoinType, h.averagingWindow, h.windowSeconds, h.minSeconds, h.maxSeconds,
      h.maxAdjustUpPct, h.maxAdjustDownPct, h.trailingSignerLimit, h.windowShareLimitPct]

/-- For all `p` and `q`, `p.summary = q.summary` just when they are `ShownAlike`, whatever their
names contain. -/
theorem summary_eq_iff (p q : Parameters) : p.summary = q.summary ↔ ShownAlike p q :=
  summary_eq_iff_lines_eq.trans lines_eq_iff

end Parameters

end ChainParams
