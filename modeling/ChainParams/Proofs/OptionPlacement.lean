import ChainParams.Invocation.Progress

/-!
# OptionPlacement — the configuration before or after the subcommand

Reading an argument settles what was set aside, and opens or fills at most one slot (`read_cases`).
So a slot that is given stays given (`given_read`), and a list of arguments that gives no
configuration begins with its subcommand (`exists_subcommand`). At either level the option for the
configuration settles what was set aside, and waits for a path (`read_configOption`). Main
statement: `config_on_either_side`.
-/

namespace ChainParams

/-! ## Chains of readings -/

theorem Stop.bind_eq_ok_iff {α β : Type} {x : Except Stop α} {f : α → Except Stop β} {b : β} :
    x >>= f = .ok b ↔ ∃ a, x = .ok a ∧ f a = .ok b := by
  cases x with
  | error stop =>
      simp [bind, Except.bind]
  | ok a =>
      simp [bind, Except.bind]

/-! ## The slots of a level -/

/-- Some option or word of the level gives `slot` a value. -/
def Level.Takes (level : Level) (slot : Slot) : Prop :=
  (∃ name, level.longSwitch? name = some (.value slot)) ∨
    (∃ letter, level.shortSwitch? letter = some (.value slot)) ∨ level.positional? = some slot

theorem Level.takes_outer {slot : Slot} (h : outer.Takes slot) : slot = .config := by
  -- The other options before a subcommand take no value, and no word is taken there.
  rcases h with ⟨name, h⟩ | ⟨letter, h⟩ | h
  · unfold longSwitch? at h
    split at h <;> simp_all
  · unfold shortSwitch? at h
    split at h <;> simp_all
  · cases h

theorem Settings.isSet_set {s t : Settings} {slot slot' : Slot} {given : String}
    (h : s.set slot given = .ok t) :
    t.isSet slot' = true ↔ s.isSet slot' = true ∨ slot = slot' := by
  unfold set at h
  split at h
  · cases h
  · cases slot with
    | config =>
        rcases Stop.bind_eq_ok_iff.1 h with ⟨value, _, hvalue⟩
        cases hvalue
        cases slot' <;> simp [isSet]
    | network =>
        cases h
        cases slot' <;> simp [isSet]
    | byte =>
        rcases Stop.bind_eq_ok_iff.1 h with ⟨value, _, hvalue⟩
        cases hvalue
        cases slot' <;> simp [isSet]
    | magic =>
        cases h
        cases slot' <;> simp [isSet]
    | output =>
        rcases Stop.bind_eq_ok_iff.1 h with ⟨value, _, hvalue⟩
        cases hvalue
        cases slot' <;> simp [isSet]

namespace Progress

variable {level : Level} {p q : Progress} {slot slot' : Slot} {arg : String}

/-! ## One argument -/

/-- In `p`, `slot` has a value or is open for one. -/
def Given (p : Progress) (slot : Slot) : Prop :=
  p.settings.isSet slot = true ∨ p.pending.map Prod.fst = some slot

theorem settle_cases (h : p.settle = .ok q) :
    (p.pending = none ∧ q = p) ∨
      ∃ slot given s, p.pending = some (slot, some given) ∧ p.settings.set slot given = .ok s ∧
        q = { p with settings := s, pending := none } := by
  rw [settle] at h
  split at h
  · rename_i hpending
    cases h
    exact Or.inl ⟨hpending, rfl⟩
  · cases h
  · rename_i slot given hpending
    rcases Stop.bind_eq_ok_iff.1 h with ⟨s, hset, hq⟩
    cases hq
    exact Or.inr ⟨slot, given, s, hpending, hset, rfl⟩

/-- After `settle`, the slots with a value are those that were `Given`. -/
theorem isSet_settle (h : p.settle = .ok q) : q.settings.isSet slot = true ↔ p.Given slot := by
  rcases settle_cases h with ⟨hpending, rfl⟩ | ⟨slot', given, s, hpending, hset, rfl⟩
  · simp [Given, hpending]
  · simp [Given, hpending, Settings.isSet_set hset]

theorem pending_settle (h : p.settle = .ok q) : q.pending = none := by
  rcases settle_cases h with ⟨hpending, rfl⟩ | ⟨_, _, _, _, _, rfl⟩
  · exact hpending
  · rfl

theorem trailing_settle (h : p.settle = .ok q) : q.trailing = p.trailing := by
  rcases settle_cases h with ⟨_, rfl⟩ | ⟨_, _, _, _, _, rfl⟩
  · rfl
  · rfl

theorem openSlot_eq_ok_iff {given : Option String} :
    p.openSlot slot given = .ok q ↔
      ∃ r, p.settle = .ok r ∧ { r with pending := some (slot, given) } = q := by
  simp only [openSlot, Stop.bind_eq_ok_iff, pure, Except.pure, Except.ok.injEq]

theorem fillSlot_eq_ok_iff {given : String} :
    p.fillSlot slot given = .ok q ↔
      ∃ r, p.settle = .ok r ∧ ∃ s, r.settings.set slot given = .ok s ∧
        { r with settings := s } = q := by
  simp only [fillSlot, Stop.bind_eq_ok_iff, pure, Except.pure, Except.ok.injEq]

/-- Reading on from `p` to `q` opens `slot`, or fills it at once. -/
def Enters (p : Progress) (slot : Slot) (q : Progress) : Prop :=
  (∃ given, p.openSlot slot given = .ok q) ∨ ∃ given, p.fillSlot slot given = .ok q

theorem Enters.given_iff (h : p.Enters slot q) : q.Given slot' ↔ p.Given slot' ∨ slot = slot' := by
  rcases h with ⟨given, h⟩ | ⟨given, h⟩
  · rcases openSlot_eq_ok_iff.1 h with ⟨r, hsettle, rfl⟩
    simp [Given, isSet_settle hsettle]
  · rcases fillSlot_eq_ok_iff.1 h with ⟨r, hsettle, s, hset, rfl⟩
    simp [Given, pending_settle hsettle, Settings.isSet_set hset, isSet_settle hsettle]

theorem Enters.trailing_eq (h : p.Enters slot q) : q.trailing = p.trailing := by
  rcases h with ⟨given, h⟩ | ⟨given, h⟩
  · rcases openSlot_eq_ok_iff.1 h with ⟨r, hsettle, rfl⟩
    show r.trailing = p.trailing
    exact trailing_settle hsettle
  · rcases fillSlot_eq_ok_iff.1 h with ⟨r, hsettle, s, hset, rfl⟩
    show r.trailing = p.trailing
    exact trailing_settle hsettle

theorem enters_of_readOption {attached : Option String} (h : p.readOption slot attached = .ok q) :
    p.Enters slot q := by
  cases attached with
  | none =>
      exact Or.inl ⟨none, h⟩
  | some given =>
      exact Or.inr ⟨given, h⟩

theorem enters_of_readSwitch {attached : Option String} {switch : Switch}
    (h : p.readSwitch attached switch = .ok q) :
    ∃ slot, switch = .value slot ∧ p.Enters slot q := by
  cases switch with
  | value slot =>
      exact ⟨slot, rfl, enters_of_readOption h⟩
  | help =>
      rcases Stop.bind_eq_ok_iff.1 h with ⟨_, _, hstop⟩
      cases hstop
  | version =>
      rcases Stop.bind_eq_ok_iff.1 h with ⟨_, _, hstop⟩
      cases hstop

theorem enters_of_readLong {attached : Option String} {switch? : Option Switch}
    (h : p.readLong attached arg switch? = .ok q) :
    ∃ slot, switch? = some (.value slot) ∧ p.Enters slot q := by
  unfold readLong at h
  split at h
  · cases h
  · exact ⟨_, rfl, enters_of_readOption h⟩
  · split at h
    · cases h
    · rcases enters_of_readSwitch h with ⟨slot, rfl, henters⟩
      exact ⟨slot, rfl, henters⟩

theorem enters_of_readShort {attached : Option String} {switch? : Option Switch}
    (h : p.readShort attached arg switch? = .ok q) :
    ∃ slot, switch? = some (.value slot) ∧ p.Enters slot q := by
  unfold readShort at h
  split at h
  · cases h
  · rcases enters_of_readSwitch h with ⟨slot, rfl, henters⟩
    exact ⟨slot, rfl, henters⟩

theorem enters_of_readWord (h : p.readWord level arg = .ok q) :
    ∃ slot, level.positional? = some slot ∧ p.Enters slot q := by
  unfold readWord at h
  split at h
  · cases h
  · rename_i slot hslot
    split at h
    · cases h
    · exact ⟨slot, hslot, Or.inl ⟨some arg, h⟩⟩

theorem eq_of_ofString_escape (h : Argument.ofString arg = .escape) : arg = "--" := by
  unfold Argument.ofString at h
  split at h
  · rename_i hchars
    exact String.toList_inj.1 hchars
  · cases h
  · cases h
  · cases h

/-- An argument that `read` accepts is `--`, is the value that an open slot waits for, or enters
some slot that the level takes. -/
theorem read_cases (h : read level p arg = .ok q) :
    (arg = "--" ∧ { p with trailing := true } = q) ∨
      (∃ slot, p.pending = some (slot, none) ∧ { p with pending := some (slot, some arg) } = q) ∨
      ∃ slot, level.Takes slot ∧ p.Enters slot q := by
  have hword : p.readWord level arg = .ok q → ∃ slot, level.Takes slot ∧ p.Enters slot q := by
    intro h
    rcases enters_of_readWord h with ⟨slot, hslot, henters⟩
    exact ⟨slot, Or.inr (Or.inr hslot), henters⟩
  unfold read at h
  split at h
  · exact Or.inr (Or.inr (hword h))
  · split at h
    · rename_i hescape
      cases h
      exact Or.inl ⟨eq_of_ofString_escape hescape, rfl⟩
    · rcases enters_of_readLong h with ⟨slot, hslot, henters⟩
      exact Or.inr (Or.inr ⟨slot, Or.inl ⟨_, hslot⟩, henters⟩)
    · rcases enters_of_readShort h with ⟨slot, hslot, henters⟩
      exact Or.inr (Or.inr ⟨slot, Or.inr (Or.inl ⟨_, hslot⟩), henters⟩)
    · -- A word is the value that was waited for, or one that the level takes by itself.
      split at h
      · rename_i slot hpending
        cases h
        exact Or.inr (Or.inl ⟨slot, hpending, rfl⟩)
      · exact Or.inr (Or.inr (hword h))

/-- A slot that is `Given` before an argument is read is `Given` after it. -/
theorem given_read (h : read level p arg = .ok q) (hslot : p.Given slot) : q.Given slot := by
  rcases read_cases h with ⟨_, rfl⟩ | ⟨slot', hpending, rfl⟩ | ⟨slot', _, henters⟩
  · exact hslot
  · simpa [Given, hpending] using hslot
  · exact henters.given_iff.2 (Or.inl hslot)

theorem trailing_read (h : read level p arg = .ok q) (harg : arg ≠ "--") :
    q.trailing = p.trailing := by
  rcases read_cases h with ⟨hescape, _⟩ | ⟨_, _, rfl⟩ | ⟨_, _, henters⟩
  · exact absurd hescape harg
  · rfl
  · exact henters.trailing_eq

theorem trailing_foldlM_read {args : List String} (h : args.foldlM (read level) p = .ok q)
    (hescape : "--" ∉ args) : q.trailing = p.trailing := by
  induction args generalizing p with
  | nil =>
      cases h
      rfl
  | cons arg args ih =>
      rw [List.foldlM_cons, Stop.bind_eq_ok_iff] at h
      rcases h with ⟨r, hread, hrest⟩
      rw [List.mem_cons, not_or] at hescape
      rw [ih hrest hescape.2, trailing_read hread (Ne.symm hescape.1)]

/-! ## The two levels -/

/-- In front of the subcommand, an argument other than `--` gives the slot `.config`, since this
level takes no other. -/
theorem given_config_of_read_outer (h : read .outer p arg = .ok q) (hpending : p.pending = none)
    (hescape : arg ≠ "--") : q.Given .config := by
  rcases read_cases h with ⟨harg, _⟩ | ⟨slot, hopen, _⟩ | ⟨slot, htakes, henters⟩
  · exact absurd harg hescape
  · rw [hpending] at hopen
    cases hopen
  · exact henters.given_iff.2 (Or.inr (Level.takes_outer htakes))

theorem readInner_eq_ok_iff {s : Subcommand} {args : List String} {inner : Settings} :
    readInner s args = .ok inner ↔
      ∃ p, args.foldlM (read (.inner s)) start = .ok p ∧
        ∃ q, p.settle = .ok q ∧ q.settings = inner := by
  simp only [readInner, Stop.bind_eq_ok_iff, pure, Except.pure, Except.ok.injEq]

theorem withSubcommand_eq_ok_iff {s : Subcommand} {args : List String} {i : Invocation} :
    p.withSubcommand s args = .ok i ↔
      ∃ inner, readInner s args = .ok inner ∧ ∃ command, inner.command s = .ok command ∧
        ∃ outer, p.settle = .ok outer ∧ ⟨command, inner.config <|> outer.settings.config⟩ = i := by
  simp only [withSubcommand, Stop.bind_eq_ok_iff, pure, Except.pure, Except.ok.injEq]

theorem readOuter_ne_ok_nil {i : Invocation} : p.readOuter [] ≠ .ok i := by
  intro h
  rw [readOuter, withoutSubcommand, Stop.bind_eq_ok_iff] at h
  rcases h with ⟨_, _, hstop⟩
  cases hstop

theorem readOuter_cons_cases {args : List String} {i : Invocation}
    (h : p.readOuter (arg :: args) = .ok i) :
    (∃ q, p.read .outer arg = .ok q ∧ q.readOuter args = .ok i) ∨
      ∃ s, s.name = arg ∧ p.withSubcommand s args = .ok i := by
  rw [readOuter] at h
  split at h
  · exact Or.inl (Stop.bind_eq_ok_iff.1 h)
  · split at h
    · cases h
    · split at h
      · rename_i s hname
        exact Or.inr ⟨s, Subcommand.name_of_ofName? hname, h⟩
      · exact Or.inl (Stop.bind_eq_ok_iff.1 h)

/-- If `.config` is `Given` before `readOuter` goes on, then the invocation has a configuration. -/
theorem config?_isSome_of_given {args : List String} {i : Invocation}
    (h : p.readOuter args = .ok i) (hp : p.Given .config) : i.config?.isSome = true := by
  induction args generalizing p with
  | nil =>
      exact absurd h readOuter_ne_ok_nil
  | cons arg args ih =>
      rcases readOuter_cons_cases h with ⟨q, hread, hrest⟩ | ⟨s, _, hsubcommand⟩
      · exact ih hrest (given_read hread hp)
      · rcases withSubcommand_eq_ok_iff.1 hsubcommand with ⟨inner, _, _, _, outer, hsettle, rfl⟩
        have houter : outer.settings.config.isSome = true := (isSet_settle hsettle).2 hp
        -- A configuration after the subcommand comes before this one, but is one as well.
        cases inner.config with
        | none =>
            exact houter
        | some path =>
            rfl

/-- Arguments that lead to a command without a configuration are the name of a subcommand `s` and
what `readInner s` reads. -/
theorem exists_subcommand {args : List String} {command : Command}
    (h : Invocation.ofArguments args = .ok ⟨command, none⟩) (hescape : "--" ∉ args) :
    ∃ s rest inner, args = s.name :: rest ∧ readInner s rest = .ok inner ∧
      inner.command s = .ok command ∧ inner.config = none := by
  cases args with
  | nil =>
      exact absurd h readOuter_ne_ok_nil
  | cons arg rest =>
      rcases readOuter_cons_cases h with ⟨q, hread, hrest⟩ | ⟨s, rfl, hsubcommand⟩
      · -- Anything else in front of the subcommand would give the configuration.
        have harg : arg ≠ "--" := by
          rintro rfl
          exact hescape List.mem_cons_self
        have hsome := config?_isSome_of_given hrest (given_config_of_read_outer hread rfl harg)
        cases hsome
      · rcases withSubcommand_eq_ok_iff.1 hsubcommand with
          ⟨inner, hinner, command', hcommand, outer, _, hinvocation⟩
        rw [Invocation.mk.injEq] at hinvocation
        rcases hinvocation with ⟨rfl, hconfig⟩
        refine ⟨s, rest, inner, rfl, hinner, hcommand, ?_⟩
        cases hnone : inner.config with
        | none =>
            rfl
        | some path =>
            rw [hnone] at hconfig
            cases hconfig

/-! ## The option for the configuration -/

variable {option path : String}

/-- The spellings `--config` and `-c`, without a value attached. -/
def IsConfigOption (option : String) : Prop :=
  option = "--config" ∨ option = "-c"

theorem read_configOption (hoption : IsConfigOption option) (htrailing : p.trailing = false)
    (hsettle : p.settle = .ok q) :
    read level p option = .ok { q with pending := some (.config, none) } := by
  have hopen : p.openSlot .config none = .ok { q with pending := some (.config, none) } :=
    openSlot_eq_ok_iff.2 ⟨q, hsettle, rfl⟩
  rcases hoption with rfl | rfl
  · have hlong : Argument.ofString "--config" = .long "config" none := by
      decide
    simpa [read, htrailing, hlong, readLong, readOption] using hopen
  · have hshort : Argument.ofString "-c" = .short 'c' none := by
      decide
    simpa [read, htrailing, hshort, readShort, readSwitch, readOption] using hopen

theorem ofString_of_head?_ne (hdash : path.toList.head? ≠ some '-') :
    Argument.ofString path = .word := by
  unfold Argument.ofString
  split
  · rename_i hchars
    simp [hchars] at hdash
  · rename_i hchars
    simp [hchars] at hdash
  · rename_i hchars
    simp [hchars] at hdash
  · rfl

theorem read_awaited (hdash : path.toList.head? ≠ some '-') (htrailing : q.trailing = false) :
    read level { q with pending := some (slot, none) } path =
      .ok { q with pending := some (slot, some path) } := by
  simp [read, htrailing, ofString_of_head?_ne hdash]

theorem settle_config (hpath : path ≠ "") (hconfig : q.settings.config = none) :
    settle { q with pending := some (.config, some path) } =
      .ok ⟨{ q.settings with config := some path }, none, q.trailing⟩ := by
  have hset : q.settings.set .config path = .ok { q.settings with config := some path } := by
    have hunset : q.settings.isSet .config = false := by
      rw [Settings.isSet, hconfig, Option.isSome_none]
    have hvalue : Settings.path .config path = .ok path := by
      simp [Settings.path, hpath]
    rw [Settings.set, hunset, hvalue]
    rfl
  exact Stop.bind_eq_ok_iff.2 ⟨_, hset, rfl⟩

/-- The option and its path behind the arguments of `s` set the configuration of `inner` and nothing
else. -/
theorem readInner_append_config {s : Subcommand} {args : List String} {inner : Settings}
    (h : readInner s args = .ok inner) (hconfig : inner.config = none) (hescape : "--" ∉ args)
    (hoption : IsConfigOption option) (hpath : path ≠ "") (hdash : path.toList.head? ≠ some '-') :
    readInner s (args ++ [option, path]) = .ok { inner with config := some path } := by
  rcases readInner_eq_ok_iff.1 h with ⟨p, hread, q, hsettle, rfl⟩
  have hp : p.trailing = false := trailing_foldlM_read hread hescape
  have hq : q.trailing = false := (trailing_settle hsettle).trans hp
  refine readInner_eq_ok_iff.2 ⟨_, ?_, _, settle_config hpath hconfig, rfl⟩
  -- The option settles what the arguments before it have set aside.
  rw [List.foldlM_append, Stop.bind_eq_ok_iff]
  refine ⟨p, hread, ?_⟩
  rw [List.foldlM_cons, Stop.bind_eq_ok_iff]
  refine ⟨_, read_configOption hoption hp hsettle, ?_⟩
  rw [List.foldlM_cons, Stop.bind_eq_ok_iff]
  exact ⟨_, read_awaited hdash hq, rfl⟩

/-- In front of all other arguments, the option sets `path` aside as its value before a subcommand
is looked for, even if `path` is the name of one. -/
theorem readOuter_config {args : List String} (hoption : IsConfigOption option)
    (hdash : path.toList.head? ≠ some '-') :
    start.readOuter (option :: path :: args) =
      readOuter { start with pending := some (.config, some path) } args := by
  have hname : option ≠ "help" ∧ Subcommand.ofName? option = none := by
    rcases hoption with rfl | rfl <;> decide
  have hopen : read .outer start option = .ok { start with pending := some (.config, none) } :=
    read_configOption hoption rfl rfl
  have hpath : read .outer { start with pending := some (.config, none) } path =
      .ok { start with pending := some (.config, some path) } :=
    read_awaited hdash rfl
  calc
    start.readOuter (option :: path :: args)
        = readOuter { start with pending := some (.config, none) } (path :: args) := by
          rw [readOuter, hopen]
          simp [hname.1, hname.2, start, isAwaiting, bind, Except.bind]
    _ = readOuter { start with pending := some (.config, some path) } args := by
          rw [readOuter, hpath]
          simp [start, isAwaiting, bind, Except.bind]

theorem readOuter_name {s : Subcommand} {args : List String} (htrailing : p.trailing = false)
    (hawaiting : p.isAwaiting = false) :
    p.readOuter (s.name :: args) = p.withSubcommand s args := by
  have hhelp : s.name ≠ "help" := by
    cases s <;> decide
  simp [readOuter, htrailing, hawaiting, hhelp, Subcommand.ofName?_name]

theorem command_with_config (inner : Settings) (config : Option String) (s : Subcommand) :
    Settings.command { inner with config := config } s = inner.command s := by
  cases s <;> rfl

end Progress

namespace Invocation

open Progress

/-! ## Main statement -/

/-- Let `args` hold no `--`, lead to `command` and give no configuration. Then `--config` or `-c`
with a `path`, which is not empty and does not begin with `-`, may stand in front of `args` or
behind them: either way the invocation is `command` with the configuration at `path`. -/
theorem config_on_either_side {args : List String} {command : Command} {option path : String}
    (hescape : "--" ∉ args) (hargs : ofArguments args = .ok ⟨command, none⟩)
    (hoption : option = "--config" ∨ option = "-c") (hpath : path ≠ "")
    (hdash : path.toList.head? ≠ some '-') :
    ofArguments ([option, path] ++ args) = .ok ⟨command, some path⟩ ∧
      ofArguments (args ++ [option, path]) = .ok ⟨command, some path⟩ := by
  rcases exists_subcommand hargs hescape with ⟨s, rest, inner, rfl, hinner, hcommand, hconfig⟩
  constructor
  · -- The subcommand gives no configuration of its own to take the place of this one.
    have hsettle : settle { start with pending := some (.config, some path) } = .ok _ :=
      settle_config hpath rfl
    rw [ofArguments, List.cons_append, List.cons_append, List.nil_append,
      readOuter_config hoption hdash, readOuter_name rfl rfl, withSubcommand_eq_ok_iff]
    refine ⟨inner, hinner, command, hcommand, _, hsettle, ?_⟩
    rw [hconfig]
    rfl
  · -- No command depends on the configuration.
    have hrest : "--" ∉ rest := fun hmem => hescape (List.mem_cons_of_mem _ hmem)
    have happend := readInner_append_config hinner hconfig hrest hoption hpath hdash
    rw [ofArguments, List.cons_append, readOuter_name rfl rfl, withSubcommand_eq_ok_iff]
    exact ⟨_, happend, command, (command_with_config inner _ s).trans hcommand, start, rfl, rfl⟩

/-- The network `help` and the configuration `generate-config` are named like subcommands, and read
as what they are given for. -/
theorem config_named_like_subcommand :
    ("--" ∉ ["show", "-n", "help"] ∧
      ofArguments ["show", "-n", "help"] = .ok ⟨.query (.showNetwork "help"), none⟩) ∧
    ofArguments ["-c", "generate-config", "show", "-n", "help"] =
      .ok ⟨.query (.showNetwork "help"), some "generate-config"⟩ ∧
    ofArguments ["show", "-n", "help", "--config", "generate-config"] =
      .ok ⟨.query (.showNetwork "help"), some "generate-config"⟩ := by
  have hescape : "--" ∉ ["show", "-n", "help"] := by
    decide
  have hargs : ofArguments ["show", "-n", "help"] = .ok ⟨.query (.showNetwork "help"), none⟩ := by
    rfl
  have hpath : "generate-config" ≠ "" := by
    decide
  have hdash : "generate-config".toList.head? ≠ some '-' := by
    decide
  exact ⟨⟨hescape, hargs⟩,
    (config_on_either_side hescape hargs (Or.inr rfl) hpath hdash).1,
    (config_on_either_side hescape hargs (Or.inl rfl) hpath hdash).2⟩

/-- Behind `--` the option is a word, and `check-prefix` has no place for a second one. -/
example :
    ofArguments ["check-prefix", "--", "111"] = .ok ⟨.query (.checkPrefix 111), none⟩ ∧
    ofArguments ["check-prefix", "--", "111", "-c", "nets.toml"] = .error (.unknownArgument "-c") :=
  ⟨rfl, rfl⟩

end Invocation
end ChainParams
