import ChainParams.Invocation.Argument
import ChainParams.Invocation.Settings

/-!
# Progress — reading the arguments from left to right

At each level the arguments are read one by one. A word is set aside first, and settled when the
next option or the next word of its own begins, or at the end of the level; so of two faults the
earlier one is reported, unless the later one is an argument that the level does not know. A value
that is attached to its option is settled with it. The arguments after the name of a subcommand are
read before what is left over from those in front of it is settled.
-/

namespace ChainParams

/-- How far the arguments of one level have been read. -/
structure Progress where
  settings : Settings
  /-- The slot that was opened last, with its value if that has been read. -/
  pending : Option (Slot × Option String)
  /-- Whether `--` has been read, so that all arguments are words. -/
  trailing : Bool
  deriving DecidableEq, Repr

namespace Progress

def start : Progress := ⟨Settings.empty, none, false⟩

/-- Gives the slot in `pending` its value, which fails if none has been read. -/
def settle (p : Progress) : Except Stop Progress :=
  match p.pending with
  | none => .ok p
  | some (slot, none) => .error (.missingValue slot)
  | some (slot, some given) => do
      return { p with settings := ← p.settings.set slot given, pending := none }

def isAwaiting (p : Progress) : Bool :=
  match p.pending with
  | some (_, none) => true
  | _ => false

/-- Settles what was pending, and puts `slot` in its place with the value `given`, if there is
one. -/
def openSlot (p : Progress) (slot : Slot) (given : Option String) : Except Stop Progress := do
  return { ← p.settle with pending := some (slot, given) }

def fillSlot (p : Progress) (slot : Slot) (given : String) : Except Stop Progress := do
  let p ← p.settle
  return { p with settings := ← p.settings.set slot given }

/-! ## Arguments -/

/-- Reads an option for `slot`: a value that came with it fills the slot, and otherwise the slot is
left open. -/
def readOption (p : Progress) (slot : Slot) : Option String → Except Stop Progress
  | some given => p.fillSlot slot given
  | none => p.openSlot slot none

/-- Reads an option that does what the switch says. -/
def readSwitch (p : Progress) (attached : Option String) : Switch → Except Stop Progress
  | .value slot => p.readOption slot attached
  -- What came with an option that takes no value is not looked at.
  | .help => do
      let _ ← p.settle
      .error .help
  | .version => do
      let _ ← p.settle
      .error .version

/-- Reads an option that is named in full. Unlike `readShort`, it refuses a value for help and
version. -/
def readLong (p : Progress) (attached : Option String) (arg : String) :
    Option Switch → Except Stop Progress
  | none => .error (.unknownArgument arg)
  | some (.value slot) => p.readOption slot attached
  | some switch =>
      match attached with
      | some given => .error (.surplusValue given)
      | none => p.readSwitch none switch

def readShort (p : Progress) (attached : Option String) (arg : String) :
    Option Switch → Except Stop Progress
  | none => .error (.unknownArgument arg)
  | some switch => p.readSwitch attached switch

/-- Why the level has no place for the word `arg`. -/
def strayWord (p : Progress) (arg : String) : Level → Stop
  | .inner _ => .unknownArgument arg
  | .outer =>
      -- A word should be a subcommand here; behind two dashes it is none even with the right name.
      if p.trailing ∧ (arg = "help" ∨ (Subcommand.ofName? arg).isSome) then .unknownArgument arg
      else .unknownSubcommand arg

def readWord (p : Progress) (level : Level) (arg : String) : Except Stop Progress :=
  match level.positional? with
  | none => .error (p.strayWord arg level)
  | some slot =>
      if p.settings.isSet slot ∨ p.pending.map Prod.fst = some slot then
        .error (p.strayWord arg level)
      else p.openSlot slot (some arg)

def read (level : Level) (p : Progress) (arg : String) : Except Stop Progress :=
  if p.trailing then p.readWord level arg
  else
    match Argument.ofString arg with
    | .escape => .ok { p with trailing := true }
    | .long name attached => p.readLong attached arg (level.longSwitch? name)
    | .short letter attached => p.readShort attached arg (level.shortSwitch? letter)
    | .word =>
        -- An option that waits for its value takes whatever word comes next.
        match p.pending with
        | some (slot, none) => .ok { p with pending := some (slot, some arg) }
        | _ => p.readWord level arg

/-! ## Levels -/

/-- The settings that the arguments behind the name of `s` give. -/
def readInner (s : Subcommand) (args : List String) : Except Stop Settings := do
  let p ← args.foldlM (read (.inner s)) start
  return (← p.settle).settings

/-- What `help` with these names behind it ends with. The subcommands have none of their own. -/
def helpOn : List String → Stop
  | [] => .help
  | name :: more =>
      if name = "help" ∨ (Subcommand.ofName? name).isSome then
        match more with
        | [] => .help
        | name :: _ => .unknownSubcommand name
      else .unknownSubcommand name

def withoutSubcommand (p : Progress) : Except Stop Invocation := do
  let p ← p.settle
  .error (if p.settings = Settings.empty then .noArguments else .missingSubcommand)

/-- The subcommand `s` with `args` behind it. A configuration that these give takes the place of one
that was given in front. -/
def withSubcommand (p : Progress) (s : Subcommand) (args : List String) :
    Except Stop Invocation := do
  let inner ← readInner s args
  let command ← inner.command s
  let outer ← p.settle
  return ⟨command, inner.config <|> outer.settings.config⟩

/-- Reads the arguments that are left at the outer level, up to the name of a subcommand, and goes
on with `withSubcommand`. -/
def readOuter (p : Progress) : List String → Except Stop Invocation
  | [] => p.withoutSubcommand
  | arg :: rest =>
      if p.trailing ∨ p.isAwaiting then do readOuter (← p.read .outer arg) rest
      else if arg = "help" then .error (helpOn rest)
      else
        match Subcommand.ofName? arg with
        | some s => p.withSubcommand s rest
        | none => do readOuter (← p.read .outer arg) rest

end Progress

/-- The invocation that `args` make up, read from `Progress.start`. -/
def Invocation.ofArguments (args : List String) : Except Stop Invocation :=
  Progress.start.readOuter args

end ChainParams
