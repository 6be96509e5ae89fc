import ChainParams.Text.ByteNumeral

/-!
# Usage — which arguments the tool takes

Arguments come in two levels: those before the name of a subcommand, and those after it. A level
knows some options, and at most one word that goes without an option's name. The option for the
configuration is known at both levels.
-/

namespace ChainParams

/-- What the tool can be told to do, by name. -/
inductive Subcommand
  | showNetwork
  | checkPrefix
  | hdPublic
  | generateConfig
  deriving DecidableEq, Repr

namespace Subcommand

def all : List Subcommand := [showNetwork, checkPrefix, hdPublic, generateConfig]

def name : Subcommand → String
  | showNetwork => "show"
  | checkPrefix => "check-prefix"
  | hdPublic => "hd-public"
  | generateConfig => "generate-config"

def ofName? (s : String) : Option Subcommand :=
  all.find? fun c => c.name == s

theorem ofName?_name (c : Subcommand) : ofName? c.name = some c := by
  cases c <;> decide

theorem name_of_ofName? {s : String} {c : Subcommand} (h : ofName? s = some c) : c.name = s := by
  simpa using List.find?_some h

end Subcommand

/-- What an argument can give a value to. -/
inductive Slot
  | config
  | network
  | byte
  | magic
  | output
  deriving DecidableEq, Repr

def Slot.label : Slot → String
  | config => "--config <FILE>"
  | network => "--network <NETWORK>"
  | byte => "<BYTE>"
  | magic => "<MAGIC>"
  | output => "--output <FILE>"

/-- What an option does: it asks for help or the version, or gives a `slot` its value. -/
inductive Switch
  | help
  | version
  | value (slot : Slot)
  deriving DecidableEq, Repr

/-! ## Levels -/

/-- Where an argument stands: in front of the name of a subcommand, or behind it. -/
inductive Level
  | outer
  | inner (subcommand : Subcommand)
  deriving DecidableEq, Repr

namespace Level

def longSwitch? : Level → String → Option Switch
  | _, "help" => some .help
  | _, "config" => some (.value .config)
  | outer, "version" => some .version
  | inner .showNetwork, "network" => some (.value .network)
  | inner .generateConfig, "output" => some (.value .output)
  | _, _ => none

def shortSwitch? : Level → Char → Option Switch
  | _, 'h' => some .help
  | _, 'c' => some (.value .config)
  | outer, 'V' => some .version
  | inner .showNetwork, 'n' => some (.value .network)
  | inner .generateConfig, 'o' => some (.value .output)
  | _, _ => none

@[simp] theorem longSwitch?_config (level : Level) :
    level.longSwitch? "config" = some (.value .config) := by
  cases level <;> rfl

@[simp] theorem shortSwitch?_config (level : Level) :
    level.shortSwitch? 'c' = some (.value .config) := by
  cases level <;> rfl

/-- The slot that a word without an option fills. -/
def positional? : Level → Option Slot
  | inner .checkPrefix => some .byte
  | inner .hdPublic => some .magic
  | _ => none

end Level

/-! ## Refusals -/

/-- Why a list of arguments does not lead to a `Command`. -/
inductive Stop
  | help
  | version
  | noArguments
  | unknownArgument (given : String)
  /-- The word stands where only a subcommand may stand. -/
  | unknownSubcommand (given : String)
  | missingSubcommand
  | missingArgument (slot : Slot)
  /-- The option comes without a value, or with an empty one where that is no value. -/
  | missingValue (slot : Slot)
  | surplusValue (given : String)
  | invalidByte (given : String) (cause : Text.ByteError)
  /-- The slot is given two values at one level. -/
  | repeated (slot : Slot)
  deriving DecidableEq, Repr

end ChainParams
