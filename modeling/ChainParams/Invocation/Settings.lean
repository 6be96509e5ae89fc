import ChainParams.Invocation.Basic
import ChainParams.Invocation.Usage

/-!
# Settings — the values given at one level

A slot takes one value. Paths are not empty, and a byte is given as a numeral.
-/

namespace ChainParams

/-- The values that the arguments of one level give, one for each `Slot` at most. -/
structure Settings where
  config : Option String
  network : Option String
  byte : Option UInt8
  magic : Option String
  output : Option String
  deriving DecidableEq, Repr

namespace Settings

def empty : Settings := ⟨none, none, none, none, none⟩

def isSet (s : Settings) : Slot → Bool
  | .config => s.config.isSome
  | .network => s.network.isSome
  | .byte => s.byte.isSome
  | .magic => s.magic.isSome
  | .output => s.output.isSome

def path (slot : Slot) (given : String) : Except Stop String :=
  if given.isEmpty then .error (.missingValue slot) else .ok given

def byteOf (given : String) : Except Stop UInt8 :=
  match Text.byteOfNumeral given with
  | .ok b => .ok b
  | .error cause => .error (.invalidByte given cause)

def set (s : Settings) (slot : Slot) (given : String) : Except Stop Settings :=
  if s.isSet slot then .error (.repeated slot)
  else
    match slot with
    | .config => return { s with config := some (← path slot given) }
    | .network => return { s with network := some given }
    | .byte => return { s with byte := some (← byteOf given) }
    | .magic => return { s with magic := some given }
    | .output => return { s with output := some (← path slot given) }

/-- The command that a subcommand and the settings `s` behind its name make up. -/
def command (s : Settings) : Subcommand → Except Stop Command
  | .showNetwork => .ok (.query (.showNetwork (s.network.getD "mainnet")))
  | .checkPrefix =>
      match s.byte with
      | some b => .ok (.query (.checkPrefix b))
      | none => .error (.missingArgument .byte)
  | .hdPublic =>
      match s.magic with
      | some magic => .ok (.query (.hdPublic magic))
      | none => .error (.missingArgument .magic)
  | .generateConfig => .ok (.generateConfig (s.output.getD "netparams.toml"))

end Settings
end ChainParams
