/-!
# Invocation — what the tool is asked to do

The tool answers questions about networks, or writes a configuration to start from. Only questions
look at a configuration.
-/

namespace ChainParams

/-- A question about the networks that are known. -/
inductive Query
  | showNetwork (name : String)
  | checkPrefix (byte : UInt8)
  /-- Which public key identifier belongs to this private one, given in hexadecimal? -/
  | hdPublic (magic : String)
  deriving DecidableEq, Repr

/-- What the tool can be asked to do. -/
inductive Command
  | query (q : Query)
  /-- Write a configuration to start from. -/
  | generateConfig (output : String)
  deriving DecidableEq, Repr

structure Invocation where
  command : Command
  config? : Option String
  deriving DecidableEq, Repr

/-- The path of the configuration that is to be read; `.generateConfig` reads none. -/
def Invocation.configPath? (i : Invocation) : Option String :=
  match i.command with
  | .query _ => i.config?
  | .generateConfig _ => none

end ChainParams
