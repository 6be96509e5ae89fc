import ChainParams.Error

/-!
# Network — the built-in networks and their names
-/

namespace ChainParams

inductive Network
  | mainnet
  | regtest
  | testnet3
  | simnet
  deriving DecidableEq, Repr, Inhabited

namespace Network

/-- The built-in networks, in the order in which they are registered. -/
def all : List Network := [mainnet, testnet3, regtest, simnet]

theorem mem_all (n : Network) : n ∈ all := by
  cases n <;> decide

def name : Network → String
  | mainnet => "mainnet"
  | regtest => "regtest"
  | testnet3 => "testnet3"
  | simnet => "simnet"

def ofName? (s : String) : Option Network :=
  all.find? fun n => n.name == s

theorem ofName?_name (n : Network) : ofName? n.name = some n := by
  cases n <;> decide

theorem name_of_ofName? {s : String} {n : Network} (h : ofName? s = some n) : n.name = s := by
  simpa using List.find?_some h

/-- The built-in network called `s`, or the error that there is none. -/
def ofName (s : String) : Except ParamsError Network :=
  match ofName? s with
  | some n => .ok n
  | none => .error (.unknownNetwork s)

end Network
end ChainParams
