import Std.Data.HashMap
import Std.Data.HashSet
import ChainParams.Catalog
import ChainParams.Error

/-!
# Registry — the bytes that belong to registered networks

A registry is filled once and then answers which bytes belong to a registered network. A network is
registered under its magic, and only once; the prefixes of its addresses may be shared. A private
key identifier that two networks use leads to the public one of the later network, and the change
is reported.
-/

namespace ChainParams

/-- Something that `register` reports beside its result. -/
inductive Notice
  /-- The network was not registered, as its magic is taken. -/
  | alreadyRegistered (network : String) (magic : NetworkMagic)
  /-- The private key identifier led to another public one before. -/
  | keyRemapped (network : String) (privateId previous : ExtendedKeyId)
  deriving DecidableEq, Repr

def Notice.message : Notice → String
  | .alreadyRegistered _ _ => "network already registered"
  | .keyRemapped _ _ _ => "hd private key magic remapped"

/-- The values that a notice names, each under the word that stands for it. -/
def Notice.details : Notice → List (String × String)
  | .alreadyRegistered network magic => [("network", network), ("magic", magic.render)]
  | .keyRemapped network privateId previous =>
      [("network", network), ("private", privateId.toHex), ("previous", previous.toHex)]

structure Registry where
  networks : Std.HashSet NetworkMagic
  pubkeyHashPrefixes : Std.HashSet UInt8
  scriptHashPrefixes : Std.HashSet UInt8
  aztecPrefixes : Std.HashSet UInt8
  /-- The public key identifier for each private one. -/
  publicIds : Std.HashMap ExtendedKeyId ExtendedKeyId

namespace Registry

/-- What comes of `register`: the registry afterwards, the result, and a notice if there is one. -/
structure Registration where
  registry : Registry
  result : Except ParamsError Unit
  notice? : Option Notice

def empty : Registry := ⟨∅, ∅, ∅, ∅, ∅⟩

instance : Inhabited Registry := ⟨empty⟩

/-! ## Questions -/

def isRegistered (r : Registry) (magic : NetworkMagic) : Bool :=
  r.networks.contains magic

/-- Whether `b` opens the public key hash addresses of a registered network. -/
def isPubkeyHashPrefix (r : Registry) (b : UInt8) : Bool :=
  r.pubkeyHashPrefixes.contains b

def isScriptHashPrefix (r : Registry) (b : UInt8) : Bool :=
  r.scriptHashPrefixes.contains b

def isAztecPrefix (r : Registry) (b : UInt8) : Bool :=
  r.aztecPrefixes.contains b

/-- The public key identifier for the private one with the bytes `id`, a list of any length. -/
def publicIdOf (r : Registry) (id : List UInt8) : Except ParamsError ExtendedKeyId :=
  match (ExtendedKeyId.ofBytes? id).bind fun key => r.publicIds[key]? with
  | some publicId => .ok publicId
  | none => .error .unknownKeyId

def size (r : Registry) : Nat :=
  r.networks.size

def isEmpty (r : Registry) : Bool :=
  r.networks.isEmpty

/-! ## Registration -/

/-- The registry `r` with the network of `p` entered under its magic, prefixes and key
identifiers. -/
def enter (r : Registry) (p : Parameters) : Registry :=
  { networks := r.networks.insert p.networkMagic
    pubkeyHashPrefixes := r.pubkeyHashPrefixes.insert p.pubkeyHashPrefix
    scriptHashPrefixes := r.scriptHashPrefixes.insert p.scriptHashPrefix
    -- Zero says that a network has no Aztec addresses.
    aztecPrefixes :=
      if p.aztecPrefix = 0 then r.aztecPrefixes else r.aztecPrefixes.insert p.aztecPrefix
    publicIds := r.publicIds.insert p.hdPrivateId p.hdPublicId }

/-- The notice that the `hdPrivateId` of `p` led to another public identifier so far. -/
def remapping? (r : Registry) (p : Parameters) : Option Notice :=
  match r.publicIds[p.hdPrivateId]? with
  | some previous =>
      if previous = p.hdPublicId then none
      else some (.keyRemapped p.name p.hdPrivateId previous)
  | none => none

/-- Registers the network of `p` under its magic. The parameters are not checked for anything
else. -/
def register (r : Registry) (p : Parameters) : Registration :=
  -- A magic that is taken leaves the registry as it is.
  if r.isRegistered p.networkMagic then
    { registry := r
      result := .error (.duplicateNetwork p.networkMagic)
      notice? := some (.alreadyRegistered p.name p.networkMagic) }
  else
    { registry := r.enter p
      result := .ok ()
      notice? := r.remapping? p }

/-- The registry `r` after `register` for each network of `ps`, in their order. -/
def registerAll (r : Registry) (ps : List Parameters) : Registry :=
  ps.foldl (fun r p => (r.register p).registry) r

def builtin : Registry :=
  empty.registerAll catalog

end Registry
end ChainParams
