import ChainParams.Catalog
import ChainParams.Interchange.Chain

/-!
# Config — networks of one's own

A configuration lists networks that are made from built-in ones. Such a network says what makes its
messages, addresses and keys its own, and inherits everything else.
-/

namespace ChainParams

/-- A network made from the built-in network `base`. -/
structure CustomNetwork where
  name : String
  base : Network
  magic : NetworkMagic
  pubkeyHashPrefix : UInt8
  scriptHashPrefix : UInt8
  /-- The first byte of an Aztec address, or zero for a network without them. -/
  aztecPrefix : UInt8
  privateKeyPrefix : UInt8
  hdPrivateId : ExtendedKeyId
  hdPublicId : ExtendedKeyId
  hdCoinType : UInt32
  defaultPort : Option UInt16
  deriving DecidableEq, Repr

structure Config where
  customNetworks : List CustomNetwork
  deriving DecidableEq, Repr, Inhabited

/-- All parameters of `c`: its own fields, and those of `c.base` for the rest. -/
def CustomNetwork.parameters (c : CustomNetwork) : Parameters :=
  { c.base.parameters with
    name := c.name
    networkMagic := c.magic
    defaultPort := c.defaultPort.getD c.base.parameters.defaultPort
    pubkeyHashPrefix := c.pubkeyHashPrefix
    scriptHashPrefix := c.scriptHashPrefix
    aztecPrefix := c.aztecPrefix
    privateKeyPrefix := c.privateKeyPrefix
    hdPrivateId := c.hdPrivateId
    hdPublicId := c.hdPublicId
    hdCoinType := c.hdCoinType }

/-! ## File forms -/

def CustomNetwork.fieldNames : List String :=
  ["name", "base", "magic", "pubkey_hash_prefix", "script_hash_prefix", "aztec_prefix",
    "private_key_prefix", "hd_private_magic", "hd_public_magic", "hd_coin_type", "default_port"]

/-- On reading, `aztec_prefix` may be left out and is zero then. On writing, `default_port` is left
out where there is none. -/
instance : Interchange CustomNetwork where
  toDatum c :=
    .table (CustomNetwork.fieldNames.zip
      ([toDatum c.name, toDatum c.base, toDatum c.magic, toDatum c.pubkeyHashPrefix,
        toDatum c.scriptHashPrefix, toDatum c.aztecPrefix, toDatum c.privateKeyPrefix,
        toDatum c.hdPrivateId, toDatum c.hdPublicId, toDatum c.hdCoinType] ++
        c.defaultPort.toList.map toDatum))
  ofDatum? dialect d := do
    let [name, base, magic, pubkeyHashPrefix, scriptHashPrefix, aztecPrefix, privateKeyPrefix,
        hdPrivateId, hdPublicId, hdCoinType, defaultPort] ←
      dialect.fields? CustomNetwork.fieldNames d | none
    return { name := ← required? dialect name
             base := ← required? dialect base
             magic := ← required? dialect magic
             pubkeyHashPrefix := ← required? dialect pubkeyHashPrefix
             scriptHashPrefix := ← required? dialect scriptHashPrefix
             aztecPrefix := ← withDefault? dialect 0 aztecPrefix
             privateKeyPrefix := ← required? dialect privateKeyPrefix
             hdPrivateId := ← required? dialect hdPrivateId
             hdPublicId := ← required? dialect hdPublicId
             hdCoinType := ← required? dialect hdCoinType
             defaultPort := ← optional? dialect defaultPort }

instance : Interchange Config where
  toDatum c := .table [("custom_networks", toDatum c.customNetworks)]
  ofDatum? dialect d := do
    let [customNetworks] ← dialect.fields? ["custom_networks"] d | none
    return { customNetworks := ← withDefault? dialect [] customNetworks }

end ChainParams
