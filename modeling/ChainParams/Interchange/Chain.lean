import ChainParams.Interchange.Basic
import ChainParams.Network
import ChainParams.Parameters.Basic
import ChainParams.Time.Rfc3339

/-!
# Chain — the file forms of what a chain is made of

Words stand for themselves. A hash is the list of its four limbs, the lowest first; a moment is a
text of RFC 3339; an extended key identifier is eight hexadecimal digits; a built-in network goes by
its name.
-/

namespace ChainParams

instance : Interchange Network where
  toDatum n := .text n.name
  ofDatum? dialect d := dialect.choice? Network.ofName? d

instance : Interchange NetworkMagic where
  toDatum m := toDatum m.word
  ofDatum? dialect d := (ofDatum? dialect d).map NetworkMagic.mk

instance : Interchange CompactTarget where
  toDatum c := toDatum c.word
  ofDatum? dialect d := (ofDatum? dialect d).map CompactTarget.mk

instance : Interchange Hash256 where
  toDatum h := toDatum h.word.limbs
  ofDatum? dialect d := do
    let limbs : List UInt64 ← ofDatum? dialect d
    let word ← Word256.ofLimbs? limbs
    return ⟨word⟩

instance : Interchange Timestamp where
  toDatum t := .text (Rfc3339.render t)
  ofDatum?
    | _, .text s => Rfc3339.read? s
    | _, _ => none

instance : Interchange ExtendedKeyId where
  toDatum id := .text id.toHex
  ofDatum?
    | _, .text s => ExtendedKeyId.ofHex? s
    | _, _ => none

instance : Interchange Checkpoint where
  toDatum c := .table [("height", toDatum c.height), ("hash", toDatum c.hash)]
  ofDatum? dialect d := do
    let [height, hash] ← dialect.fields? ["height", "hash"] d | none
    return { height := ← required? dialect height
             hash := ← required? dialect hash }

/-- The names of the fields of a `GenesisBlock`, in their order. -/
def GenesisBlock.fieldNames : List String :=
  ["version", "prev_block_hash", "merkle_root", "timestamp", "bits", "nonce"]

instance : Interchange GenesisBlock where
  toDatum b :=
    .table (GenesisBlock.fieldNames.zip
      [toDatum b.version, toDatum b.previous, toDatum b.merkleRoot, toDatum b.time,
        toDatum b.bits, toDatum b.nonce])
  ofDatum? dialect d := do
    let [version, previous, merkleRoot, time, bits, nonce] ←
      dialect.fields? GenesisBlock.fieldNames d | none
    return { version := ← required? dialect version
             previous := ← required? dialect previous
             merkleRoot := ← required? dialect merkleRoot
             time := ← required? dialect time
             bits := ← required? dialect bits
             nonce := ← required? dialect nonce }

end ChainParams
