import ChainParams.Text.Hex

/-!
# ExtendedKeyId — the four bytes in front of a serialized extended key

Hierarchical wallets put four bytes in front of a serialized key. They tell private from public
keys and one network from another.
-/

namespace ChainParams

/-- The four bytes in front of a serialized extended key, in the order in which they are written. -/
structure ExtendedKeyId where
  first : UInt8
  second : UInt8
  third : UInt8
  fourth : UInt8
  deriving DecidableEq, Repr, Hashable, Inhabited

namespace ExtendedKeyId

def bytes (id : ExtendedKeyId) : List UInt8 :=
  [id.first, id.second, id.third, id.fourth]

/-- The identifier with these `bytes`, if they are four. -/
def ofBytes? : List UInt8 → Option ExtendedKeyId
  | [a, b, c, d] => some ⟨a, b, c, d⟩
  | _ => none

@[simp] theorem ofBytes?_bytes (id : ExtendedKeyId) : ofBytes? id.bytes = some id := rfl

theorem ofBytes?_eq_some_iff {bs : List UInt8} {id : ExtendedKeyId} :
    ofBytes? bs = some id ↔ bs = id.bytes := by
  constructor
  · intro h
    unfold ofBytes? at h
    split at h
    · cases h; rfl
    · cases h
  · rintro rfl
    rfl

@[simp] theorem bytes_inj {a b : ExtendedKeyId} : a.bytes = b.bytes ↔ a = b := by
  constructor
  · intro h
    have hsome : some a = some b := by
      rw [← ofBytes?_bytes a, ← ofBytes?_bytes b, h]
    exact Option.some.inj hsome
  · rintro rfl
    rfl

def toHex (id : ExtendedKeyId) : String :=
  Text.hexOfBytes id.bytes

/-- The identifier with the bytes that `bytesOfHex` reads from `s`, if they are four. -/
def ofHex? (s : String) : Option ExtendedKeyId :=
  match Text.bytesOfHex s with
  | .ok bs => ofBytes? bs
  | .error _ => none

end ExtendedKeyId
end ChainParams
