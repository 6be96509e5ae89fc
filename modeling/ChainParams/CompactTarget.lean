import ChainParams.Error
import ChainParams.Word256

/-!
# CompactTarget — proof of work targets packed into 32 bits

A compact target is a floating point number in base 256. The high byte of the word is the exponent,
the low 23 bits are the mantissa, and the bit between them is a sign. The target is
`mantissa * 256 ^ (exponent - 3)`, rounded down. `toTarget?` unpacks a word that is not negative
and does not reach `2 ^ 256`; `ofTarget` packs a target, cutting it to the precision of a mantissa
whose sign bit is clear.
-/

namespace ChainParams

structure CompactTarget where
  word : UInt32
  deriving DecidableEq, Repr, Hashable, Inhabited

namespace CompactTarget

/-! ## Parts of the word -/

/-- Bits 24 to 31 of `word`, the number of bytes of the target. -/
def exponent (c : CompactTarget) : Nat :=
  c.word.toNat / 0x1000000

/-- Bits 0 to 22 of `word`, the leading bytes of the target. -/
def mantissa (c : CompactTarget) : Nat :=
  c.word.toNat % 0x800000

/-- Whether bit 23 of `word` is set. -/
def signBit (c : CompactTarget) : Bool :=
  c.word.toNat / 0x800000 % 2 == 1

def pack (exponent mantissa : Nat) : CompactTarget :=
  ⟨UInt32.ofNat (exponent * 0x1000000 + mantissa)⟩

/-- Whether `exponent` moves a byte of `mantissa` past bit 255. A mantissa of one, two or three
bytes has room up to the exponent 34, 33 or 32. -/
def overflows (c : CompactTarget) : Bool :=
  c.mantissa ≠ 0 ∧
    (34 < c.exponent ∨ (0xff < c.mantissa ∧ 33 < c.exponent) ∨
      (0xffff < c.mantissa ∧ 32 < c.exponent))

/-! ## Unpacking and packing -/

/-- The target that `c` stands for, unless `c` is negative or `overflows`. -/
def toTarget? (c : CompactTarget) : Option Word256 :=
  -- A mantissa of zero stands for zero under every sign and exponent.
  if c.mantissa ≠ 0 ∧ c.signBit = true then none
  else if c.overflows then none
  else if c.exponent ≤ 3 then some (BitVec.ofNat 256 (c.mantissa >>> (8 * (3 - c.exponent))))
  else some (BitVec.ofNat 256 c.mantissa <<< (8 * (c.exponent - 3)))

/-- The number of bytes up to the highest one of `t` that is not zero. -/
def byteLength (t : Word256) : Nat :=
  (t.bitLength + 7) / 8

/-- The three leading bytes of `t`, which has `size` bytes. -/
def leadingBytes (t : Word256) (size : Nat) : Nat :=
  if size ≤ 3 then t.toNat <<< (8 * (3 - size)) else t.toNat >>> (8 * (size - 3))

/-- Packs `t`, cutting off what the mantissa cannot hold. -/
def ofTarget (t : Word256) : CompactTarget :=
  if t = 0 then ⟨0⟩
  else
    let size := byteLength t
    let leading := leadingBytes t size
    -- Where the leading byte would set the sign bit, one byte less is kept.
    if 0x800000 ≤ leading then pack (size + 1) (leading / 256) else pack size leading

/-- The word of `c` as `0x` and eight hexadecimal digits. -/
def render (c : CompactTarget) : String :=
  Text.wordLiteral c.word

end CompactTarget

/-- Reads a proof of work limit with `Word256.ofHex`; every error becomes `.invalidHex`. -/
def powLimitOfHex (s : String) : Except ParamsError Word256 :=
  match Word256.ofHex s with
  | .ok w => .ok w
  | .error _ => .error .invalidHex

end ChainParams
