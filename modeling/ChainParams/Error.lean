import ChainParams.NetworkMagic

/-!
# Error — what can be wrong with network parameters
-/

namespace ChainParams

/-- What can be wrong when parameters are read, checked, registered or looked up. -/
inductive ParamsError
  | duplicateNetwork (magic : NetworkMagic)
  /-- The bytes are no private key identifier of a registered network. -/
  | unknownKeyId
  /-- The text is not the form of a 256-bit hash. -/
  | invalidHash
  /-- The text is not a hexadecimal numeral of a 256-bit word. -/
  | invalidHex
  | invalidParameters (reason : String)
  | unknownNetwork (name : String)
  deriving DecidableEq, Repr

def ParamsError.message : ParamsError → String
  | .duplicateNetwork magic => "duplicate network " ++ magic.render
  | .unknownKeyId => "unknown hd private extended key bytes"
  | .invalidHash => "Invalid hash"
  | .invalidHex => "Invalid hex string"
  | .invalidParameters reason => "Invalid network parameters: " ++ reason
  | .unknownNetwork name => "Unknown network: " ++ name

end ChainParams
