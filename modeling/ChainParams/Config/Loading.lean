import ChainParams.Config.Basic
import ChainParams.Report
import ChainParams.SystemError
import ChainParams.Toml.Document

/-!
# Loading — the configuration that a file holds

A configuration is TOML text in UTF-8. The file itself is read elsewhere: what is here starts from
its bytes, or from the system's reason why there are none.
-/

namespace ChainParams

inductive LoadError
  | unreadable (cause : SystemError)
  | notText
  /-- The text is not TOML, or not the TOML form of a configuration. -/
  | unparsable
  deriving DecidableEq, Repr

def LoadError.report (path : String) : LoadError → Report
  | .unreadable cause => ⟨"failed to read config " ++ path, some cause.message⟩
  | .notText => ⟨"failed to read config " ++ path, some "stream did not contain valid UTF-8"⟩
  | .unparsable => ⟨"failed to parse config " ++ path, none⟩

/-- Reads `s` as TOML, with every fault reported as `.unparsable`. -/
def Config.ofText (s : String) : Except LoadError Config :=
  match Toml.decode? s with
  | some config => .ok config
  | none => .error .unparsable

def Config.ofFile (content : Except SystemError ByteArray) : Except LoadError Config :=
  match content with
  | .error cause => .error (.unreadable cause)
  | .ok bytes =>
      match String.fromUTF8? bytes with
      | some s => Config.ofText s
      | none => .error .notText

end ChainParams
