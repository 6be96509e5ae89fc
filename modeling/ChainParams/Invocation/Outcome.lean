import ChainParams.Config.Enrollment
import ChainParams.Config.Loading
import ChainParams.Config.Sample
import ChainParams.Invocation.Basic
import ChainParams.Invocation.Help
import ChainParams.Parameters.Summary

/-!
# Outcome — what an invocation comes to

A question is answered from the built-in networks and those of the configuration. If the
configuration cannot be loaded, or one of its networks cannot be registered, no question is
answered. Files are read and written elsewhere: the content of the configuration comes in, and a
text to be written goes out.

Log lines have no place in an `Outcome` and in the `Exit` that it leads to. The notices of an
enrollment, which the tool logs as warnings, are dropped in `Config.answer`.
-/

namespace ChainParams

inductive Outcome
  | print (text : String)
  | write (path content : String)
  | fail (report : Report)
  deriving DecidableEq, Repr

/-! ## Questions -/

/-- The text that `checkPrefix b` prints: for each kind of address, whether `b` opens one. -/
def Registry.prefixReport (r : Registry) (b : UInt8) : String :=
  "prefix " ++ Text.byteLiteral b ++ "\n" ++
    "  pubkey hash: " ++ toString (r.isPubkeyHashPrefix b) ++ "\n" ++
    "  script hash: " ++ toString (r.isScriptHashPrefix b) ++ "\n" ++
    "  aztec:       " ++ toString (r.isAztecPrefix b) ++ "\n"

/-- The public key identifier for the private one that `magic` spells, in hexadecimal. -/
def Registry.publicHex (r : Registry) (magic : String) : Except Report String :=
  match Text.bytesOfHex magic with
  | .error cause => .error ⟨"invalid hex " ++ Text.quoted magic, some cause.message⟩
  | .ok bytes =>
      match r.publicIdOf bytes with
      | .error e => .error ⟨e.message, none⟩
      | .ok id => .ok id.toHex

/-- The answer to a question, from the registry `r` and the networks `customs` of the
configuration. -/
def Query.answer (r : Registry) (customs : List Parameters) : Query → Except Report String
  | .showNetwork name => (findNetwork customs name).map fun p => p.summary ++ "\n"
  | .checkPrefix b => .ok (r.prefixReport b)
  | .hdPublic magic => (r.publicHex magic).map (· ++ "\n")

/-! ## Invocations -/

/-- The configuration with this `content`, or one without networks where `path?` is `none`. -/
def Config.loaded (path? : Option String) (content : Except SystemError ByteArray) :
    Except Report Config :=
  match path? with
  | none => .ok ⟨[]⟩
  | some path => (Config.ofFile content).mapError (LoadError.report path)

def Config.answer (config : Config) (q : Query) : Except Report String :=
  let enrollment := Registry.builtin.enroll config.customNetworks
  match enrollment.result with
  | .error e => .error e.report
  | .ok customs => q.answer enrollment.registry customs

/-- What an invocation comes to, where `content` is what its configuration file holds. -/
def Invocation.outcome (i : Invocation) (content : Except SystemError ByteArray) : Outcome :=
  match i.command with
  | .generateConfig path => .write path Config.sample.toToml
  | .query q =>
      match Config.loaded i.config? content >>= fun config => config.answer q with
      | .ok text => .print text
      | .error report => .fail report

/-- How the tool ends, where `written` says whether the file could be written. -/
def Outcome.exit (written : Except SystemError Unit) : Outcome → Exit
  | .print text => ⟨0, text, ""⟩
  | .fail report => ⟨1, "", report.print⟩
  | .write _ _ =>
      match written with
      | .ok () => ⟨0, "", ""⟩
      | .error e => ⟨1, "", (Report.mk e.message none).print⟩

end ChainParams
