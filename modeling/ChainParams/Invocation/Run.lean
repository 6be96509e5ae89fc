import ChainParams.FileAccess
import ChainParams.Invocation.Outcome

/-!
# Run — carrying out an invocation

The configuration is read first and its outcome carried out afterwards, in any world with files.
-/

namespace ChainParams

/-- Carries out `i` in the world of `m`: reads the configuration at `configPath?`, writes the file
that comes of it, and says how the tool ends. -/
def Invocation.run {m : Type → Type} [Monad m] [FileAccess m] (i : Invocation) : m Exit := do
  let content ← match i.configPath? with
    | some path => FileAccess.read path
    | none => pure (.error .notFound)
  let outcome := i.outcome content
  let written ← match outcome with
    | .write path text => FileAccess.write path text
    | .print _ | .fail _ => pure (.ok ())
  return outcome.exit written

end ChainParams
