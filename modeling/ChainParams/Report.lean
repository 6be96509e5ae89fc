/-!
# Report — a failure and what caused it
-/

namespace ChainParams

/-- What the tool says of a failure: what could not be done, and in `cause?` why, where that is
known. -/
structure Report where
  message : String
  cause? : Option String
  deriving DecidableEq, Repr

namespace Report

def inline (r : Report) : String :=
  match r.cause? with
  | some cause => r.message ++ ": " ++ cause
  | none => r.message

/-- The report `r` as the tool prints it at its end. -/
def print (r : Report) : String :=
  match r.cause? with
  | some cause => "Error: " ++ r.message ++ "\n\nCaused by:\n    " ++ cause ++ "\n"
  | none => "Error: " ++ r.message ++ "\n"

end Report
end ChainParams
