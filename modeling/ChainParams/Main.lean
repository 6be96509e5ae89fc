import ChainParams.Invocation.Progress
import ChainParams.Invocation.Run

/-!
# Main — the command line
-/

namespace ChainParams

/-- The system's reason for a failed operation, as text and number. -/
def SystemError.ofError : IO.Error → SystemError
  | .noFileOrDirectory _ code text | .permissionDenied _ code text | .alreadyExists _ code text
  | .interrupted _ code text | .invalidArgument _ code text | .resourceExhausted _ code text
  | .inappropriateType _ code text | .noSuchThing _ code text | .otherError code text
  | .resourceBusy code text | .resourceVanished code text | .unsupportedOperation code text
  | .hardwareFault code text | .unsatisfiedConstraints code text | .illegalOperation code text
  | .protocolError code text | .timeExpired code text => ⟨text, code.toNat⟩
  | .unexpectedEof => ⟨"unexpected end of file", 0⟩
  | .userError text => ⟨text, 0⟩

def attempt {α : Type} (operation : IO α) : IO (Except SystemError α) := do
  match ← operation.toBaseIO with
  | .ok a => return .ok a
  | .error e => return .error (SystemError.ofError e)

def getFile (path : String) : IO ByteArray :=
  IO.FS.withFile path .read fun file => file.readBinToEnd

/-- Writes `content` into the file at `path`, and waits until the system has taken it. -/
def putFile (path content : String) : IO Unit :=
  IO.FS.withFile path .write fun file => do
    file.putStr content
    file.flush

instance : FileAccess IO where
  read path := attempt (getFile path)
  write path content := attempt (putFile path content)

/-- Prints `e.stdout` and `e.stderr`, and gives the exit code. -/
def Exit.finish (e : Exit) : IO UInt32 := do
  (← IO.getStdout).putStr e.stdout
  (← IO.getStderr).putStr e.stderr
  return e.code.toUInt32

end ChainParams

/-- Carries out the invocation that `args` make up, or says why they make up none. -/
def main (args : List String) : IO UInt32 := do
  match ChainParams.Invocation.ofArguments args with
  | .ok i => (← i.run).finish
  | .error stop => stop.exit.finish
