/-!
# SystemError — what the operating system says of a file
-/

namespace ChainParams

/-- Why the operating system does not let a file be read or written. -/
structure SystemError where
  description : String
  code : Nat
  deriving DecidableEq, Repr

namespace SystemError

def message (e : SystemError) : String :=
  e.description ++ " (os error " ++ toString e.code ++ ")"

def notFound : SystemError := ⟨"No such file or directory", 2⟩

def notDirectory : SystemError := ⟨"Not a directory", 20⟩

def isDirectory : SystemError := ⟨"Is a directory", 21⟩

/-- The path, or a name in it, has too many octets. -/
def nameTooLong : SystemError := ⟨"File name too long", 36⟩

end SystemError
end ChainParams
