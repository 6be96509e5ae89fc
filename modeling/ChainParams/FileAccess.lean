import ChainParams.SystemError

/-!
# FileAccess — reading and writing files

What the tool needs of a world with files. The operating system is one such world, and a tree of
files held as a value is another, so that one account of the tool can be run and reasoned about.
-/

namespace ChainParams

/-- Computations in `m` that can read and write whole files. -/
class FileAccess (m : Type → Type) where
  /-- The octets of the file at `path`. -/
  read (path : String) : m (Except SystemError ByteArray)
  /-- Puts `content` in place of what the file at `path` holds, and makes the file if there is
  none. -/
  write (path content : String) : m (Except SystemError Unit)

end ChainParams
