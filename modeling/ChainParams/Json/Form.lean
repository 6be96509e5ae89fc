import ChainParams.Interchange.Basic
import ChainParams.Json.Reader
import ChainParams.Json.Writer

/-!
# Form — values as JSON text

A record written as a list has no more items than fields, and "no content" is null.
-/

namespace ChainParams
namespace Json

/-- What JSON accepts for records and choices: no surplus items, and only `null` for no content. -/
def dialect : Dialect where
  surplusItems := false
  isUnit
    | .null => true
    | _ => false

def encode {α : Type} [Interchange α] (a : α) : String :=
  render (toDatum a)

def decode? {α : Type} [Interchange α] (s : String) : Option α :=
  (read? s).bind (ofDatum? dialect)

end Json
end ChainParams
