/-!
# Datum — data as a file format holds it

The shape that JSON and TOML share: scalars, lists, and tables of named members in the order in
which they were written. A table may name a member twice; what that means is up to the reader of
the record. Numbers with a fraction, dates and other scalars that no record of this library asks
for are kept as they were written.
-/

namespace ChainParams

inductive Datum
  | null
  | bool (value : Bool)
  | integer (value : Int)
  /-- Any other scalar, as it was written. -/
  | scalar (literal : String)
  | text (value : String)
  /-- A text, or a table with a name, that holds half of a surrogate pair and so is no sequence of
  characters. -/
  | unpaired
  | list (items : List Datum)
  | table (members : List (String × Datum))
  deriving Inhabited

end ChainParams
