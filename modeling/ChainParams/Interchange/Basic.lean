import ChainParams.Datum

/-!
# Interchange — values as data and back

A type that files can hold says how its values are written as data and read from data. Reading
takes a dialect, as the formats differ in what they accept: a record may come as a table of its
fields or as a list of them in order, and a choice without content as a text or as a table with one
member. Members that no field asks for are passed over, and a field given twice is refused.
-/

namespace ChainParams

/-- What a file format accepts for records and choices. -/
structure Dialect where
  /-- Whether a record written as a list may have items after its last field. -/
  surplusItems : Bool
  /-- Whether a value may stand for "no content" behind the name of a choice. -/
  isUnit : Datum → Bool

/-- A type `α` whose values files can hold, as data that `toDatum` makes and `ofDatum?` reads. -/
class Interchange (α : Type) where
  toDatum : α → Datum
  ofDatum? : Dialect → Datum → Option α

export Interchange (toDatum ofDatum?)

/-! ## Records -/

/-- The value of the member `name`: `none` inside where it is missing, and failure where it is
repeated. -/
def member? (members : List (String × Datum)) (name : String) : Option (Option Datum) :=
  match members.filter fun m => m.1 == name with
  | [] => some none
  | [m] => some (some m.2)
  | _ => none

/-- The values given for the fields `names` of a record, in their order, with `none` for a field
that is left out. -/
def Dialect.fields? (dialect : Dialect) (names : List String) : Datum → Option (List (Option Datum))
  | .table members => names.mapM (member? members)
  | .list items =>
      -- A list that is too short leaves the last fields out.
      if names.length < items.length ∧ dialect.surplusItems = false then none
      else some ((List.range names.length).map fun i => items[i]?)
  | _ => none

section Fields

variable {α : Type} [Interchange α] (dialect : Dialect)

def required? (given : Option Datum) : Option α :=
  given.bind (ofDatum? dialect)

/-- Reads a field that is `default` where it is left out. -/
def withDefault? (default : α) : Option Datum → Option α
  | none => some default
  | some d => ofDatum? dialect d

/-- Reads a field that may be left out, or given as `.null`. -/
def optional? : Option Datum → Option (Option α)
  | none => some none
  | some .null => some none
  | some d => (ofDatum? dialect d).map some

end Fields

/-- The choice that data names, by `ofName?`: a text, or a table with one member of this name and
no content. -/
def Dialect.choice? {α : Type} (dialect : Dialect) (ofName? : String → Option α) :
    Datum → Option α
  | .text s => ofName? s
  | .table [(s, content)] => if dialect.isUnit content then ofName? s else none
  | _ => none

/-! ## Scalars and lists -/

/-- An integer from zero up to, and without, `size`. -/
def natural? (size : Nat) : Datum → Option Nat
  | .integer n => if 0 ≤ n ∧ n < Int.ofNat size then some n.toNat else none
  | _ => none

instance : Interchange UInt8 where
  toDatum n := .integer (Int.ofNat n.toNat)
  ofDatum? _ d := (natural? UInt8.size d).map UInt8.ofNat

instance : Interchange UInt16 where
  toDatum n := .integer (Int.ofNat n.toNat)
  ofDatum? _ d := (natural? UInt16.size d).map UInt16.ofNat

instance : Interchange UInt32 where
  toDatum n := .integer (Int.ofNat n.toNat)
  ofDatum? _ d := (natural? UInt32.size d).map UInt32.ofNat

instance : Interchange UInt64 where
  toDatum n := .integer (Int.ofNat n.toNat)
  ofDatum? _ d := (natural? UInt64.size d).map UInt64.ofNat

instance : Interchange Int32 where
  toDatum n := .integer n.toInt
  ofDatum?
    | _, .integer n =>
        if -2147483648 ≤ n ∧ n ≤ 2147483647 then some (Int32.ofInt n) else none
    | _, _ => none

instance : Interchange String where
  toDatum s := .text s
  ofDatum?
    | _, .text s => some s
    | _, _ => none

instance {α : Type} [Interchange α] : Interchange (List α) where
  toDatum xs := .list (xs.map toDatum)
  ofDatum?
    | dialect, .list xs => xs.mapM (ofDatum? dialect)
    | _, _ => none

end ChainParams
