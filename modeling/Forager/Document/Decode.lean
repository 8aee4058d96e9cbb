import Forager.Document.Settled

/-!
# Reading values out of documents

Decoders for plain values, lists and the fields of records. A decoder answers `none` for a
document that does not have the form it wants. A blank counts as an empty list, as a record
without fields and as an absent optional value, and as nothing else; `null` counts as an absent
optional value only. A plain scalar is taken for what is wanted. Unknown fields are ignored, a
repeated known field is refused.

A *loose* reader also takes a record as the list of its values in the order of its fields, or with
fields that are numbered in this order from zero.

`Form` says how a source writes values for which there is a choice.
-/
namespace Forager

/-- How values appear in the documents of a source. -/
structure Form where
  /-- The document of a single-precision number. -/
  write : Float32 → Document
  /-- The number that a text stands for, for forms that write numbers as text. -/
  ofText? : String → Option Float32
  /-- Whether records are read loosely. -/
  loose : Bool := false
  /-- How many levels of lists and records an item may have. -/
  itemDepth : Nat

namespace Form

/-- Numbers are written as shortest decimals, never as text. What is read without knowing what is
wanted may reach down to level 128 of a file; the items are below its fifth. -/
def decimal : Form :=
  { write := fun x => .number (.ofSingle x), ofText? := fun _ => none, itemDepth := 128 - 5 }

/-- The form of what an item holds. -/
def inItem (form : Form) : Form := { form with loose := true }

end Form

namespace Decode

variable {α : Type}

def bool : Document → Option Bool
  | .bool b => some b
  | .plain s => Plain.bool? s
  | _ => none

def text : Document → Option String
  | .text s => some s
  | .plain s => some s
  | _ => none

/-- The number if it is from `low` up to, but without, `high`. -/
def between (low high n : Int) : Option Int := if low ≤ n ∧ n < high then some n else none

/-- An integer from `low` up to, but without, `high`. -/
def integer (low high : Int) : Document → Option Int
  | .number (.integer n) => between low high n
  | .plain s => (Plain.integer? s).bind (between low high)
  | _ => none

/-- A natural number below `bound`. A minus sign is refused even before zero where the number is
still to be made out. -/
def natBelow (bound : Nat) : Document → Option Nat
  | .number (.integer n) => (between 0 bound n).map (·.toNat)
  | .plain s => (Plain.natural? s).bind fun n => if n < bound then some n else none
  | _ => none

def uint8 (d : Document) : Option UInt8 := (natBelow UInt8.size d).map .ofNat

def uint32 (d : Document) : Option UInt32 := (natBelow UInt32.size d).map .ofNat

def uint64 (d : Document) : Option UInt64 := (natBelow UInt64.size d).map .ofNat

def int32 (d : Document) : Option Int32 := (integer (-0x80000000) 0x80000000 d).map .ofInt

def int64 (d : Document) : Option Int64 :=
  (integer (-0x8000000000000000) 0x8000000000000000 d).map .ofInt

/-- A count or an index. -/
def index (d : Document) : Option Nat := natBelow UInt64.size d

def single (form : Form) : Document → Option Float32
  | .number n => some n.toSingle
  | .text s => form.ofText? s
  | .plain s => (Plain.decimal? s).map (·.toSingle)
  | _ => none

def list (decode : Document → Option α) : Document → Option (List α)
  | .list items => items.mapM decode
  | .blank => some []
  | _ => none

def optional (decode : Document → Option α) : Document → Option (Option α)
  | .null => some none
  | .blank => some none
  | .plain s => if Plain.isNull s then some none else (decode (.plain s)).map some
  | d => (decode d).map some

/-! ## Records -/

/-- The name of a field. -/
def fieldName : Document → Option String
  | .text s => some s
  | .plain s => some s
  | .blank => some ""
  | _ => none

/-- The fields of a record, whose names are texts. -/
def fields : Document → Option (List (String × Document))
  | .record fs => some fs
  | .mapping es => es.mapM fun e => (fieldName e.1).map (·, e.2)
  | .blank => some []
  | _ => none

/-- The name of a field among `names`, which may be numbered. Only a text or the number of a field
is a name; a number that is too large names a field nobody knows. -/
def numberedName (names : List String) : Document → Option String
  | .text s => some s
  | .plain s =>
    match Plain.natural? s, Plain.meaning? s with
    | some n, some (.number (.integer _)) => some (names.getD n s)
    | none, some (.text s) => some s
    | _, _ => none
  | _ => none

/-- The fields of a record that has fields of the given names and is read loosely. -/
def looseFields (names : List String) : Document → Option (List (String × Document))
  | .list values =>
    if values.length ≤ names.length then some (names.zip values) else none
  | .mapping es => es.mapM fun e => (numberedName names e.1).map (·, e.2)
  | d => fields d

/-- The fields of a record that has fields of the given names. -/
def fieldsOf (form : Form) (names : List String) (d : Document) :
    Option (List (String × Document)) :=
  if form.loose then looseFields names d else fields d

/-- A field that must be there. -/
def required (fs : List (String × Document)) (name : String) (decode : Document → Option α) :
    Option α :=
  match Document.fieldValues name fs with
  | [d] => decode d
  | _ => none

/-- A field with a value of its own when it is absent. -/
def withDefault (fs : List (String × Document)) (name : String) (default : α)
    (decode : Document → Option α) : Option α :=
  match Document.fieldValues name fs with
  | [] => some default
  | [d] => decode d
  | _ => none

/-- A field that may be absent. -/
def absentable (fs : List (String × Document)) (name : String) (decode : Document → Option α) :
    Option (Option α) :=
  withDefault fs name none (optional decode)

end Decode
end Forager
