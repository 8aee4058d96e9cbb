import Forager.Document.Decode
import Forager.Document.Json

/-!
# Storing documents

What stored data asks of a format: a `Reader` takes values out of documents, and a `Storage` also
writes documents as text and reads them back. Codecs for stored data are written for any of them, so
that what is proved of them does not depend on how a format goes about it.

`Form.reader` takes values out as files show them, and `Json.storage` is JSON, read loosely.
-/
namespace Forager

/-- How values are taken out of documents. -/
structure Reader where
  /-- The value of one field of a record from which the fields of the given names are wanted. -/
  field (names : List String) (d : Document) (name : String) : Option Document
  /-- One of the given names. -/
  choice (names : List String) (d : Document) : Option String
  /-- A natural number below the bound. -/
  natural (bound : Nat) (d : Document) : Option Nat
  text (d : Document) : Option String
  /-- The elements of a list. -/
  elements (d : Document) : Option (List Document)

/-- A way to write documents as text and to read them back. -/
structure Storage extends Reader where
  write (d : Document) : String
  read (text : String) : Option Document

open Decode

/-- One of the given names, as a text. A text is read loosely: there it may also be the one field of
a record, with null for its value. -/
def Form.choice (form : Form) (names : List String) : Document → Option String
  | .record [(name, .null)] =>
    if form.loose then (some name).filter (· ∈ names) else none
  | d => (Decode.text d).filter (· ∈ names)

def Form.reader (form : Form) : Reader where
  field names d name := do required (← fieldsOf form names d) name some
  choice := form.choice
  natural := natBelow
  text := Decode.text
  elements := list some

/-- JSON with the given writer. -/
def Json.storage (write : Document → String) : Storage :=
  { Form.reader { Form.decimal with loose := true } with
    write := write
    read := parse }

end Forager
