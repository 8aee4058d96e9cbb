import Forager.Document.Plain

/-!
# Settled documents

A document is settled when no value in it is left to the reader: a plain scalar has become what it
means. A reader settles a document if it has to hold it before knowing what it wants. The field
names of mappings stay as written; they have to mean something, though.

Settling is refused for integers that are too large to hold, and beyond a depth of nesting.
-/
namespace Forager.Document

mutual
/-- The document with the meanings of its plain scalars; lists and records are nested in at most
`depth` levels. -/
def settled : (depth : Nat) → Document → Option Document
  | _, .plain s => Plain.meaning? s
  | depth + 1, .list items => (settledItems depth items).map .list
  | depth + 1, .record fields => (settledFields depth fields).map .record
  | depth + 1, .mapping entries => (settledEntries depth entries).map .mapping
  | 0, .list _ => none
  | 0, .record _ => none
  | 0, .mapping _ => none
  | _, d => some d

def settledItems (depth : Nat) : List Document → Option (List Document)
  | [] => some []
  | d :: ds =>
    match settled depth d, settledItems depth ds with
    | some d, some ds => some (d :: ds)
    | _, _ => none

def settledFields (depth : Nat) : List (String × Document) → Option (List (String × Document))
  | [] => some []
  | (k, d) :: fs =>
    match settled depth d, settledFields depth fs with
    | some d, some fs => some ((k, d) :: fs)
    | _, _ => none

def settledEntries (depth : Nat) :
    List (Document × Document) → Option (List (Document × Document))
  | [] => some []
  | (k, d) :: es =>
    match settled depth k, settled depth d, settledEntries depth es with
    | some _, some d, some es => some ((k, d) :: es)
    | _, _, _ => none
end

end Forager.Document
