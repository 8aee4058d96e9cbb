import Forager.Document
import Forager.Document.Yaml.Token

/-!
# YAML

Documents from YAML texts: block and flow collections, plain and quoted scalars, comments, and one
document with or without the marks of its start and end. The fields of a record are a mapping,
because any document may be a key, and its plain scalars are left to the reader. What is not
written is a blank, be it a value, a key or the whole document.
-/
namespace Forager.Yaml

/-- The document of a scalar. -/
def ofScalar (plain : Bool) (text : String) : Document := if plain then .plain text else .text text

/-- Whether a part of a block collection is left blank before this token. -/
def isBlankBefore : List Token → Bool
  | .key :: _ => true
  | .value :: _ => true
  | .blockEnd :: _ => true
  | _ => false

/-- The same for a list item. -/
def isBlankItem : List Token → Bool
  | .item :: _ => true
  | .blockEnd :: _ => true
  | _ => false

/-- Whether a part of a flow collection is left blank before this token. -/
def isBlankInFlow : List Token → Bool
  | .value :: _ => true
  | .comma :: _ => true
  | .listEnd :: _ => true
  | .recordEnd :: _ => true
  | _ => false

/-- What follows a part of a flow collection: a comma and another part, or the end, also behind a
comma. Nothing separates the first part. -/
def nextInFlow (first : Bool) : List Token → Option (List Token)
  | .comma :: r => if first then none else some r
  | .listEnd :: r => some (.listEnd :: r)
  | .recordEnd :: r => some (.recordEnd :: r)
  | r => if first then some r else none

mutual
/-- A node at the front, and what follows it. In a block collection it may be another one; the
value or key of a block record may also be a list that begins in the column of its record. The fuel
bounds the number of steps. -/
def node : (fuel : Nat) → (inBlock inRecord : Bool) → List Token → Option (Document × List Token)
  | 0, _, _, _ => none
  | fuel + 1, inBlock, inRecord, ts =>
    match ts with
    | .scalar plain text :: r => some (ofScalar plain text, r)
    | .listStart :: r => (flowItems fuel true r).map fun p => (.list p.1, p.2)
    | .recordStart :: r => (flowEntries fuel true r).map fun p => (.mapping p.1, p.2)
    | .blockList :: r =>
      if inBlock then (blockItems fuel r).map fun p => (.list p.1, p.2) else none
    | .blockRecord :: r =>
      if inBlock then (blockEntries fuel r).map fun p => (.mapping p.1, p.2) else none
    | .item :: r =>
      if inRecord then (flushItems fuel (.item :: r)).map fun p => (.list p.1, p.2) else none
    | _ => none

/-- The items of a block list up to its end. -/
def blockItems : Nat → List Token → Option (List Document × List Token)
  | 0, _ => none
  | fuel + 1, .item :: r =>
    match if isBlankItem r then some (.blank, r) else node fuel true false r with
    | some (d, r) => (blockItems fuel r).map fun p => (d :: p.1, p.2)
    | none => none
  | _ + 1, .blockEnd :: r => some ([], r)
  | _ + 1, _ => none

/-- The items of a list that begins in the column of its record. -/
def flushItems : Nat → List Token → Option (List Document × List Token)
  | 0, _ => none
  | fuel + 1, .item :: r =>
    match
      if isBlankItem r || isBlankBefore r then some (.blank, r) else node fuel true false r with
    | some (d, r) => (flushItems fuel r).map fun p => (d :: p.1, p.2)
    | none => none
  | _ + 1, r => some ([], r)

/-- A key or value after its mark. -/
def blockPart : Nat → List Token → Option (Document × List Token)
  | 0, _ => none
  | fuel + 1, r => if isBlankBefore r then some (.blank, r) else node fuel true true r

/-- The entries of a block record up to its end. -/
def blockEntries : Nat → List Token → Option (List (Document × Document) × List Token)
  | 0, _ => none
  | fuel + 1, .key :: r =>
    match blockPart fuel r with
    | none => none
    | some (k, r) =>
      match
        match r with
        | .value :: r => blockPart fuel r
        | r => some (.blank, r) with
      | some (d, r) => (blockEntries fuel r).map fun p => ((k, d) :: p.1, p.2)
      | none => none
  | _ + 1, .blockEnd :: r => some ([], r)
  | _ + 1, _ => none

/-- A key or value of a flow collection after its mark. -/
def flowPart : Nat → List Token → Option (Document × List Token)
  | 0, _ => none
  | fuel + 1, r => if isBlankInFlow r then some (.blank, r) else node fuel false false r

/-- A value of a flow collection with its mark, or a blank. -/
def flowValue : Nat → List Token → Option (Document × List Token)
  | 0, _ => none
  | fuel + 1, .value :: r => flowPart fuel r
  | _ + 1, r => some (.blank, r)

/-- A key of a flow list after its mark. The token that ends a blank key is dropped with it. -/
def flowItemKey : Nat → List Token → Option (Document × List Token)
  | 0, _ => none
  | _ + 1, .value :: r => some (.blank, r)
  | _ + 1, .comma :: r => some (.blank, r)
  | _ + 1, .listEnd :: r => some (.blank, r)
  | fuel + 1, r => node fuel false false r

/-- The items of a flow list up to its closing bracket. A key and its value make a record of their
own. -/
def flowItems : Nat → (first : Bool) → List Token → Option (List Document × List Token)
  | 0, _, _ => none
  | fuel + 1, first, ts =>
    match nextInFlow first ts with
    | none => none
    | some (.listEnd :: r) => some ([], r)
    | some (.key :: r) =>
      match flowItemKey fuel r with
      | none => none
      | some (k, r) =>
        match flowValue fuel r with
        | some (d, r) => (flowItems fuel false r).map fun p => (.mapping [(k, d)] :: p.1, p.2)
        | none => none
    | some r =>
      match node fuel false false r with
      | some (d, r) => (flowItems fuel false r).map fun p => (d :: p.1, p.2)
      | none => none

/-- The entries of a flow record up to its closing brace. A key without a mark has no value. -/
def flowEntries :
    Nat → (first : Bool) → List Token → Option (List (Document × Document) × List Token)
  | 0, _, _ => none
  | fuel + 1, first, ts =>
    match nextInFlow first ts with
    | none => none
    | some (.recordEnd :: r) => some ([], r)
    | some (.key :: r) =>
      match flowPart fuel r with
      | none => none
      | some (k, r) =>
        match flowValue fuel r with
        | some (d, r) => (flowEntries fuel false r).map fun p => ((k, d) :: p.1, p.2)
        | none => none
    | some r =>
      match node fuel false false r with
      | some (k, r) => (flowEntries fuel false r).map fun p => ((k, .blank) :: p.1, p.2)
      | none => none
end

/-! ## Documents -/

/-- Whether nothing but marks of a document's end follow. -/
def isEnd (ts : List Token) : Bool := ts.all (· == .documentEnd)

/-- The document that the tokens are the node of. -/
def ofNode (ts : List Token) : Option Document :=
  match node (2 * ts.length + 2) true false ts with
  | some (d, r) => if isEnd r then some d else none
  | none => none

/-- The one document of some tokens. -/
def ofTokens : List Token → Option Document
  | [] => some .blank
  | .documentStart :: r => if isEnd r then some .blank else ofNode r
  | ts => ofNode ts

/-- Reads a text that holds one document. -/
def parse (text : String) : Option Document := (tokens text).bind ofTokens

end Forager.Yaml
