import Forager.Document.Yaml.Scalar

/-!
# YAML tokens

A text as tokens: scalars, and marks of where documents, collections and their parts begin or end.
Block collections have no marks of their own in the text; their tokens come of the columns at which
list items and keys stand.

Most keys are not marked either. Wherever one may begin, a *candidate* is noted with an empty slot
before its token, and a colon later on that line fills the slot. A candidate that stands where the
fields of an open block record begin has to turn out as a key.

Anchors, aliases, tags, directives and block scalars are refused.
-/
namespace Forager.Yaml

inductive Token where
  | documentStart
  | documentEnd
  | blockList
  | blockRecord
  | blockEnd
  | listStart
  | listEnd
  | recordStart
  | recordEnd
  | comma
  /-- The mark of an item of a block list. -/
  | item
  | key
  | value
  | scalar (plain : Bool) (text : String)
  deriving DecidableEq, Repr

/-- A place where a key may have begun. -/
structure Candidate where
  slot : Nat
  offset : Nat
  line : Nat
  column : Nat
  /-- Whether there has to be a key. -/
  needed : Bool
  deriving DecidableEq, Repr

namespace Candidate

/-- A key is on one line with its colon, and not longer than 1024 bytes. -/
def reaches (k : Candidate) (c : Cursor) : Bool :=
  k.line == c.line && decide (c.offset ≤ k.offset + 1024)

end Candidate

/-- A text that is read up to a place. -/
structure Scan where
  cursor : Cursor
  /-- The tokens so far; a slot for a key is empty until a colon is found. -/
  slots : Array (List Token) := #[]
  /-- The columns of the open block collections, the innermost first. -/
  columns : List Nat := []
  /-- The candidate in the innermost flow collection, or outside all of them. -/
  candidate : Option Candidate := none
  /-- The candidates around each open flow collection, from the innermost outwards. -/
  outer : List (Option Candidate) := []
  /-- Whether a key may begin here. -/
  keyAllowed : Bool := true

namespace Scan

def inFlow (s : Scan) : Bool := !s.outer.isEmpty

def push (s : Scan) (t : Token) : Scan := { s with slots := s.slots.push [t] }

/-- Reads a token of `n` characters. -/
def take (s : Scan) (n : Nat) (t : Token) : Scan := { s.push t with cursor := s.cursor.advance n }

/-! ## Between tokens -/

/-- Skips blanks, line breaks and comments. Outside flow collections a key may begin on each line,
and tabs are not skipped where one may. A byte order mark is skipped at the beginning of a line. The
fuel bounds the number of characters. -/
def toToken : Nat → Scan → Scan
  | 0, s => s
  | fuel + 1, s =>
    match s.cursor.rest with
    | [] => s
    | c :: r =>
      if c == ' ' || (c == '\t' && (s.inFlow || !s.keyAllowed)) ||
          (c == '\ufeff' && s.cursor.column == 0) then
        toToken fuel { s with cursor := s.cursor.advance 1 }
      else if c == '#' then
        toToken fuel { s with cursor := s.cursor.advance (1 + (r.takeWhile (!isBreak ·)).length) }
      else if isBreak c then
        toToken fuel
          { s with cursor := s.cursor.breakLine, keyAllowed := s.keyAllowed || !s.inFlow }
      else s

/-! ## Candidates -/

/-- A candidate that the cursor is still in reach of, refused if it was needed and is not. -/
def keep (c : Cursor) : Option Candidate → Option (Option Candidate)
  | none => some none
  | some k => if k.reaches c then some (some k) else if k.needed then none else some none

/-- Drops the candidates that have come to nothing. -/
def dropStale (s : Scan) : Option Scan :=
  match keep s.cursor s.candidate, s.outer.mapM (keep s.cursor) with
  | some candidate, some outer => some { s with candidate, outer }
  | _, _ => none

/-- Gives up the candidate. -/
def forget (s : Scan) : Option Scan :=
  if s.candidate.any (·.needed) then none else some { s with candidate := none }

/-- Notes that a key may begin here. -/
def offer (s : Scan) : Option Scan :=
  if s.keyAllowed then
    s.forget.map fun s =>
      { s with
        candidate := some
          { slot := s.slots.size, offset := s.cursor.offset, line := s.cursor.line,
            column := s.cursor.column,
            needed := !s.inFlow && s.columns.head? == some s.cursor.column }
        slots := s.slots.push [] }
  else some s

/-! ## Block collections -/

/-- Whether a block collection begins at the column. -/
def opens (s : Scan) (column : Nat) : Bool := !s.inFlow && s.columns.head?.all (· < column)

/-- Begins a block collection here, unless one with this column is open. -/
def enter (s : Scan) (t : Token) : Scan :=
  if s.opens s.cursor.column then { s.push t with columns := s.cursor.column :: s.columns } else s

/-- Ends the block collections with the given columns. -/
def leave (s : Scan) (ends : Nat → Bool) : Scan :=
  if s.inFlow then s
  else
    { s with
      slots := s.slots.push ((s.columns.takeWhile ends).map fun _ => .blockEnd)
      columns := s.columns.dropWhile ends }

/-! ## Tokens -/

/-- Reads the mark of a document's start or end. -/
def documentMark (s : Scan) (t : Token) : Option Scan :=
  (s.leave fun _ => true).forget.map fun s => { s.take 3 t with keyAllowed := false }

def openFlow (s : Scan) (t : Token) : Option Scan :=
  s.offer.map fun s =>
    { s.take 1 t with candidate := none, outer := s.candidate :: s.outer, keyAllowed := true }

/-- Ends the innermost flow collection. Where none is open the mark is left to those who read the
tokens. -/
def closeFlow (s : Scan) (t : Token) : Option Scan :=
  s.forget.map fun s =>
    { s.take 1 t with
      candidate := s.outer.head?.join, outer := s.outer.tail, keyAllowed := false }

def comma (s : Scan) : Option Scan :=
  s.forget.map fun s => { s.take 1 .comma with keyAllowed := true }

/-- Reads the mark of a list item. -/
def item (s : Scan) : Option Scan :=
  if s.inFlow || !s.keyAllowed then none
  else (s.enter .blockList).forget.map fun s => s.take 1 .item

/-- Reads the mark of a key. -/
def key (s : Scan) : Option Scan :=
  if !s.inFlow && !s.keyAllowed then none
  else
    (s.enter .blockRecord).forget.map fun s => { s.take 1 .key with keyAllowed := !s.inFlow }

/-- Reads the mark of a value, whose key is the candidate unless there is a mark of a key. -/
def value (s : Scan) : Option Scan :=
  match s.candidate with
  | some k =>
    let opens := s.opens k.column
    let s : Scan :=
      { s with
        slots := s.slots.setIfInBounds k.slot (if opens then [.blockRecord, .key] else [.key])
        columns := if opens then k.column :: s.columns else s.columns
        candidate := none }
    some { s.take 1 .value with keyAllowed := false }
  | none =>
    if !s.inFlow && !s.keyAllowed then none
    else some { (s.enter .blockRecord).take 1 .value with keyAllowed := !s.inFlow }

def quoted (fuel : Nat) (s : Scan) (quote : Char) : Option Scan :=
  match s.offer with
  | none => none
  | some s =>
    (quotedText quote fuel (s.cursor.advance 1)).map fun p =>
      { s.push (.scalar false (String.ofList p.1)) with cursor := p.2, keyAllowed := false }

/-- Reads a plain scalar. After a line break a key may begin again. -/
def plain (fuel : Nat) (s : Scan) : Option Scan :=
  match s.offer with
  | none => none
  | some s =>
    let margin := s.columns.head?.elim 0 (· + 1)
    (plainText s.inFlow margin fuel s.cursor).map fun p =>
      { s.push (.scalar true (String.ofList p.1)) with cursor := p.2.2, keyAllowed := p.2.1 }

/-- Reads the token that is here. The fuel bounds what is left of the text. -/
def step (fuel : Nat) (s : Scan) : Option Scan :=
  if s.cursor.atMark ['-', '-', '-'] then s.documentMark .documentStart
  else if s.cursor.atMark ['.', '.', '.'] then s.documentMark .documentEnd
  else
    match s.cursor.rest with
    | [] => none
    | c :: r =>
      if s.cursor.column == 0 && c == '%' then none
      else if c == '[' then s.openFlow .listStart
      else if c == '\x7b' then s.openFlow .recordStart
      else if c == ']' then s.closeFlow .listEnd
      else if c == '\x7d' then s.closeFlow .recordEnd
      else if c == ',' then s.comma
      else if c == '-' && endsWord r then s.item
      else if c == '?' && (s.inFlow || endsWord r) then s.key
      else if c == ':' && (s.inFlow || endsWord r) then s.value
      else if c == '"' || c == '\'' then s.quoted fuel c
      else if startsPlain s.inFlow (c :: r) then s.plain fuel
      else none

/-- The tokens of a text that is read to its end. -/
def finish (s : Scan) : Option (List Token) :=
  (s.leave fun _ => true).forget.map fun s => s.slots.toList.flatten

/-- Reads all tokens from here. The fuel bounds what is left of the text. -/
def run : Nat → Scan → Option (List Token)
  | 0, _ => none
  | fuel + 1, s =>
    match (s.toToken (fuel + 1)).dropStale with
    | none => none
    | some s =>
      let s := s.leave fun column => decide (s.cursor.column < column)
      if s.cursor.rest.isEmpty then s.finish
      else
        match s.step (fuel + 1) with
        | none => none
        | some s => run fuel s

end Scan

/-- The tokens of a text. -/
def tokens (text : String) : Option (List Token) :=
  let s := text.toList
  if s.all isAllowed then Scan.run (s.length + 1) { cursor := { rest := s } } else none

end Forager.Yaml
