/-!
# Places in a text

A cursor is a place in a text: what is left to read from there, its offset in bytes of UTF-8, and
its line and column. A reader moves it over characters of a line, or over a line break.
-/
namespace Forager.Yaml

/-! ## Characters -/

def isBlank (c : Char) : Bool := c == ' ' || c == '\t'

def isBreak (c : Char) : Bool :=
  c == '\n' || c == '\r' || c == '\u0085' || c == '\u2028' || c == '\u2029'

/-- Whether a text may hold the character at all: controls are refused. -/
def isAllowed (c : Char) : Bool :=
  c == '\t' || c == '\n' || c == '\r' || (' ' ≤ c && c ≤ '~') || c == '\u0085' ||
    ('\u00a0' ≤ c && c ≤ '\ufffd') || decide (0x10000 ≤ c.toNat)

/-- A character that separates or encloses the parts of a flow collection. -/
def isFlowMark (c : Char) : Bool := c == ',' || c == '[' || c == ']' || c == '\x7b' || c == '\x7d'

/-- Whether a word ends here: with the text, before a blank or before a line break. -/
def endsWord : List Char → Bool
  | [] => true
  | c :: _ => isBlank c || isBreak c

/-! ## Cursors -/

structure Cursor where
  rest : List Char
  offset : Nat := 0
  line : Nat := 0
  column : Nat := 0
  deriving DecidableEq, Repr

namespace Cursor

/-- Past `n` characters of the line. -/
def advance (c : Cursor) (n : Nat) : Cursor :=
  { c with
    rest := c.rest.drop n
    offset := (c.rest.take n).foldl (fun offset x => offset + x.utf8Size) c.offset
    column := c.column + n }

/-- Past a line break. A carriage return and a line feed are one break. -/
def breakLine (c : Cursor) : Cursor :=
  match c.rest with
  | '\r' :: '\n' :: r => ⟨r, c.offset + 2, c.line + 1, 0⟩
  | x :: r => ⟨r, c.offset + x.utf8Size, c.line + 1, 0⟩
  | [] => c

/-- Whether a line starts here with the mark, which must be a word. -/
def atMark (c : Cursor) (mark : List Char) : Bool :=
  c.column == 0 && mark.isPrefixOf c.rest && endsWord (c.rest.drop mark.length)

/-- Whether the mark of a document's start or end is here. -/
def atDocumentMark (c : Cursor) : Bool := c.atMark ['-', '-', '-'] || c.atMark ['.', '.', '.']

end Cursor
end Forager.Yaml
