import Forager.Document.Plain
import Forager.Document.Yaml.Cursor

/-!
# YAML scalars

The texts of plain and quoted scalars. Both are words with gaps between them, and may spread over
lines. A gap within a line belongs to the text. A gap with line breaks is folded: its blanks are
dropped, and so is the first break, for which a space is put if no other break follows. The line
and paragraph separators of Unicode are never folded.
-/
namespace Forager.Yaml

/-! ## Gaps -/

/-- What separates two words: the blanks before the first line break, and the breaks. -/
structure Gap where
  blanks : List Char := []
  breaks : List Char := []
  deriving DecidableEq, Repr

namespace Gap

/-- What the gap is in the text of a scalar. -/
def text (g : Gap) : List Char :=
  match g.breaks with
  | [] => g.blanks
  | ['\n'] => [' ']
  | '\n' :: others => others
  | breaks => breaks

/-- What a line break counts as. -/
def breakChar (c : Char) : Char := if c == '\u2028' || c == '\u2029' then c else '\n'

/-- Reads a gap of which `g` is behind the cursor. Tabs are refused at the beginning of a line,
left of the margin. The fuel bounds the length of the gap. -/
def read (margin : Nat) : Nat → Gap → Cursor → Option (Gap × Cursor)
  | 0, g, c => some (g, c)
  | fuel + 1, g, c =>
    match c.rest with
    | [] => some (g, c)
    | x :: _ =>
      if isBreak x then
        read margin fuel { g with breaks := g.breaks ++ [breakChar x] } c.breakLine
      else if !isBlank x then some (g, c)
      else if g.breaks.isEmpty then
        read margin fuel { g with blanks := g.blanks ++ [x] } (c.advance 1)
      else if x == '\t' && decide (c.column < margin) then none
      else read margin fuel g (c.advance 1)

end Gap

/-! ## Quoted scalars -/

/-- The character of an escape of one letter. -/
def escape? : Char → Option Char
  | '0' => some '\x00'
  | 'a' => some '\x07'
  | 'b' => some '\x08'
  | 't' => some '\t'
  | '\t' => some '\t'
  | 'n' => some '\n'
  | 'v' => some '\x0b'
  | 'f' => some '\x0c'
  | 'r' => some '\r'
  | 'e' => some '\x1b'
  | ' ' => some ' '
  | '"' => some '"'
  | '/' => some '/'
  | '\\' => some '\\'
  | 'N' => some '\u0085'
  | '_' => some '\u00a0'
  | 'L' => some '\u2028'
  | 'P' => some '\u2029'
  | _ => none

/-- How many hexadecimal digits follow the letter of an escape. -/
def escapeWidth? : Char → Option Nat
  | 'x' => some 2
  | 'u' => some 4
  | 'U' => some 8
  | _ => none

/-- The character with the code point of the given hexadecimal digits. -/
def codePoint? (digits : List Char) : Option Char :=
  match Plain.digits? 16 digits with
  | some n => if n.isValidChar then some (Char.ofNat n) else none
  | none => none

/-- The character of the escape that follows a backslash, and the length of the escape. -/
def escaped? : List Char → Option (Char × Nat)
  | [] => none
  | c :: r =>
    match escapeWidth? c with
    | none => (escape? c).map (·, 1)
    | some width =>
      if (r.take width).length < width then none
      else (codePoint? (r.take width)).map (·, width + 1)

/-- The text of a quoted scalar from a place inside it up to the closing quote. Inside single
quotes a quote is written twice. Inside double quotes a backslash escapes a character; an escaped
line break and the gap around it are left out, other breaks in that gap are not. The fuel bounds
the length of the scalar. -/
def quotedText (quote : Char) : Nat → Cursor → Option (List Char × Cursor)
  | 0, _ => none
  | fuel + 1, c =>
    let word (x : Char) (n : Nat) : Option (List Char × Cursor) :=
      (quotedText quote fuel (c.advance n)).map fun p => (x :: p.1, p.2)
    if c.atDocumentMark then none
    else
      match c.rest with
      | [] => none
      | x :: r =>
        if isBlank x || isBreak x then
          match Gap.read 0 fuel {} c with
          | some (g, c) => (quotedText quote fuel c).map fun p => (g.text ++ p.1, p.2)
          | none => none
        else if x == quote then
          if x == '\'' && r.head? == some '\'' then word '\'' 2 else some ([], c.advance 1)
        else if x == '\\' && quote == '"' then
          if r.head?.any isBreak then
            match Gap.read 0 fuel { breaks := ['\n'] } (c.advance 1).breakLine with
            | some (g, c) =>
              (quotedText quote fuel c).map fun p => (g.breaks.drop 1 ++ p.1, p.2)
            | none => none
          else
            match escaped? r with
            | some (y, n) => word y (n + 1)
            | none => none
        else word x 1

/-! ## Plain scalars -/

/-- Whether a plain scalar may start here. Marks of list items, keys and values start one only if
something is attached to them; in flow collections, those of keys and values never do. -/
def startsPlain (inFlow : Bool) : List Char → Bool
  | [] => false
  | '-' :: r => !endsWord r
  | c :: r =>
    if c == '?' || c == ':' then !inFlow && !endsWord r
    else
      !(endsWord (c :: r) || isFlowMark c || "#&*!|>'\"%@\x60".toList.contains c)

/-- Whether a plain scalar ends before a character that is no blank. -/
def endsPlain (inFlow : Bool) : List Char → Bool
  | [] => true
  | c :: r => (c == ':' && endsWord r) || (inFlow && isFlowMark c)

/-- Whether a colon is attached to a mark of a flow collection, which is refused. -/
def isStuckColon : List Char → Bool
  | ':' :: c :: _ => isFlowMark c || c == '?'
  | _ => false

/-- The text of a plain scalar from a place inside it, what is behind it, and whether a line break
is in the gap that follows. Its lines after the first start at the margin or right of it. The fuel
bounds the length of the scalar. -/
def plainText (inFlow : Bool) (margin : Nat) : Nat → Cursor → Option (List Char × Bool × Cursor)
  | 0, _ => none
  | fuel + 1, c =>
    match c.rest with
    | [] => some ([], false, c)
    | x :: _ =>
      if isBlank x || isBreak x then
        match Gap.read margin fuel {} c with
        | none => none
        | some (g, c) =>
          if c.rest.isEmpty || c.rest.head? == some '#' || c.atDocumentMark ||
              (!inFlow && decide (c.column < margin)) then
            some ([], !g.breaks.isEmpty, c)
          else
            match plainText inFlow margin fuel c with
            | none => none
            | some ([], _, c) => some ([], !g.breaks.isEmpty, c)
            | some (text, p) => some (g.text ++ text, p)
      else if inFlow && isStuckColon c.rest then none
      else if endsPlain inFlow c.rest then some ([], false, c)
      else (plainText inFlow margin fuel (c.advance 1)).map fun p => (x :: p.1, p.2)

end Forager.Yaml
