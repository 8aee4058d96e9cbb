import Forager.Document

/-!
# JSON

The written forms of documents as JSON: `compact` on one line and `pretty` with two spaces per
level, and the reader `parse`. An integer that fits neither a signed nor an unsigned 64-bit word
is read as a decimal, and so is `-0`. What JSON has no form for is written as `null`: infinities,
NaN, blanks, and whatever a reader has not made sense of.

A string may be well formed and still hold no text, if a surrogate stands alone in it. It is
illegible, and so is a record with such a field name. That is no reason to refuse the document.
-/
namespace Forager.Json

/-! ## Writing -/

/-- The four hexadecimal digits of a control character's escape. -/
def controlEscape (c : Char) : String :=
  let ds := Nat.toDigits 16 c.toNat
  "\\u" ++ String.ofList (List.replicate (4 - ds.length) '0' ++ ds)

/-- One character inside a string. -/
def escape (c : Char) : String :=
  match c with
  | '"' => "\\\""
  | '\\' => "\\\\"
  | '\n' => "\\n"
  | '\r' => "\\r"
  | '\t' => "\\t"
  | '\x08' => "\\b"
  | '\x0c' => "\\f"
  | c => if c.toNat < 0x20 then controlEscape c else c.toString

def string (s : String) : String := "\"" ++ String.join (s.toList.map escape) ++ "\""

def numeral : Numeral → String
  | .integer n => toString n
  | .decimal negative d => Decimal.signText negative ++ Decimal.data.decimal d
  | .infinite _ => "null"
  | .nan => "null"

mutual
/-- The document on one line, without spaces. -/
def compact : Document → String
  | .bool b => if b then "true" else "false"
  | .number n => numeral n
  | .text s => string s
  | .list items => "[" ++ compactItems items ++ "]"
  | .record fields => "\x7b" ++ compactFields fields ++ "\x7d"
  | _ => "null"

def compactItems : List Document → String
  | [] => ""
  | [d] => compact d
  | d :: ds => compact d ++ "," ++ compactItems ds

def compactFields : List (String × Document) → String
  | [] => ""
  | [(k, d)] => string k ++ ":" ++ compact d
  | (k, d) :: ds => string k ++ ":" ++ compact d ++ "," ++ compactFields ds
end

/-- A new line at the given level. -/
def newline (level : Nat) : String := "\n" ++ String.ofList (List.replicate (2 * level) ' ')

mutual
/-- The document spread over lines, its parts one level below `level`. -/
def spread (level : Nat) : Document → String
  | .bool b => if b then "true" else "false"
  | .number n => numeral n
  | .text s => string s
  | .list [] => "[]"
  | .list items => "[" ++ spreadItems (level + 1) items ++ newline level ++ "]"
  | .record [] => "\x7b\x7d"
  | .record fields => "\x7b" ++ spreadFields (level + 1) fields ++ newline level ++ "\x7d"
  | _ => "null"

def spreadItems (level : Nat) : List Document → String
  | [] => ""
  | [d] => newline level ++ spread level d
  | d :: ds => newline level ++ spread level d ++ "," ++ spreadItems level ds

def spreadFields (level : Nat) : List (String × Document) → String
  | [] => ""
  | [(k, d)] => newline level ++ string k ++ ": " ++ spread level d
  | (k, d) :: ds => newline level ++ string k ++ ": " ++ spread level d ++ "," ++ spreadFields level ds
end

def pretty (d : Document) : String := spread 0 d

/-! ## Reading -/

def isSpace (c : Char) : Bool := c == ' ' || c == '\n' || c == '\r' || c == '\t'

def skipSpace (s : List Char) : List Char := s.dropWhile isSpace

def hexDigit? (c : Char) : Option Nat :=
  if '0' ≤ c ∧ c ≤ '9' then some (c.toNat - '0'.toNat)
  else if 'a' ≤ c ∧ c ≤ 'f' then some (c.toNat - 'a'.toNat + 10)
  else if 'A' ≤ c ∧ c ≤ 'F' then some (c.toNat - 'A'.toNat + 10)
  else none

/-- The number of four hexadecimal digits. -/
def hexWord? (a b c d : Char) : Option Nat :=
  match hexDigit? a, hexDigit? b, hexDigit? c, hexDigit? d with
  | some a, some b, some c, some d => some (((a * 16 + b) * 16 + c) * 16 + d)
  | _, _, _, _ => none

/-- The character of a short escape. -/
def shortEscape? : Char → Option Char
  | '"' => some '"'
  | '\\' => some '\\'
  | '/' => some '/'
  | 'b' => some '\x08'
  | 'f' => some '\x0c'
  | 'n' => some '\n'
  | 'r' => some '\r'
  | 't' => some '\t'
  | _ => none

/-- A character in front of the rest of a string, if that has a text. -/
def consText (c : Char) (p : Option (List Char) × List Char) : Option (List Char) × List Char :=
  (p.1.map (c :: ·), p.2)

/-- The text of a string up to its closing quote, and what follows the quote. A code point above
`0xffff` is escaped as a pair of surrogates. With a surrogate alone the string has no text. -/
def stringBody : List Char → Option (Option (List Char) × List Char)
  | [] => none
  | '"' :: r => some (some [], r)
  | '\\' :: 'u' :: a :: b :: c :: d :: r =>
    match hexWord? a b c d with
    | none => none
    | some high =>
      if high < 0xd800 ∨ 0xdfff < high then (stringBody r).map (consText (Char.ofNat high))
      else
        match r with
        | '\\' :: 'u' :: a' :: b' :: c' :: d' :: r' =>
          match hexWord? a' b' c' d' with
          | none => none
          | some low =>
            if high < 0xdc00 ∧ 0xdc00 ≤ low ∧ low ≤ 0xdfff then
              (stringBody r').map
                (consText (Char.ofNat (0x10000 + (high - 0xd800) * 0x400 + (low - 0xdc00))))
            else (stringBody ('\\' :: 'u' :: a' :: b' :: c' :: d' :: r')).map fun p => (none, p.2)
        | r => (stringBody r).map fun p => (none, p.2)
  | '\\' :: c :: r =>
    match shortEscape? c with
    | none => none
    | some x => (stringBody r).map (consText x)
  | c :: r => if c.toNat < 0x20 ∨ c = '\\' then none else (stringBody r).map (consText c)

/-- The document of a string with the given text. -/
def ofText : Option (List Char) → Document
  | some s => .text (String.ofList s)
  | none => .illegible

/-- The document of a record whose field names have the given texts. -/
def ofMembers (fs : List (Option (List Char) × Document)) : Document :=
  match fs.mapM fun f => f.1.map fun k => (String.ofList k, f.2) with
  | some fs => .record fs
  | none => .illegible

/-- The digits at the front, and what follows them. -/
def takeDigits (s : List Char) : List Char × List Char :=
  (s.takeWhile Char.isDigit, s.dropWhile Char.isDigit)

/-- The number of decimal digits. -/
def digitsValue (ds : List Char) : Nat := ds.foldl (fun n c => 10 * n + (c.toNat - '0'.toNat)) 0

/-- An exponent at the front, zero without one. -/
def exponentPart (s : List Char) : Option (Option Int × List Char) :=
  match s with
  | e :: r =>
    if e = 'e' ∨ e = 'E' then
      let signed : Bool × List Char :=
        match r with
        | '+' :: r' => (false, r')
        | '-' :: r' => (true, r')
        | r' => (false, r')
      let p := takeDigits signed.2
      if p.1.isEmpty then none
      else some (some (if signed.1 then -(digitsValue p.1 : Int) else digitsValue p.1), p.2)
    else some (none, s)
  | [] => some (none, [])

/-- A fraction at the front, which needs a digit. -/
def fractionPart (s : List Char) : Option (Option (List Char) × List Char) :=
  match s with
  | '.' :: r =>
    let p := takeDigits r
    if p.1.isEmpty then none else some (some p.1, p.2)
  | s => some (none, s)

/-- Whether an integer fits a signed or an unsigned 64-bit word. -/
def fitsWord (n : Int) : Bool := -0x8000000000000000 ≤ n && n < 0x10000000000000000

/-- The numeral with the given sign, whole digits, fraction and exponent. -/
def assemble (negative : Bool) (whole : List Char) (fraction : Option (List Char))
    (exponent : Option Int) : Numeral :=
  let fractionDigits := fraction.getD []
  let digits := digitsValue (whole ++ fractionDigits)
  let value : Int := if negative then -(digits : Int) else digits
  if fraction.isNone && exponent.isNone && fitsWord value && !(negative && digits == 0) then
    .integer value
  else .decimal negative ⟨digits, exponent.getD 0 - fractionDigits.length⟩

/-- A number at the front; whole digits have no leading zero. -/
def numberBody (negative : Bool) (s : List Char) : Option (Numeral × List Char) :=
  let p := takeDigits s
  match p.1 with
  | [] => none
  | '0' :: _ :: _ => none
  | whole =>
    match fractionPart p.2 with
    | none => none
    | some (fraction, r) =>
      match exponentPart r with
      | none => none
      | some (exponent, r') => some (assemble negative whole fraction exponent, r')

mutual
/-- A value at the front, and what follows it. The fuel bounds the number of steps. -/
def value : Nat → List Char → Option (Document × List Char)
  | 0, _ => none
  | fuel + 1, s =>
    match skipSpace s with
    | '\x7b' :: r =>
      match skipSpace r with
      | '\x7d' :: r' => some (.record [], r')
      | r' => (members fuel r').map fun p => (ofMembers p.1, p.2)
    | '[' :: r =>
      match skipSpace r with
      | ']' :: r' => some (.list [], r')
      | r' => (elements fuel r').map fun p => (.list p.1, p.2)
    | '"' :: r => (stringBody r).map fun p => (ofText p.1, p.2)
    | 't' :: 'r' :: 'u' :: 'e' :: r => some (.bool true, r)
    | 'f' :: 'a' :: 'l' :: 's' :: 'e' :: r => some (.bool false, r)
    | 'n' :: 'u' :: 'l' :: 'l' :: r => some (.null, r)
    | '-' :: r => (numberBody true r).map fun p => (.number p.1, p.2)
    | r => (numberBody false r).map fun p => (.number p.1, p.2)

/-- The elements of a list up to its closing bracket. -/
def elements : Nat → List Char → Option (List Document × List Char)
  | 0, _ => none
  | fuel + 1, s =>
    match value fuel s with
    | none => none
    | some (d, r) =>
      match skipSpace r with
      | ',' :: r' => (elements fuel r').map fun p => (d :: p.1, p.2)
      | ']' :: r' => some ([d], r')
      | _ => none

/-- The fields of a record up to its closing brace. -/
def members : Nat → List Char → Option (List (Option (List Char) × Document) × List Char)
  | 0, _ => none
  | fuel + 1, s =>
    match skipSpace s with
    | '"' :: r =>
      match stringBody r with
      | none => none
      | some (k, r₁) =>
        match skipSpace r₁ with
        | ':' :: r₂ =>
          match value fuel r₂ with
          | none => none
          | some (d, r₃) =>
            match skipSpace r₃ with
            | ',' :: r₄ => (members fuel r₄).map fun p => ((k, d) :: p.1, p.2)
            | '\x7d' :: r₄ => some ([(k, d)], r₄)
            | _ => none
        | _ => none
    | _ => none
end

/-- Reads a text that holds one document and nothing else but space. -/
def parse (text : String) : Option Document :=
  let s := text.toList
  match value (2 * s.length + 2) s with
  | some (d, r) => if (skipSpace r).isEmpty then some d else none
  | none => none

end Forager.Json
