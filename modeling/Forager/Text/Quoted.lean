import Forager.Text.Shape

/-!
# Quoted text

Text between double quotes, as structural text shows it: `"`, `\`, line feed, carriage return,
tab and NUL have short escapes, and any other character without a shape of its own is written by
its hexadecimal code point.
-/
namespace Forager.Text

/-- One character of quoted text. -/
def quotedChar (c : Char) : String :=
  match c with
  | '"' => "\\\""
  | '\\' => "\\\\"
  | '\n' => "\\n"
  | '\r' => "\\r"
  | '\t' => "\\t"
  | '\x00' => "\\0"
  | c => if hasShape c then c.toString else "\\u\x7b" ++ String.ofList (Nat.toDigits 16 c.toNat) ++ "\x7d"

/-- `s` between double quotes. -/
def quoted (s : String) : String := "\"" ++ String.join (s.toList.map quotedChar) ++ "\""

end Forager.Text
