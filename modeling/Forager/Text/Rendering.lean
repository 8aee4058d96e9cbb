import Forager.Text.Quoted

/-!
# Structural text

A `Rendering` is the shape of a value: records, tagged values, lists and maps over atoms. It is
written on one line (`inline`) or spread out (`indented`: every part on a line of its own, four
spaces per level, a comma after each). Empty lists and maps are `[]` and `{}` either way.
-/
namespace Forager.Text

inductive Rendering where
  | atom (text : String)
  | record (name : String) (fields : List (String × Rendering))
  | tagged (name : String) (value : Rendering)
  | list (items : List Rendering)
  | map (entries : List (String × Rendering))

namespace Rendering

/-- Quoted text. -/
def text (s : String) : Rendering := .atom (quoted s)

def bool (b : Bool) : Rendering := .atom (if b then "true" else "false")

def nat (n : Nat) : Rendering := .atom (toString n)

def option : Option Rendering → Rendering
  | none => .atom "None"
  | some r => .tagged "Some" r

/-! ## On one line -/

mutual
def inline : Rendering → String
  | .atom t => t
  | .record name fields => name ++ " \x7b " ++ inlineFields fields ++ " \x7d"
  | .tagged name value => name ++ "(" ++ inline value ++ ")"
  | .list items => "[" ++ inlineItems items ++ "]"
  | .map entries => "\x7b" ++ inlineFields entries ++ "\x7d"

def inlineItems : List Rendering → String
  | [] => ""
  | [r] => inline r
  | r :: rs => inline r ++ ", " ++ inlineItems rs

def inlineFields : List (String × Rendering) → String
  | [] => ""
  | [(k, r)] => k ++ ": " ++ inline r
  | (k, r) :: rs => k ++ ": " ++ inline r ++ ", " ++ inlineFields rs
end

/-! ## Spread out -/

/-- A new line at the given level. -/
def newline (level : Nat) : String := "\n" ++ String.ofList (List.replicate (4 * level) ' ')

mutual
/-- `r` spread out, its parts one level below `level`. -/
def spread (level : Nat) : Rendering → String
  | .atom t => t
  | .record name fields => name ++ " \x7b" ++ spreadFields (level + 1) fields ++ newline level ++ "\x7d"
  | .tagged name value =>
    name ++ "(" ++ newline (level + 1) ++ spread (level + 1) value ++ "," ++ newline level ++ ")"
  | .list [] => "[]"
  | .list items => "[" ++ spreadItems (level + 1) items ++ newline level ++ "]"
  | .map [] => "\x7b\x7d"
  | .map entries => "\x7b" ++ spreadFields (level + 1) entries ++ newline level ++ "\x7d"

def spreadItems (level : Nat) : List Rendering → String
  | [] => ""
  | r :: rs => newline level ++ spread level r ++ "," ++ spreadItems level rs

def spreadFields (level : Nat) : List (String × Rendering) → String
  | [] => ""
  | (k, r) :: rs => newline level ++ k ++ ": " ++ spread level r ++ "," ++ spreadFields level rs
end

def indented (r : Rendering) : String := spread 0 r

end Rendering
end Forager.Text
