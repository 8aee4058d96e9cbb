/-!
# Command-line arguments

What the words of a command line ask for. Options and values may come in any order. An option
takes its value from the same word after `=` or from the next word, which must not look like an
option. No option is given twice, no value is empty, and after `--` every word is a value.
-/
namespace Forager.CommandLine

inductive Command where
  | run (scenario : String) (config trace : Option String) (json : Bool)
  | tree (keys : Bool)
  | leaves
  | check (config : Option String)
  deriving DecidableEq, Repr

inductive Request where
  | version
  | command (c : Command)
  deriving DecidableEq, Repr

/-! ## Words -/

/-- The options a command knows, by their long names. -/
structure Grammar where
  switches : List String
  options : List String
  deriving Repr

/-- What the words after a command's name set. -/
structure Settings where
  switches : List String := []
  options : List (String × String) := []
  values : List String := []
  deriving DecidableEq, Repr

namespace Settings

/-- Turns a switch on, once. -/
def switchOn (s : Settings) (name : String) : Option Settings :=
  if s.switches.contains name then none else some { s with switches := name :: s.switches }

/-- Sets an option, once. -/
def setOption (s : Settings) (name value : String) : Option Settings :=
  if value.isEmpty || (s.options.lookup name).isSome then none
  else some { s with options := (name, value) :: s.options }

def addValue (s : Settings) (value : String) : Option Settings :=
  if value.isEmpty then none else some { s with values := s.values ++ [value] }

end Settings

/-- A word as an option in its long or short form, or as a value. -/
inductive Word where
  | long (name : String) (attached : Option String)
  | short (letters : List Char)
  | terminator
  | value (text : String)
  deriving DecidableEq, Repr

namespace Word

def ofString (word : String) : Word :=
  match word.toList with
  | ['-', '-'] => .terminator
  | '-' :: '-' :: r =>
    match r.dropWhile (· != '=') with
    | [] => .long (String.ofList r) none
    | _ :: attached => .long (String.ofList (r.takeWhile (· != '='))) (some (String.ofList attached))
  | '-' :: c :: r => .short (c :: r)
  | _ => .value word

/-- The text of a word that is a value. -/
def value? : Word → Option String
  | .value text => some text
  | _ => none

end Word

/-- Reads the words after a command's name. Every command knows the switch `verbose`, short `v`. -/
def readWords (g : Grammar) : List String → Settings → Option Settings
  | [], s => some s
  | word :: words, s =>
    match Word.ofString word with
    | .terminator => words.foldlM (fun s w => s.addValue w) s
    | .value text => (s.addValue text).bind (readWords g words)
    | .short letters =>
      if letters = ['v'] then (s.switchOn "verbose").bind (readWords g words) else none
    | .long name attached =>
      if g.options.contains name then
        match attached, words with
        | some value, words => (s.setOption name value).bind (readWords g words)
        | none, [] => none
        | none, next :: words =>
          match (Word.ofString next).value? with
          | some value => (s.setOption name value).bind (readWords g words)
          | none => none
      else if attached.isNone && (name == "verbose" || g.switches.contains name) then
        (s.switchOn name).bind (readWords g words)
      else none

/-! ## Requests -/

/-- Reads the words of a command without values. -/
def readPlain (g : Grammar) (words : List String) (command : Settings → Command) : Option Request :=
  match readWords g words {} with
  | some s => if s.values.isEmpty then some (.command (command s)) else none
  | none => none

/-- Reads a command from its name and the words after it. -/
def readCommand (name : String) (words : List String) : Option Request :=
  match name with
  | "run" =>
    match readWords ⟨["json"], ["config", "trace"]⟩ words {} with
    | none => none
    | some s =>
      match s.values with
      | [scenario] =>
        some (.command (.run scenario (s.options.lookup "config") (s.options.lookup "trace")
          (s.switches.contains "json")))
      | _ => none
  | "tree" => readPlain ⟨["keys"], []⟩ words fun s => .tree (s.switches.contains "keys")
  | "leaves" => readPlain ⟨[], []⟩ words fun _ => .leaves
  | "check" => readPlain ⟨[], ["config"]⟩ words fun s => .check (s.options.lookup "config")
  | _ => none

/-- Reads the letters of short options before the command: whether the version is asked for, or
else whether `v` has been given. -/
def readLetters : List Char → Bool → Option (Bool ⊕ Unit)
  | [], verbose => some (.inl verbose)
  | 'V' :: _, _ => some (.inr ())
  | 'v' :: r, false => readLetters r true
  | _, _ => none

/-- Reads a whole command line, knowing whether the switch `verbose` has been given. -/
def readFrom (verbose : Bool) : List String → Option Request
  | [] => none
  | word :: words =>
    match Word.ofString word with
    | .long "version" none => some .version
    | .long "verbose" none => if verbose then none else readFrom true words
    | .short letters =>
      match readLetters letters verbose with
      | some (.inr ()) => some .version
      | some (.inl verbose) => readFrom verbose words
      | none => none
    | .value name => readCommand name words
    | _ => none

/-- What a command line asks for, if it is well formed. -/
def Request.ofWords? (words : List String) : Option Request := readFrom false words

end Forager.CommandLine
