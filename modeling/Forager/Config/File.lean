import Forager.Codec.World
import Forager.Document.Yaml

/-!
# Configuration files

A configuration is kept in a YAML file. Fields that are left out have their defaults, so an empty
file is a valid one. What was read is checked before it is used.
-/
namespace Forager

/-- Why no configuration came of a file. -/
inductive ConfigFileError where
  | unreadable (path : String)
  | malformed (path : String)
  | invalid (path : String) (problem : ConfigProblem)
  deriving DecidableEq

def ConfigFileError.message : ConfigFileError → String
  | .unreadable path => "Failed to read config from " ++ path
  | .malformed path => "Failed to parse config from " ++ path
  | .invalid path _ => "Invalid config in " ++ path

/-- What is wrong with the configuration of the file, if it could be read. -/
def ConfigFileError.problem? : ConfigFileError → Option ConfigProblem
  | .invalid _ problem => some problem
  | _ => none

namespace Config

/-- Reads a configuration without checking it. -/
def ofText? (text : String) : Option Config := (Yaml.parse text).bind (decode .decimal)

/-- The configuration in a file of the given content, `none` if it cannot be read. -/
def load (path : String) (content : Option String) : Except ConfigFileError Config :=
  match content with
  | none => .error (.unreadable path)
  | some text =>
    match ofText? text with
    | none => .error (.malformed path)
    | some c =>
      match c.check with
      | .error problem => .error (.invalid path problem)
      | .ok () => .ok c

/-- The same, with the defaults for a file that is not there. -/
def loadOrDefault (path : String) (content : Option String) : Except ConfigFileError Config :=
  match content with
  | none => .ok {}
  | some text => load path (some text)

theorem check_of_load {path : String} {content : Option String} {c : Config}
    (h : load path content = .ok c) : c.check = .ok () := by
  unfold load at h
  grind

end Config
end Forager
