import Forager.CommandLine.Arguments
import Forager.CommandLine.Report
import Forager.Config.File

/-!
# The command line

The program reads files, at most writes one, and answers with an `Outcome`: an exit code and what
is printed. Files are reached through a `FileSystem` in any monad, so that all of this is a
function of the files.

Exit codes are 0, 1 for a command that failed, and 2 for a command line that is not well formed.
-/
namespace Forager.CommandLine

structure FileSystem (m : Type → Type) where
  /-- The text of a file, `none` if it cannot be read. -/
  read : String → m (Option String)
  /-- Writes a file; whether that worked. -/
  write : String → String → m Bool

/-- Why a command failed: a message, and what lies behind it. -/
structure Failure where
  message : String
  cause : Option String := none
  deriving DecidableEq, Repr

structure Outcome where
  exit : UInt32
  output : String := ""
  failure : Option Failure := none
  deriving DecidableEq, Repr

namespace Failure

def ofConfigFile (e : ConfigFileError) : Failure := ⟨e.message, e.problem?.map (·.message)⟩

def ofReplay (e : Scenario.ReplayError) : Failure := ⟨e.message, e.cause?⟩

end Failure

namespace Outcome

def usage : Outcome := { exit := 2 }

/-- The outcome of a command that prints a text or fails. -/
def ofResult : Except Failure String → Outcome
  | .ok output => { exit := 0, output }
  | .error failure => { exit := 1, failure := some failure }

end Outcome

variable {m : Type → Type} [Monad m]

/-! ## Files -/

def loadConfig (fs : FileSystem m) (path : String) : ExceptT Failure m Config := do
  let content ← fs.read path
  match Config.load path content with
  | .ok c => return c
  | .error e => throw (.ofConfigFile e)

def loadScenario (fs : FileSystem m) (path : String) : ExceptT Failure m Scenario := do
  match ← fs.read path with
  | none => throw { message := "Failed to read scenario from " ++ path }
  | some text =>
    match Scenario.ofText? text with
    | none => throw { message := "Failed to parse scenario from " ++ path }
    | some s => return s

/-! ## Commands -/

/-- Replays a scenario, with another configuration if one is given. The trace is written before
anything is printed. -/
def runScenario (fs : FileSystem m) (path : String) (config trace : Option String) (json : Bool) :
    ExceptT Failure m String := do
  let scripted ← loadScenario fs path
  let scenario ←
    match config with
    | none => pure scripted
    | some file => do
      let config ← loadConfig fs file
      pure { scripted with config }
  match scenario.replay with
  | .error e => throw (.ofReplay e)
  | .ok r =>
    match trace with
    | none => pure ()
    | some file =>
      let written ← fs.write file (Json.pretty r.trace.encode)
      if !written then throw { message := "Failed to write trace to " ++ file }
    return if json then decisionsJson r else table r

/-- Checks that the standard tree works with a configuration. -/
def checkConfig (c : Config) : Except Failure String :=
  match c.check with
  | .error problem => .error { message := problem.message }
  | .ok () =>
    match Schema.board c {} with
    | .error e => .error ⟨"Failed to build the blackboard", e.message⟩
    | .ok board =>
      match BehaviourTree.ofRoot (⟨board, ()⟩ : Scene EntryType Unit) StandardTree.root with
      | .error e => .error ⟨"Standard tree does not match the blackboard", e.message⟩
      | .ok t => .ok (summary c t)

def execute (fs : FileSystem m) : Command → ExceptT Failure m String
  | .run scenario config trace json => runScenario fs scenario config trace json
  | .tree keys => return treeText keys
  | .leaves => return libraryText
  | .check config => do
    let c ←
      match config with
      | none => pure {}
      | some file => loadConfig fs file
    liftM (checkConfig c)

/-- What the program answers to a command line. -/
def answer (fs : FileSystem m) (words : List String) : m Outcome :=
  match Request.ofWords? words with
  | none => return .usage
  | some .version => return { exit := 0, output := "survivor 0.1.0\n" }
  | some (.command c) => return .ofResult (← (execute fs c).run)

end Forager.CommandLine
