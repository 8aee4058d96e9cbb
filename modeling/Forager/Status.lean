/-!
# Statuses

What a node reports after it has been evaluated. `running` only ends the enclosing composite
early for the current walk; nothing resumes from it later.
-/
namespace Forager

inductive Status where
  | success | failure | running
  deriving DecidableEq, Repr, Inhabited

namespace Status

/-- The status of a test with the given verdict. -/
def ofBool (held : Bool) : Status := if held then .success else .failure

def isSuccess (s : Status) : Bool := s == .success

def isFailure (s : Status) : Bool := s == .failure

def isRunning (s : Status) : Bool := s == .running

/-- The status in running text. -/
def text : Status → String
  | .success => "success"
  | .failure => "failure"
  | .running => "running"

/-- The name of the status in stored data and in structural text. -/
def name : Status → String
  | .success => "Success"
  | .failure => "Failure"
  | .running => "Running"

/-- The status of a given name. Case matters. -/
def ofName? : String → Option Status
  | "Success" => some .success
  | "Failure" => some .failure
  | "Running" => some .running
  | _ => none

@[simp] theorem ofName?_name (s : Status) : ofName? s.name = some s := by cases s <;> rfl

theorem ofName?_eq_some_iff {t : String} {s : Status} : ofName? t = some s ↔ t = s.name := by
  constructor
  · intro h
    unfold ofName? at h
    split at h <;> simp_all [name] <;> subst h <;> rfl
  · rintro rfl
    exact ofName?_name s

end Status
end Forager
