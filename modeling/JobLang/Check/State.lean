import JobLang.Scopes

/-!
# The state of a check

Statements are checked one after another against a state: the scopes made so far, the number for
the next entity, and a count of outputs for every job body that is being checked. A fault ends the
check of a statement, and the state stays as it was at the fault: scopes that were entered are not
left, and names and numbers that were given stay given.
-/
namespace JobLang

structure Checker where
  scopes : Scopes
  nextId : Nat
  /-- One count for each job body being checked, that of the innermost job first. -/
  outputs : List Nat
deriving DecidableEq, Inhabited

/-- A step that may end in a diagnostic; either way it leaves a state behind. -/
abbrev Check := EStateM Diagnostic Checker

instance : MonadLift (Except Diagnostic) Check where
  monadLift
    | .ok a => fun checker => .ok a checker
    | .error diagnostic => fun checker => .error diagnostic checker

namespace Check

/-- The scopes at this point. -/
def scopes : Check Scopes := do return (← get).scopes

/-- Makes a variable with a number of its own; it is not bound to a name yet. -/
def newVariable (name : String) (ty : Ty) (readOnly : Bool) : Check Variable :=
  modifyGet fun checker =>
    (⟨checker.nextId, name, ty, readOnly⟩, { checker with nextId := checker.nextId + 1 })

/-- Makes a job with a number of its own; it is not bound to a name yet. -/
def newJob (name : String) (params : List Ty) (returns : Ty) : Check Job :=
  modifyGet fun checker =>
    (⟨checker.nextId, name, params, returns⟩, { checker with nextId := checker.nextId + 1 })

/-- Binds a name in the current scope. -/
def bindName (name : String) (entity : Entity) (position : Option Position) : Check Unit := do
  let extended ← (← scopes).declare name entity position
  modify fun checker => { checker with scopes := extended }

/-- Makes a variable and binds its name. -/
def declareVariable (name : String) (ty : Ty) (readOnly : Bool) (position : Option Position) :
    Check Variable := do
  let v ← newVariable name ty readOnly
  bindName name (.var v) position
  return v

/-- Makes a job and binds its name. -/
def declareJob (name : String) (params : List Ty) (returns : Ty) (position : Option Position) :
    Check Job := do
  let j ← newJob name params returns
  bindName name (.job j) position
  return j

/-- Enters a new scope below the current one. -/
def enter (job : Option Job) : Check Unit :=
  modify fun checker => { checker with scopes := checker.scopes.enter job }

/-- Goes back to the scope around the current one. -/
def leave : Check Unit :=
  modify fun checker => { checker with scopes := checker.scopes.leave }

/-- Runs a step in a new scope and leaves the scope unless the step fails. -/
def inScope {α : Type} (job : Option Job) (step : Check α) : Check α := do
  enter job
  let result ← step
  leave
  return result

/-- Adds one to the count of the innermost job body, if there is one. -/
def countOutput : Check Unit :=
  modify fun checker => { checker with outputs := checker.outputs.modifyHead (· + 1) }

/-- Runs a step with a fresh count, and gives the number of outputs it counted. -/
def countingOutputs {α : Type} (step : Check α) : Check (α × Nat) := do
  modify fun checker => { checker with outputs := 0 :: checker.outputs }
  let result ← step
  let count := (← get).outputs.headD 0
  modify fun checker => { checker with outputs := checker.outputs.tail }
  return (result, count)

end Check
end JobLang
