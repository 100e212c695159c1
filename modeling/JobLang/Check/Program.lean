import JobLang.Check.Stmt
import JobLang.Prelude
import JobLang.Typed.Simplify

/-!
# Checking programs

A program is checked in a scope below the one that holds its prelude, so that it may give a name of
the prelude another meaning. Compiling is checking and then simplifying.
-/
namespace JobLang

/-- Declares what a prelude lists, constants before jobs, and enters the scope of the program. -/
def Prelude.install (prelude : Prelude) : Check Unit := do
  prelude.constants.forM fun (name, ty) => discard <| Check.declareVariable name ty true none
  prelude.jobs.forM fun job => discard <| Check.declareJob job.name job.params job.returns none
  Check.enter none

namespace Checker

/-- Nothing has been declared yet. -/
def initial : Checker := ⟨Scopes.root, 0, []⟩

/-- The state in which a program with the given prelude is checked; the prelude must not have one
name twice. -/
def ofPrelude (prelude : Prelude) : Except Diagnostic Checker :=
  match prelude.install.run initial with
  | .ok _ checker => .ok checker
  | .error diagnostic _ => .error diagnostic

end Checker

/-- Checks a program that uses the given prelude. -/
def check (prelude : Prelude) (program : List Syntax.Stmt) :
    Except Diagnostic (List Typed.Stmt) := do
  let checker ← Checker.ofPrelude prelude
  match (Syntax.Stmt.checkAll program).run checker with
  | .ok checked _ => .ok checked
  | .error diagnostic _ => .error diagnostic

/-- Checks and simplifies a program that uses the given prelude. -/
def compile (prelude : Prelude) (program : List Syntax.Stmt) :
    Except Diagnostic (List Typed.Stmt) := do
  return Typed.Stmt.simplifyAll (← check prelude program)

end JobLang
