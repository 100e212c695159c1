import JobLang.Proofs.Check.Whole

/-!
# Reachable states

A checker can be used again after an analysis, also after one that failed, which leaves it in the
middle of whatever was being analysed. The states it can get into are those that some sequence of
analyses leads to from a prelude. In all of them the current scope has been made.
-/
namespace JobLang

/-- What a checker can be asked to analyse. A program is analysed as a chunk. -/
inductive Analysis
  | expr (e : Syntax.Expr)
  | call (callee : Token) (args : List Syntax.Expr)
  | stmt (s : Syntax.Stmt)
  | chunk (body : List Syntax.Stmt)
  | block (body : List Syntax.Stmt)

/-- The state that a step leaves behind, whether it succeeds or fails. -/
def stateOf {α : Type} : EStateM.Result Diagnostic Checker α → Checker
  | .ok _ after => after
  | .error _ after => after

namespace Checker

/-- The state after an analysis. -/
def after (checker : Checker) : Analysis → Checker
  | .expr e => stateOf (Check.expr e checker)
  | .call callee args =>
    stateOf ((Syntax.checkCall checker.scopes callee args : Check (Job × List Typed.Expr)) checker)
  | .stmt s => stateOf (s.check checker)
  | .chunk body => stateOf (Syntax.Stmt.checkAll body checker)
  | .block body => stateOf (Check.inScope none (Syntax.Stmt.checkAll body) checker)

/-- The states that sequences of analyses lead to. -/
inductive Reachable (prelude : Prelude) : Checker → Prop
  | start {checker : Checker} (made : ofPrelude prelude = .ok checker) : Reachable prelude checker
  | after {checker : Checker} (earlier : Reachable prelude checker) (analysis : Analysis) :
      Reachable prelude (checker.after analysis)

end Checker

section Invariant
variable {α : Type} {checker : Checker}

theorem Refines.inRange {outputs : Nat} {result : EStateM.Result Diagnostic Checker α}
    {outcome : Except Diagnostic (α × Env)} (refines : Refines checker outputs result outcome)
    (inRange : checker.InRange) : (stateOf result).InRange := by
  cases outcome with
  | error d =>
    obtain ⟨after, rfl, inRange'⟩ := refines.error
    exact inRange'
  | ok done =>
    obtain ⟨after, rfl, steps, _⟩ := refines.ok
    exact steps.inRange inRange

/-- A step that only looks at the state leaves it, also if it fails. -/
theorem Reads.stateOf_eq {step : Check α} {outcome : Except Diagnostic α}
    (reads : Reads checker step outcome) : stateOf (step checker) = checker := by
  cases outcome with
  | ok a =>
    have ran : step checker = .ok a checker := reads
    rw [ran]
    rfl
  | error d =>
    have ran : step checker = .error d checker := reads
    rw [ran]
    rfl

theorem Checker.Reachable.inRange {prelude : Prelude} (reachable : checker.Reachable prelude) :
    checker.InRange := by
  induction reachable with
  | start made => exact (start_of_ofPrelude made).1
  | @after checker earlier analysis ih =>
    cases analysis with
    | expr e =>
      rw [Checker.after, (reads_expr e).stateOf_eq]
      exact ih
    | call callee args =>
      rw [Checker.after, (Reads.lift _).stateOf_eq]
      exact ih
    | stmt s => exact (refines_check s ih).inRange ih
    | chunk body => exact (refines_checkAll body ih).inRange ih
    | block body => exact (refines_block body ih).inRange ih

end Invariant
end JobLang
