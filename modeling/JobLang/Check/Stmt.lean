import JobLang.Check.Expr
import JobLang.Check.State

/-!
# Checking statements

The rules of each statement, in the order in which they are tried. A body is checked in a scope of
its own; the parameters of a job and the counter of a coil are declared in the scope of the body.
-/
namespace JobLang.Check

open Syntax (Parameter)

/-- Checks an expression in the current scope. -/
def expr (e : Syntax.Expr) : Check Typed.Expr := do
  e.check (← scopes)

/-- Checks an expression that a statement needs to be of a given type. -/
def condition (construct : String) (expected : Ty) (e : Syntax.Expr) : Check Typed.Expr := do
  let checked ← expr e
  if checked.ty = expected then return checked
  else throw ⟨.conditionType construct expected.render checked.ty.render, checked.position⟩

/-- Passes if an expression fits a place of the given type. An expression without a place of its
own is reported at `place`. -/
def expectFits (source : Typed.Expr) (target : Ty) (place : Option Position) : Check Unit :=
  if source.ty.fits target then return ()
  else throw ⟨.typeMismatch target.render source.ty.render, source.position.or place⟩

/-- Checks an expression that is to be printed; a job without a result gives nothing to print. -/
def printable (e : Syntax.Expr) : Check Typed.Expr := do
  let checked ← expr e
  if checked.ty = .void then
    throw ⟨.typeMismatch "a printable value" checked.ty.render, checked.position⟩
  else return checked

/-- Passes if an expression fits the result of the job that outputs it. -/
def expectResult (job : Job) (value : Typed.Expr) : Check Unit :=
  if value.ty.fits job.returns then return ()
  else throw ⟨.returnType job.name job.returns.render value.ty.render, value.position⟩

/-- The job whose body this is. -/
def enclosingJob (place : Option Position) : Check Job := do
  match (← scopes).enclosingJob? with
  | some job => return job
  | none => throw ⟨.outputOutsideJob, place⟩

/-- Declares the parameters of a job, each with its type. -/
def declareParams : List (Parameter × Ty) → Check (List Variable)
  | [] => return []
  | (param, ty) :: rest => do
    param.name.expectIdentifier
    let v ← declareVariable param.name.lexeme ty true param.name.position
    let others ← declareParams rest
    return v :: others

/-- The type of the counter of a coil, which has to be a number. -/
def counterTy (counter : Parameter) : Check Ty := do
  let ty ← counter.typeName.storableTy
  if ty = .num then return ty
  else throw ⟨.typeMismatch Ty.num.render ty.render, counter.typeName.position⟩

/-- A job with a result has to output something in its own body. -/
def expectOutput (job : Job) (outputs : Nat) (place : Option Position) : Check Unit :=
  if job.returns ≠ .void ∧ outputs = 0 then
    throw ⟨.returnType job.name job.returns.render "nothing", place⟩
  else return ()

end Check

namespace Syntax

open Check

mutual

def Stmt.check : Stmt → Check Typed.Stmt
  | .declare typeName name init => do
    let init ← expr init
    let ty ← typeName.storableTy
    name.expectIdentifier
    expectFits init ty name.position
    let v ← declareVariable name.lexeme ty false name.position
    return .declare v init
  | .job returns name params body => do
    name.expectIdentifier
    let result ← returns.namedTy
    let tys ← params.mapM fun param => param.typeName.storableTy
    let job ← declareJob name.lexeme tys result name.position
    let (vars, body, outputs) ← inScope (some job) do
      let vars ← declareParams (params.zip tys)
      let (body, outputs) ← countingOutputs (checkAll body)
      return (vars, body, outputs)
    expectOutput job outputs name.position
    return .job job vars body
  | .assign target source => do
    let v ← (← scopes).writable target
    let source ← expr source
    expectFits source v.ty target.position
    return .assign v source
  | .print value => do
    let value ← printable value
    return .print value
  | .output value => do
    let job ← enclosingJob value.position
    let value ← expr value
    expectResult job value
    countOutput
    return .output value
  | .ifThen test body => do
    let test ← condition "if statement" .baal test
    let body ← inScope none (checkAll body)
    return .ifThen test body
  | .ifElse test body alternative => do
    let test ← condition "if statement" .baal test
    let body ← inScope none (checkAll body)
    let alternative ← inScope none (checkAll alternative)
    return .ifElse test body alternative
  | .whileLoop test body => do
    let test ← condition "while statement" .baal test
    let body ← inScope none (checkAll body)
    return .whileLoop test body
  | .repeatLoop count body => do
    let count ← condition "repeat statement" .num count
    let body ← inScope none (checkAll body)
    return .repeatLoop count body
  | .coil counter low high body => do
    let low ← condition "coil range" .num low
    let high ← condition "coil range" .num high
    let ty ← counterTy counter
    counter.name.expectIdentifier
    let (v, body) ← inScope none do
      let v ← declareVariable counter.name.lexeme ty true counter.name.position
      let body ← checkAll body
      return (v, body)
    return .coil v low high body
  | .increment target => do
    let v ← (← scopes).countable target
    return .increment v
  | .decrement target => do
    let v ← (← scopes).countable target
    return .decrement v
  | .call callee args => do
    let (callee, args) ← checkCall (← scopes) callee args
    return .call callee args

/-- Checks the statements of a chunk in the current scope, one after another. -/
def Stmt.checkAll : List Stmt → Check (List Typed.Stmt)
  | [] => return []
  | s :: rest => do
    let checked ← s.check
    let others ← checkAll rest
    return checked :: others

end

end Syntax
end JobLang
