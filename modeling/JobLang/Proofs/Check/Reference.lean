import JobLang.Check.Program

/-!
# A checker without a state

The rules of the checker once more, as plain functions of an environment: the names that can be
seen, frame by frame, the job whose body is being checked, and the number for the next entity.
There is no arena and no count of outputs. A body is checked in a frame of its own, and of what
comes back only the next number is kept. Whether a job outputs anything is read off its body.
-/
namespace JobLang

namespace Syntax.Stmt

mutual

/-- The number of outputs in a statement. Those in the body of a job declared there belong to that
job and are not counted. -/
def outputs : Stmt → Nat
  | .output _ => 1
  | .ifThen _ body | .whileLoop _ body | .repeatLoop _ body | .coil _ _ _ body => outputsAll body
  | .ifElse _ body alternative => outputsAll body + outputsAll alternative
  | .declare .. | .job .. | .assign .. | .print _ | .increment _ | .decrement _ | .call .. => 0

def outputsAll : List Stmt → Nat
  | [] => 0
  | s :: rest => s.outputs + outputsAll rest

end

end Syntax.Stmt

/-- The names declared in one scope, the latest first. -/
abbrev Frame := List (String × Entity)

structure Env where
  /-- The frame that new names go to. -/
  top : Frame
  /-- The frames around it, the innermost first. -/
  outer : List Frame
  job : Option Job
  next : Nat

namespace Env

/-- The innermost binding of a name. -/
def find? (env : Env) (name : String) : Option Entity :=
  (env.top :: env.outer).findSome? (·.lookup name)

/-- The environment of a body, whose frame is new. -/
def inner (env : Env) (job : Option Job) : Env :=
  ⟨[], env.top :: env.outer, job.or env.job, env.next⟩

/-- The environment behind a body, of which only the next number is kept. -/
def behind (env body : Env) : Env := { env with next := body.next }

/-- Checks a body in a frame of its own. -/
def within {α : Type} (env : Env) (job : Option Job)
    (step : Env → Except Diagnostic (α × Env)) : Except Diagnostic (α × Env) := do
  let (a, body) ← step (env.inner job)
  return (a, env.behind body)

/-- Binds a name in the top frame, where it must not be bound yet. The entity has taken a number. -/
def bind (env : Env) (name : String) (entity : Entity) (place : Option Position) :
    Except Diagnostic Env :=
  match env.top.lookup name with
  | some _ => .error ⟨.duplicateDeclaration name, place⟩
  | none => .ok { env with top := (name, entity) :: env.top, next := env.next + 1 }

def declareVariable (env : Env) (name : String) (ty : Ty) (readOnly : Bool)
    (place : Option Position) : Except Diagnostic (Variable × Env) := do
  let v : Variable := ⟨env.next, name, ty, readOnly⟩
  return (v, ← env.bind name (.var v) place)

def declareJob (env : Env) (name : String) (params : List Ty) (returns : Ty)
    (place : Option Position) : Except Diagnostic (Job × Env) := do
  let j : Job := ⟨env.next, name, params, returns⟩
  return (j, ← env.bind name (.job j) place)

end Env

namespace Reference

open Syntax (Parameter)

/-- What a name stands for. -/
def entity (env : Env) (token : Token) : Except Diagnostic Entity := do
  token.expectIdentifier
  match env.find? token.lexeme with
  | some found => return found
  | none => .error ⟨.undeclaredIdentifier token.lexeme, token.position⟩

def readable (env : Env) (token : Token) : Except Diagnostic Variable := do
  match ← entity env token with
  | .var v => return v
  | .job _ => .error ⟨.typeMismatch Kind.var.render Kind.job.render, token.position⟩

def writable (env : Env) (token : Token) : Except Diagnostic Variable := do
  let v ← readable env token
  if v.readOnly then .error ⟨.readOnlyAssignment v.name, token.position⟩ else return v

def countable (env : Env) (token : Token) : Except Diagnostic Variable := do
  let v ← writable env token
  if v.ty = .num then return v
  else .error ⟨.typeMismatch Ty.num.render v.ty.render, token.position⟩

def callable (env : Env) (token : Token) : Except Diagnostic Job := do
  match ← entity env token with
  | .job j => return j
  | .var v => .error ⟨.notCallable v.name, token.position⟩

/-- A literal with the value that its token spells, if it spells one. -/
def literal (token : Token) (value? : Option Value) : Except Diagnostic Typed.Expr :=
  match value? with
  | some value => return .lit value ⟨value.ty, token.position⟩
  | none => .error token.malformed

def leaf (env : Env) (token : Token) : Except Diagnostic Typed.Expr :=
  match token.category with
  | .id => do
    let v ← readable env token
    return .var v ⟨v.ty, token.position⟩
  | .num => literal token (token.number?.map .num)
  | .baal => literal token (token.baal?.map .baal)
  | .quote => literal token (token.quote?.map .quote)
  | .sym => .error ⟨.unexpectedToken token.lexeme, token.position⟩

mutual

def expr (env : Env) : Syntax.Expr → Except Diagnostic Typed.Expr
  | .leaf token => leaf env token
  | .binary operator left right => do
    let op ← operator.binaryOp
    let l ← expr env left
    let r ← expr env right
    Typed.Expr.ofBinary op l r (operator.position.or left.position)
  | .unary operator operand => do
    let op ← operator.unaryOp
    let e ← expr env operand
    Typed.Expr.ofUnary op e (operator.position.or operand.position)
  | .call token args => do
    let j ← callable env token
    let checked ← exprs env args
    Typed.Expr.fitArguments j token.position checked
    return .call j checked ⟨j.returns, token.position⟩

/-- The expressions of a list in order. -/
def exprs (env : Env) : List Syntax.Expr → Except Diagnostic (List Typed.Expr)
  | [] => return []
  | e :: rest => do
    let checked ← expr env e
    return checked :: (← exprs env rest)

end

/-- An expression that has to be of the given type. -/
def condition (env : Env) (construct : String) (expected : Ty) (e : Syntax.Expr) :
    Except Diagnostic Typed.Expr := do
  let checked ← expr env e
  if checked.ty = expected then return checked
  else .error ⟨.conditionType construct expected.render checked.ty.render, checked.position⟩

/-- Passes if a value fits the place it goes to. -/
def fit (source : Typed.Expr) (target : Ty) (place : Option Position) : Except Diagnostic Unit :=
  if source.ty = target then return ()
  else .error ⟨.typeMismatch target.render source.ty.render, source.position.or place⟩

def call (env : Env) (token : Token) (args : List Syntax.Expr) :
    Except Diagnostic (Job × List Typed.Expr) := do
  let j ← callable env token
  let checked ← exprs env args
  Typed.Expr.fitArguments j token.position checked
  return (j, checked)

/-- Declares the parameters of a job in the frame of its body. -/
def parameters (env : Env) : List (Parameter × Ty) → Except Diagnostic (List Variable × Env)
  | [] => return ([], env)
  | (param, ty) :: rest => do
    param.name.expectIdentifier
    let (v, env) ← env.declareVariable param.name.lexeme ty true param.name.position
    let (others, env) ← parameters env rest
    return (v :: others, env)

/-- The type of the counter of a coil. -/
def counterTy (param : Parameter) : Except Diagnostic Ty := do
  let ty ← param.typeName.storableTy
  if ty = .num then return ty
  else .error ⟨.typeMismatch Ty.num.render ty.render, param.typeName.position⟩

/-- The job whose body this is. -/
def enclosing (env : Env) (place : Option Position) : Except Diagnostic Job :=
  match env.job with
  | some j => return j
  | none => .error ⟨.outputOutsideJob, place⟩

/-- Passes if a value fits the result of the job that outputs it. -/
def fitResult (j : Job) (value : Typed.Expr) : Except Diagnostic Unit :=
  if value.ty = j.returns then return ()
  else .error ⟨.returnType j.name j.returns.render value.ty.render, value.position⟩

/-- Passes if a job has no result to give or has an output in its body. -/
def requireOutput (j : Job) (outputs : Nat) (place : Option Position) : Except Diagnostic Unit :=
  if j.returns ≠ .void ∧ outputs = 0 then
    .error ⟨.returnType j.name j.returns.render "nothing", place⟩
  else return ()

/-- A value that can be printed. -/
def printed (env : Env) (e : Syntax.Expr) : Except Diagnostic Typed.Expr := do
  let value ← expr env e
  if value.ty = .void then
    .error ⟨.typeMismatch "a printable value" value.ty.render, value.position⟩
  else return value

mutual

def stmt (env : Env) : Syntax.Stmt → Except Diagnostic (Typed.Stmt × Env)
  | .declare typeName name init => do
    let init ← expr env init
    let ty ← typeName.storableTy
    name.expectIdentifier
    fit init ty name.position
    let (v, env) ← env.declareVariable name.lexeme ty false name.position
    return (.declare v init, env)
  | .job returns name params body => do
    name.expectIdentifier
    let ty ← returns.namedTy
    let tys ← params.mapM fun param => param.typeName.storableTy
    let (j, env) ← env.declareJob name.lexeme tys ty name.position
    let ((vars, checked, outputs), env) ← env.within (some j) fun env => do
      let (vars, env) ← parameters env (params.zip tys)
      let (checked, env) ← chunk env body
      return ((vars, checked, Syntax.Stmt.outputsAll body), env)
    requireOutput j outputs name.position
    return (.job j vars checked, env)
  | .assign token source => do
    let v ← writable env token
    let source ← expr env source
    fit source v.ty token.position
    return (.assign v source, env)
  | .print e => do
    let value ← printed env e
    return (.print value, env)
  | .output e => do
    let j ← enclosing env e.position
    let value ← expr env e
    fitResult j value
    return (.output value, env)
  | .ifThen test body => do
    let test ← condition env "if statement" .baal test
    let (body, env) ← env.within none (chunk · body)
    return (.ifThen test body, env)
  | .ifElse test body alternative => do
    let test ← condition env "if statement" .baal test
    let (body, env) ← env.within none (chunk · body)
    let (alternative, env) ← env.within none (chunk · alternative)
    return (.ifElse test body alternative, env)
  | .whileLoop test body => do
    let test ← condition env "while statement" .baal test
    let (body, env) ← env.within none (chunk · body)
    return (.whileLoop test body, env)
  | .repeatLoop count body => do
    let count ← condition env "repeat statement" .num count
    let (body, env) ← env.within none (chunk · body)
    return (.repeatLoop count body, env)
  | .coil param low high body => do
    let low ← condition env "coil range" .num low
    let high ← condition env "coil range" .num high
    let ty ← counterTy param
    param.name.expectIdentifier
    let ((v, body), env) ← env.within none fun env => do
      let (v, env) ← env.declareVariable param.name.lexeme ty true param.name.position
      let (body, env) ← chunk env body
      return ((v, body), env)
    return (.coil v low high body, env)
  | .increment token => do
    let v ← countable env token
    return (.increment v, env)
  | .decrement token => do
    let v ← countable env token
    return (.decrement v, env)
  | .call token args => do
    let (j, args) ← call env token args
    return (.call j args, env)

/-- The statements of a chunk, each in the environment that the one before it left. -/
def chunk (env : Env) : List Syntax.Stmt → Except Diagnostic (List Typed.Stmt × Env)
  | [] => return ([], env)
  | s :: rest => do
    let (checked, env) ← stmt env s
    let (others, env) ← chunk env rest
    return (checked :: others, env)

end

def declareConstant (env : Env) (constant : String × Ty) : Except Diagnostic Env := do
  let (_, env) ← env.declareVariable constant.1 constant.2 true none
  return env

def declareBuiltin (env : Env) (job : Builtin) : Except Diagnostic Env := do
  let (_, env) ← env.declareJob job.name job.params job.returns none
  return env

/-- The environment of a program: an empty frame inside the one that the prelude fills. -/
def ofPrelude (prelude : Prelude) : Except Diagnostic Env := do
  let env ← prelude.constants.foldlM declareConstant ⟨[], [], none, 0⟩
  let env ← prelude.jobs.foldlM declareBuiltin env
  return env.inner none

def check (prelude : Prelude) (program : List Syntax.Stmt) :
    Except Diagnostic (List Typed.Stmt) := do
  let (checked, _) ← chunk (← ofPrelude prelude) program
  return checked

end Reference
end JobLang
