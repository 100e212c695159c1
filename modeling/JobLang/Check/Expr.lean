import JobLang.Check.Name
import JobLang.Typed

/-!
# Checking expressions

An expression is checked in the scopes around it, from left to right, and the first fault ends the
check. Checking an expression declares nothing, so it is a function of the scopes alone.
-/
namespace JobLang

namespace Typed.Expr

/-- A literal with the type of its value. -/
def literal (value : Value) (position : Option Position) : Expr := .lit value ⟨value.ty, position⟩

/-- A binary node over checked operands, which the operator has to accept. -/
def ofBinary (op : BinaryOp) (left right : Expr) (position : Option Position) :
    Except Diagnostic Expr :=
  match op.resultTy? left.ty right.ty with
  | some ty => .ok (.binary op left right ⟨ty, position⟩)
  | none => .error ⟨.operandTypes op.render left.ty.render right.ty.render, position⟩

/-- A unary node over a checked operand, which the operator has to accept. -/
def ofUnary (op : UnaryOp) (operand : Expr) (position : Option Position) :
    Except Diagnostic Expr :=
  match op.resultTy? operand.ty with
  | some ty => .ok (.unary op operand ⟨ty, position⟩)
  | none => .error ⟨.operandTypes op.render operand.ty.render "nothing", position⟩

/-- Passes if every argument fits its parameter. Arguments are counted from `index` on, and one
without a place is reported at the callee. -/
def fitEach (callee : Job) (place : Option Position) (index : Nat) :
    List Expr → List Ty → Except Diagnostic Unit
  | arg :: args, param :: params =>
    if arg.ty.fits param then fitEach callee place (index + 1) args params
    else .error ⟨.argumentType callee.name index param.render arg.ty.render, arg.position.or place⟩
  | _, _ => .ok ()

/-- Passes if there are as many arguments as parameters and each fits. -/
def fitArguments (callee : Job) (place : Option Position) (args : List Expr) :
    Except Diagnostic Unit :=
  if args.length = callee.params.length then fitEach callee place 0 args callee.params
  else .error ⟨.arity callee.name callee.params.length args.length, place⟩

end Typed.Expr

namespace Syntax

/-- A leaf read by its category: a name as a variable, a literal as its value. An operator is no
expression on its own. -/
def checkLeaf (scopes : Scopes) (token : Token) : Except Diagnostic Typed.Expr :=
  let literal (value? : Option Value) : Except Diagnostic Typed.Expr :=
    match value? with
    | some value => .ok (.literal value token.position)
    | none => .error token.malformed
  match token.category with
  | .id => do
    let v ← scopes.readable token
    return .var v ⟨v.ty, token.position⟩
  | .num => literal (token.number?.map .num)
  | .baal => literal (token.baal?.map .baal)
  | .quote => literal (token.quote?.map .quote)
  | .sym => .error ⟨.unexpectedToken token.lexeme, token.position⟩

/-- A call whose arguments have been checked with the given outcome. The callee is looked up before
a fault in the arguments counts. -/
def checkCallee (scopes : Scopes) (callee : Token) (checked : Except Diagnostic (List Typed.Expr)) :
    Except Diagnostic (Job × List Typed.Expr) := do
  let job ← scopes.callable callee
  let args ← checked
  Typed.Expr.fitArguments job callee.position args
  return (job, args)

mutual

def Expr.check (scopes : Scopes) : Expr → Except Diagnostic Typed.Expr
  | .leaf token => checkLeaf scopes token
  | .binary operator left right => do
    let op ← operator.binaryOp
    let checkedLeft ← left.check scopes
    let checkedRight ← right.check scopes
    Typed.Expr.ofBinary op checkedLeft checkedRight (operator.position.or left.position)
  | .unary operator operand => do
    let op ← operator.unaryOp
    let checked ← operand.check scopes
    Typed.Expr.ofUnary op checked (operator.position.or operand.position)
  | .call callee args => do
    let (job, args) ← checkCallee scopes callee (checkAll scopes args)
    return .call job args ⟨job.returns, callee.position⟩

/-- Checks the expressions of a list in order. -/
def Expr.checkAll (scopes : Scopes) : List Expr → Except Diagnostic (List Typed.Expr)
  | [] => .ok []
  | e :: rest => do
    let checked ← e.check scopes
    let others ← checkAll scopes rest
    return checked :: others

end

/-- Checks a call on its own. -/
def checkCall (scopes : Scopes) (callee : Token) (args : List Expr) :
    Except Diagnostic (Job × List Typed.Expr) :=
  checkCallee scopes callee (Expr.checkAll scopes args)

end Syntax
end JobLang
