import JobLang.Token

/-!
# Programs as written

The tree of a program before any name, type or operator in it has been looked up: every leaf is
still a token. A program is a list of statements, called a chunk, and a chunk is also what a job,
a branch or a loop has for its body.
-/
namespace JobLang.Syntax

inductive Expr
  | leaf (token : Token)
  | binary (operator : Token) (left right : Expr)
  | unary (operator : Token) (operand : Expr)
  | call (callee : Token) (args : List Expr)
deriving Inhabited

/-- A name with a type name before it: a parameter of a job, or the counter of a coil. -/
structure Parameter where
  typeName : Token
  name : Token
deriving DecidableEq, Inhabited

inductive Stmt
  /-- A new variable with its first value. -/
  | declare (typeName name : Token) (init : Expr)
  /-- A job with its result type, parameters and body. -/
  | job (returns name : Token) (params : List Parameter) (body : List Stmt)
  | assign (target : Token) (source : Expr)
  | print (value : Expr)
  /-- Ends the innermost job with a value. -/
  | output (value : Expr)
  | ifThen (test : Expr) (body : List Stmt)
  | ifElse (test : Expr) (body alternative : List Stmt)
  | whileLoop (test : Expr) (body : List Stmt)
  | repeatLoop (count : Expr) (body : List Stmt)
  /-- A loop whose counter runs from the low bound to the high one. -/
  | coil (counter : Parameter) (low high : Expr) (body : List Stmt)
  | increment (target : Token)
  | decrement (target : Token)
  | call (callee : Token) (args : List Expr)
deriving Inhabited

/-- The best known place of an expression: the operator's own, or else the one of the operand
written first. A call stands where its callee stands. -/
def Expr.position : Expr → Option Position
  | .leaf token => token.position
  | .binary operator left _ => operator.position.or left.position
  | .unary operator operand => operator.position.or operand.position
  | .call callee _ => callee.position

end JobLang.Syntax
