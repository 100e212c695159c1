import JobLang.Typed

/-!
# Agreement of checked programs

Two trees agree if they are the same in every part, where numbers are compared as numbers: the two
zeros agree, and a value that is not a number agrees with nothing, not even with itself. This is
coarser than equality at zero, and at such a value it is not even reflexive.
-/
namespace JobLang

def Value.agrees : Value → Value → Bool
  | .num a, .num b => a == b
  | .baal a, .baal b => a == b
  | .quote a, .quote b => a == b
  | _, _ => false

namespace Typed

mutual

def Expr.agrees : Expr → Expr → Bool
  | .lit value note, .lit value' note' => value.agrees value' && note = note'
  | .var v note, .var v' note' => v = v' && note = note'
  | .binary op left right note, .binary op' left' right' note' =>
    op = op' && left.agrees left' && right.agrees right' && note = note'
  | .unary op operand note, .unary op' operand' note' =>
    op = op' && operand.agrees operand' && note = note'
  | .call callee args note, .call callee' args' note' =>
    callee = callee' && agreeAll args args' && note = note'
  | _, _ => false

/-- Lists of expressions agree if they do so one by one. -/
def Expr.agreeAll : List Expr → List Expr → Bool
  | [], [] => true
  | e :: rest, e' :: rest' => e.agrees e' && agreeAll rest rest'
  | _, _ => false

end

mutual

def Stmt.agrees : Stmt → Stmt → Bool
  | .declare v init, .declare v' init' => v = v' && init.agrees init'
  | .job j params body, .job j' params' body' =>
    j = j' && params = params' && agreeAll body body'
  | .assign target source, .assign target' source' => target = target' && source.agrees source'
  | .print value, .print value' => value.agrees value'
  | .output value, .output value' => value.agrees value'
  | .ifThen test body, .ifThen test' body' => test.agrees test' && agreeAll body body'
  | .ifElse test body alternative, .ifElse test' body' alternative' =>
    test.agrees test' && agreeAll body body' && agreeAll alternative alternative'
  | .whileLoop test body, .whileLoop test' body' => test.agrees test' && agreeAll body body'
  | .repeatLoop count body, .repeatLoop count' body' => count.agrees count' && agreeAll body body'
  | .coil counter low high body, .coil counter' low' high' body' =>
    counter = counter' && low.agrees low' && high.agrees high' && agreeAll body body'
  | .increment target, .increment target' => target = target'
  | .decrement target, .decrement target' => target = target'
  | .call callee args, .call callee' args' => callee = callee' && Expr.agreeAll args args'
  | _, _ => false

/-- Chunks agree if their statements do so one by one. -/
def Stmt.agreeAll : List Stmt → List Stmt → Bool
  | [], [] => true
  | s :: rest, s' :: rest' => s.agrees s' && agreeAll rest rest'
  | _, _ => false

end

end Typed
end JobLang
