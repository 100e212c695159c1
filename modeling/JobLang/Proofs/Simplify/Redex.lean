import JobLang.Typed.Simplify

/-!
# Redexes

A redex is a node that a rule of simplification applies to, read off the node and the literals
right below it. Nothing here refers to the order in which the rules are tried. A binary node over
simplified operands comes to one of six outcomes, and a node that is no redex stays as it is; facts
about simplified expressions are proved by cases on these outcomes.
-/
namespace JobLang.Typed

namespace Expr

/-- An operator on two operands that a rule applies to. -/
def isBinaryRedex (op : BinaryOp) (left right : Expr) : Bool :=
  (foldBinary? op left right).isSome ||
    match op with
    | .add | .minus => left.isNum 0 || right.isNum 0
    | .multiply =>
      left.isNum 1 || right.isNum 1 || (left.isNum 0 && !right.containsCall) ||
        (right.isNum 0 && !left.containsCall)
    | .divide => right.isNum 1
    | .power =>
      (right.isNum 0 && !left.containsCall) || (left.isNum 1 && !right.containsCall)
    | .and => left.isBaal true || right.isBaal true
    | .or => left.isBaal false || right.isBaal false
    | .mod | .less | .greater | .equals | .notEquals => false

/-- The node at the root is one that a rule applies to. -/
def isRedex : Expr → Bool
  | .binary op left right _ => isBinaryRedex op left right
  | .unary op operand _ => (foldUnary? op operand).isSome
  | .lit .. | .var .. | .call .. => false

end Expr

/-- The statement itself is one that a rule applies to. -/
def Stmt.isRedex : Stmt → Bool
  | .assign target source => isSelfAssignment target source
  | .ifThen test _ | .ifElse test _ _ => (verdict? test).isSome
  | .whileLoop test _ => test.isBaal false
  | .repeatLoop count _ => count.isNum 0
  | .coil _ low high _ => isEmptyRange low high
  | .declare .. | .job .. | .print _ | .output _ | .increment _ | .decrement _ | .call .. => false

/-- No node of the expression is a redex, at any depth. -/
inductive Expr.Normal : Expr → Prop
  | lit {value : Value} {note : Note} : Normal (.lit value note)
  | var {v : Variable} {note : Note} : Normal (.var v note)
  | binary {op : BinaryOp} {left right : Expr} {note : Note} (first : Normal left)
      (second : Normal right) (stuck : (Expr.binary op left right note).isRedex = false) :
      Normal (.binary op left right note)
  | unary {op : UnaryOp} {operand : Expr} {note : Note} (inner : Normal operand)
      (stuck : (Expr.unary op operand note).isRedex = false) : Normal (.unary op operand note)
  | call {callee : Job} {args : List Expr} {note : Note} (each : ∀ arg ∈ args, Normal arg) :
      Normal (.call callee args note)

/-- No statement of the statement and no node of its expressions is a redex, at any depth. -/
inductive Stmt.Normal : Stmt → Prop
  | declare {v : Variable} {init : Expr} (value : init.Normal) : Normal (.declare v init)
  | job {j : Job} {params : List Variable} {body : List Stmt} (inside : ∀ s ∈ body, Normal s) :
      Normal (.job j params body)
  | assign {target : Variable} {source : Expr} (value : source.Normal)
      (stuck : (Stmt.assign target source).isRedex = false) : Normal (.assign target source)
  | print {value : Expr} (given : value.Normal) : Normal (.print value)
  | output {value : Expr} (given : value.Normal) : Normal (.output value)
  | ifThen {test : Expr} {body : List Stmt} (tested : test.Normal)
      (inside : ∀ s ∈ body, Normal s) (stuck : (Stmt.ifThen test body).isRedex = false) :
      Normal (.ifThen test body)
  | ifElse {test : Expr} {body alternative : List Stmt} (tested : test.Normal)
      (inside : ∀ s ∈ body, Normal s) (otherwise : ∀ s ∈ alternative, Normal s)
      (stuck : (Stmt.ifElse test body alternative).isRedex = false) :
      Normal (.ifElse test body alternative)
  | whileLoop {test : Expr} {body : List Stmt} (tested : test.Normal)
      (inside : ∀ s ∈ body, Normal s) (stuck : (Stmt.whileLoop test body).isRedex = false) :
      Normal (.whileLoop test body)
  | repeatLoop {count : Expr} {body : List Stmt} (counted : count.Normal)
      (inside : ∀ s ∈ body, Normal s) (stuck : (Stmt.repeatLoop count body).isRedex = false) :
      Normal (.repeatLoop count body)
  | coil {counter : Variable} {low high : Expr} {body : List Stmt} (lower : low.Normal)
      (upper : high.Normal) (inside : ∀ s ∈ body, Normal s)
      (stuck : (Stmt.coil counter low high body).isRedex = false) :
      Normal (.coil counter low high body)
  | increment {target : Variable} : Normal (.increment target)
  | decrement {target : Variable} : Normal (.decrement target)
  | call {callee : Job} {args : List Expr} (each : ∀ arg ∈ args, arg.Normal) :
      Normal (.call callee args)

/-- No statement of the chunk has a redex, at any depth. -/
def Stmt.NormalAll (chunk : List Stmt) : Prop := ∀ s ∈ chunk, s.Normal

namespace Expr

/-- What a binary node can become, given its operands and what it carries. -/
inductive Outcome (op : BinaryOp) (left right : Expr) (note : Note) : Expr → Prop
  | folded {value : Value} (computed : foldBinary? op left right = some value) :
      Outcome op left right note (.lit value note)
  | keepsLeft (neutral : right.isLiteral = true) (uniform : op.isUniform = true) :
      Outcome op left right note left
  | keepsRight (neutral : left.isLiteral = true) (uniform : op.isUniform = true) :
      Outcome op left right note right
  | negated (minus : op = .minus) (zero : left.isLiteral = true)
      (stuck : foldUnary? .negate right = none) :
      Outcome op left right note (.unary .negate right note)
  | absorbed {x : Float} (arithmetic : op.isArithmetic = true)
      (first : left.containsCall = false) (second : right.containsCall = false) :
      Outcome op left right note (.lit (.num x) note)
  | stays (stuck : isBinaryRedex op left right = false) :
      Outcome op left right note (.binary op left right note)

section Outcomes
variable {op : BinaryOp} {left right : Expr} {note : Note}

/-- A difference of two literal numbers is a literal, so what a difference with zero leaves to be
negated is not a literal number. -/
theorem foldUnary?_negate_of_minus (zero : left.isNum 0 = true)
    (unfolded : foldBinary? .minus left right = none) : foldUnary? .negate right = none := by
  obtain ⟨z, left?, _⟩ := value?_of_isNum zero
  rw [foldBinary?, left?] at unfolded
  rw [foldUnary?]
  cases right? : right.value? with
  | none => rfl
  | some value =>
    rw [right?] at unfolded
    cases value with
    | num x => cases unfolded
    | baal | quote => rfl

/-- A literal on the right takes the place of the node if there is no call on the left. -/
theorem Outcome.absorbed_right {n x : Float} (arithmetic : op.isArithmetic = true)
    (absorbing : (right.isNum n && !left.containsCall) = true) :
    Outcome op left right note (.lit (.num x) note) := by
  obtain ⟨number, free⟩ := Bool.and_eq_true_iff.mp absorbing
  have literal := isLiteral_of_isNum number
  exact .absorbed arithmetic (by simpa using free) (containsCall_of_isLiteral literal)

/-- A literal on the left takes the place of the node if there is no call on the right. -/
theorem Outcome.absorbed_left {n x : Float} (arithmetic : op.isArithmetic = true)
    (absorbing : (left.isNum n && !right.containsCall) = true) :
    Outcome op left right note (.lit (.num x) note) := by
  obtain ⟨number, free⟩ := Bool.and_eq_true_iff.mp absorbing
  have literal := isLiteral_of_isNum number
  exact .absorbed arithmetic (containsCall_of_isLiteral literal) (by simpa using free)

theorem outcome_reduceBinary (unfolded : foldBinary? op left right = none) :
    Outcome op left right note (reduceBinary op left right note) := by
  cases op with
  | add =>
    rw [reduceBinary]
    split
    · next zero => exact .keepsLeft (isLiteral_of_isNum zero) rfl
    split
    · next zero => exact .keepsRight (isLiteral_of_isNum zero) rfl
    · exact .stays (by simp [isBinaryRedex, *])
  | minus =>
    rw [reduceBinary]
    split
    · next zero => exact .keepsLeft (isLiteral_of_isNum zero) rfl
    split
    · next zero =>
      exact .negated rfl (isLiteral_of_isNum zero) (foldUnary?_negate_of_minus zero unfolded)
    · exact .stays (by simp [isBinaryRedex, *])
  | multiply =>
    rw [reduceBinary]
    split
    · next one => exact .keepsLeft (isLiteral_of_isNum one) rfl
    split
    · next one => exact .keepsRight (isLiteral_of_isNum one) rfl
    split
    · next zero => exact .absorbed_right rfl zero
    split
    · next zero => exact .absorbed_left rfl zero
    · exact .stays (by simp [isBinaryRedex, *])
  | divide =>
    rw [reduceBinary]
    split
    · next one => exact .keepsLeft (isLiteral_of_isNum one) rfl
    · exact .stays (by simp [isBinaryRedex, *])
  | power =>
    rw [reduceBinary]
    split
    · next zero => exact .absorbed_right rfl zero
    split
    · next one => exact .absorbed_left rfl one
    · exact .stays (by simp [isBinaryRedex, *])
  | and =>
    rw [reduceBinary]
    split
    · next holds => exact .keepsRight (isLiteral_of_isBaal holds) rfl
    split
    · next holds => exact .keepsLeft (isLiteral_of_isBaal holds) rfl
    · exact .stays (by simp [isBinaryRedex, *])
  | or =>
    rw [reduceBinary]
    split
    · next fails => exact .keepsRight (isLiteral_of_isBaal fails) rfl
    split
    · next fails => exact .keepsLeft (isLiteral_of_isBaal fails) rfl
    · exact .stays (by simp [isBinaryRedex, *])
  | mod | less | greater | equals | notEquals => exact .stays (by simp [isBinaryRedex, unfolded])

theorem outcome_simplifyBinary (op : BinaryOp) (left right : Expr) (note : Note) :
    Outcome op left right note (simplifyBinary op left right note) := by
  rw [simplifyBinary]
  cases computed : foldBinary? op left right with
  | some value => exact .folded computed
  | none => exact outcome_reduceBinary computed

end Outcomes
end Expr
end JobLang.Typed
