import JobLang.Typed

/-!
# Simplification

A checked program is made smaller in one sweep from the leaves up. Operators on literals are
computed, operators with a neutral operand are replaced by the other operand, and statements that
can be seen to do nothing are removed. No rule looks at a type, so trees of any types are accepted,
and no rule removes an operand that calls a job.
-/
namespace JobLang.Typed

namespace Expr

/-- The literal that a binary operator makes of two literals, if they are such. -/
def foldBinary? (op : BinaryOp) (left right : Expr) : Option Value := do
  op.apply? (← left.value?) (← right.value?)

/-- The literal that a unary operator makes of a literal, if it is one. -/
def foldUnary? (op : UnaryOp) (operand : Expr) : Option Value := do
  op.apply? (← operand.value?)

theorem value?_of_foldBinary? {op : BinaryOp} {left right : Expr} {value : Value}
    (computed : foldBinary? op left right = some value) :
    ∃ a b, left.value? = some a ∧ right.value? = some b ∧ op.apply? a b = some value := by
  obtain ⟨a, left?, computed⟩ := Option.bind_eq_some_iff.mp computed
  obtain ⟨b, right?, computed⟩ := Option.bind_eq_some_iff.mp computed
  exact ⟨a, b, left?, right?, computed⟩

theorem value?_of_foldUnary? {op : UnaryOp} {operand : Expr} {value : Value}
    (computed : foldUnary? op operand = some value) :
    ∃ a, operand.value? = some a ∧ op.apply? a = some value := Option.bind_eq_some_iff.mp computed

/-- Removes a neutral or an absorbing operand of a binary operator. An absorbing literal takes the
place of the whole node only if the other operand makes no call. -/
def reduceBinary (op : BinaryOp) (left right : Expr) (note : Note) : Expr :=
  match op with
  | .add =>
    if right.isNum 0 then left
    else if left.isNum 0 then right
    else .binary op left right note
  | .minus =>
    if right.isNum 0 then left
    else if left.isNum 0 then .unary .negate right note
    else .binary op left right note
  | .multiply =>
    if right.isNum 1 then left
    else if left.isNum 1 then right
    else if right.isNum 0 && !left.containsCall then .lit (.num 0) note
    else if left.isNum 0 && !right.containsCall then .lit (.num 0) note
    else .binary op left right note
  | .divide =>
    if right.isNum 1 then left
    else .binary op left right note
  | .power =>
    if right.isNum 0 && !left.containsCall then .lit (.num 1) note
    else if left.isNum 1 && !right.containsCall then .lit (.num 1) note
    else .binary op left right note
  | .and =>
    if left.isBaal true then right
    else if right.isBaal true then left
    else .binary op left right note
  | .or =>
    if left.isBaal false then right
    else if right.isBaal false then left
    else .binary op left right note
  | .mod | .less | .greater | .equals | .notEquals => .binary op left right note

/-- A binary node over operands that are simplified already. -/
def simplifyBinary (op : BinaryOp) (left right : Expr) (note : Note) : Expr :=
  match foldBinary? op left right with
  | some value => .lit value note
  | none => reduceBinary op left right note

/-- A unary node over an operand that is simplified already. -/
def simplifyUnary (op : UnaryOp) (operand : Expr) (note : Note) : Expr :=
  match foldUnary? op operand with
  | some value => .lit value note
  | none => .unary op operand note

mutual

/-- A simplified node keeps the type and the place of the node it stands for, unless it is one of
the operands. -/
def simplify : Expr → Expr
  | .lit value note => .lit value note
  | .var v note => .var v note
  | .binary op left right note => simplifyBinary op left.simplify right.simplify note
  | .unary op operand note => simplifyUnary op operand.simplify note
  | .call callee args note => .call callee (simplifyAll args) note

/-- Simplifies the expressions of a list one by one. -/
def simplifyAll : List Expr → List Expr
  | [] => []
  | e :: rest => e.simplify :: simplifyAll rest

end

theorem simplifyAll_eq_map (es : List Expr) : simplifyAll es = es.map simplify := by
  induction es with
  | nil => rfl
  | cons e rest ih => simp [simplifyAll, ih]

end Expr

namespace Stmt

/-- An assignment of a variable to itself. -/
def isSelfAssignment (target : Variable) : Expr → Bool
  | .var v _ => v.id = target.id
  | _ => false

/-- Bounds that are literal numbers, the low one above the high one. -/
def isEmptyRange (low high : Expr) : Bool :=
  match low.value?, high.value? with
  | some (.num a), some (.num b) => b < a
  | _, _ => false

/-- The truth value of a test that is a literal. -/
def verdict? (test : Expr) : Option Bool :=
  match test.value? with
  | some (.baal b) => some b
  | _ => none

theorem eq_var_of_isSelfAssignment {target : Variable} {e : Expr}
    (self : isSelfAssignment target e = true) : ∃ v note, e = .var v note ∧ v.id = target.id := by
  cases e with
  | var v note => exact ⟨v, note, rfl, of_decide_eq_true self⟩
  | lit | binary | unary | call => cases self

theorem value?_of_isEmptyRange {low high : Expr} (empty : isEmptyRange low high = true) :
    ∃ x y, low.value? = some (.num x) ∧ high.value? = some (.num y) ∧ y < x := by
  rw [isEmptyRange] at empty
  split at empty
  · exact ⟨_, _, by assumption, by assumption, of_decide_eq_true empty⟩
  · cases empty

theorem value?_of_verdict? {test : Expr} {b : Bool} (verdict : verdict? test = some b) :
    test.value? = some (.baal b) := by
  rw [verdict?] at verdict
  split at verdict
  · cases verdict
    assumption
  · cases verdict

mutual

/-- The statements that take the place of a statement within its chunk. A branch with a literal
test gives the statements of the body that is taken. -/
def simplify : Stmt → List Stmt
  | .declare v init => [.declare v init.simplify]
  | .job j params body => [.job j params (simplifyAll body)]
  | .assign target source =>
    if isSelfAssignment target source.simplify then []
    else [.assign target source.simplify]
  | .print value => [.print value.simplify]
  | .output value => [.output value.simplify]
  | .ifThen test body =>
    match verdict? test.simplify with
    | some true => simplifyAll body
    | some false => []
    | none => [.ifThen test.simplify (simplifyAll body)]
  | .ifElse test body alternative =>
    match verdict? test.simplify with
    | some true => simplifyAll body
    | some false => simplifyAll alternative
    | none => [.ifElse test.simplify (simplifyAll body) (simplifyAll alternative)]
  | .whileLoop test body =>
    if test.simplify.isBaal false then []
    else [.whileLoop test.simplify (simplifyAll body)]
  | .repeatLoop count body =>
    if count.simplify.isNum 0 then []
    else [.repeatLoop count.simplify (simplifyAll body)]
  | .coil counter low high body =>
    if isEmptyRange low.simplify high.simplify then []
    else [.coil counter low.simplify high.simplify (simplifyAll body)]
  | .increment target => [.increment target]
  | .decrement target => [.decrement target]
  | .call callee args => [.call callee (Expr.simplifyAll args)]

/-- Simplifies a chunk, each statement giving place to the ones that replace it. -/
def simplifyAll : List Stmt → List Stmt
  | [] => []
  | s :: rest => s.simplify ++ simplifyAll rest

end

theorem simplifyAll_eq_flatMap (chunk : List Stmt) : simplifyAll chunk = chunk.flatMap simplify :=
  eq_flatMap_of_cons rfl (fun _ _ => rfl) chunk

end Stmt
end JobLang.Typed
