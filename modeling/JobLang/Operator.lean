import JobLang.Ty

/-!
# Operators

The binary and unary operators, their spellings in a program, the spelling they are shown with,
and the types they accept. What they compute on values stands with the values.
-/
namespace JobLang

inductive BinaryOp
  | add
  | minus
  | multiply
  | divide
  | mod
  | power
  | less
  | greater
  | equals
  | notEquals
  | and
  | or
deriving DecidableEq, Repr, Inhabited

namespace BinaryOp

/-- The operator that a lexeme spells; the operators written as words have symbols as well. -/
def ofLexeme? : String → Option BinaryOp
  | "add" | "+" => some .add
  | "minus" | "-" => some .minus
  | "multiply" | "*" => some .multiply
  | "divide" | "/" => some .divide
  | "mod" | "%" => some .mod
  | "to the" | "^" => some .power
  | "<" => some .less
  | ">" => some .greater
  | "==" => some .equals
  | "!=" => some .notEquals
  | "and" | "&&" => some .and
  | "or" | "||" => some .or
  | _ => none

/-- The spelling an operator is shown with. -/
def render : BinaryOp → String
  | .add => "add"
  | .minus => "minus"
  | .multiply => "multiply"
  | .divide => "divide"
  | .mod => "mod"
  | .power => "to the"
  | .less => "<"
  | .greater => ">"
  | .equals => "=="
  | .notEquals => "!="
  | .and => "and"
  | .or => "or"

/-- The operators that compute a number from two numbers. -/
def isArithmetic : BinaryOp → Bool
  | .add | .minus | .multiply | .divide | .mod | .power => true
  | _ => false

/-- The operators whose result is of the type of their operands. -/
def isUniform : BinaryOp → Bool
  | .add | .minus | .multiply | .divide | .mod | .power | .and | .or => true
  | .less | .greater | .equals | .notEquals => false

/-- The type of the result, or `none` where the operator does not accept the operands. Arithmetic
and order take numbers, the connectives take truth values, and equality takes any two values of
one storable type. -/
def resultTy? (op : BinaryOp) (left right : Ty) : Option Ty :=
  match op with
  | .add | .minus | .multiply | .divide | .mod | .power =>
    if left = .num ∧ right = .num then some .num else none
  | .less | .greater => if left = .num ∧ right = .num then some .baal else none
  | .equals | .notEquals => if left.isStorable ∧ left = right then some .baal else none
  | .and | .or => if left = .baal ∧ right = .baal then some .baal else none

section ResultTy
variable {op : BinaryOp} {left right ty : Ty}

theorem ty_of_isUniform (uniform : op.isUniform = true)
    (accepted : op.resultTy? left right = some ty) : left = ty ∧ right = ty := by
  cases op with
  | add | minus | multiply | divide | mod | power | and | or =>
    rw [resultTy?] at accepted
    split at accepted
    · next operands =>
      obtain ⟨rfl, rfl⟩ := operands
      cases accepted
      exact ⟨rfl, rfl⟩
    · cases accepted
  | less | greater | equals | notEquals => cases uniform

theorem ty_of_isArithmetic (arithmetic : op.isArithmetic = true)
    (accepted : op.resultTy? left right = some ty) : ty = .num := by
  cases op with
  | add | minus | multiply | divide | mod | power =>
    rw [resultTy?] at accepted
    split at accepted <;> cases accepted
    rfl
  | less | greater | equals | notEquals | and | or => cases arithmetic

end ResultTy

/-- The shown spelling is one of the spellings a program may use. -/
theorem ofLexeme?_render (op : BinaryOp) : ofLexeme? op.render = some op := by
  cases op <;> rfl

end BinaryOp

inductive UnaryOp
  | not
  | negate
deriving DecidableEq, Repr, Inhabited

namespace UnaryOp

def ofLexeme? : String → Option UnaryOp
  | "!" => some .not
  | "-" => some .negate
  | _ => none

def render : UnaryOp → String
  | .not => "!"
  | .negate => "-"

/-- The type of the result, or `none` where the operator does not accept the operand. -/
def resultTy? (op : UnaryOp) (operand : Ty) : Option Ty :=
  match op with
  | .not => if operand = .baal then some .baal else none
  | .negate => if operand = .num then some .num else none

/-- The shown spelling is the one a program uses. -/
theorem ofLexeme?_render (op : UnaryOp) : ofLexeme? op.render = some op := by
  cases op <;> rfl

end UnaryOp
end JobLang
