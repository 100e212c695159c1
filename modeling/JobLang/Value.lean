import JobLang.Operator
import JobLang.Number.Arithmetic

/-!
# Values

What an expression can evaluate to, and what the operators compute on values. An operator that
does not take the kinds of its operands computes nothing; no value is converted to another kind.
-/
namespace JobLang

inductive Value
  | num (value : Float)
  | baal (value : Bool)
  | quote (value : String)

namespace Value

def ty : Value → Ty
  | .num _ => .num
  | .baal _ => .baal
  | .quote _ => .quote

end Value

/-- The result of a binary operator on two numbers; the connectives do not take numbers. -/
def BinaryOp.applyNum? (op : BinaryOp) (a b : Float) : Option Value :=
  match op with
  | .add => some (.num (a + b))
  | .minus => some (.num (a - b))
  | .multiply => some (.num (a * b))
  | .divide => some (.num (a / b))
  | .mod => some (.num (Number.remainder a b))
  | .power => some (.num (Number.power a b))
  | .less => some (.baal (a < b))
  | .greater => some (.baal (b < a))
  | .equals => some (.baal (a == b))
  | .notEquals => some (.baal (a != b))
  | .and | .or => none

/-- The result of a binary operator on two truth values. -/
def BinaryOp.applyBaal? (op : BinaryOp) (a b : Bool) : Option Value :=
  match op with
  | .and => some (.baal (a && b))
  | .or => some (.baal (a || b))
  | .equals => some (.baal (a == b))
  | .notEquals => some (.baal (a != b))
  | _ => none

/-- The result of a binary operator on two strings, which can only be compared for equality. -/
def BinaryOp.applyQuote? (op : BinaryOp) (a b : String) : Option Value :=
  match op with
  | .equals => some (.baal (a == b))
  | .notEquals => some (.baal (a != b))
  | _ => none

/-- The result of a binary operator on two values; operands of different kinds have none. -/
def BinaryOp.apply? (op : BinaryOp) : Value → Value → Option Value
  | .num a, .num b => op.applyNum? a b
  | .baal a, .baal b => op.applyBaal? a b
  | .quote a, .quote b => op.applyQuote? a b
  | _, _ => none

/-- The result of a unary operator on a value. -/
def UnaryOp.apply? : UnaryOp → Value → Option Value
  | .negate, .num a => some (.num (-a))
  | .not, .baal a => some (.baal (!a))
  | _, _ => none

end JobLang
