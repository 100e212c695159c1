import JobLang.Entity
import JobLang.Position
import JobLang.Value

/-!
# Checked programs

The tree of a program whose names, types, literals and operators have been looked up. Leaves hold
values and entities in place of tokens, and every expression carries its type and its place.
Nothing here forces the types to agree: a tree can be built that no check would return.
-/
namespace JobLang.Typed

/-- What an expression carries besides its own content. -/
structure Note where
  ty : Ty
  position : Option Position
deriving DecidableEq, Inhabited

inductive Expr
  | lit (value : Value) (note : Note)
  | var (v : Variable) (note : Note)
  | binary (op : BinaryOp) (left right : Expr) (note : Note)
  | unary (op : UnaryOp) (operand : Expr) (note : Note)
  | call (callee : Job) (args : List Expr) (note : Note)

namespace Expr

def note : Expr → Note
  | .lit _ note | .var _ note | .binary _ _ _ note | .unary _ _ note | .call _ _ note => note

def ty (e : Expr) : Ty := e.note.ty

def position (e : Expr) : Option Position := e.note.position

/-- The value of a literal. -/
def value? : Expr → Option Value
  | .lit value _ => some value
  | _ => none

def isLiteral (e : Expr) : Bool := e.value?.isSome

/-- A literal number equal to the given one; the two zeros are equal. -/
def isNum (e : Expr) (number : Float) : Bool :=
  match e.value? with
  | some (.num x) => x == number
  | _ => false

/-- A literal truth value equal to the given one. -/
def isBaal (e : Expr) (truth : Bool) : Bool :=
  match e.value? with
  | some (.baal b) => b == truth
  | _ => false

/-- Whether evaluating the expression calls a job. -/
def containsCall : Expr → Bool
  | .lit .. | .var .. => false
  | .binary _ left right _ => left.containsCall || right.containsCall
  | .unary _ operand _ => operand.containsCall
  | .call .. => true

section Literals
variable {e : Expr}

theorem value?_of_isNum {n : Float} (number : e.isNum n = true) :
    ∃ x, e.value? = some (.num x) ∧ (x == n) = true := by
  rw [isNum] at number
  split at number
  · exact ⟨_, by assumption, number⟩
  · cases number

theorem value?_of_isBaal {truth : Bool} (is : e.isBaal truth = true) :
    e.value? = some (.baal truth) := by
  rw [isBaal] at is
  split at is
  · rename_i b found
    rw [found, eq_of_beq is]
  · cases is

theorem isLiteral_of_value? {value : Value} (literal : e.value? = some value) :
    e.isLiteral = true := by
  rw [isLiteral, literal]
  rfl

theorem isLiteral_of_isNum {n : Float} (number : e.isNum n = true) : e.isLiteral = true := by
  obtain ⟨x, literal, _⟩ := value?_of_isNum number
  exact isLiteral_of_value? literal

theorem isLiteral_of_isBaal {truth : Bool} (is : e.isBaal truth = true) : e.isLiteral = true :=
  isLiteral_of_value? (value?_of_isBaal is)

theorem containsCall_of_isLiteral (literal : e.isLiteral = true) : e.containsCall = false := by
  cases e with
  | lit => rfl
  | var | binary | unary | call => cases literal

end Literals
end Expr

inductive Stmt
  | declare (v : Variable) (init : Expr)
  | job (j : Job) (params : List Variable) (body : List Stmt)
  | assign (target : Variable) (source : Expr)
  | print (value : Expr)
  | output (value : Expr)
  | ifThen (test : Expr) (body : List Stmt)
  | ifElse (test : Expr) (body alternative : List Stmt)
  | whileLoop (test : Expr) (body : List Stmt)
  | repeatLoop (count : Expr) (body : List Stmt)
  | coil (counter : Variable) (low high : Expr) (body : List Stmt)
  | increment (target : Variable)
  | decrement (target : Variable)
  | call (callee : Job) (args : List Expr)

namespace Stmt
variable {α : Type} {each : Stmt → List α} {all : List Stmt → List α}

/-- What a function gathers from the statements of a chunk one after another. -/
theorem eq_flatMap_of_cons (nil : all [] = [])
    (cons : ∀ s rest, all (s :: rest) = each s ++ all rest) (chunk : List Stmt) :
    all chunk = chunk.flatMap each := by
  induction chunk with
  | nil => exact nil
  | cons s rest ih => rw [cons, ih, List.flatMap_cons]

theorem append_of_cons (nil : all [] = [])
    (cons : ∀ s rest, all (s :: rest) = each s ++ all rest) (first second : List Stmt) :
    all (first ++ second) = all first ++ all second := by
  simp only [eq_flatMap_of_cons nil cons, List.flatMap_append]

end Stmt
end JobLang.Typed
