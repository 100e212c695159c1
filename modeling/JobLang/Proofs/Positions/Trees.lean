import JobLang.Diagnostic
import JobLang.Proofs.Simplify.Transform
import JobLang.Syntax

/-!
# Trees without places

Programs as written, diagnostics and checked programs with all places removed.
-/
namespace JobLang

def Token.unplaced (token : Token) : Token := { token with position := none }

namespace Syntax

mutual

def Expr.unplaced : Expr → Expr
  | .leaf token => .leaf token.unplaced
  | .binary operator left right => .binary operator.unplaced left.unplaced right.unplaced
  | .unary operator operand => .unary operator.unplaced operand.unplaced
  | .call callee args => .call callee.unplaced (unplacedAll args)

def Expr.unplacedAll : List Expr → List Expr
  | [] => []
  | e :: rest => e.unplaced :: unplacedAll rest

end

def Parameter.unplaced (param : Parameter) : Parameter :=
  ⟨param.typeName.unplaced, param.name.unplaced⟩

mutual

def Stmt.unplaced : Stmt → Stmt
  | .declare typeName name init => .declare typeName.unplaced name.unplaced init.unplaced
  | .job returns name params body =>
    .job returns.unplaced name.unplaced (params.map Parameter.unplaced) (unplacedAll body)
  | .assign target source => .assign target.unplaced source.unplaced
  | .print value => .print value.unplaced
  | .output value => .output value.unplaced
  | .ifThen test body => .ifThen test.unplaced (unplacedAll body)
  | .ifElse test body alternative =>
    .ifElse test.unplaced (unplacedAll body) (unplacedAll alternative)
  | .whileLoop test body => .whileLoop test.unplaced (unplacedAll body)
  | .repeatLoop count body => .repeatLoop count.unplaced (unplacedAll body)
  | .coil counter low high body =>
    .coil counter.unplaced low.unplaced high.unplaced (unplacedAll body)
  | .increment target => .increment target.unplaced
  | .decrement target => .decrement target.unplaced
  | .call callee args => .call callee.unplaced (Expr.unplacedAll args)

def Stmt.unplacedAll : List Stmt → List Stmt
  | [] => []
  | s :: rest => s.unplaced :: unplacedAll rest

end

/-- No expression has a place any more. -/
theorem Expr.position_unplaced : ∀ e : Expr, e.unplaced.position = none
  | .leaf _ | .call _ _ => by
      rw [unplaced]
      rfl
  | .binary _ left _ => by
      rw [unplaced, position, left.position_unplaced]
      rfl
  | .unary _ operand => by
      rw [unplaced, position, operand.position_unplaced]
      rfl

end Syntax

def Diagnostic.unplaced (diagnostic : Diagnostic) : Diagnostic :=
  { diagnostic with position := none }

namespace Typed

/-- The notes lose their places. -/
def Transform.unplace : Transform where
  var v := v
  job j := j
  note note := { note with position := none }
  var_id_eq_iff _ _ := .rfl

namespace Expr

def unplaced (e : Expr) : Expr := e.transform .unplace

theorem ty_unplaced (e : Expr) : e.unplaced.ty = e.ty := by
  rw [ty, unplaced, note_transform]
  rfl

theorem position_unplaced (e : Expr) : e.unplaced.position = none := by
  rw [position, unplaced, note_transform]
  rfl

theorem unplaced_call (j : Job) (args : List Expr) (note : Note) :
    (call j args note).unplaced = call j (args.map unplaced) ⟨note.ty, none⟩ := by
  rw [unplaced, transform, transformAll_eq_map]
  rfl

end Expr

def Stmt.unplaced (s : Stmt) : Stmt := s.transform .unplace

def Stmt.unplacedAll (chunk : List Stmt) : List Stmt := transformAll .unplace chunk

namespace Stmt

theorem unplaced_job (j : Job) (params : List Variable) (body : List Stmt) :
    (job j params body).unplaced = job j params (unplacedAll body) := by
  have same : params.map Transform.unplace.var = params := List.map_id' params
  rw [unplaced, transform, same]
  rfl

theorem unplaced_call (j : Job) (args : List Expr) :
    (call j args).unplaced = call j (args.map Expr.unplaced) := by
  rw [unplaced, transform, Expr.transformAll_eq_map]
  rfl

end Stmt
end Typed
end JobLang
