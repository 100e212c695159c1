import JobLang.Diagnostic
import JobLang.Proofs.Simplify.Transform
import JobLang.Syntax
import Mathlib.Order.Hom.Basic

/-!
# Relabeled programs

A renaming gives new names to entities, an order embedding gives them new numbers. This module
applies both to trees, and the renaming to programs as written and to diagnostics. Relabeling is a
transformation of trees, so simplification commutes with it.
-/
namespace JobLang

/-- A text that has the form of a name. -/
def IsName (text : String) : Prop := Token.isIdentifier ⟨.id, text, none⟩ = true

/-- New texts for names. Different texts stay different, and a text that is no name stays as it
is. -/
structure Renaming where
  apply : String → String
  injective : Function.Injective apply
  isName_apply {text : String} : IsName text → IsName (apply text)
  apply_of_not {text : String} : ¬IsName text → apply text = text

namespace Renaming

instance : CoeFun Renaming fun _ => String → String := ⟨Renaming.apply⟩

/-- Every name is kept. -/
def refl : Renaming := ⟨id, Function.injective_id, id, fun _ => rfl⟩

/-- Two names take each other's place. -/
def swap {first second : String} (isFirst : IsName first) (isSecond : IsName second) :
    Renaming where
  apply text := if text = first then second else if text = second then first else text
  injective := by
    intro a b same
    grind
  isName_apply := by
    intro text name
    grind
  apply_of_not := by
    intro text other
    grind

end Renaming

/-- New names and new numbers for entities; the numbers keep their order. -/
structure Relabeling where
  name : Renaming
  id : Nat ↪o Nat

namespace Relabeling

/-- New names only. -/
def names (name : Renaming) : Relabeling := ⟨name, RelEmbedding.refl _⟩

/-- New numbers only. -/
def numbers (id : Nat ↪o Nat) : Relabeling := ⟨.refl, id⟩

end Relabeling

def Token.rename (r : Renaming) (token : Token) : Token := { token with lexeme := r token.lexeme }

namespace Syntax

mutual

/-- New texts for the names in an expression. Operators and literals are no names. -/
def Expr.rename (r : Renaming) : Expr → Expr
  | .leaf token => .leaf (if token.category = .id then token.rename r else token)
  | .binary operator left right => .binary operator (left.rename r) (right.rename r)
  | .unary operator operand => .unary operator (operand.rename r)
  | .call callee args => .call (callee.rename r) (renameAll r args)

def Expr.renameAll (r : Renaming) : List Expr → List Expr
  | [] => []
  | e :: rest => e.rename r :: renameAll r rest

end

def Parameter.rename (r : Renaming) (param : Parameter) : Parameter :=
  { param with name := param.name.rename r }

mutual

/-- New texts for the names in a statement. The names of types are no names of entities. -/
def Stmt.rename (r : Renaming) : Stmt → Stmt
  | .declare typeName name init => .declare typeName (name.rename r) (init.rename r)
  | .job returns name params body =>
    .job returns (name.rename r) (params.map (Parameter.rename r)) (renameAll r body)
  | .assign target source => .assign (target.rename r) (source.rename r)
  | .print value => .print (value.rename r)
  | .output value => .output (value.rename r)
  | .ifThen test body => .ifThen (test.rename r) (renameAll r body)
  | .ifElse test body alternative =>
    .ifElse (test.rename r) (renameAll r body) (renameAll r alternative)
  | .whileLoop test body => .whileLoop (test.rename r) (renameAll r body)
  | .repeatLoop count body => .repeatLoop (count.rename r) (renameAll r body)
  | .coil counter low high body =>
    .coil (counter.rename r) (low.rename r) (high.rename r) (renameAll r body)
  | .increment target => .increment (target.rename r)
  | .decrement target => .decrement (target.rename r)
  | .call callee args => .call (callee.rename r) (Expr.renameAll r args)

def Stmt.renameAll (r : Renaming) : List Stmt → List Stmt
  | [] => []
  | s :: rest => s.rename r :: renameAll r rest

end

mutual

/-- The texts that stand for entities in an expression. -/
def Expr.names : Expr → List String
  | .leaf token => if token.category = .id then [token.lexeme] else []
  | .binary _ left right => left.names ++ right.names
  | .unary _ operand => operand.names
  | .call callee args => callee.lexeme :: namesAll args

def Expr.namesAll : List Expr → List String
  | [] => []
  | e :: rest => e.names ++ namesAll rest

end

mutual

/-- The texts that stand for entities in a statement, where they are declared and where they are
used. -/
def Stmt.names : Stmt → List String
  | .declare _ name init => name.lexeme :: init.names
  | .job _ name params body =>
    name.lexeme :: (params.map (·.name.lexeme) ++ namesAll body)
  | .assign target source => target.lexeme :: source.names
  | .print value | .output value => value.names
  | .ifThen test body | .whileLoop test body | .repeatLoop test body => test.names ++ namesAll body
  | .ifElse test body alternative => test.names ++ (namesAll body ++ namesAll alternative)
  | .coil counter low high body =>
    counter.name.lexeme :: (low.names ++ (high.names ++ namesAll body))
  | .increment target | .decrement target => [target.lexeme]
  | .call callee args => callee.lexeme :: Expr.namesAll args

def Stmt.namesAll : List Stmt → List String
  | [] => []
  | s :: rest => s.names ++ namesAll rest

end

mutual

theorem Expr.rename_refl : ∀ e : Expr, e.rename .refl = e
  | .leaf token => congrArg Expr.leaf (ite_self token)
  | .binary operator left right => by rw [rename, left.rename_refl, right.rename_refl]
  | .unary operator operand => by rw [rename, operand.rename_refl]
  | .call callee args => by
      rw [rename, renameAll_refl args]
      rfl

theorem Expr.renameAll_refl : ∀ es : List Expr, renameAll .refl es = es
  | [] => rfl
  | e :: rest => by rw [renameAll, e.rename_refl, renameAll_refl rest]

end

mutual

theorem Stmt.rename_refl : ∀ s : Stmt, s.rename .refl = s
  | .declare typeName name init => by
      rw [rename, init.rename_refl]
      rfl
  | .job returns name params body => by
      have same : params.map (Parameter.rename .refl) = params := List.map_id params
      rw [rename, same, renameAll_refl body]
      rfl
  | .assign target source => by
      rw [rename, source.rename_refl]
      rfl
  | .print value | .output value => by rw [rename, value.rename_refl]
  | .ifThen test body | .whileLoop test body | .repeatLoop test body => by
      rw [rename, test.rename_refl, renameAll_refl body]
  | .ifElse test body alternative => by
      rw [rename, test.rename_refl, renameAll_refl body, renameAll_refl alternative]
  | .coil counter low high body => by
      rw [rename, low.rename_refl, high.rename_refl, renameAll_refl body]
      rfl
  | .increment _ | .decrement _ => rfl
  | .call callee args => by
      rw [rename, Expr.renameAll_refl args]
      rfl

theorem Stmt.renameAll_refl : ∀ chunk : List Stmt, renameAll .refl chunk = chunk
  | [] => rfl
  | s :: rest => by rw [renameAll, s.rename_refl, renameAll_refl rest]

end

/-- An expression keeps its place. -/
theorem Expr.position_rename (r : Renaming) : ∀ e : Expr, (e.rename r).position = e.position
  | .leaf token => by
      rw [rename]
      split <;> rfl
  | .binary operator left right => by
      rw [rename, position, position, left.position_rename]
  | .unary operator operand => by
      rw [rename, position, position, operand.position_rename]
  | .call _ _ => by
      rw [rename]
      rfl

end Syntax

/-- New texts for the names in a fault. Types, operators and lexemes are no names. -/
def Fault.rename (r : Renaming) : Fault → Fault
  | .duplicateDeclaration name => .duplicateDeclaration (r name)
  | .undeclaredIdentifier name => .undeclaredIdentifier (r name)
  | .argumentType job index expected received => .argumentType (r job) index expected received
  | .returnType job expected received => .returnType (r job) expected received
  | .readOnlyAssignment name => .readOnlyAssignment (r name)
  | .notCallable name => .notCallable (r name)
  | .arity job expected received => .arity (r job) expected received
  | .typeMismatch expected received => .typeMismatch expected received
  | .operandTypes operator left right => .operandTypes operator left right
  | .conditionType construct expected received => .conditionType construct expected received
  | .outputOutsideJob => .outputOutsideJob
  | .unknownType name => .unknownType name
  | .unknownOperator lexeme => .unknownOperator lexeme
  | .malformedLiteral category lexeme => .malformedLiteral category lexeme
  | .unexpectedToken lexeme => .unexpectedToken lexeme

def Diagnostic.rename (r : Renaming) (diagnostic : Diagnostic) : Diagnostic :=
  { diagnostic with fault := diagnostic.fault.rename r }

theorem Diagnostic.rename_refl (diagnostic : Diagnostic) :
    diagnostic.rename .refl = diagnostic := by
  obtain ⟨fault, position⟩ := diagnostic
  cases fault <;> rfl

def Variable.relabel (ρ : Relabeling) (v : Variable) : Variable :=
  { v with id := ρ.id v.id, name := ρ.name v.name }

def Job.relabel (ρ : Relabeling) (j : Job) : Job :=
  { j with id := ρ.id j.id, name := ρ.name j.name }

def Entity.relabel (ρ : Relabeling) : Entity → Entity
  | .var v => .var (v.relabel ρ)
  | .job j => .job (j.relabel ρ)

/-- Relabeling transforms trees. Variables with different numbers get different numbers. -/
def Relabeling.transform (ρ : Relabeling) : Typed.Transform where
  var := Variable.relabel ρ
  job := Job.relabel ρ
  note note := note
  var_id_eq_iff _ _ := ρ.id.eq_iff_eq

namespace Typed

variable (ρ : Relabeling)

namespace Expr

mutual

def relabel : Expr → Expr
  | .lit value note => .lit value note
  | .var v note => .var (v.relabel ρ) note
  | .binary op left right note => .binary op left.relabel right.relabel note
  | .unary op operand note => .unary op operand.relabel note
  | .call callee args note => .call (callee.relabel ρ) (relabelAll args) note

def relabelAll : List Expr → List Expr
  | [] => []
  | e :: rest => e.relabel :: relabelAll rest

end

variable (e : Expr)

@[simp]
theorem note_relabel : (e.relabel ρ).note = e.note := by cases e <;> rfl

@[simp]
theorem ty_relabel : (e.relabel ρ).ty = e.ty := congrArg Note.ty (e.note_relabel ρ)

@[simp]
theorem position_relabel : (e.relabel ρ).position = e.position :=
  congrArg Note.position (e.note_relabel ρ)

mutual

theorem relabel_eq_transform : ∀ e : Expr, e.relabel ρ = e.transform ρ.transform
  | .lit .. | .var .. => rfl
  | .binary op left right note => by
      rw [relabel, left.relabel_eq_transform, right.relabel_eq_transform]
      rfl
  | .unary op operand note => by
      rw [relabel, operand.relabel_eq_transform]
      rfl
  | .call callee args note => by
      rw [relabel, relabelAll_eq_transformAll args]
      rfl

theorem relabelAll_eq_transformAll : ∀ es : List Expr,
    relabelAll ρ es = transformAll ρ.transform es
  | [] => rfl
  | e :: rest => by
      rw [relabelAll, e.relabel_eq_transform, relabelAll_eq_transformAll rest]
      rfl

end

theorem relabelAll_eq_map (es : List Expr) : relabelAll ρ es = es.map (relabel ρ) := by
  induction es with
  | nil => rfl
  | cons e rest ih => rw [relabelAll, ih, List.map_cons]

end Expr

namespace Stmt

mutual

def relabel : Stmt → Stmt
  | .declare v init => .declare (v.relabel ρ) (init.relabel ρ)
  | .job j params body => .job (j.relabel ρ) (params.map (Variable.relabel ρ)) (relabelAll body)
  | .assign target source => .assign (target.relabel ρ) (source.relabel ρ)
  | .print value => .print (value.relabel ρ)
  | .output value => .output (value.relabel ρ)
  | .ifThen test body => .ifThen (test.relabel ρ) (relabelAll body)
  | .ifElse test body alternative =>
    .ifElse (test.relabel ρ) (relabelAll body) (relabelAll alternative)
  | .whileLoop test body => .whileLoop (test.relabel ρ) (relabelAll body)
  | .repeatLoop count body => .repeatLoop (count.relabel ρ) (relabelAll body)
  | .coil counter low high body =>
    .coil (counter.relabel ρ) (low.relabel ρ) (high.relabel ρ) (relabelAll body)
  | .increment target => .increment (target.relabel ρ)
  | .decrement target => .decrement (target.relabel ρ)
  | .call callee args => .call (callee.relabel ρ) (Expr.relabelAll ρ args)

def relabelAll : List Stmt → List Stmt
  | [] => []
  | s :: rest => s.relabel :: relabelAll rest

end

mutual

theorem relabel_eq_transform : ∀ s : Stmt, s.relabel ρ = s.transform ρ.transform
  | .declare _ init => by
      rw [relabel, init.relabel_eq_transform]
      rfl
  | .job _ _ body => by
      rw [relabel, relabelAll_eq_transformAll body]
      rfl
  | .assign _ source => by
      rw [relabel, source.relabel_eq_transform]
      rfl
  | .print value | .output value => by
      rw [relabel, value.relabel_eq_transform]
      rfl
  | .ifThen test body | .whileLoop test body | .repeatLoop test body => by
      rw [relabel, test.relabel_eq_transform, relabelAll_eq_transformAll body]
      rfl
  | .ifElse test body alternative => by
      rw [relabel, test.relabel_eq_transform, relabelAll_eq_transformAll body,
        relabelAll_eq_transformAll alternative]
      rfl
  | .coil _ low high body => by
      rw [relabel, low.relabel_eq_transform, high.relabel_eq_transform,
        relabelAll_eq_transformAll body]
      rfl
  | .increment _ | .decrement _ => rfl
  | .call _ args => by
      rw [relabel, Expr.relabelAll_eq_transformAll]
      rfl

theorem relabelAll_eq_transformAll : ∀ chunk : List Stmt,
    relabelAll ρ chunk = transformAll ρ.transform chunk
  | [] => rfl
  | s :: rest => by
      rw [relabelAll, s.relabel_eq_transform, relabelAll_eq_transformAll rest]
      rfl

end

/-- Relabeling and simplifying a chunk is the same in either order. -/
theorem simplifyAll_relabel (chunk : List Stmt) :
    simplifyAll (relabelAll ρ chunk) = relabelAll ρ (simplifyAll chunk) := by
  rw [relabelAll_eq_transformAll, relabelAll_eq_transformAll, simplifyAll_transform]

end Stmt
end Typed
end JobLang
