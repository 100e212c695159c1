import JobLang.Proofs.Check.Reference
import Mathlib.Data.List.Forall2

/-!
# What the steps of the reference come to

Each step of the reference gives a result under a condition that can be read off its definition.
There is one equivalence for each step, between the result and the condition, with the result of a
sequence of steps taken apart first.
-/
namespace JobLang

open Syntax (Parameter)

section Outcomes
variable {α β : Type}

theorem bind_eq_ok {x : Except Diagnostic α} {f : α → Except Diagnostic β} {b : β} :
    x >>= f = .ok b ↔ ∃ a, x = .ok a ∧ f a = .ok b := by
  cases x <;> simp [bind, Except.bind]

theorem return_eq_ok {a b : α} : (pure a : Except Diagnostic α) = .ok b ↔ a = b := by
  simp [pure, Except.pure]

variable {p : Prop} [Decidable p] {a b : α} {d : Diagnostic}

theorem allow_eq_ok :
    (if p then pure a else .error d : Except Diagnostic α) = .ok b ↔ p ∧ a = b := by
  by_cases allowed : p
  · simp [allowed, return_eq_ok]
  · simp [allowed]

theorem refuse_eq_ok :
    (if p then .error d else pure a : Except Diagnostic α) = .ok b ↔ ¬p ∧ a = b := by
  by_cases refused : p
  · simp [refused]
  · simp [refused, return_eq_ok]

end Outcomes

def Entity.id : Entity → Nat
  | .var v => v.id
  | .job j => j.id

def Entity.name : Entity → String
  | .var v => v.name
  | .job j => j.name

namespace Env

/-- The variable that a declaration makes. -/
def newVariable (env : Env) (name : String) (ty : Ty) (readOnly : Bool) : Variable :=
  ⟨env.next, name, ty, readOnly⟩

/-- The job that a declaration makes. -/
def newJob (env : Env) (name : String) (params : List Ty) (returns : Ty) : Job :=
  ⟨env.next, name, params, returns⟩

/-- The environment in which an entity with the next number has been declared. -/
def add (env : Env) (entity : Entity) : Env :=
  { env with top := (entity.name, entity) :: env.top, next := env.next + 1 }

section Declare
variable {env after : Env} {name : String} {place : Option Position}

theorem bind_eq_ok_iff {entity : Entity} : env.bind name entity place = .ok after ↔
    env.top.lookup name = none ∧
      { env with top := (name, entity) :: env.top, next := env.next + 1 } = after := by
  rw [bind]
  cases env.top.lookup name <;> simp

theorem declareVariable_eq_ok {ty : Ty} {readOnly : Bool} {v : Variable} :
    env.declareVariable name ty readOnly place = .ok (v, after) ↔ env.top.lookup name = none ∧
      env.newVariable name ty readOnly = v ∧ env.add (.var v) = after := by
  simp only [declareVariable, bind_eq_ok, return_eq_ok, bind_eq_ok_iff, Prod.mk.injEq]
  constructor
  · rintro ⟨_, ⟨fresh, rfl⟩, rfl, rfl⟩
    exact ⟨fresh, rfl, rfl⟩
  · rintro ⟨fresh, rfl, rfl⟩
    exact ⟨_, ⟨fresh, rfl⟩, rfl, rfl⟩

theorem declareJob_eq_ok {params : List Ty} {returns : Ty} {j : Job} :
    env.declareJob name params returns place = .ok (j, after) ↔ env.top.lookup name = none ∧
      env.newJob name params returns = j ∧ env.add (.job j) = after := by
  simp only [declareJob, bind_eq_ok, return_eq_ok, bind_eq_ok_iff, Prod.mk.injEq]
  constructor
  · rintro ⟨_, ⟨fresh, rfl⟩, rfl, rfl⟩
    exact ⟨fresh, rfl, rfl⟩
  · rintro ⟨fresh, rfl, rfl⟩
    exact ⟨_, ⟨fresh, rfl⟩, rfl, rfl⟩

theorem within_eq_ok {α : Type} {job : Option Job} {a : α}
    {step : Env → Except Diagnostic (α × Env)} :
    env.within job step = .ok (a, after) ↔
      ∃ last, step (env.inner job) = .ok (a, last) ∧ env.behind last = after := by
  simp only [within, bind_eq_ok, return_eq_ok, Prod.exists, Prod.mk.injEq]
  constructor
  · rintro ⟨_, last, ran, rfl, same⟩
    exact ⟨last, ran, same⟩
  · rintro ⟨last, ran, same⟩
    exact ⟨a, last, ran, rfl, same⟩

end Declare
end Env

/-- The value that a literal spells. -/
def Token.value? (token : Token) : Option Value :=
  match token.category with
  | .num => token.number?.map .num
  | .baal => token.baal?.map .baal
  | .quote => token.quote?.map .quote
  | .id | .sym => none

/-- A token is a name and stands for the given entity. -/
def Env.Refers (env : Env) (token : Token) (entity : Entity) : Prop :=
  token.isIdentifier = true ∧ env.find? token.lexeme = some entity

/-- A token names a type of which values can be stored. -/
def Token.NamesStorable (token : Token) (ty : Ty) : Prop :=
  Ty.ofName? token.lexeme = some ty ∧ ty.isStorable = true

section Tokens
variable {env : Env} {token : Token}

theorem Token.expectIdentifier_eq_ok {u : Unit} :
    token.expectIdentifier = .ok u ↔ token.isIdentifier = true := by
  rw [expectIdentifier]
  cases token.isIdentifier <;> simp

theorem Token.namedTy_eq_ok {ty : Ty} :
    token.namedTy = .ok ty ↔ Ty.ofName? token.lexeme = some ty := by
  rw [namedTy]
  cases Ty.ofName? token.lexeme <;> simp

theorem Token.storableTy_eq_ok {ty : Ty} :
    token.storableTy = .ok ty ↔ token.NamesStorable ty := by
  rw [storableTy, bind_eq_ok, NamesStorable]
  constructor
  · rintro ⟨named, found, storable⟩
    obtain ⟨allowed, rfl⟩ := allow_eq_ok.mp storable
    exact ⟨namedTy_eq_ok.mp found, allowed⟩
  · rintro ⟨found, storable⟩
    exact ⟨ty, namedTy_eq_ok.mpr found, allow_eq_ok.mpr ⟨storable, rfl⟩⟩

theorem Token.binaryOp_eq_ok {op : BinaryOp} :
    token.binaryOp = .ok op ↔ BinaryOp.ofLexeme? token.lexeme = some op := by
  rw [binaryOp]
  cases BinaryOp.ofLexeme? token.lexeme <;> simp

theorem Token.unaryOp_eq_ok {op : UnaryOp} :
    token.unaryOp = .ok op ↔ UnaryOp.ofLexeme? token.lexeme = some op := by
  rw [unaryOp]
  cases UnaryOp.ofLexeme? token.lexeme <;> simp

theorem Reference.entity_eq_ok {entity : Entity} :
    Reference.entity env token = .ok entity ↔ env.Refers token entity := by
  simp only [Reference.entity, bind_eq_ok, Token.expectIdentifier_eq_ok, Env.Refers,
    exists_and_left, exists_const]
  cases env.find? token.lexeme <;> simp [return_eq_ok]

theorem Reference.readable_eq_ok {v : Variable} :
    Reference.readable env token = .ok v ↔ env.Refers token (.var v) := by
  simp only [Reference.readable, bind_eq_ok, entity_eq_ok]
  constructor
  · rintro ⟨entity, refers, same⟩
    cases entity with
    | var w => cases return_eq_ok.mp same; exact refers
    | job j => cases same
  · intro refers
    exact ⟨_, refers, rfl⟩

theorem Reference.writable_eq_ok {v : Variable} :
    Reference.writable env token = .ok v ↔ env.Refers token (.var v) ∧ v.readOnly = false := by
  simp only [Reference.writable, bind_eq_ok, readable_eq_ok, refuse_eq_ok, Bool.not_eq_true]
  constructor
  · rintro ⟨w, refers, free, rfl⟩
    exact ⟨refers, free⟩
  · rintro ⟨refers, free⟩
    exact ⟨v, refers, free, rfl⟩

theorem Reference.countable_eq_ok {v : Variable} :
    Reference.countable env token = .ok v ↔
      env.Refers token (.var v) ∧ v.readOnly = false ∧ v.ty = .num := by
  simp only [Reference.countable, bind_eq_ok, writable_eq_ok, allow_eq_ok]
  constructor
  · rintro ⟨w, ⟨refers, free⟩, number, rfl⟩
    exact ⟨refers, free, number⟩
  · rintro ⟨refers, free, number⟩
    exact ⟨v, ⟨refers, free⟩, number, rfl⟩

theorem Reference.callable_eq_ok {j : Job} :
    Reference.callable env token = .ok j ↔ env.Refers token (.job j) := by
  simp only [Reference.callable, bind_eq_ok, entity_eq_ok]
  constructor
  · rintro ⟨entity, refers, same⟩
    cases entity with
    | var v => cases same
    | job k => cases return_eq_ok.mp same; exact refers
  · intro refers
    exact ⟨_, refers, rfl⟩

end Tokens

namespace Typed.Expr

theorem ofBinary_eq_ok {op : BinaryOp} {l r checked : Typed.Expr} {place : Option Position} :
    ofBinary op l r place = .ok checked ↔
      ∃ ty, op.resultTy? l.ty r.ty = some ty ∧ .binary op l r ⟨ty, place⟩ = checked := by
  rw [ofBinary]
  cases op.resultTy? l.ty r.ty <;> simp

theorem ofUnary_eq_ok {op : UnaryOp} {e checked : Typed.Expr} {place : Option Position} :
    ofUnary op e place = .ok checked ↔
      ∃ ty, op.resultTy? e.ty = some ty ∧ .unary op e ⟨ty, place⟩ = checked := by
  rw [ofUnary]
  cases op.resultTy? e.ty <;> simp

theorem fitEach_eq_ok {callee : Job} {place : Option Position} {u : Unit} {args : List Typed.Expr}
    {params : List Ty} (same : args.length = params.length) (index : Nat) :
    fitEach callee place index args params = .ok u ↔ args.map ty = params := by
  induction args generalizing params index with
  | nil =>
    cases params with
    | nil => simp [fitEach]
    | cons param params => cases same
  | cons arg args ih =>
    cases params with
    | nil => cases same
    | cons param params =>
      rw [fitEach, List.map_cons, List.cons.injEq]
      by_cases fits : arg.ty = param
      · rw [if_pos (Ty.fits_iff.mpr fits), ih (Nat.succ.inj same)]
        exact (and_iff_right fits).symm
      · rw [if_neg (mt Ty.fits_iff.mp fits)]
        simp [fits]

theorem fitArguments_eq_ok {callee : Job} {place : Option Position} {u : Unit}
    {args : List Typed.Expr} :
    fitArguments callee place args = .ok u ↔ args.map ty = callee.params := by
  rw [fitArguments]
  by_cases same : args.length = callee.params.length
  · rw [if_pos same, fitEach_eq_ok same]
  · rw [if_neg same]
    constructor
    · intro failed
      cases failed
    · intro fit
      exact absurd (by rw [← fit, List.length_map]) same

end Typed.Expr

theorem Reference.literal_eq_ok {token : Token} {value? : Option Value} {checked : Typed.Expr} :
    Reference.literal token value? = .ok checked ↔
      ∃ value, value? = some value ∧ .lit value ⟨value.ty, token.position⟩ = checked := by
  cases value? <;> simp [Reference.literal, return_eq_ok]

section Parts
variable {env : Env}

theorem condition_eq_ok {construct : String} {expected : Ty} {e : Syntax.Expr}
    {checked : Typed.Expr} :
    Reference.condition env construct expected e = .ok checked ↔
      Reference.expr env e = .ok checked ∧ checked.ty = expected := by
  simp only [Reference.condition, bind_eq_ok, allow_eq_ok]
  constructor
  · rintro ⟨found, accepted, fits, rfl⟩
    exact ⟨accepted, fits⟩
  · rintro ⟨accepted, fits⟩
    exact ⟨checked, accepted, fits, rfl⟩

theorem printed_eq_ok {e : Syntax.Expr} {checked : Typed.Expr} :
    Reference.printed env e = .ok checked ↔
      Reference.expr env e = .ok checked ∧ checked.ty ≠ .void := by
  simp only [Reference.printed, bind_eq_ok, refuse_eq_ok]
  constructor
  · rintro ⟨found, accepted, something, rfl⟩
    exact ⟨accepted, something⟩
  · rintro ⟨accepted, something⟩
    exact ⟨checked, accepted, something, rfl⟩

theorem counterTy_eq_ok {param : Parameter} {ty : Ty} :
    Reference.counterTy param = .ok ty ↔ param.typeName.NamesStorable .num ∧ .num = ty := by
  simp only [Reference.counterTy, bind_eq_ok, Token.storableTy_eq_ok, allow_eq_ok]
  constructor
  · rintro ⟨named, names, rfl, rfl⟩
    exact ⟨names, rfl⟩
  · rintro ⟨names, rfl⟩
    exact ⟨_, names, rfl, rfl⟩

theorem enclosing_eq_ok {place : Option Position} {j : Job} :
    Reference.enclosing env place = .ok j ↔ env.job = some j := by
  rw [Reference.enclosing]
  cases env.job <;> simp [return_eq_ok]

theorem fit_eq_ok {source : Typed.Expr} {target : Ty} {place : Option Position} {u : Unit} :
    Reference.fit source target place = .ok u ↔ source.ty = target :=
  allow_eq_ok.trans (and_iff_left rfl)

theorem fitResult_eq_ok {j : Job} {value : Typed.Expr} {u : Unit} :
    Reference.fitResult j value = .ok u ↔ value.ty = j.returns :=
  allow_eq_ok.trans (and_iff_left rfl)

theorem requireOutput_eq_ok {j : Job} {outputs : Nat} {place : Option Position} {u : Unit} :
    Reference.requireOutput j outputs place = .ok u ↔ (j.returns ≠ .void → outputs ≠ 0) :=
  refuse_eq_ok.trans ((and_iff_left rfl).trans not_and)

theorem call_eq_ok {token : Token} {args : List Syntax.Expr} {j : Job}
    {checked : List Typed.Expr} :
    Reference.call env token args = .ok (j, checked) ↔ env.Refers token (.job j) ∧
      Reference.exprs env args = .ok checked ∧ checked.map Typed.Expr.ty = j.params := by
  simp only [Reference.call, bind_eq_ok, Reference.callable_eq_ok, return_eq_ok,
    Typed.Expr.fitArguments_eq_ok, Prod.mk.injEq]
  constructor
  · rintro ⟨found, refers, given, accepted, _, fit, rfl, rfl⟩
    exact ⟨refers, accepted, fit⟩
  · rintro ⟨refers, accepted, fit⟩
    exact ⟨j, refers, checked, accepted, (), fit, rfl, rfl⟩

theorem namesStorable_of_ok {params : List Parameter} {tys : List Ty}
    (accepted : (params.mapM fun param => param.typeName.storableTy) = .ok tys) :
    List.Forall₂ (fun param ty => param.typeName.NamesStorable ty) params tys := by
  induction params generalizing tys with
  | nil =>
    cases return_eq_ok.mp accepted
    exact .nil
  | cons param rest ih =>
    simp only [List.mapM_cons, bind_eq_ok, Token.storableTy_eq_ok, return_eq_ok] at accepted
    obtain ⟨ty, names, others, accepted, rfl⟩ := accepted
    exact .cons names (ih accepted)

end Parts
end JobLang
