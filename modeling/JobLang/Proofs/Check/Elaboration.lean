import JobLang.Proofs.Check.Inversion

/-!
# Derivations of accepted programs

What the reference accepts has a derivation, one rule for each form of expression and statement. A
rule lists what its form needs, and says which tree comes of it and which environment it leaves.
Facts about accepted programs are proved by induction on these derivations.
-/
namespace JobLang

open Syntax (Parameter)

namespace Syntax.Expr

mutual

/-- The tree that comes of an expression in an environment. -/
inductive Elaborates (env : Env) : Syntax.Expr → Typed.Expr → Prop
  | name {token : Token} {v : Variable} (category : token.category = .id)
      (refers : env.Refers token (.var v)) :
      Elaborates env (.leaf token) (.var v ⟨v.ty, token.position⟩)
  | literal {token : Token} {value : Value} (spelled : token.value? = some value) :
      Elaborates env (.leaf token) (.lit value ⟨value.ty, token.position⟩)
  | binary {operator : Token} {left right : Syntax.Expr} {op : BinaryOp} {l r : Typed.Expr}
      {ty : Ty}
      (spelled : BinaryOp.ofLexeme? operator.lexeme = some op)
      (first : Elaborates env left l) (second : Elaborates env right r)
      (accepted : op.resultTy? l.ty r.ty = some ty) :
      Elaborates env (.binary operator left right)
        (.binary op l r ⟨ty, operator.position.or left.position⟩)
  | unary {operator : Token} {operand : Syntax.Expr} {op : UnaryOp} {e : Typed.Expr} {ty : Ty}
      (spelled : UnaryOp.ofLexeme? operator.lexeme = some op)
      (inner : Elaborates env operand e) (accepted : op.resultTy? e.ty = some ty) :
      Elaborates env (.unary operator operand)
        (.unary op e ⟨ty, operator.position.or operand.position⟩)
  | call {token : Token} {args : List Syntax.Expr} {j : Job} {checked : List Typed.Expr}
      (refers : env.Refers token (.job j)) (each : ElaborateAll env args checked)
      (fit : checked.map Typed.Expr.ty = j.params) :
      Elaborates env (.call token args) (.call j checked ⟨j.returns, token.position⟩)

/-- The trees that come of a list of expressions. -/
inductive ElaborateAll (env : Env) : List Syntax.Expr → List Typed.Expr → Prop
  | nil : ElaborateAll env [] []
  | cons {e : Syntax.Expr} {checked : Typed.Expr} {rest : List Syntax.Expr}
      {others : List Typed.Expr} (head : Elaborates env e checked)
      (tail : ElaborateAll env rest others) : ElaborateAll env (e :: rest) (checked :: others)

end

end Syntax.Expr

section Expressions
variable {env : Env}

theorem elaborates_leaf {token : Token} {checked : Typed.Expr}
    (accepted : Reference.leaf env token = .ok checked) :
    Syntax.Expr.Elaborates env (.leaf token) checked := by
  rw [Reference.leaf] at accepted
  cases category : token.category with
  | id =>
    rw [category] at accepted
    obtain ⟨v, readable, same⟩ := bind_eq_ok.mp accepted
    cases return_eq_ok.mp same
    exact .name category (Reference.readable_eq_ok.mp readable)
  | num | baal | quote =>
    rw [category] at accepted
    obtain ⟨found, spelled, rfl⟩ := Reference.literal_eq_ok.mp accepted
    have value : token.value? = some found := by
      rw [Token.value?, category]
      exact spelled
    exact .literal value
  | sym =>
    rw [category] at accepted
    cases accepted

mutual

theorem elaborates_expr : ∀ (e : Syntax.Expr) {checked : Typed.Expr},
    Reference.expr env e = .ok checked → e.Elaborates env checked
  | .leaf token, checked, accepted => by
      rw [Reference.expr] at accepted
      exact elaborates_leaf accepted
  | .binary operator left right, checked, accepted => by
      simp only [Reference.expr, bind_eq_ok, Token.binaryOp_eq_ok,
        Typed.Expr.ofBinary_eq_ok] at accepted
      obtain ⟨op, spelled, l, left', r, right', ty, accepted, rfl⟩ := accepted
      exact .binary spelled (elaborates_expr left left') (elaborates_expr right right') accepted
  | .unary operator operand, checked, accepted => by
      simp only [Reference.expr, bind_eq_ok, Token.unaryOp_eq_ok,
        Typed.Expr.ofUnary_eq_ok] at accepted
      obtain ⟨op, spelled, e, operand', ty, accepted, rfl⟩ := accepted
      exact .unary spelled (elaborates_expr operand operand') accepted
  | .call token args, checked, accepted => by
      simp only [Reference.expr, bind_eq_ok, Reference.callable_eq_ok, return_eq_ok,
        Typed.Expr.fitArguments_eq_ok] at accepted
      obtain ⟨j, refers, checked, args', _, fit, rfl⟩ := accepted
      exact .call refers (elaborates_exprs args args') fit

theorem elaborates_exprs : ∀ (es : List Syntax.Expr) {checked : List Typed.Expr},
    Reference.exprs env es = .ok checked → Syntax.Expr.ElaborateAll env es checked
  | [], checked, accepted => by
      rw [Reference.exprs, return_eq_ok] at accepted
      cases accepted
      exact .nil
  | e :: rest, checked, accepted => by
      simp only [Reference.exprs, bind_eq_ok, return_eq_ok] at accepted
      obtain ⟨head, head', others, tail', rfl⟩ := accepted
      exact .cons (elaborates_expr e head') (elaborates_exprs rest tail')

end

end Expressions

/-- The variables and the environment that come of the parameters of a job. -/
inductive Parameters : Env → List (Parameter × Ty) → List Variable → Env → Prop
  | nil {env : Env} : Parameters env [] [] env
  | cons {env after : Env} {param : Parameter} {ty : Ty} {rest : List (Parameter × Ty)}
      {others : List Variable} (form : param.name.isIdentifier = true)
      (fresh : env.top.lookup param.name.lexeme = none)
      (tail : Parameters (env.add (.var (env.newVariable param.name.lexeme ty true))) rest others
        after) :
      Parameters env ((param, ty) :: rest) (env.newVariable param.name.lexeme ty true :: others)
        after

namespace Syntax.Stmt

mutual

/-- The tree that comes of a statement, and the environment behind it. -/
inductive Elaborates : Env → Syntax.Stmt → Typed.Stmt → Env → Prop
  | declare {env : Env} {typeName name : Token} {init : Syntax.Expr} {checked : Typed.Expr}
      (value : init.Elaborates env checked) (type : typeName.NamesStorable checked.ty)
      (form : name.isIdentifier = true) (fresh : env.top.lookup name.lexeme = none) :
      Elaborates env (.declare typeName name init)
        (.declare (env.newVariable name.lexeme checked.ty false) checked)
        (env.add (.var (env.newVariable name.lexeme checked.ty false)))
  | job {env opened last : Env} {returns name : Token} {params : List Parameter}
      {body : List Syntax.Stmt} {ty : Ty} {tys : List Ty} {j : Job} {vars : List Variable}
      {checked : List Typed.Stmt} (form : name.isIdentifier = true)
      (type : Ty.ofName? returns.lexeme = some ty)
      (types : List.Forall₂ (fun param ty => param.typeName.NamesStorable ty) params tys)
      (fresh : env.top.lookup name.lexeme = none) (made : env.newJob name.lexeme tys ty = j)
      (opens : Parameters ((env.add (.job j)).inner (some j)) (params.zip tys) vars opened)
      (inside : ElaborateAll opened body checked last)
      (output : j.returns ≠ .void → outputsAll body ≠ 0) :
      Elaborates env (.job returns name params body) (.job j vars checked)
        ((env.add (.job j)).behind last)
  | assign {env : Env} {token : Token} {source : Syntax.Expr} {v : Variable} {checked : Typed.Expr}
      (refers : env.Refers token (.var v)) (free : v.readOnly = false)
      (assigned : source.Elaborates env checked) (fits : checked.ty = v.ty) :
      Elaborates env (.assign token source) (.assign v checked) env
  | print {env : Env} {value : Syntax.Expr} {checked : Typed.Expr}
      (given : value.Elaborates env checked) (something : checked.ty ≠ .void) :
      Elaborates env (.print value) (.print checked) env
  | output {env : Env} {value : Syntax.Expr} {j : Job} {checked : Typed.Expr}
      (within : env.job = some j) (given : value.Elaborates env checked)
      (fits : checked.ty = j.returns) : Elaborates env (.output value) (.output checked) env
  | ifThen {env last : Env} {test : Syntax.Expr} {body : List Syntax.Stmt} {t : Typed.Expr}
      {checked : List Typed.Stmt} (tested : test.Elaborates env t) (truth : t.ty = .baal)
      (inside : ElaborateAll (env.inner none) body checked last) :
      Elaborates env (.ifThen test body) (.ifThen t checked) (env.behind last)
  | ifElse {env last final : Env} {test : Syntax.Expr} {body alternative : List Syntax.Stmt}
      {t : Typed.Expr} {checked checked' : List Typed.Stmt}
      (tested : test.Elaborates env t) (truth : t.ty = .baal)
      (inside : ElaborateAll (env.inner none) body checked last)
      (otherwise : ElaborateAll ((env.behind last).inner none) alternative checked' final) :
      Elaborates env (.ifElse test body alternative) (.ifElse t checked checked')
        ((env.behind last).behind final)
  | whileLoop {env last : Env} {test : Syntax.Expr} {body : List Syntax.Stmt} {t : Typed.Expr}
      {checked : List Typed.Stmt} (tested : test.Elaborates env t) (truth : t.ty = .baal)
      (inside : ElaborateAll (env.inner none) body checked last) :
      Elaborates env (.whileLoop test body) (.whileLoop t checked) (env.behind last)
  | repeatLoop {env last : Env} {count : Syntax.Expr} {body : List Syntax.Stmt} {n : Typed.Expr}
      {checked : List Typed.Stmt} (counted : count.Elaborates env n) (number : n.ty = .num)
      (inside : ElaborateAll (env.inner none) body checked last) :
      Elaborates env (.repeatLoop count body) (.repeatLoop n checked) (env.behind last)
  | coil {env last : Env} {param : Parameter} {low high : Syntax.Expr} {body : List Syntax.Stmt}
      {l h : Typed.Expr} {v : Variable} {checked : List Typed.Stmt}
      (lower : low.Elaborates env l) (lowNumber : l.ty = .num)
      (upper : high.Elaborates env h) (highNumber : h.ty = .num)
      (type : param.typeName.NamesStorable .num) (form : param.name.isIdentifier = true)
      (made : env.newVariable param.name.lexeme .num true = v)
      (inside : ElaborateAll ((env.inner none).add (.var v)) body checked last) :
      Elaborates env (.coil param low high body) (.coil v l h checked) (env.behind last)
  | increment {env : Env} {token : Token} {v : Variable} (refers : env.Refers token (.var v))
      (free : v.readOnly = false) (number : v.ty = .num) :
      Elaborates env (.increment token) (.increment v) env
  | decrement {env : Env} {token : Token} {v : Variable} (refers : env.Refers token (.var v))
      (free : v.readOnly = false) (number : v.ty = .num) :
      Elaborates env (.decrement token) (.decrement v) env
  | call {env : Env} {token : Token} {args : List Syntax.Expr} {j : Job} {checked : List Typed.Expr}
      (refers : env.Refers token (.job j)) (each : Syntax.Expr.ElaborateAll env args checked)
      (fit : checked.map Typed.Expr.ty = j.params) :
      Elaborates env (.call token args) (.call j checked) env

/-- The trees that come of a chunk, and the environment behind it. -/
inductive ElaborateAll : Env → List Syntax.Stmt → List Typed.Stmt → Env → Prop
  | nil {env : Env} : ElaborateAll env [] [] env
  | cons {env middle after : Env} {s : Syntax.Stmt} {checked : Typed.Stmt} {rest : List Syntax.Stmt}
      {others : List Typed.Stmt} (head : Elaborates env s checked middle)
      (tail : ElaborateAll middle rest others after) :
      ElaborateAll env (s :: rest) (checked :: others) after

end

end Syntax.Stmt

theorem parameters_of_ok {env after : Env} {params : List (Parameter × Ty)} {vars : List Variable}
    (accepted : Reference.parameters env params = .ok (vars, after)) :
    Parameters env params vars after := by
  induction params generalizing env vars with
  | nil =>
    cases return_eq_ok.mp accepted
    exact .nil
  | cons head rest ih =>
    obtain ⟨param, ty⟩ := head
    simp only [Reference.parameters, bind_eq_ok, return_eq_ok, Token.expectIdentifier_eq_ok,
      Prod.exists, Env.declareVariable_eq_ok, Prod.mk.injEq] at accepted
    obtain ⟨_, form, _, _, ⟨fresh, rfl, rfl⟩, others, _, accepted, rfl, rfl⟩ := accepted
    exact .cons form fresh (ih accepted)

mutual

/-- An accepted statement has a derivation. -/
theorem elaborates_stmt : ∀ (s : Syntax.Stmt) {env after : Env} {checked : Typed.Stmt},
    Reference.stmt env s = .ok (checked, after) → s.Elaborates env checked after
  | .declare typeName name init, env, after, checked, accepted => by
      simp only [Reference.stmt, bind_eq_ok, return_eq_ok, Token.storableTy_eq_ok,
        Token.expectIdentifier_eq_ok, fit_eq_ok, Prod.exists, Env.declareVariable_eq_ok,
        Prod.mk.injEq] at accepted
      obtain ⟨value, given, _, type, _, form, _, rfl, _, _, ⟨fresh, rfl, rfl⟩, rfl, rfl⟩ := accepted
      exact .declare (elaborates_expr init given) type form fresh
  | .job returns name params body, env, after, checked, accepted => by
      simp only [Reference.stmt, bind_eq_ok, return_eq_ok, Token.namedTy_eq_ok,
        Token.expectIdentifier_eq_ok, Prod.exists, Env.declareJob_eq_ok, Env.within_eq_ok,
        requireOutput_eq_ok, Prod.mk.injEq] at accepted
      obtain ⟨_, form, ty, type, tys, types, _, _, ⟨fresh, rfl, rfl⟩, vars, tree, outputs, _,
        ⟨last, ⟨_, opened, opens, _, _, inside, ⟨rfl, rfl, rfl⟩, rfl⟩, rfl⟩, _, output, rfl, rfl⟩ :=
        accepted
      have written := namesStorable_of_ok types
      have opening := parameters_of_ok opens
      have chunk := elaborates_chunk body inside
      exact .job form type written fresh rfl opening chunk output
  | .assign token source, env, after, checked, accepted => by
      simp only [Reference.stmt, bind_eq_ok, return_eq_ok, Reference.writable_eq_ok, fit_eq_ok,
        Prod.mk.injEq] at accepted
      obtain ⟨v, ⟨refers, free⟩, value, assigned, _, fits, rfl, rfl⟩ := accepted
      exact .assign refers free (elaborates_expr source assigned) fits
  | .print e, env, after, checked, accepted => by
      simp only [Reference.stmt, bind_eq_ok, return_eq_ok, printed_eq_ok, Prod.mk.injEq] at accepted
      obtain ⟨value, ⟨given, something⟩, rfl, rfl⟩ := accepted
      exact .print (elaborates_expr e given) something
  | .output e, env, after, checked, accepted => by
      simp only [Reference.stmt, bind_eq_ok, return_eq_ok, enclosing_eq_ok, fitResult_eq_ok,
        Prod.mk.injEq] at accepted
      obtain ⟨j, within, value, given, _, fits, rfl, rfl⟩ := accepted
      exact .output within (elaborates_expr e given) fits
  | .ifThen test body, env, after, checked, accepted => by
      simp only [Reference.stmt, bind_eq_ok, return_eq_ok, condition_eq_ok, Prod.exists,
        Env.within_eq_ok, Prod.mk.injEq] at accepted
      obtain ⟨t, ⟨tested, truth⟩, tree, _, ⟨last, inside, rfl⟩, rfl, rfl⟩ := accepted
      exact .ifThen (elaborates_expr test tested) truth (elaborates_chunk body inside)
  | .ifElse test body alternative, env, after, checked, accepted => by
      simp only [Reference.stmt, bind_eq_ok, return_eq_ok, condition_eq_ok, Prod.exists,
        Env.within_eq_ok, Prod.mk.injEq] at accepted
      obtain ⟨t, ⟨tested, truth⟩, tree, _, ⟨last, inside, rfl⟩, tree', _, ⟨final, otherwise, rfl⟩,
        rfl, rfl⟩ := accepted
      have chunk := elaborates_chunk body inside
      have chunk' := elaborates_chunk alternative otherwise
      exact .ifElse (elaborates_expr test tested) truth chunk chunk'
  | .whileLoop test body, env, after, checked, accepted => by
      simp only [Reference.stmt, bind_eq_ok, return_eq_ok, condition_eq_ok, Prod.exists,
        Env.within_eq_ok, Prod.mk.injEq] at accepted
      obtain ⟨t, ⟨tested, truth⟩, tree, _, ⟨last, inside, rfl⟩, rfl, rfl⟩ := accepted
      exact .whileLoop (elaborates_expr test tested) truth (elaborates_chunk body inside)
  | .repeatLoop count body, env, after, checked, accepted => by
      simp only [Reference.stmt, bind_eq_ok, return_eq_ok, condition_eq_ok, Prod.exists,
        Env.within_eq_ok, Prod.mk.injEq] at accepted
      obtain ⟨n, ⟨counted, number⟩, tree, _, ⟨last, inside, rfl⟩, rfl, rfl⟩ := accepted
      exact .repeatLoop (elaborates_expr count counted) number (elaborates_chunk body inside)
  | .coil param low high body, env, after, checked, accepted => by
      simp only [Reference.stmt, bind_eq_ok, return_eq_ok, condition_eq_ok, counterTy_eq_ok,
        Token.expectIdentifier_eq_ok, Prod.exists, Env.within_eq_ok, Env.declareVariable_eq_ok,
        Prod.mk.injEq] at accepted
      obtain ⟨l, ⟨lower, lowNumber⟩, h, ⟨upper, highNumber⟩, _, ⟨type, rfl⟩, _, form, _, _, _,
        ⟨last, ⟨_, _, ⟨_, rfl, rfl⟩, tree, _, inside, ⟨rfl, rfl⟩, rfl⟩, rfl⟩, rfl, rfl⟩ := accepted
      have lowest := elaborates_expr low lower
      have highest := elaborates_expr high upper
      have chunk := elaborates_chunk body inside
      exact .coil lowest lowNumber highest highNumber type form rfl chunk
  | .increment token, env, after, checked, accepted => by
      simp only [Reference.stmt, bind_eq_ok, return_eq_ok, Reference.countable_eq_ok,
        Prod.mk.injEq] at accepted
      obtain ⟨v, ⟨refers, free, number⟩, rfl, rfl⟩ := accepted
      exact .increment refers free number
  | .decrement token, env, after, checked, accepted => by
      simp only [Reference.stmt, bind_eq_ok, return_eq_ok, Reference.countable_eq_ok,
        Prod.mk.injEq] at accepted
      obtain ⟨v, ⟨refers, free, number⟩, rfl, rfl⟩ := accepted
      exact .decrement refers free number
  | .call token args, env, after, checked, accepted => by
      simp only [Reference.stmt, bind_eq_ok, return_eq_ok, Prod.exists, call_eq_ok,
        Prod.mk.injEq] at accepted
      obtain ⟨j, trees, ⟨refers, each, fit⟩, rfl, rfl⟩ := accepted
      exact .call refers (elaborates_exprs args each) fit

/-- An accepted chunk has a derivation. -/
theorem elaborates_chunk : ∀ (chunk : List Syntax.Stmt) {env after : Env}
    {checked : List Typed.Stmt}, Reference.chunk env chunk = .ok (checked, after) →
      Syntax.Stmt.ElaborateAll env chunk checked after
  | [], env, after, checked, accepted => by
      rw [Reference.chunk, return_eq_ok] at accepted
      cases accepted
      exact .nil
  | s :: rest, env, after, checked, accepted => by
      simp only [Reference.chunk, bind_eq_ok, return_eq_ok, Prod.exists, Prod.mk.injEq] at accepted
      obtain ⟨head, middle, accepted, others, last, accepted', rfl, rfl⟩ := accepted
      exact .cons (elaborates_stmt s accepted) (elaborates_chunk rest accepted')

end

/-- The variable that a constant of a prelude becomes. -/
def Entity.ofConstant (id : Nat) (constant : String × Ty) : Entity :=
  .var ⟨id, constant.1, constant.2, true⟩

/-- The job that a job of a prelude becomes. -/
def Entity.ofBuiltin (id : Nat) (builtin : Builtin) : Entity :=
  .job ⟨id, builtin.name, builtin.params, builtin.returns⟩

/-- What a prelude declares, numbered in order. -/
def Prelude.entities (prelude : Prelude) : List Entity :=
  prelude.constants.mapIdx Entity.ofConstant ++
    prelude.jobs.mapIdx fun i => Entity.ofBuiltin (prelude.constants.length + i)

/-- The frame that entities make which are declared one after another. -/
def Frame.ofEntities (entities : List Entity) : Frame :=
  (entities.map fun entity => (entity.name, entity)).reverse

section Preludes
variable {env after : Env}

theorem declareConstant_eq {constant : String × Ty}
    (declared : Reference.declareConstant env constant = .ok after) :
    env.add (Entity.ofConstant env.next constant) = after := by
  simp only [Reference.declareConstant, bind_eq_ok, return_eq_ok, Prod.exists,
    Env.declareVariable_eq_ok] at declared
  obtain ⟨_, _, ⟨_, rfl, added⟩, rfl⟩ := declared
  exact added

theorem declareBuiltin_eq {builtin : Builtin}
    (declared : Reference.declareBuiltin env builtin = .ok after) :
    env.add (Entity.ofBuiltin env.next builtin) = after := by
  simp only [Reference.declareBuiltin, bind_eq_ok, return_eq_ok, Prod.exists,
    Env.declareJob_eq_ok] at declared
  obtain ⟨_, _, ⟨_, rfl, added⟩, rfl⟩ := declared
  exact added

/-- Entries that are declared one after another are numbered in their order. -/
theorem foldlM_declare {α : Type} {make : Nat → α → Entity}
    {declare : Env → α → Except Diagnostic Env}
    (adds : ∀ {env after : Env} {a : α}, declare env a = .ok after →
      env.add (make env.next a) = after)
    {entries : List α} (declared : entries.foldlM declare env = .ok after) :
    after = ⟨Frame.ofEntities (entries.mapIdx fun i => make (env.next + i)) ++ env.top, env.outer,
      env.job, env.next + entries.length⟩ := by
  induction entries generalizing env with
  | nil =>
    cases return_eq_ok.mp declared
    rfl
  | cons a rest ih =>
    rw [List.foldlM_cons] at declared
    obtain ⟨middle, first, declared⟩ := bind_eq_ok.mp declared
    rw [ih declared, ← adds first]
    simp [Frame.ofEntities, Env.add, List.mapIdx_cons, Nat.add_assoc, Nat.add_comm 1]

/-- The environment that a program with the given prelude starts in. -/
theorem env_ofPrelude {prelude : Prelude} (made : Reference.ofPrelude prelude = .ok env) :
    env = ⟨[], [Frame.ofEntities prelude.entities], none,
      prelude.constants.length + prelude.jobs.length⟩ := by
  simp only [Reference.ofPrelude, bind_eq_ok, return_eq_ok] at made
  obtain ⟨middle, constants, last, jobs, rfl⟩ := made
  rw [foldlM_declare declareBuiltin_eq jobs, foldlM_declare declareConstant_eq constants]
  simp [Env.inner, Prelude.entities, Frame.ofEntities]

end Preludes
end JobLang
