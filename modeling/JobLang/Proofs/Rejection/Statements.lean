import JobLang.Proofs.Rejection.Expressions
import Mathlib.Logic.Relation

/-!
# Where the check of a rejected program stops

In a program that the reference rejects there is a statement at which the check stops. The
statements before it have been accepted, and so have those before each statement around it. What can
be wrong with a statement itself is listed here, as it is for expressions.
-/
namespace JobLang

open Relation (ReflTransGen)
open Syntax (Parameter)

namespace Syntax.Stmt

/-- The expressions of a statement that do not stand in a body. -/
def exprs : Stmt → List Expr
  | .declare _ _ e | .assign _ e | .print e | .output e | .ifThen e _ | .ifElse e _ _
  | .whileLoop e _ | .repeatLoop e _ => [e]
  | .coil _ low high _ => [low, high]
  | .call _ args => args
  | .job .. | .increment _ | .decrement _ => []

/-- The expressions that have to be of a given type, with what the message calls the statement. -/
def conditions : Stmt → List (String × Ty × Expr)
  | .ifThen test _ | .ifElse test _ _ => [("if statement", .baal, test)]
  | .whileLoop test _ => [("while statement", .baal, test)]
  | .repeatLoop count _ => [("repeat statement", .num, count)]
  | .coil _ low high _ => [("coil range", .num, low), ("coil range", .num, high)]
  | .declare .. | .job .. | .assign .. | .print _ | .output _ | .increment _ | .decrement _
  | .call .. => []

/-- The tokens that have to name types of which values can be stored. -/
def storedTypes : Stmt → List Token
  | .declare typeName _ _ => [typeName]
  | .job _ _ params _ => params.map (·.typeName)
  | .coil counter _ _ _ => [counter.typeName]
  | .assign .. | .print _ | .output _ | .ifThen .. | .ifElse .. | .whileLoop .. | .repeatLoop ..
  | .increment _ | .decrement _ | .call .. => []

/-- The tokens that a statement declares, in its own chunk or in the scope of its body. -/
def newNames : Stmt → List Token
  | .declare _ name _ => [name]
  | .job _ name params _ => name :: params.map (·.name)
  | .coil counter _ _ _ => [counter.name]
  | .assign .. | .print _ | .output _ | .ifThen .. | .ifElse .. | .whileLoop .. | .repeatLoop ..
  | .increment _ | .decrement _ | .call .. => []

/-- The token that a statement declares in its own chunk. -/
def ownName? : Stmt → Option Token
  | .declare _ name _ | .job _ name _ _ => some name
  | .assign .. | .print _ | .output _ | .ifThen .. | .ifElse .. | .whileLoop .. | .repeatLoop ..
  | .coil .. | .increment _ | .decrement _ | .call .. => none

/-- The variable that a statement gives a new value. -/
def target? : Stmt → Option Token
  | .assign target _ | .increment target | .decrement target => some target
  | .declare .. | .job .. | .print _ | .output _ | .ifThen .. | .ifElse .. | .whileLoop ..
  | .repeatLoop .. | .coil .. | .call .. => none

/-- What is wrong with a statement itself, its bodies left aside. -/
inductive Fails (env : Env) : Stmt → Diagnostic → Prop
  | expr {s : Stmt} {e part : Expr} {d : Diagnostic} (own : e ∈ s.exprs) (member : part ∈ e.parts)
      (fails : part.Fails env d) : Fails env s d
  | condition {s : Stmt} {construct : String} {expected : Ty} {e : Expr} {checked : Typed.Expr}
      (needed : (construct, expected, e) ∈ s.conditions) (given : e.Elaborates env checked)
      (mismatch : checked.ty ≠ expected) :
      Fails env s
        ⟨.conditionType construct expected.render checked.ty.render, checked.position⟩
  | type {s : Stmt} {token : Token} {d : Diagnostic} (own : token ∈ s.storedTypes)
      (not : token.NotStorable d) : Fails env s d
  | name {s : Stmt} {token : Token} (own : token ∈ s.newNames)
      (form : token.isIdentifier = false) : Fails env s token.malformed
  | duplicate {s : Stmt} {token : Token} (own : s.ownName? = some token)
      (bound : (env.top.lookup token.lexeme).isSome) (form : token.isIdentifier = true) :
      Fails env s ⟨.duplicateDeclaration token.lexeme, token.position⟩
  | target {s : Stmt} {token : Token} {d : Diagnostic} (own : s.target? = some token)
      (misused : env.Misused token .write d) : Fails env s d
  | initial {typeName name : Token} {init : Expr} {checked : Typed.Expr} {ty : Ty}
      (given : init.Elaborates env checked) (type : typeName.NamesStorable ty)
      (mismatch : checked.ty ≠ ty) :
      Fails env (.declare typeName name init)
        ⟨.typeMismatch ty.render checked.ty.render, checked.position.or name.position⟩
  | assigned {token : Token} {source : Expr} {v : Variable} {checked : Typed.Expr}
      (refers : env.Refers token (.var v)) (given : source.Elaborates env checked)
      (mismatch : checked.ty ≠ v.ty) :
      Fails env (.assign token source)
        ⟨.typeMismatch v.ty.render checked.ty.render, checked.position.or token.position⟩
  | counted {s : Stmt} {token : Token} {v : Variable}
      (counts : s = .increment token ∨ s = .decrement token) (refers : env.Refers token (.var v))
      (mismatch : v.ty ≠ .num) :
      Fails env s ⟨.typeMismatch Ty.num.render v.ty.render, token.position⟩
  | counter {counter : Parameter} {low high : Expr} {body : List Stmt} {ty : Ty}
      (type : counter.typeName.NamesStorable ty) (mismatch : ty ≠ .num) :
      Fails env (.coil counter low high body)
        ⟨.typeMismatch Ty.num.render ty.render, counter.typeName.position⟩
  | printed {value : Expr} {checked : Typed.Expr} (given : value.Elaborates env checked)
      (nothing : checked.ty = .void) :
      Fails env (.print value)
        ⟨.typeMismatch "a printable value" checked.ty.render, checked.position⟩
  | stray {value : Expr} (outside : env.job = none) :
      Fails env (.output value) ⟨.outputOutsideJob, value.position⟩
  | result {value : Expr} {j : Job} {checked : Typed.Expr} (within : env.job = some j)
      (given : value.Elaborates env checked) (mismatch : checked.ty ≠ j.returns) :
      Fails env (.output value)
        ⟨.returnType j.name j.returns.render checked.ty.render, checked.position⟩
  | returns {returns name : Token} {params : List Parameter} {body : List Stmt}
      (unknown : Ty.ofName? returns.lexeme = none) :
      Fails env (.job returns name params body) ⟨.unknownType returns.lexeme, returns.position⟩
  | parameter {returns name : Token} {earlier later : List Parameter} {param : Parameter}
      {body : List Stmt} (bound : param.name.lexeme ∈ earlier.map (·.name.lexeme))
      (form : param.name.isIdentifier = true) :
      Fails env (.job returns name (earlier ++ param :: later) body)
        ⟨.duplicateDeclaration param.name.lexeme, param.name.position⟩
  | silent {returns name : Token} {params : List Parameter} {body : List Stmt} {ty : Ty}
      (type : Ty.ofName? returns.lexeme = some ty) (result : ty ≠ .void)
      (silent : outputsAll body = 0) (form : name.isIdentifier = true) :
      Fails env (.job returns name params body)
        ⟨.returnType name.lexeme ty.render "nothing", name.position⟩
  | call {token : Token} {args : List Expr} {d : Diagnostic} (fails : CallFails env token args d) :
      Fails env (.call token args) d

/-- The chunk is a body of the statement, and its check starts in the environment `opened`. -/
inductive Opens (env : Env) : Stmt → List Stmt → Env → Prop
  | job {opened : Env} {returns name : Token} {params : List Parameter} {body : List Stmt} {ty : Ty}
      {tys : List Ty} {j : Job} {vars : List Variable} (type : Ty.ofName? returns.lexeme = some ty)
      (types : List.Forall₂ (fun param ty => param.typeName.NamesStorable ty) params tys)
      (made : env.newJob name.lexeme tys ty = j)
      (opens : Parameters ((env.add (.job j)).inner (some j)) (params.zip tys) vars opened)
      (form : name.isIdentifier = true) :
      Opens env (.job returns name params body) body opened
  | ifThen {test : Expr} {body : List Stmt} : Opens env (.ifThen test body) body (env.inner none)
  | ifElse {test : Expr} {body alternative : List Stmt} :
      Opens env (.ifElse test body alternative) body (env.inner none)
  | alternative {last : Env} {test : Expr} {body alternative : List Stmt}
      {checked : List Typed.Stmt} (inside : ElaborateAll (env.inner none) body checked last) :
      Opens env (.ifElse test body alternative) alternative ((env.behind last).inner none)
  | whileLoop {test : Expr} {body : List Stmt} :
      Opens env (.whileLoop test body) body (env.inner none)
  | repeatLoop {count : Expr} {body : List Stmt} :
      Opens env (.repeatLoop count body) body (env.inner none)
  | coil {counter : Parameter} {low high : Expr} {body : List Stmt} {v : Variable}
      (made : env.newVariable counter.name.lexeme .num true = v) :
      Opens env (.coil counter low high body) body ((env.inner none).add (.var v))

end Syntax.Stmt

section Statements
variable {env : Env} {d : Diagnostic}

theorem Env.bind_eq_error {name : String} {entity : Entity} {place : Option Position} :
    env.bind name entity place = .error d ↔
      (env.top.lookup name).isSome ∧ ⟨.duplicateDeclaration name, place⟩ = d := by
  rw [bind]
  cases env.top.lookup name <;> simp

theorem Env.declareVariable_eq_error {name : String} {ty : Ty} {readOnly : Bool}
    {place : Option Position} : env.declareVariable name ty readOnly place = .error d ↔
      (env.top.lookup name).isSome ∧ ⟨.duplicateDeclaration name, place⟩ = d := by
  simp only [declareVariable, JobLang.bind_eq_error, return_eq_error, Env.bind_eq_error,
    and_false, exists_false, or_false]

theorem Env.declareJob_eq_error {name : String} {params : List Ty} {returns : Ty}
    {place : Option Position} : env.declareJob name params returns place = .error d ↔
      (env.top.lookup name).isSome ∧ ⟨.duplicateDeclaration name, place⟩ = d := by
  simp only [declareJob, JobLang.bind_eq_error, return_eq_error, Env.bind_eq_error, and_false,
    exists_false, or_false]

theorem Env.within_eq_error {α : Type} {job : Option Job}
    {step : Env → Except Diagnostic (α × Env)} :
    env.within job step = .error d ↔ step (env.inner job) = .error d := by
  simp only [within, JobLang.bind_eq_error, return_eq_error, and_false, exists_false, or_false]

/-- A parameter that is rejected is no name, or its name has been bound before. -/
theorem parameters_eq_error {params : List (Parameter × Ty)}
    (rejected : Reference.parameters env params = .error d) :
    (∃ p ∈ params, p.1.name.isIdentifier = false ∧ p.1.name.malformed = d) ∨
    ∃ earlier p later, params = earlier ++ p :: later ∧
      ((env.top.lookup p.1.name.lexeme).isSome ∨
        p.1.name.lexeme ∈ earlier.map (·.1.name.lexeme)) ∧
      p.1.name.isIdentifier = true ∧
      ⟨.duplicateDeclaration p.1.name.lexeme, p.1.name.position⟩ = d := by
  induction params generalizing env with
  | nil => cases rejected
  | cons head rest ih =>
    obtain ⟨param, ty⟩ := head
    simp only [Reference.parameters, bind_eq_error, return_eq_error,
      Token.expectIdentifier_eq_error, Env.declareVariable_eq_error, Prod.exists,
      Env.declareVariable_eq_ok, and_false, exists_false, or_false] at rejected
    rcases rejected with ⟨form, rfl⟩ | ⟨_, form, ⟨bound, rfl⟩ | ⟨_, _, ⟨_, rfl, rfl⟩, rejected⟩⟩
    · exact .inl ⟨_, List.mem_cons_self .., form, rfl⟩
    · have form := Token.expectIdentifier_eq_ok.mp form
      exact .inr ⟨[], (param, ty), rest, rfl, .inl bound, form, rfl⟩
    · rcases ih rejected with ⟨p, member, form, same⟩ | ⟨earlier, p, later, rfl, bound, same⟩
      · exact .inl ⟨p, List.mem_cons_of_mem _ member, form, same⟩
      · refine .inr ⟨(param, ty) :: earlier, p, later, rfl, ?_, same⟩
        rcases bound with bound | bound
        · change (List.lookup _ ((param.name.lexeme, _) :: env.top)).isSome at bound
          rw [List.lookup_cons] at bound
          by_cases known : p.1.name.lexeme = param.name.lexeme
          · exact .inr (List.mem_cons.mpr (.inl known))
          · rw [beq_false_of_ne known] at bound
            exact .inl bound
        · exact .inr (List.mem_cons_of_mem _ bound)

theorem notStorable_of_mapM {params : List Parameter}
    (rejected : (params.mapM fun param => param.typeName.storableTy) = .error d) :
    ∃ param ∈ params, param.typeName.NotStorable d := by
  induction params with
  | nil => cases rejected
  | cons param rest ih =>
    simp only [List.mapM_cons, bind_eq_error, return_eq_error, and_false, exists_false,
      or_false] at rejected
    rcases rejected with rejected | ⟨_, _, rejected⟩
    · exact ⟨param, List.mem_cons_self .., notStorable_of_error rejected⟩
    · obtain ⟨param, member, not⟩ := ih rejected
      exact ⟨param, List.mem_cons_of_mem _ member, not⟩

theorem condition_eq_error {construct : String} {expected : Ty} {e : Syntax.Expr} :
    Reference.condition env construct expected e = .error d ↔
      Reference.expr env e = .error d ∨ ∃ checked, Reference.expr env e = .ok checked ∧
        checked.ty ≠ expected ∧
        ⟨.conditionType construct expected.render checked.ty.render, checked.position⟩ = d := by
  simp only [Reference.condition, bind_eq_error, allow_eq_error]

theorem enclosing_eq_error {place : Option Position} :
    Reference.enclosing env place = .error d ↔ env.job = none ∧ ⟨.outputOutsideJob, place⟩ = d := by
  rw [Reference.enclosing]
  cases env.job <;> simp [return_eq_error]

/-- An expression in which something is wrong is wrong in every statement that it belongs to. -/
theorem fails_of_expr {s : Syntax.Stmt} {e : Syntax.Expr} (own : e ∈ s.exprs)
    (rejected : Reference.expr env e = .error d) : s.Fails env d := by
  obtain ⟨part, member, fails⟩ := fails_expr e rejected
  exact .expr own member fails

theorem fails_of_condition {s : Syntax.Stmt} {construct : String} {expected : Ty}
    {e : Syntax.Expr} (own : e ∈ s.exprs) (needed : (construct, expected, e) ∈ s.conditions)
    (rejected : Reference.condition env construct expected e = .error d) : s.Fails env d := by
  rcases condition_eq_error.mp rejected with rejected | ⟨checked, accepted, mismatch, rfl⟩
  · exact fails_of_expr own rejected
  · exact .condition needed (elaborates_expr e accepted) mismatch

/-- The parameters of a job are bound in a frame where nothing else is. -/
theorem fails_of_parameters {opened : Env} {returns name : Token} {params : List Parameter}
    {body : List Syntax.Stmt} {tys : List Ty} (count : params.length = tys.length)
    (blank : opened.top = []) (rejected : Reference.parameters opened (params.zip tys) = .error d) :
    (Syntax.Stmt.job returns name params body).Fails env d := by
  have named : (params.zip tys).map Prod.fst = params :=
    List.map_fst_zip (Nat.le_of_eq count)
  rcases parameters_eq_error rejected with ⟨p, member, form, rfl⟩ | ⟨earlier, p, later, split, rest⟩
  · have own := List.mem_map_of_mem (f := fun param => param.name) (List.of_mem_zip member).1
    exact .name (List.mem_cons_of_mem _ own) form
  · obtain ⟨bound, form, rfl⟩ := rest
    rw [split, List.map_append, List.map_cons] at named
    rw [← named]
    refine .parameter ?_ form
    rw [blank] at bound
    rw [List.map_map]
    exact bound.resolve_left (by simp)

/-- The check of a statement stops at the statement itself or in one of its bodies. -/
theorem fails_or_opens {s : Syntax.Stmt} (rejected : Reference.stmt env s = .error d) :
    s.Fails env d ∨ ∃ body opened, s.Opens env body opened ∧
      Reference.chunk opened body = .error d := by
  cases s with
  | declare typeName name init =>
    simp only [Reference.stmt, Reference.fit, bind_eq_error, return_eq_error, allow_eq_error,
      Token.expectIdentifier_eq_error, Env.declareVariable_eq_error, and_false, exists_false,
      or_false] at rejected
    left
    rcases rejected with rejected | ⟨checked, accepted, rejected | ⟨ty, type, rejected⟩⟩
    · exact fails_of_expr (List.mem_singleton_self _) rejected
    · exact .type (List.mem_singleton_self _) (notStorable_of_error rejected)
    rcases rejected with ⟨form, rfl⟩ | ⟨_, form, ⟨mismatch, rfl⟩ | ⟨_, _, bound, rfl⟩⟩
    · exact .name (List.mem_singleton_self _) form
    · have given := elaborates_expr init accepted
      exact .initial given (Token.storableTy_eq_ok.mp type) mismatch
    · exact .duplicate rfl bound (Token.expectIdentifier_eq_ok.mp form)
  | job returns name params body =>
    simp only [Reference.stmt, Reference.requireOutput, bind_eq_error, return_eq_error,
      refuse_eq_error, Token.expectIdentifier_eq_error, Token.namedTy_eq_error,
      Token.namedTy_eq_ok, Env.declareJob_eq_error, Env.declareJob_eq_ok, Env.within_eq_error,
      Env.within_eq_ok, bind_eq_ok, return_eq_ok, Prod.exists, Prod.mk.injEq, and_false,
      exists_false, or_false] at rejected
    rcases rejected with ⟨form, rfl⟩ | ⟨_, form, ⟨unknown, rfl⟩ | ⟨ty, type, rejected⟩⟩
    · exact .inl (.name (List.mem_cons_self ..) form)
    · exact .inl (.returns unknown)
    have form := Token.expectIdentifier_eq_ok.mp form
    rcases rejected with rejected | ⟨tys, types, rejected⟩
    · obtain ⟨param, member, not⟩ := notStorable_of_mapM rejected
      exact .inl (.type (List.mem_map_of_mem member) not)
    have types := namesStorable_of_ok types
    rcases rejected with ⟨bound, rfl⟩ | ⟨_, _, ⟨_, rfl, rfl⟩, rejected⟩
    · exact .inl (.duplicate rfl bound form)
    rcases rejected with (rejected | ⟨vars, opened, opens, rejected⟩) |
      ⟨_, _, _, _, ⟨_, ⟨_, _, _, _, _, _, ⟨_, _, rfl⟩, _⟩, _⟩, ⟨result, silent⟩, rfl⟩
    · exact .inl (fails_of_parameters types.length_eq rfl rejected)
    · exact .inr ⟨body, opened, .job type types rfl (parameters_of_ok opens) form, rejected⟩
    · exact .inl (.silent type result silent form)
  | assign target source =>
    simp only [Reference.stmt, Reference.fit, bind_eq_error, return_eq_error, allow_eq_error,
      Reference.writable_eq_ok, and_false, exists_false, or_false] at rejected
    left
    rcases rejected with rejected | ⟨v, ⟨refers, _⟩, rejected | ⟨checked, accepted, rejected⟩⟩
    · exact .target rfl (misused_of_writable rejected)
    · exact fails_of_expr (List.mem_singleton_self _) rejected
    · obtain ⟨mismatch, rfl⟩ := rejected
      exact .assigned refers (elaborates_expr source accepted) mismatch
  | print value =>
    simp only [Reference.stmt, Reference.printed, bind_eq_error, return_eq_error, refuse_eq_error,
      and_false, exists_false, or_false] at rejected
    left
    rcases rejected with rejected | ⟨checked, accepted, nothing, rfl⟩
    · exact fails_of_expr (List.mem_singleton_self _) rejected
    · exact .printed (elaborates_expr value accepted) nothing
  | output value =>
    simp only [Reference.stmt, Reference.fitResult, bind_eq_error, return_eq_error,
      allow_eq_error, enclosing_eq_error, enclosing_eq_ok, and_false, exists_false,
      or_false] at rejected
    left
    rcases rejected with ⟨outside, rfl⟩ | ⟨j, within, rejected | ⟨checked, accepted, rejected⟩⟩
    · exact .stray outside
    · exact fails_of_expr (List.mem_singleton_self _) rejected
    · obtain ⟨mismatch, rfl⟩ := rejected
      exact .result within (elaborates_expr value accepted) mismatch
  | ifThen test body | whileLoop test body | repeatLoop test body =>
    simp only [Reference.stmt, bind_eq_error, return_eq_error, Env.within_eq_error, and_false,
      exists_false, or_false] at rejected
    rcases rejected with rejected | ⟨_, _, rejected⟩
    · exact .inl (fails_of_condition (.head _) (.head _) rejected)
    · exact .inr ⟨body, _, by constructor, rejected⟩
  | ifElse test body alternative =>
    simp only [Reference.stmt, bind_eq_error, return_eq_error, Env.within_eq_error,
      Env.within_eq_ok, Prod.exists, and_false, exists_false, or_false] at rejected
    rcases rejected with rejected | ⟨_, _, rejected | ⟨_, _, ⟨last, inside, rfl⟩, rejected⟩⟩
    · exact .inl (fails_of_condition (.head _) (.head _) rejected)
    · exact .inr ⟨body, _, .ifElse, rejected⟩
    · exact .inr ⟨alternative, _, .alternative (elaborates_chunk body inside), rejected⟩
  | coil counter low high body =>
    simp only [Reference.stmt, Reference.counterTy, bind_eq_error, return_eq_error,
      allow_eq_error, Token.expectIdentifier_eq_error, Env.within_eq_error,
      Env.declareVariable_eq_error, Env.declareVariable_eq_ok, Prod.exists, and_false,
      exists_false, or_false] at rejected
    rcases rejected with rejected | ⟨_, _, rejected | ⟨_, _, rejected⟩⟩
    · exact .inl (fails_of_condition (.head _) (.head _) rejected)
    · exact .inl (fails_of_condition (.tail _ (.head _)) (.tail _ (.head _)) rejected)
    rcases rejected with (rejected | ⟨ty, type, mismatch, rfl⟩) | ⟨_, type, rejected⟩
    · exact .inl (.type (List.mem_singleton_self _) (notStorable_of_error rejected))
    · exact .inl (.counter (Token.storableTy_eq_ok.mp type) mismatch)
    obtain ⟨ty, number, same⟩ := bind_eq_ok.mp type
    obtain ⟨rfl, rfl⟩ := allow_eq_ok.mp same
    rcases rejected with ⟨form, rfl⟩ | ⟨_, _, ⟨bound, _⟩ | ⟨v, _, ⟨_, rfl, rfl⟩, rejected⟩⟩
    · exact .inl (.name (List.mem_singleton_self _) form)
    · cases bound
    · exact .inr ⟨body, _, .coil rfl, rejected⟩
  | increment target | decrement target =>
    simp only [Reference.stmt, bind_eq_error, return_eq_error, and_false, exists_false,
      or_false] at rejected
    left
    rcases countable_eq_error rejected with misused | ⟨v, refers, mismatch, rfl⟩
    · exact .target rfl misused
    · exact .counted (by simp) refers mismatch
  | call token args =>
    simp only [Reference.stmt, Reference.call, bind_eq_error, return_eq_error,
      Reference.callable_eq_ok, and_false, exists_false, or_false] at rejected
    left
    rcases rejected with rejected | ⟨j, refers, rejected | ⟨checked, accepted, rejected⟩⟩
    · exact .call (.callee (misused_of_callable rejected))
    · obtain ⟨part, member, fails⟩ := fails_exprs args rejected
      obtain ⟨arg, own, member⟩ := Syntax.Expr.mem_partsAll.mp member
      exact .expr own member fails
    · exact .call (callFails_of_fitArguments refers (elaborates_exprs args accepted) rejected)

end Statements

/-- A chunk whose check starts, and the environment in which it starts. -/
structure Start where
  env : Env
  chunk : List Syntax.Stmt

namespace Start

/-- The check of the one chunk gets to the other, which is a body of a statement of the first. -/
inductive Enters : Start → Start → Prop
  | body {env middle opened : Env} {earlier later body : List Syntax.Stmt} {s : Syntax.Stmt}
      {checked : List Typed.Stmt}
      (accepted : Syntax.Stmt.ElaborateAll env earlier checked middle)
      (opens : s.Opens middle body opened) : Enters ⟨env, earlier ++ s :: later⟩ ⟨opened, body⟩

/-- The check of the chunk gets to a statement of it that has something wrong with it itself. -/
inductive Stops : Start → Diagnostic → Prop
  | statement {env middle : Env} {earlier later : List Syntax.Stmt} {s : Syntax.Stmt}
      {checked : List Typed.Stmt} {d : Diagnostic}
      (accepted : Syntax.Stmt.ElaborateAll env earlier checked middle) (fails : s.Fails middle d) :
      Stops ⟨env, earlier ++ s :: later⟩ d

end Start

section Chunks
variable {env opened : Env} {d : Diagnostic}

/-- The first statement of a chunk that is rejected. -/
theorem exists_first_rejected {chunk : List Syntax.Stmt}
    (rejected : Reference.chunk env chunk = .error d) :
    ∃ earlier s later checked middle, chunk = earlier ++ s :: later ∧
      Syntax.Stmt.ElaborateAll env earlier checked middle ∧
      Reference.stmt middle s = .error d := by
  induction chunk generalizing env with
  | nil => cases rejected
  | cons s rest ih =>
    simp only [Reference.chunk, bind_eq_error, return_eq_error, Prod.exists, and_false,
      exists_false, or_false] at rejected
    rcases rejected with rejected | ⟨checked, middle, accepted, rejected⟩
    · exact ⟨[], s, rest, [], env, rfl, .nil, rejected⟩
    · obtain ⟨earlier, t, later, others, last, rfl, accepted', rejected⟩ := ih rejected
      have head := elaborates_stmt s accepted
      exact ⟨s :: earlier, t, later, _, last, rfl, .cons head accepted', rejected⟩

theorem Syntax.Stmt.Opens.sizeOf_lt {s : Syntax.Stmt} {body : List Syntax.Stmt}
    (opens : s.Opens env body opened) : sizeOf body < sizeOf s := by
  cases opens <;> simp only [job.sizeOf_spec, ifThen.sizeOf_spec, ifElse.sizeOf_spec,
    whileLoop.sizeOf_spec, repeatLoop.sizeOf_spec, coil.sizeOf_spec] <;> omega

/-- The check of a rejected chunk stops at a statement of it or of a body in it. -/
theorem stops_chunk (chunk : List Syntax.Stmt) {env : Env}
    (rejected : Reference.chunk env chunk = .error d) :
    ∃ last, ReflTransGen Start.Enters ⟨env, chunk⟩ last ∧ last.Stops d := by
  obtain ⟨earlier, s, later, checked, middle, rfl, accepted, rejected⟩ :=
    exists_first_rejected rejected
  rcases fails_or_opens rejected with fails | ⟨body, opened, opens, rejected⟩
  · exact ⟨_, .refl, .statement accepted fails⟩
  · have smaller : sizeOf body < sizeOf (earlier ++ s :: later) := by
      have own := opens.sizeOf_lt
      have member : s ∈ earlier ++ s :: later := by simp
      have above := List.sizeOf_lt_of_mem member
      omega
    obtain ⟨last, path, stops⟩ := stops_chunk body rejected
    exact ⟨last, .head (.body accepted opens) path, stops⟩
termination_by sizeOf chunk

end Chunks

end JobLang
