import JobLang.Proofs.Positions.Origin
import JobLang.Proofs.Positions.Trees
import JobLang.Proofs.Relabeling.Names

/-!
# Checking without places

An environment holds no places, so a program and the same program with its places removed are
checked in the same environments. The outcome of the second is the one of the first with its places
removed: the same tree, or the same fault.
-/
namespace JobLang

open Syntax (Parameter)

namespace Token
variable (token : Token)

theorem category_unplaced : token.unplaced.category = token.category := rfl

theorem lexeme_unplaced : token.unplaced.lexeme = token.lexeme := rfl

theorem position_unplaced : token.unplaced.position = none := rfl

end Token

/-- The outcome with the place of its diagnostic removed, and with its result changed. -/
def Unplaced {α β : Type} (change : α → β) (outcome : Except Diagnostic α) : Except Diagnostic β :=
  (outcome.mapError Diagnostic.unplaced).map change

section Outcomes
variable {α β γ δ : Type} {change : α → β} {change' : γ → δ}

theorem unplaced_bind {x : Except Diagnostic α} {f : α → Except Diagnostic γ}
    {g : β → Except Diagnostic δ} (next : ∀ a, g (change a) = Unplaced change' (f a)) :
    Unplaced change x >>= g = Unplaced change' (x >>= f) := by
  cases x with
  | error d => rfl
  | ok a => exact next a

theorem unplaced_ite {p : Prop} [Decidable p] {x y : Except Diagnostic α} :
    Unplaced change (if p then x else y) = if p then Unplaced change x else Unplaced change y :=
  apply_ite (Unplaced change) p x y

end Outcomes

section Tokens
variable (env : Env) (token : Token)

theorem expectIdentifier_unplaced :
    token.unplaced.expectIdentifier = Unplaced id token.expectIdentifier := by
  rw [Token.expectIdentifier, Token.expectIdentifier, unplaced_ite]
  rfl

theorem namedTy_unplaced : token.unplaced.namedTy = Unplaced id token.namedTy := by
  rw [Token.namedTy, Token.namedTy, token.lexeme_unplaced]
  cases Ty.ofName? token.lexeme <;> rfl

theorem storableTy_unplaced : token.unplaced.storableTy = Unplaced id token.storableTy := by
  rw [Token.storableTy, Token.storableTy, namedTy_unplaced]
  refine unplaced_bind fun ty => ?_
  rw [unplaced_ite]
  rfl

theorem binaryOp_unplaced : token.unplaced.binaryOp = Unplaced id token.binaryOp := by
  rw [Token.binaryOp, Token.binaryOp, token.lexeme_unplaced]
  cases BinaryOp.ofLexeme? token.lexeme <;> rfl

theorem unaryOp_unplaced : token.unplaced.unaryOp = Unplaced id token.unaryOp := by
  rw [Token.unaryOp, Token.unaryOp, token.lexeme_unplaced]
  cases UnaryOp.ofLexeme? token.lexeme <;> rfl

theorem entity_unplaced :
    Reference.entity env token.unplaced = Unplaced id (Reference.entity env token) := by
  rw [Reference.entity, Reference.entity, expectIdentifier_unplaced]
  refine unplaced_bind fun _ => ?_
  rw [token.lexeme_unplaced]
  cases env.find? token.lexeme <;> rfl

theorem readable_unplaced :
    Reference.readable env token.unplaced = Unplaced id (Reference.readable env token) := by
  rw [Reference.readable, Reference.readable, entity_unplaced]
  refine unplaced_bind fun entity => ?_
  cases entity <;> rfl

theorem writable_unplaced :
    Reference.writable env token.unplaced = Unplaced id (Reference.writable env token) := by
  rw [Reference.writable, Reference.writable, readable_unplaced]
  refine unplaced_bind fun v => ?_
  rw [unplaced_ite]
  rfl

theorem countable_unplaced :
    Reference.countable env token.unplaced = Unplaced id (Reference.countable env token) := by
  rw [Reference.countable, Reference.countable, writable_unplaced]
  refine unplaced_bind fun v => ?_
  rw [unplaced_ite]
  rfl

theorem callable_unplaced :
    Reference.callable env token.unplaced = Unplaced id (Reference.callable env token) := by
  rw [Reference.callable, Reference.callable, entity_unplaced]
  refine unplaced_bind fun entity => ?_
  cases entity <;> rfl

end Tokens

section Expressions
variable (env : Env)

theorem ofBinary_unplaced (op : BinaryOp) (left right : Typed.Expr) (place : Option Position) :
    Typed.Expr.ofBinary op left.unplaced right.unplaced none =
      Unplaced Typed.Expr.unplaced (Typed.Expr.ofBinary op left right place) := by
  rw [Typed.Expr.ofBinary, Typed.Expr.ofBinary, left.ty_unplaced, right.ty_unplaced]
  cases op.resultTy? left.ty right.ty <;> rfl

theorem ofUnary_unplaced (op : UnaryOp) (operand : Typed.Expr) (place : Option Position) :
    Typed.Expr.ofUnary op operand.unplaced none =
      Unplaced Typed.Expr.unplaced (Typed.Expr.ofUnary op operand place) := by
  rw [Typed.Expr.ofUnary, Typed.Expr.ofUnary, operand.ty_unplaced]
  cases op.resultTy? operand.ty <;> rfl

theorem fitEach_unplaced (callee : Job) (place : Option Position) (index : Nat)
    (args : List Typed.Expr) (params : List Ty) :
    Typed.Expr.fitEach callee none index (args.map Typed.Expr.unplaced) params =
      Unplaced id (Typed.Expr.fitEach callee place index args params) := by
  induction args generalizing index params with
  | nil => rfl
  | cons arg args ih =>
    cases params with
    | nil => rfl
    | cons param params =>
      rw [List.map_cons, Typed.Expr.fitEach, Typed.Expr.fitEach, arg.ty_unplaced,
        arg.position_unplaced, ih, unplaced_ite]
      rfl

theorem fitArguments_unplaced (callee : Job) (place : Option Position) (args : List Typed.Expr) :
    Typed.Expr.fitArguments callee none (args.map Typed.Expr.unplaced) =
      Unplaced id (Typed.Expr.fitArguments callee place args) := by
  rw [Typed.Expr.fitArguments, Typed.Expr.fitArguments, List.length_map,
    fitEach_unplaced callee place, unplaced_ite]
  rfl

theorem literal_unplaced (token : Token) (value? : Option Value) :
    Reference.literal token.unplaced value? =
      Unplaced Typed.Expr.unplaced (Reference.literal token value?) := by
  cases value? <;> rfl

theorem leaf_unplaced (token : Token) :
    Reference.leaf env token.unplaced =
      Unplaced Typed.Expr.unplaced (Reference.leaf env token) := by
  rw [Reference.leaf, Reference.leaf, token.category_unplaced]
  cases token.category with
  | id =>
    rw [readable_unplaced]
    exact unplaced_bind fun v => rfl
  | num | baal | quote => exact literal_unplaced token _
  | sym => rfl

mutual

theorem expr_unplaced : ∀ e : Syntax.Expr,
    Reference.expr env e.unplaced = Unplaced Typed.Expr.unplaced (Reference.expr env e)
  | .leaf token => by
      rw [Syntax.Expr.unplaced, Reference.expr, Reference.expr, leaf_unplaced]
  | .binary operator left right => by
      rw [Syntax.Expr.unplaced, Reference.expr, Reference.expr, binaryOp_unplaced,
        expr_unplaced left, expr_unplaced right, left.position_unplaced]
      refine unplaced_bind fun op => unplaced_bind fun l => unplaced_bind fun r => ?_
      exact ofBinary_unplaced op l r _
  | .unary operator operand => by
      rw [Syntax.Expr.unplaced, Reference.expr, Reference.expr, unaryOp_unplaced,
        expr_unplaced operand, operand.position_unplaced]
      refine unplaced_bind fun op => unplaced_bind fun e => ?_
      exact ofUnary_unplaced op e _
  | .call token args => by
      rw [Syntax.Expr.unplaced, Reference.expr, Reference.expr, callable_unplaced,
        exprs_unplaced args]
      refine unplaced_bind fun j => unplaced_bind fun checked => ?_
      rw [id_eq, token.position_unplaced, fitArguments_unplaced j token.position]
      refine unplaced_bind fun _ => ?_
      change _ = Except.ok (Typed.Expr.unplaced (.call j checked _))
      rw [Typed.Expr.unplaced_call]
      rfl

theorem exprs_unplaced : ∀ es : List Syntax.Expr,
    Reference.exprs env (Syntax.Expr.unplacedAll es) =
      Unplaced (List.map Typed.Expr.unplaced) (Reference.exprs env es)
  | [] => rfl
  | e :: rest => by
      rw [Syntax.Expr.unplacedAll, Reference.exprs, Reference.exprs, expr_unplaced e,
        exprs_unplaced rest]
      exact unplaced_bind fun checked => unplaced_bind fun others => rfl

end

end Expressions

section Parts
variable (env : Env)

theorem bind_unplaced (name : String) (entity : Entity) (place : Option Position) :
    env.bind name entity none = Unplaced id (env.bind name entity place) := by
  rw [Env.bind, Env.bind]
  cases env.top.lookup name <;> rfl

theorem declareVariable_unplaced (name : String) (ty : Ty) (readOnly : Bool)
    (place : Option Position) :
    env.declareVariable name ty readOnly none =
      Unplaced id (env.declareVariable name ty readOnly place) := by
  rw [Env.declareVariable, Env.declareVariable, bind_unplaced env name _ place]
  exact unplaced_bind fun _ => rfl

theorem declareJob_unplaced (name : String) (params : List Ty) (returns : Ty)
    (place : Option Position) :
    env.declareJob name params returns none =
      Unplaced id (env.declareJob name params returns place) := by
  rw [Env.declareJob, Env.declareJob, bind_unplaced env name _ place]
  exact unplaced_bind fun _ => rfl

/-- A body that has the same outcome without places has it in a frame of its own. -/
theorem within_unplaced {α β γ : Type} (job : Option Job) (change : α → α) {change' : β → γ}
    {step step' : Env → Except Diagnostic (α × Env)} {f : α × Env → Except Diagnostic β}
    {g : α × Env → Except Diagnostic γ}
    (inside : step' (env.inner job) = Unplaced (Prod.map change id) (step (env.inner job)))
    (next : ∀ a after, g (change a, after) = Unplaced change' (f (a, after))) :
    env.within job step' >>= g = Unplaced change' (env.within job step >>= f) := by
  rw [Env.within, Env.within, inside, bind_assoc, bind_assoc]
  refine unplaced_bind fun result => ?_
  exact next result.1 (env.behind result.2)

theorem condition_unplaced (construct : String) (expected : Ty) (e : Syntax.Expr) :
    Reference.condition env construct expected e.unplaced =
      Unplaced Typed.Expr.unplaced (Reference.condition env construct expected e) := by
  rw [Reference.condition, Reference.condition, expr_unplaced]
  refine unplaced_bind fun checked => ?_
  rw [checked.ty_unplaced, checked.position_unplaced, unplaced_ite]
  rfl

theorem printed_unplaced (e : Syntax.Expr) :
    Reference.printed env e.unplaced =
      Unplaced Typed.Expr.unplaced (Reference.printed env e) := by
  rw [Reference.printed, Reference.printed, expr_unplaced]
  refine unplaced_bind fun checked => ?_
  rw [checked.ty_unplaced, checked.position_unplaced, unplaced_ite]
  rfl

theorem fit_unplaced (source : Typed.Expr) (target : Ty) (place : Option Position) :
    Reference.fit source.unplaced target none =
      Unplaced id (Reference.fit source target place) := by
  rw [Reference.fit, Reference.fit, source.ty_unplaced, source.position_unplaced, unplaced_ite]
  rfl

theorem fitResult_unplaced (j : Job) (value : Typed.Expr) :
    Reference.fitResult j value.unplaced = Unplaced id (Reference.fitResult j value) := by
  rw [Reference.fitResult, Reference.fitResult, value.ty_unplaced, value.position_unplaced,
    unplaced_ite]
  rfl

theorem requireOutput_unplaced (j : Job) (outputs : Nat) (place : Option Position) :
    Reference.requireOutput j outputs none =
      Unplaced id (Reference.requireOutput j outputs place) := by
  rw [Reference.requireOutput, Reference.requireOutput, unplaced_ite]
  rfl

theorem enclosing_unplaced (place : Option Position) :
    Reference.enclosing env none = Unplaced id (Reference.enclosing env place) := by
  rw [Reference.enclosing, Reference.enclosing]
  cases env.job <;> rfl

theorem call_unplaced (token : Token) (args : List Syntax.Expr) :
    Reference.call env token.unplaced (Syntax.Expr.unplacedAll args) =
      Unplaced (Prod.map id (List.map Typed.Expr.unplaced)) (Reference.call env token args) := by
  rw [Reference.call, Reference.call, callable_unplaced, exprs_unplaced, token.position_unplaced]
  refine unplaced_bind fun j => unplaced_bind fun checked => ?_
  rw [id_eq, fitArguments_unplaced j token.position]
  exact unplaced_bind fun _ => rfl

theorem counterTy_unplaced (counter : Parameter) :
    Reference.counterTy counter.unplaced = Unplaced id (Reference.counterTy counter) := by
  rw [Reference.counterTy, Reference.counterTy]
  change counter.typeName.unplaced.storableTy >>= _ = _
  rw [storableTy_unplaced]
  refine unplaced_bind fun ty => ?_
  rw [unplaced_ite]
  rfl

theorem storableTys_unplaced (params : List Parameter) :
    (params.map Parameter.unplaced).mapM (fun param => param.typeName.storableTy) =
      Unplaced id (params.mapM fun param => param.typeName.storableTy) := by
  induction params with
  | nil => rfl
  | cons param rest ih =>
    rw [List.map_cons, List.mapM_cons, List.mapM_cons, ih]
    change param.typeName.unplaced.storableTy >>= _ = _
    rw [storableTy_unplaced]
    exact unplaced_bind fun ty => unplaced_bind fun others => rfl

theorem parameters_unplaced (params : List Parameter) (tys : List Ty) :
    Reference.parameters env ((params.map Parameter.unplaced).zip tys) =
      Unplaced id (Reference.parameters env (params.zip tys)) := by
  induction params generalizing env tys with
  | nil => rfl
  | cons param rest ih =>
    cases tys with
    | nil => rfl
    | cons ty tys =>
      rw [List.map_cons, List.zip_cons_cons, List.zip_cons_cons, Reference.parameters,
        Reference.parameters]
      change param.name.unplaced.expectIdentifier >>= _ = _
      rw [expectIdentifier_unplaced]
      refine unplaced_bind fun _ => ?_
      change env.declareVariable param.name.lexeme ty true none >>= _ = _
      rw [declareVariable_unplaced env _ _ _ param.name.position]
      refine unplaced_bind fun result => ?_
      obtain ⟨v, after⟩ := result
      change Reference.parameters after _ >>= _ = _
      rw [ih]
      exact unplaced_bind fun _ => rfl

end Parts

mutual

theorem outputs_unplaced : ∀ s : Syntax.Stmt, s.unplaced.outputs = s.outputs
  | .declare .. | .job .. | .assign .. | .print _ | .output _ | .increment _ | .decrement _
  | .call .. => by
      rw [Syntax.Stmt.unplaced]
      rfl
  | .ifThen _ body | .whileLoop _ body | .repeatLoop _ body | .coil _ _ _ body => by
      rw [Syntax.Stmt.unplaced]
      exact outputsAll_unplaced body
  | .ifElse _ body alternative => by
      rw [Syntax.Stmt.unplaced, Syntax.Stmt.outputs, outputsAll_unplaced body,
        outputsAll_unplaced alternative]
      rfl

theorem outputsAll_unplaced : ∀ chunk : List Syntax.Stmt,
    Syntax.Stmt.outputsAll (Syntax.Stmt.unplacedAll chunk) = Syntax.Stmt.outputsAll chunk
  | [] => rfl
  | s :: rest => by
      rw [Syntax.Stmt.unplacedAll, Syntax.Stmt.outputsAll, outputs_unplaced s,
        outputsAll_unplaced rest]
      rfl

end

mutual

theorem stmt_unplaced : ∀ (s : Syntax.Stmt) (env : Env),
    Reference.stmt env s.unplaced =
      Unplaced (Prod.map Typed.Stmt.unplaced id) (Reference.stmt env s)
  | .declare typeName name init, env => by
      rw [Syntax.Stmt.unplaced, Reference.stmt, Reference.stmt, expr_unplaced]
      refine unplaced_bind fun value => ?_
      rw [storableTy_unplaced]
      refine unplaced_bind fun ty => ?_
      rw [expectIdentifier_unplaced]
      refine unplaced_bind fun _ => ?_
      rw [id_eq, name.position_unplaced, fit_unplaced value ty name.position]
      refine unplaced_bind fun _ => ?_
      change env.declareVariable name.lexeme ty false none >>= _ = _
      rw [declareVariable_unplaced env _ _ _ name.position]
      exact unplaced_bind fun _ => rfl
  | .job returns name params body, env => by
      rw [Syntax.Stmt.unplaced, Reference.stmt, Reference.stmt, expectIdentifier_unplaced]
      refine unplaced_bind fun _ => ?_
      rw [namedTy_unplaced]
      refine unplaced_bind fun ty => ?_
      rw [storableTys_unplaced]
      refine unplaced_bind fun tys => ?_
      change env.declareJob name.lexeme tys ty none >>= _ = _
      rw [declareJob_unplaced env _ _ _ name.position]
      refine unplaced_bind fun result => ?_
      obtain ⟨j, declared⟩ := result
      refine within_unplaced declared (some j) (Prod.map id (Prod.map Typed.Stmt.unplacedAll id)) ?_
        fun result after => ?_
      · rw [parameters_unplaced, outputsAll_unplaced]
        refine unplaced_bind fun result => ?_
        obtain ⟨vars, opened⟩ := result
        change Reference.chunk opened _ >>= _ = _
        rw [chunk_unplaced body]
        exact unplaced_bind fun _ => rfl
      · obtain ⟨vars, checked, outputs⟩ := result
        change Reference.requireOutput j outputs none >>= _ = _
        rw [requireOutput_unplaced j outputs name.position]
        refine unplaced_bind fun _ => ?_
        change _ = Except.ok (Typed.Stmt.unplaced (.job j vars checked), after)
        rw [Typed.Stmt.unplaced_job]
        rfl
  | .assign target source, env => by
      rw [Syntax.Stmt.unplaced, Reference.stmt, Reference.stmt, writable_unplaced]
      refine unplaced_bind fun v => ?_
      rw [expr_unplaced]
      refine unplaced_bind fun value => ?_
      rw [id_eq, target.position_unplaced, fit_unplaced value v.ty target.position]
      exact unplaced_bind fun _ => rfl
  | .print e, env => by
      rw [Syntax.Stmt.unplaced, Reference.stmt, Reference.stmt, printed_unplaced]
      exact unplaced_bind fun _ => rfl
  | .output e, env => by
      rw [Syntax.Stmt.unplaced, Reference.stmt, Reference.stmt, e.position_unplaced,
        enclosing_unplaced env e.position]
      refine unplaced_bind fun j => ?_
      rw [expr_unplaced]
      refine unplaced_bind fun value => ?_
      rw [fitResult_unplaced]
      exact unplaced_bind fun _ => rfl
  | .ifThen test body, env | .whileLoop test body, env | .repeatLoop test body, env => by
      rw [Syntax.Stmt.unplaced, Reference.stmt, Reference.stmt, condition_unplaced]
      refine unplaced_bind fun checked => ?_
      exact within_unplaced env none _ (chunk_unplaced body _) fun _ _ => rfl
  | .ifElse test body alternative, env => by
      rw [Syntax.Stmt.unplaced, Reference.stmt, Reference.stmt, condition_unplaced]
      refine unplaced_bind fun checked => ?_
      refine within_unplaced env none _ (chunk_unplaced body _) fun inside after => ?_
      exact within_unplaced after none _ (chunk_unplaced alternative _) fun _ _ => rfl
  | .coil counter low high body, env => by
      rw [Syntax.Stmt.unplaced, Reference.stmt, Reference.stmt, condition_unplaced]
      refine unplaced_bind fun l => ?_
      rw [condition_unplaced]
      refine unplaced_bind fun h => ?_
      rw [counterTy_unplaced]
      refine unplaced_bind fun ty => ?_
      change counter.name.unplaced.expectIdentifier >>= _ = _
      rw [expectIdentifier_unplaced]
      refine unplaced_bind fun _ => ?_
      refine within_unplaced env none (Prod.map id Typed.Stmt.unplacedAll) ?_ fun _ _ => rfl
      change (env.inner none).declareVariable counter.name.lexeme ty true none >>= _ = _
      rw [declareVariable_unplaced _ _ _ _ counter.name.position]
      refine unplaced_bind fun result => ?_
      obtain ⟨v, opened⟩ := result
      change Reference.chunk opened _ >>= _ = _
      rw [chunk_unplaced body]
      exact unplaced_bind fun _ => rfl
  | .increment token, env | .decrement token, env => by
      rw [Syntax.Stmt.unplaced, Reference.stmt, Reference.stmt, countable_unplaced]
      exact unplaced_bind fun _ => rfl
  | .call token args, env => by
      rw [Syntax.Stmt.unplaced, Reference.stmt, Reference.stmt, call_unplaced]
      refine unplaced_bind fun result => ?_
      obtain ⟨j, checked⟩ := result
      change _ = Except.ok (Typed.Stmt.unplaced (.call j checked), env)
      rw [Typed.Stmt.unplaced_call]
      rfl

theorem chunk_unplaced : ∀ (chunk : List Syntax.Stmt) (env : Env),
    Reference.chunk env (Syntax.Stmt.unplacedAll chunk) =
      Unplaced (Prod.map Typed.Stmt.unplacedAll id) (Reference.chunk env chunk)
  | [], _ => rfl
  | s :: rest, env => by
      rw [Syntax.Stmt.unplacedAll, Reference.chunk, Reference.chunk, stmt_unplaced s]
      refine unplaced_bind fun result => ?_
      obtain ⟨checked, after⟩ := result
      change Reference.chunk after _ >>= _ = _
      rw [chunk_unplaced rest]
      exact unplaced_bind fun _ => rfl

end

section Programs
variable {prelude : Prelude} {checker : Checker}

theorem compile_unplaced (made : Checker.ofPrelude prelude = .ok checker)
    (program : List Syntax.Stmt) :
    compile prelude (Syntax.Stmt.unplacedAll program) =
      Unplaced Typed.Stmt.unplacedAll (compile prelude program) := by
  have checked : Reference.check prelude (Syntax.Stmt.unplacedAll program) =
      Unplaced Typed.Stmt.unplacedAll (Reference.check prelude program) := by
    rw [Reference.check, Reference.check, (start_of_ofPrelude made).2]
    change Reference.chunk checker.env _ >>= _ = Unplaced _ (Reference.chunk checker.env _ >>= _)
    rw [chunk_unplaced]
    exact unplaced_bind fun _ => rfl
  rw [compile_eq_map, compile_eq_map, checked]
  cases Reference.check prelude program with
  | error d => rfl
  | ok tree => exact congrArg Except.ok (Typed.Stmt.simplifyAll_transform .unplace tree)

/-- If a prelude can be installed, the diagnostic of a program that is rejected has no place but
that of a token of the first statement that is rejected, and it has a place if all tokens have one.
With all places removed from a program the same tree comes back, or the same fault, without
places. -/
theorem places_of_diagnostics (made : Checker.ofPrelude prelude = .ok checker)
    (program : List Syntax.Stmt) :
    (∀ d, check prelude program = .error d →
      (∃ earlier s later trees middle after, program = earlier ++ s :: later ∧
        Syntax.Stmt.checkAll earlier checker = .ok trees middle ∧
        s.check middle = .error d after ∧
        ∀ position, d.position = some position →
          ∃ token ∈ s.tokens, token.position = some position) ∧
      ((∀ token ∈ Syntax.Stmt.tokensAll program, token.position.isSome) → d.position.isSome)) ∧
    compile prelude (Syntax.Stmt.unplacedAll program) =
      ((compile prelude program).mapError Diagnostic.unplaced).map Typed.Stmt.unplacedAll := by
  refine ⟨fun d rejected => ?_, compile_unplaced made program⟩
  obtain ⟨after, failed⟩ : ∃ after, Syntax.Stmt.checkAll program checker = .error d after := by
    rw [check, made] at rejected
    simp only [bind, Except.bind, EStateM.run] at rejected
    cases ran : Syntax.Stmt.checkAll program checker with
    | ok trees after =>
      rw [ran] at rejected
      cases rejected
    | error e after =>
      rw [ran] at rejected
      cases rejected
      exact ⟨after, rfl⟩
  obtain ⟨earlier, s, later, trees, middle, rfl, passed, failed, token, member, same⟩ :=
    exists_first_failing (start_of_ofPrelude made).1 failed
  refine ⟨⟨earlier, s, later, trees, middle, after, rfl, passed, failed, ?_⟩, fun placed => ?_⟩
  · exact fun position known => ⟨token, member, same.trans known⟩
  · rw [← same]
    exact placed token (Syntax.Stmt.tokens_subset_tokensAll (by simp) member)

end Programs

/-- The operator that does not accept its operands has no place, but the first operand has one. -/
def unplacedOperator : List Syntax.Stmt :=
  let truth (offset : Nat) : Syntax.Expr := .leaf ⟨.baal, "true", some ⟨offset, "sum"⟩⟩
  [.print (truth 6), .print (.binary ⟨.sym, "+", none⟩ (truth 17) (truth 24))]

theorem places_of_unplacedOperator : ∃ checker d, Checker.ofPrelude .empty = .ok checker ∧
    check .empty unplacedOperator = .error d ∧ d.position = some ⟨17, "sum"⟩ ∧
    (∃ earlier s later trees middle after, unplacedOperator = earlier ++ s :: later ∧
      Syntax.Stmt.checkAll earlier checker = .ok trees middle ∧
      s.check middle = .error d after ∧
      ∃ token ∈ s.tokens, token.position = some ⟨17, "sum"⟩) ∧
    compile .empty (Syntax.Stmt.unplacedAll unplacedOperator) =
      .error ⟨.operandTypes "add" "baal" "baal", none⟩ := by
  have made : Checker.ofPrelude .empty = .ok _ := rfl
  have rejected : check .empty unplacedOperator =
    .error ⟨.operandTypes "add" "baal" "baal", some ⟨17, "sum"⟩⟩ := rfl
  obtain ⟨places, removed⟩ := places_of_diagnostics made unplacedOperator
  obtain ⟨⟨earlier, s, later, trees, middle, after, split, passed, failed, placed⟩, _⟩ :=
    places _ rejected
  exact ⟨_, _, made, rejected, rfl, ⟨earlier, s, later, trees, middle, after, split, passed, failed,
    placed _ rfl⟩, removed⟩

end JobLang
