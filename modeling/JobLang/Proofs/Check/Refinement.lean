import JobLang.Proofs.Check.Step

/-!
# The checker refines the reference

From every state whose current scope has been made, the checker gives what the reference gives in
the environment behind that state: the same tree, or the same diagnostic. The proof follows the
statements. Each rule is a sequence of look-ups, which leave the state alone, and of bodies, which
are matched by induction.
-/
namespace JobLang

open Syntax (Parameter)

section Lookups
variable (checker : Checker)

theorem readable_eq (token : Token) :
    checker.scopes.readable token = Reference.readable checker.env token := by
  rw [Scopes.readable, Scopes.resolveVariable, Scopes.resolve, checker.find?_env,
    Reference.readable, Reference.entity]
  cases token.expectIdentifier with
  | error d => rfl
  | ok _ =>
    cases checker.env.find? token.lexeme with
    | none => rfl
    | some found => cases found <;> rfl

theorem writable_eq (token : Token) :
    checker.scopes.writable token = Reference.writable checker.env token := by
  rw [Scopes.writable, readable_eq, Reference.writable]
  rfl

theorem countable_eq (token : Token) :
    checker.scopes.countable token = Reference.countable checker.env token := by
  rw [Scopes.countable, writable_eq, Reference.countable]
  rfl

theorem callable_eq (token : Token) :
    checker.scopes.callable token = Reference.callable checker.env token := by
  rw [Scopes.callable, Scopes.resolve, checker.find?_env, Reference.callable, Reference.entity]
  cases token.expectIdentifier with
  | error d => rfl
  | ok _ =>
    cases checker.env.find? token.lexeme with
    | none => rfl
    | some found => cases found <;> rfl

theorem checkLeaf_eq (token : Token) :
    Syntax.checkLeaf checker.scopes token = Reference.leaf checker.env token := by
  rw [Syntax.checkLeaf, Reference.leaf]
  cases token.category with
  | id => simp only [readable_eq]
  | num | baal | quote | sym => rfl

mutual

theorem checkExpr_eq : ∀ e : Syntax.Expr, e.check checker.scopes = Reference.expr checker.env e
  | .leaf token => by rw [Syntax.Expr.check, Reference.expr, checkLeaf_eq]
  | .binary operator left right => by
      rw [Syntax.Expr.check, Reference.expr, checkExpr_eq left, checkExpr_eq right]
  | .unary operator operand => by
      rw [Syntax.Expr.check, Reference.expr, checkExpr_eq operand]
  | .call callee args => by
      rw [Syntax.Expr.check, Reference.expr, Syntax.checkCallee, callable_eq,
        checkExprs_eq args]
      cases Reference.callable checker.env callee with
      | error d => rfl
      | ok j =>
        cases Reference.exprs checker.env args with
        | error d => rfl
        | ok checked =>
          simp only [bind, Except.bind]
          cases Typed.Expr.fitArguments j callee.position checked <;> rfl

theorem checkExprs_eq : ∀ es : List Syntax.Expr,
    Syntax.Expr.checkAll checker.scopes es = Reference.exprs checker.env es
  | [] => rfl
  | e :: rest => by
      rw [Syntax.Expr.checkAll, Reference.exprs, checkExpr_eq e, checkExprs_eq rest]

end

theorem checkCall_eq (token : Token) (args : List Syntax.Expr) :
    Syntax.checkCall checker.scopes token args = Reference.call checker.env token args := by
  rw [Syntax.checkCall, Syntax.checkCallee, callable_eq, checkExprs_eq, Reference.call]

end Lookups

section Parts
variable {checker : Checker}

theorem reads_expr (e : Syntax.Expr) :
    Reads checker (Check.expr e) (Reference.expr checker.env e) := by
  rw [← checkExpr_eq]
  exact Reads.lift _

theorem reads_condition (construct : String) (expected : Ty) (e : Syntax.Expr) :
    Reads checker (Check.condition construct expected e)
      (Reference.condition checker.env construct expected e) := by
  refine .bind (reads_expr e) fun checked => ?_
  by_cases same : checked.ty = expected
  · rw [if_pos same, if_pos same]
    exact .pure _
  · rw [if_neg same, if_neg same]
    exact .throw _

theorem reads_expectFits (source : Typed.Expr) (target : Ty) (place : Option Position) :
    Reads checker (Check.expectFits source target place) (Reference.fit source target place) := by
  rw [Check.expectFits, Reference.fit]
  by_cases same : source.ty = target
  · rw [if_pos (Ty.fits_iff.mpr same), if_pos same]
    exact .pure _
  · rw [if_neg (mt Ty.fits_iff.mp same), if_neg same]
    exact .throw _

theorem reads_printable (e : Syntax.Expr) :
    Reads checker (Check.printable e) (Reference.printed checker.env e) := by
  refine .bind (reads_expr e) fun checked => ?_
  by_cases nothing : checked.ty = .void
  · rw [if_pos nothing, if_pos nothing]
    exact .throw _
  · rw [if_neg nothing, if_neg nothing]
    exact .pure _

theorem reads_counterTy (param : Parameter) :
    Reads checker (Check.counterTy param) (Reference.counterTy param) := by
  refine .bind (.lift _) fun ty => ?_
  by_cases number : ty = .num
  · rw [if_pos number, if_pos number]
    exact .pure _
  · rw [if_neg number, if_neg number]
    exact .throw _

theorem reads_storableTys (params : List Parameter) :
    Reads checker (params.mapM fun param => (liftM param.typeName.storableTy : Check Ty))
      (params.mapM fun param => param.typeName.storableTy) := by
  induction params with
  | nil => exact .pure _
  | cons param rest ih =>
    rw [List.mapM_cons, List.mapM_cons]
    exact .bind (.lift _) fun ty => .bind ih fun tys => .pure _

theorem reads_enclosingJob (place : Option Position) :
    Reads checker (Check.enclosingJob place) (Reference.enclosing checker.env place) := by
  have looked : Reads checker Check.scopes (.ok checker.scopes) := rfl
  refine looked.known ?_
  rw [Checker.enclosingJob?_env, Reference.enclosing]
  cases checker.env.job with
  | some j => exact .pure j
  | none => exact .throw _

theorem reads_expectResult (job : Job) (value : Typed.Expr) :
    Reads checker (Check.expectResult job value) (Reference.fitResult job value) := by
  rw [Check.expectResult, Reference.fitResult]
  by_cases same : value.ty = job.returns
  · rw [if_pos (Ty.fits_iff.mpr same), if_pos same]
    exact .pure _
  · rw [if_neg (mt Ty.fits_iff.mp same), if_neg same]
    exact .throw _

theorem reads_expectOutput (job : Job) (outputs : Nat) (place : Option Position) :
    Reads checker (Check.expectOutput job outputs place)
      (Reference.requireOutput job outputs place) := by
  rw [Check.expectOutput, Reference.requireOutput]
  by_cases silent : job.returns ≠ .void ∧ outputs = 0
  · rw [if_pos silent, if_pos silent]
    exact .throw _
  · rw [if_neg silent, if_neg silent]
    exact .pure _

theorem scopes_bind {β : Type} (f : Scopes → Check β) :
    (Check.scopes >>= f) checker = f checker.scopes checker := rfl

end Parts

theorem refines_declareParams (params : List (Parameter × Ty)) {checker : Checker}
    (inRange : checker.InRange) :
    Refines checker 0 (Check.declareParams params checker)
      (Reference.parameters checker.env params) := by
  induction params generalizing checker with
  | nil => exact .pure _
  | cons head rest ih =>
    obtain ⟨param, ty⟩ := head
    refine .read inRange (.lift _) fun _ => ?_
    refine .bind (m := 0) (n := 0) inRange (.declareVariable inRange _ _ _ _)
      fun v after inRange' _ => ?_
    exact .bind (m := 0) (n := 0) inRange' (ih inRange') fun others last _ _ => .pure _

/-- A job with its parameters and its body, before it is asked whether it outputs anything. -/
def Check.jobWithBody (returns name : Token) (params : List Parameter) (body : List Syntax.Stmt) :
    Check (Job × List Variable × List Typed.Stmt × Nat) := do
  name.expectIdentifier
  let result ← returns.namedTy
  let tys ← params.mapM fun param => param.typeName.storableTy
  let job ← declareJob name.lexeme tys result name.position
  let (vars, body, outputs) ← inScope (some job) do
    let vars ← declareParams (params.zip tys)
    let (body, outputs) ← countingOutputs (Syntax.Stmt.checkAll body)
    return (vars, body, outputs)
  return (job, vars, body, outputs)

theorem Check.check_job (returns name : Token) (params : List Parameter)
    (body : List Syntax.Stmt) :
    (Syntax.Stmt.job returns name params body).check = (do
      let (job, vars, body, outputs) ← jobWithBody returns name params body
      expectOutput job outputs name.position
      return .job job vars body) := by
  simp only [Syntax.Stmt.check, jobWithBody, bind_assoc, pure_bind]

/-- The part of the reference that goes with it. -/
def Reference.jobWithBody (env : Env) (returns name : Token) (params : List Parameter)
    (body : List Syntax.Stmt) :
    Except Diagnostic ((Job × List Variable × List Typed.Stmt × Nat) × Env) := do
  name.expectIdentifier
  let ty ← returns.namedTy
  let tys ← params.mapM fun param => param.typeName.storableTy
  let (j, env) ← env.declareJob name.lexeme tys ty name.position
  let ((vars, checked, outputs), env) ← env.within (some j) fun env => do
    let (vars, env) ← parameters env (params.zip tys)
    let (checked, env) ← chunk env body
    return ((vars, checked, Syntax.Stmt.outputsAll body), env)
  return ((j, vars, checked, outputs), env)

theorem Reference.stmt_job (env : Env) (returns name : Token) (params : List Parameter)
    (body : List Syntax.Stmt) :
    stmt env (.job returns name params body) = (do
      let ((j, vars, checked, outputs), env) ← jobWithBody env returns name params body
      requireOutput j outputs name.position
      return (.job j vars checked, env)) := by
  simp only [stmt, jobWithBody, bind_assoc, pure_bind]

theorem refines_jobWithBody (returns name : Token) (params : List Parameter)
    {body : List Syntax.Stmt} {checker : Checker} (inRange : checker.InRange)
    (inside : ∀ {opened : Checker}, opened.InRange →
      Refines opened (Syntax.Stmt.outputsAll body) (Syntax.Stmt.checkAll body opened)
        (Reference.chunk opened.env body)) :
    Refines checker 0 (Check.jobWithBody returns name params body checker)
      (Reference.jobWithBody checker.env returns name params body) := by
  refine .read inRange (.lift _) fun _ => ?_
  refine .read inRange (.lift _) fun ty => ?_
  refine .read inRange (reads_storableTys params) fun tys => ?_
  refine .bind (m := 0) (n := 0) inRange (.declareJob inRange _ _ _ _)
    fun j after inRange' _ => ?_
  refine .bind (m := 0) (n := 0) inRange' (.inScope inRange' ?_)
    fun (vars, checked, outputs) last _ _ => .pure _
  rw [← Checker.env_entered inRange']
  have start := after.inRange_entered (some j)
  refine .bind (m := 0) (n := 0) start (refines_declareParams _ start)
    fun vars opened start' _ => ?_
  -- The count starts at zero, so what it comes to is the number of outputs written in the body.
  exact .countingOutputs start' (inside start') fun checked last _ => .pure _

mutual

theorem refines_check : ∀ (s : Syntax.Stmt) {checker : Checker}, checker.InRange →
    Refines checker s.outputs (s.check checker) (Reference.stmt checker.env s)
  | .declare typeName name init, checker, inRange => by
      refine .read inRange (reads_expr init) fun init => ?_
      refine .read inRange (.lift _) fun ty => ?_
      refine .read inRange (.lift _) fun _ => ?_
      refine .read inRange (reads_expectFits init ty name.position) fun _ => ?_
      exact .bind (m := 0) (n := 0) inRange (.declareVariable inRange _ _ _ _)
        fun v after _ _ => .pure _
  | .job returns name params body, checker, inRange => by
      rw [Check.check_job, Reference.stmt_job]
      exact .bind (m := 0) (n := 0) inRange
        (refines_jobWithBody returns name params inRange (refines_checkAll body))
        fun (j, vars, checked, outputs) last inRange' _ =>
          .read inRange' (reads_expectOutput j outputs _) fun _ => .pure _
  | .assign target source, checker, inRange => by
      rw [Syntax.Stmt.check, scopes_bind, writable_eq]
      refine .read inRange (.lift _) fun v => ?_
      refine .read inRange (reads_expr source) fun source => ?_
      exact .read inRange (reads_expectFits source v.ty target.position) fun _ => .pure _
  | .print value, checker, inRange =>
      .read inRange (reads_printable value) fun _ => .pure _
  | .output value, checker, inRange => by
      refine .read inRange (reads_enclosingJob value.position) fun j => ?_
      refine .read inRange (reads_expr value) fun value => ?_
      refine .read inRange (reads_expectResult j value) fun _ => ?_
      exact ⟨rfl, checker.advances_countOutput, rfl⟩
  | .ifThen test body, checker, inRange => by
      refine .read inRange (reads_condition _ _ test) fun test => ?_
      exact .bind (n := 0) inRange (refines_block body inRange) fun body after _ _ => .pure _
  | .ifElse test body alternative, checker, inRange => by
      refine .read inRange (reads_condition _ _ test) fun test => ?_
      refine .bind inRange (refines_block body inRange) fun body after inRange' _ => ?_
      exact .bind (n := 0) inRange' (refines_block alternative inRange')
        fun alternative last _ _ => .pure _
  | .whileLoop test body, checker, inRange => by
      refine .read inRange (reads_condition _ _ test) fun test => ?_
      exact .bind (n := 0) inRange (refines_block body inRange) fun body after _ _ => .pure _
  | .repeatLoop count body, checker, inRange => by
      refine .read inRange (reads_condition _ _ count) fun count => ?_
      exact .bind (n := 0) inRange (refines_block body inRange) fun body after _ _ => .pure _
  | .coil counter low high body, checker, inRange => by
      refine .read inRange (reads_condition _ _ low) fun low => ?_
      refine .read inRange (reads_condition _ _ high) fun high => ?_
      refine .read inRange (reads_counterTy counter) fun ty => ?_
      refine .read inRange (.lift _) fun _ => ?_
      refine .bind (n := 0) inRange (.inScope inRange ?_) fun (v, body) after _ _ => .pure _
      rw [← Checker.env_entered inRange, ← Nat.zero_add (Syntax.Stmt.outputsAll body)]
      have inside := checker.inRange_entered none
      refine .bind inside (.declareVariable inside _ _ _ _) fun v after inside' _ => ?_
      exact .bind (n := 0) inside' (refines_checkAll body inside')
        fun body last _ _ => .pure _
  | .increment target, checker, inRange => by
      rw [Syntax.Stmt.check, scopes_bind, countable_eq]
      exact .read inRange (.lift _) fun v => .pure _
  | .decrement target, checker, inRange => by
      rw [Syntax.Stmt.check, scopes_bind, countable_eq]
      exact .read inRange (.lift _) fun v => .pure _
  | .call callee args, checker, inRange => by
      rw [Syntax.Stmt.check, scopes_bind, checkCall_eq]
      exact .read inRange (.lift _) fun v => .pure _

theorem refines_checkAll : ∀ (chunk : List Syntax.Stmt) {checker : Checker}, checker.InRange →
    Refines checker (Syntax.Stmt.outputsAll chunk) (Syntax.Stmt.checkAll chunk checker)
      (Reference.chunk checker.env chunk)
  | [], _, _ => .pure _
  | s :: rest, checker, inRange => by
      refine .bind inRange (refines_check s inRange) fun checked after inRange' _ => ?_
      exact .bind (n := 0) inRange' (refines_checkAll rest inRange') fun others last _ _ => .pure _

/-- A chunk that is checked in a new scope. -/
theorem refines_block (body : List Syntax.Stmt) {checker : Checker} (inRange : checker.InRange) :
    Refines checker (Syntax.Stmt.outputsAll body)
      (Check.inScope none (Syntax.Stmt.checkAll body) checker)
      (checker.env.within none (Reference.chunk · body)) := by
  refine .inScope inRange ?_
  rw [← Checker.env_entered inRange]
  exact refines_checkAll body (Checker.inRange_entered _ _)

end

end JobLang
