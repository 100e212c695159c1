import JobLang.Proofs.Check.Reference
import JobLang.Proofs.Relabeling.Trees

/-!
# Checking a relabeled program

An environment is the image of another if the names that a program uses stand in it for the
relabeled entities. In an image the renamed program has the relabeled outcome: the same tree with
new labels, or the same diagnostic with new names. The image may hold further names, which the
program does not use.
-/
namespace JobLang

open Syntax (Parameter)

/-- Both outcomes are results, which are related, or both are diagnostics, and the second one is the
first with new names. -/
def Corresponds {α β : Type} (r : Renaming) (related : α → β → Prop) :
    Except Diagnostic α → Except Diagnostic β → Prop
  | .ok a, .ok b => related a b
  | .error d, .error d' => d.rename r = d'
  | _, _ => False

namespace Corresponds
variable {α β γ δ : Type} {r : Renaming} {related : α → β → Prop} {related' : γ → δ → Prop}

theorem pure {a : α} {b : β} (same : related a b) :
    Corresponds r related (Pure.pure a) (Pure.pure b) := same

theorem bind {x : Except Diagnostic α} {y : Except Diagnostic β} {f : α → Except Diagnostic γ}
    {g : β → Except Diagnostic δ} (first : Corresponds r related x y)
    (next : ∀ a b, related a b → Corresponds r related' (f a) (g b)) :
    Corresponds r related' (x >>= f) (y >>= g) := by
  cases x with
  | error d =>
    cases y with
    | error d' => exact first
    | ok b => exact first.elim
  | ok a =>
    cases y with
    | error d' => exact first.elim
    | ok b => exact next a b first

theorem ite {p q : Prop} [Decidable p] [Decidable q] {x x' : Except Diagnostic α}
    {y y' : Except Diagnostic β} (same : p ↔ q) (yes : Corresponds r related x y)
    (no : Corresponds r related x' y') :
    Corresponds r related (if p then x else x') (if q then y else y') := by
  by_cases holds : p
  · rw [if_pos holds, if_pos (same.mp holds)]
    exact yes
  · rw [if_neg holds, if_neg (mt same.mpr holds)]
    exact no

/-- An outcome that corresponds to another through a function is the image of it. -/
theorem eq_map {f : α → β} {x : Except Diagnostic α} {y : Except Diagnostic β}
    (image : Corresponds r (f · = ·) x y) : y = (x.mapError (Diagnostic.rename r)).map f := by
  cases x with
  | error d =>
    cases y with
    | error d' => exact congrArg Except.error image.symm
    | ok b => exact image.elim
  | ok a =>
    cases y with
    | error d' => exact image.elim
    | ok b => exact congrArg Except.ok image.symm

end Corresponds

/-- The names that are asked for stand for the relabeled entities, in the top frame and around it.
The next entity gets the new number of the next one. -/
structure Env.Image (ρ : Relabeling) (asked : String → Prop) (env image : Env) : Prop where
  top (name : String) : asked name →
    image.top.lookup (ρ.name name) = (env.top.lookup name).map (Entity.relabel ρ)
  outer (name : String) : asked name →
    image.outer.findSome? (·.lookup (ρ.name name)) =
      (env.outer.findSome? (·.lookup name)).map (Entity.relabel ρ)
  job : image.job = env.job.map (Job.relabel ρ)
  next (more : Nat) : image.next + more = ρ.id (env.next + more)

/-- The result is the relabeled one, and the environment behind it is the image of the other. -/
def Relabeled {α : Type} (ρ : Relabeling) (asked : String → Prop) (relabel : α → α)
    (result image : α × Env) : Prop :=
  relabel result.1 = image.1 ∧ result.2.Image ρ asked image.2

namespace Env.Image
variable {ρ : Relabeling} {asked : String → Prop} {env image : Env}

theorem find? (related : env.Image ρ asked image) {name : String} (known : asked name) :
    image.find? (ρ.name name) = (env.find? name).map (Entity.relabel ρ) := by
  rw [Env.find?, Env.find?, List.findSome?_cons, List.findSome?_cons, related.top name known,
    related.outer name known]
  cases env.top.lookup name <;> rfl

theorem inner (related : env.Image ρ asked image) (job : Option Job) :
    (env.inner job).Image ρ asked (image.inner (job.map (Job.relabel ρ))) where
  top _ _ := rfl
  outer name known := related.find? known
  job := by
    change (job.map _).or image.job = (job.or env.job).map _
    rw [related.job]
    cases job <;> rfl
  next := related.next

theorem behind {body body' : Env} (related : env.Image ρ asked image)
    (inside : body.Image ρ asked body') : (env.behind body).Image ρ asked (image.behind body') where
  top := related.top
  outer := related.outer
  job := related.job
  next := inside.next

/-- Binding a name fails in both or in neither, as new names of different entities differ. -/
theorem bind (related : env.Image ρ asked image) {name : String} (known : asked name)
    (entity : Entity) (place : Option Position) :
    Corresponds ρ.name (Env.Image ρ asked) (env.bind name entity place)
      (image.bind (ρ.name name) (entity.relabel ρ) place) := by
  rw [Env.bind, Env.bind, related.top name known]
  cases env.top.lookup name with
  | some bound => rfl
  | none =>
    refine ⟨fun other known' => ?_, related.outer, related.job, fun more => ?_⟩
    · rw [List.lookup_cons, List.lookup_cons, related.top other known']
      by_cases same : other = name
      · simp [same]
      · have apart : ρ.name other ≠ ρ.name name := ρ.name.injective.ne same
        simp [beq_false_of_ne same, beq_false_of_ne apart]
    · rw [Nat.add_assoc, Nat.add_assoc]
      exact related.next (1 + more)

theorem declareVariable (related : env.Image ρ asked image) {name : String} (known : asked name)
    (ty : Ty) (readOnly : Bool) (place : Option Position) :
    Corresponds ρ.name (Relabeled ρ asked (Variable.relabel ρ))
      (env.declareVariable name ty readOnly place)
      (image.declareVariable (ρ.name name) ty readOnly place) := by
  have number : image.next = ρ.id env.next := related.next 0
  rw [Env.declareVariable, Env.declareVariable, number]
  exact .bind (related.bind known (.var _) place) fun _ _ related' => .pure ⟨rfl, related'⟩

theorem declareJob (related : env.Image ρ asked image) {name : String} (known : asked name)
    (params : List Ty) (returns : Ty) (place : Option Position) :
    Corresponds ρ.name (Relabeled ρ asked (Job.relabel ρ))
      (env.declareJob name params returns place)
      (image.declareJob (ρ.name name) params returns place) := by
  have number : image.next = ρ.id env.next := related.next 0
  rw [Env.declareJob, Env.declareJob, number]
  exact .bind (related.bind known (.job _) place) fun _ _ related' => .pure ⟨rfl, related'⟩

/-- Bodies in frames of their own. -/
theorem within {α : Type} {step step' : Env → Except Diagnostic (α × Env)}
    (related : env.Image ρ asked image) (job : Option Job) (relabel : α → α)
    (inside : Corresponds ρ.name (Relabeled ρ asked relabel) (step (env.inner job))
      (step' (image.inner (job.map (Job.relabel ρ))))) :
    Corresponds ρ.name (Relabeled ρ asked relabel) (env.within job step)
      (image.within (job.map (Job.relabel ρ)) step') := by
  rw [Env.within, Env.within]
  exact .bind inside fun _ _ ⟨same, body⟩ => .pure ⟨same, related.behind body⟩

end Env.Image

section Tokens
variable {ρ : Relabeling}

theorem malformed_rename (r : Renaming) (token : Token) :
    token.malformed.rename r = token.malformed := rfl

theorem corresponds_expectIdentifier (r : Renaming) (token : Token) :
    Corresponds r Eq token.expectIdentifier (token.rename r).expectIdentifier := by
  rw [Token.expectIdentifier, Token.expectIdentifier]
  by_cases form : token.isIdentifier = true
  · have kept : (token.rename r).isIdentifier = true := r.isName_apply form
    rw [if_pos form, if_pos kept]
    exact .pure rfl
  · have same : token.rename r = token := by
      rw [Token.rename, r.apply_of_not form]
    rw [same, if_neg form]
    exact malformed_rename r token

theorem corresponds_namedTy (r : Renaming) (token : Token) :
    Corresponds r Eq token.namedTy token.namedTy := by
  rw [Token.namedTy]
  cases Ty.ofName? token.lexeme <;> rfl

theorem corresponds_storableTy (r : Renaming) (token : Token) :
    Corresponds r Eq token.storableTy token.storableTy := by
  refine .bind (corresponds_namedTy r token) ?_
  rintro ty _ rfl
  exact .ite .rfl rfl rfl

theorem corresponds_binaryOp (r : Renaming) (token : Token) :
    Corresponds r Eq token.binaryOp token.binaryOp := by
  rw [Token.binaryOp]
  cases BinaryOp.ofLexeme? token.lexeme <;> rfl

theorem corresponds_unaryOp (r : Renaming) (token : Token) :
    Corresponds r Eq token.unaryOp token.unaryOp := by
  rw [Token.unaryOp]
  cases UnaryOp.ofLexeme? token.lexeme <;> rfl

variable {asked : String → Prop} {env image : Env} (related : env.Image ρ asked image)
  {token : Token} (known : asked token.lexeme)
include related known

theorem corresponds_entity :
    Corresponds ρ.name (Entity.relabel ρ · = ·) (Reference.entity env token)
      (Reference.entity image (token.rename ρ.name)) := by
  refine .bind (corresponds_expectIdentifier ρ.name token) fun _ _ _ => ?_
  have found : image.find? (token.rename ρ.name).lexeme =
    (env.find? token.lexeme).map (Entity.relabel ρ) := related.find? known
  rw [found]
  cases env.find? token.lexeme <;> rfl

theorem corresponds_readable :
    Corresponds ρ.name (Variable.relabel ρ · = ·) (Reference.readable env token)
      (Reference.readable image (token.rename ρ.name)) := by
  refine .bind (corresponds_entity related known) ?_
  rintro (v | j) _ rfl <;> rfl

theorem corresponds_writable :
    Corresponds ρ.name (Variable.relabel ρ · = ·) (Reference.writable env token)
      (Reference.writable image (token.rename ρ.name)) := by
  refine .bind (corresponds_readable related known) ?_
  rintro v _ rfl
  exact .ite .rfl rfl rfl

theorem corresponds_countable :
    Corresponds ρ.name (Variable.relabel ρ · = ·) (Reference.countable env token)
      (Reference.countable image (token.rename ρ.name)) := by
  refine .bind (corresponds_writable related known) ?_
  rintro v _ rfl
  exact .ite .rfl rfl rfl

theorem corresponds_callable :
    Corresponds ρ.name (Job.relabel ρ · = ·) (Reference.callable env token)
      (Reference.callable image (token.rename ρ.name)) := by
  refine .bind (corresponds_entity related known) ?_
  rintro (v | j) _ rfl <;> rfl

end Tokens

section Expressions
variable {ρ : Relabeling}

theorem corresponds_ofBinary (op : BinaryOp) (left right : Typed.Expr) (place : Option Position) :
    Corresponds ρ.name (Typed.Expr.relabel ρ · = ·) (Typed.Expr.ofBinary op left right place)
      (Typed.Expr.ofBinary op (left.relabel ρ) (right.relabel ρ) place) := by
  simp only [Typed.Expr.ofBinary, Typed.Expr.ty_relabel]
  cases op.resultTy? left.ty right.ty <;> rfl

theorem corresponds_ofUnary (op : UnaryOp) (operand : Typed.Expr) (place : Option Position) :
    Corresponds ρ.name (Typed.Expr.relabel ρ · = ·) (Typed.Expr.ofUnary op operand place)
      (Typed.Expr.ofUnary op (operand.relabel ρ) place) := by
  simp only [Typed.Expr.ofUnary, Typed.Expr.ty_relabel]
  cases op.resultTy? operand.ty <;> rfl

theorem corresponds_fitEach (callee : Job) (place : Option Position) (index : Nat)
    (args : List Typed.Expr) (params : List Ty) :
    Corresponds ρ.name Eq (Typed.Expr.fitEach callee place index args params)
      (Typed.Expr.fitEach (callee.relabel ρ) place index (Typed.Expr.relabelAll ρ args)
        params) := by
  induction args generalizing index params with
  | nil => rfl
  | cons arg args ih =>
    cases params with
    | nil => rfl
    | cons param params =>
      simp only [Typed.Expr.relabelAll, Typed.Expr.fitEach, Typed.Expr.ty_relabel,
        Typed.Expr.position_relabel]
      exact .ite .rfl (ih (index + 1) params) rfl

theorem corresponds_fitArguments (callee : Job) (place : Option Position)
    (args : List Typed.Expr) :
    Corresponds ρ.name Eq (Typed.Expr.fitArguments callee place args)
      (Typed.Expr.fitArguments (callee.relabel ρ) place (Typed.Expr.relabelAll ρ args)) := by
  have count : (Typed.Expr.relabelAll ρ args).length = args.length := by
    rw [Typed.Expr.relabelAll_eq_map, List.length_map]
  rw [Typed.Expr.fitArguments, Typed.Expr.fitArguments, count]
  exact .ite .rfl (corresponds_fitEach callee place 0 args callee.params) rfl

theorem corresponds_literal (token : Token) (value? : Option Value) :
    Corresponds ρ.name (Typed.Expr.relabel ρ · = ·) (Reference.literal token value?)
      (Reference.literal token value?) := by
  cases value? <;> rfl

variable {asked : String → Prop} {env image : Env}

theorem corresponds_leaf (related : env.Image ρ asked image) {token : Token}
    (known : ∀ name ∈ (Syntax.Expr.leaf token).names, asked name) :
    Corresponds ρ.name (Typed.Expr.relabel ρ · = ·) (Reference.leaf env token)
      (Reference.leaf image (if token.category = .id then token.rename ρ.name else token)) := by
  rw [Syntax.Expr.names] at known
  by_cases category : token.category = .id
  · rw [if_pos category] at known ⊢
    have category' : (token.rename ρ.name).category = .id := category
    rw [Reference.leaf, Reference.leaf, category, category']
    refine .bind (corresponds_readable related (known _ (List.mem_singleton_self _))) ?_
    rintro v _ rfl
    exact .pure rfl
  · rw [if_neg category, Reference.leaf, Reference.leaf]
    cases category' : token.category with
    | id => exact absurd category' category
    | num | baal | quote => exact corresponds_literal token _
    | sym => rfl

mutual

theorem corresponds_expr (related : env.Image ρ asked image) :
    ∀ e : Syntax.Expr, (∀ name ∈ e.names, asked name) →
      Corresponds ρ.name (Typed.Expr.relabel ρ · = ·) (Reference.expr env e)
        (Reference.expr image (e.rename ρ.name))
  | .leaf token, known => by
      rw [Syntax.Expr.rename, Reference.expr, Reference.expr]
      exact corresponds_leaf related known
  | .binary operator left right, known => by
      obtain ⟨inLeft, inRight⟩ := List.forall_mem_append.mp known
      rw [Syntax.Expr.rename, Reference.expr, Reference.expr, left.position_rename]
      refine .bind (corresponds_binaryOp ρ.name operator) ?_
      rintro op _ rfl
      refine .bind (corresponds_expr related left inLeft) ?_
      rintro l _ rfl
      refine .bind (corresponds_expr related right inRight) ?_
      rintro r _ rfl
      exact corresponds_ofBinary op l r _
  | .unary operator operand, known => by
      rw [Syntax.Expr.rename, Reference.expr, Reference.expr, operand.position_rename]
      refine .bind (corresponds_unaryOp ρ.name operator) ?_
      rintro op _ rfl
      refine .bind (corresponds_expr related operand known) ?_
      rintro e _ rfl
      exact corresponds_ofUnary op e _
  | .call token args, known => by
      obtain ⟨own, inArgs⟩ := List.forall_mem_cons.mp known
      rw [Syntax.Expr.rename, Reference.expr, Reference.expr]
      refine .bind (corresponds_callable related own) ?_
      rintro j _ rfl
      refine .bind (corresponds_exprs related args inArgs) ?_
      rintro checked _ rfl
      exact .bind (corresponds_fitArguments j token.position checked) fun _ _ _ => .pure rfl

theorem corresponds_exprs (related : env.Image ρ asked image) :
    ∀ es : List Syntax.Expr, (∀ name ∈ Syntax.Expr.namesAll es, asked name) →
      Corresponds ρ.name (Typed.Expr.relabelAll ρ · = ·) (Reference.exprs env es)
        (Reference.exprs image (Syntax.Expr.renameAll ρ.name es))
  | [], _ => .pure rfl
  | e :: rest, known => by
      obtain ⟨inHead, inRest⟩ := List.forall_mem_append.mp known
      rw [Syntax.Expr.renameAll, Reference.exprs, Reference.exprs]
      refine .bind (corresponds_expr related e inHead) ?_
      rintro checked _ rfl
      refine .bind (corresponds_exprs related rest inRest) ?_
      rintro others _ rfl
      exact .pure rfl

end

end Expressions

section Parts
variable {ρ : Relabeling}

theorem corresponds_storableTys (r : Renaming) (params : List Parameter) :
    Corresponds r Eq (params.mapM fun param => param.typeName.storableTy)
      ((params.map (Parameter.rename r)).mapM fun param => param.typeName.storableTy) := by
  induction params with
  | nil => exact .pure rfl
  | cons param rest ih =>
    rw [List.map_cons, List.mapM_cons, List.mapM_cons]
    refine .bind (corresponds_storableTy r param.typeName) ?_
    rintro ty _ rfl
    refine .bind ih ?_
    rintro tys _ rfl
    exact .pure rfl

theorem corresponds_counterTy (r : Renaming) (param : Parameter) :
    Corresponds r Eq (Reference.counterTy param) (Reference.counterTy (param.rename r)) := by
  refine .bind (corresponds_storableTy r param.typeName) ?_
  rintro ty _ rfl
  exact .ite .rfl (.pure rfl) rfl

theorem corresponds_fit (source : Typed.Expr) (target : Ty) (place : Option Position) :
    Corresponds ρ.name Eq (Reference.fit source target place)
      (Reference.fit (source.relabel ρ) target place) := by
  rw [Reference.fit, Reference.fit, Typed.Expr.ty_relabel, Typed.Expr.position_relabel]
  exact .ite .rfl (.pure rfl) rfl

theorem corresponds_fitResult (j : Job) (value : Typed.Expr) :
    Corresponds ρ.name Eq (Reference.fitResult j value)
      (Reference.fitResult (j.relabel ρ) (value.relabel ρ)) := by
  rw [Reference.fitResult, Reference.fitResult, Typed.Expr.ty_relabel,
    Typed.Expr.position_relabel]
  exact .ite .rfl (.pure rfl) rfl

theorem corresponds_requireOutput (j : Job) (outputs : Nat) (place : Option Position) :
    Corresponds ρ.name Eq (Reference.requireOutput j outputs place)
      (Reference.requireOutput (j.relabel ρ) outputs place) :=
  .ite .rfl rfl (.pure rfl)

variable {asked : String → Prop} {env image : Env} (related : env.Image ρ asked image)
include related

theorem corresponds_enclosing (place : Option Position) :
    Corresponds ρ.name (Job.relabel ρ · = ·) (Reference.enclosing env place)
      (Reference.enclosing image place) := by
  rw [Reference.enclosing, Reference.enclosing, related.job]
  cases env.job <;> rfl

theorem corresponds_condition (construct : String) (expected : Ty) {e : Syntax.Expr}
    (known : ∀ name ∈ e.names, asked name) :
    Corresponds ρ.name (Typed.Expr.relabel ρ · = ·)
      (Reference.condition env construct expected e)
      (Reference.condition image construct expected (e.rename ρ.name)) := by
  refine .bind (corresponds_expr related e known) ?_
  rintro checked _ rfl
  rw [Typed.Expr.ty_relabel, Typed.Expr.position_relabel]
  exact .ite .rfl (.pure rfl) rfl

theorem corresponds_printed {e : Syntax.Expr} (known : ∀ name ∈ e.names, asked name) :
    Corresponds ρ.name (Typed.Expr.relabel ρ · = ·) (Reference.printed env e)
      (Reference.printed image (e.rename ρ.name)) := by
  refine .bind (corresponds_expr related e known) ?_
  rintro value _ rfl
  rw [Typed.Expr.ty_relabel, Typed.Expr.position_relabel]
  exact .ite .rfl rfl (.pure rfl)

theorem corresponds_call {token : Token} {args : List Syntax.Expr} (own : asked token.lexeme)
    (inArgs : ∀ name ∈ Syntax.Expr.namesAll args, asked name) :
    Corresponds ρ.name (Prod.map (Job.relabel ρ) (Typed.Expr.relabelAll ρ) · = ·)
      (Reference.call env token args)
      (Reference.call image (token.rename ρ.name) (Syntax.Expr.renameAll ρ.name args)) := by
  refine .bind (corresponds_callable related own) ?_
  rintro j _ rfl
  refine .bind (corresponds_exprs related args inArgs) ?_
  rintro checked _ rfl
  exact .bind (corresponds_fitArguments j token.position checked) fun _ _ _ => .pure rfl

end Parts

theorem corresponds_parameters {ρ : Relabeling} {asked : String → Prop} {env image : Env}
    (related : env.Image ρ asked image) (params : List (Parameter × Ty))
    (known : ∀ param ∈ params, asked param.1.name.lexeme) :
    Corresponds ρ.name (Relabeled ρ asked (List.map (Variable.relabel ρ)))
      (Reference.parameters env params)
      (Reference.parameters image (params.map (Prod.map (Parameter.rename ρ.name) id))) := by
  induction params generalizing env image with
  | nil => exact .pure ⟨rfl, related⟩
  | cons head rest ih =>
    obtain ⟨param, ty⟩ := head
    obtain ⟨own, inRest⟩ := List.forall_mem_cons.mp known
    refine .bind (corresponds_expectIdentifier ρ.name param.name) fun _ _ _ => ?_
    refine .bind (related.declareVariable own ty true param.name.position) ?_
    rintro ⟨v, env⟩ ⟨_, image⟩ ⟨rfl, related⟩
    refine .bind (ih related inRest) ?_
    rintro ⟨others, env⟩ ⟨_, image⟩ ⟨rfl, related⟩
    exact .pure ⟨rfl, related⟩

namespace Syntax.Stmt

mutual

theorem outputs_rename (r : Renaming) : ∀ s : Stmt, (s.rename r).outputs = s.outputs
  | .ifThen _ body | .whileLoop _ body | .repeatLoop _ body | .coil _ _ _ body =>
      outputsAll_renameAll r body
  | .ifElse _ body alternative => by
      rw [rename, outputs, outputs, outputsAll_renameAll r body,
        outputsAll_renameAll r alternative]
  | .declare .. | .job .. | .assign .. | .print _ | .output _ | .increment _ | .decrement _
  | .call .. => rfl

theorem outputsAll_renameAll (r : Renaming) :
    ∀ chunk : List Stmt, outputsAll (renameAll r chunk) = outputsAll chunk
  | [] => rfl
  | s :: rest => by
      rw [renameAll, outputsAll, outputsAll, outputs_rename r s, outputsAll_renameAll r rest]

end

end Syntax.Stmt

section Statements
variable {ρ : Relabeling} {asked : String → Prop}

mutual

theorem corresponds_stmt : ∀ (s : Syntax.Stmt) {env image : Env}, env.Image ρ asked image →
    (∀ name ∈ s.names, asked name) →
    Corresponds ρ.name (Relabeled ρ asked (Typed.Stmt.relabel ρ)) (Reference.stmt env s)
      (Reference.stmt image (s.rename ρ.name))
  | .declare typeName name init, env, image, related, known => by
      obtain ⟨own, inInit⟩ := List.forall_mem_cons.mp known
      rw [Syntax.Stmt.rename, Reference.stmt, Reference.stmt]
      refine .bind (corresponds_expr related init inInit) ?_
      rintro init _ rfl
      refine .bind (corresponds_storableTy ρ.name typeName) ?_
      rintro ty _ rfl
      refine .bind (corresponds_expectIdentifier ρ.name name) fun _ _ _ => ?_
      refine .bind (corresponds_fit init ty name.position) fun _ _ _ => ?_
      refine .bind (related.declareVariable own ty false name.position) ?_
      rintro ⟨v, env⟩ ⟨_, image⟩ ⟨rfl, related⟩
      exact .pure ⟨rfl, related⟩
  | .job returns name params body, env, image, related, known => by
      obtain ⟨own, known⟩ := List.forall_mem_cons.mp known
      obtain ⟨inParams, inBody⟩ := List.forall_mem_append.mp known
      rw [Syntax.Stmt.rename, Reference.stmt, Reference.stmt]
      refine .bind (corresponds_expectIdentifier ρ.name name) fun _ _ _ => ?_
      refine .bind (corresponds_namedTy ρ.name returns) ?_
      rintro ty _ rfl
      refine .bind (corresponds_storableTys ρ.name params) ?_
      rintro tys _ rfl
      refine .bind (related.declareJob own tys ty name.position) ?_
      rintro ⟨j, env⟩ ⟨_, image⟩ ⟨rfl, related⟩
      refine .bind (related.within (some j) (Prod.map (List.map (Variable.relabel ρ))
        (Prod.map (Typed.Stmt.relabelAll ρ) id)) ?_) ?_
      · have given : ∀ param ∈ params.zip tys, asked param.1.name.lexeme := fun param member =>
          inParams _ (List.mem_map_of_mem (List.of_mem_zip member).1)
        rw [List.zip_map_left, Syntax.Stmt.outputsAll_renameAll]
        refine .bind (corresponds_parameters (related.inner (some j)) _ given) ?_
        rintro ⟨vars, env⟩ ⟨_, image⟩ ⟨rfl, related⟩
        refine .bind (corresponds_chunk body related inBody) ?_
        rintro ⟨checked, env⟩ ⟨_, image⟩ ⟨rfl, related⟩
        exact .pure ⟨rfl, related⟩
      · rintro ⟨⟨vars, checked, outputs⟩, env⟩ ⟨_, image⟩ ⟨rfl, related⟩
        exact .bind (corresponds_requireOutput j outputs name.position) fun _ _ _ =>
          .pure ⟨rfl, related⟩
  | .assign token source, env, image, related, known => by
      obtain ⟨own, inSource⟩ := List.forall_mem_cons.mp known
      rw [Syntax.Stmt.rename, Reference.stmt, Reference.stmt]
      refine .bind (corresponds_writable related own) ?_
      rintro v _ rfl
      refine .bind (corresponds_expr related source inSource) ?_
      rintro source _ rfl
      exact .bind (corresponds_fit source v.ty token.position) fun _ _ _ => .pure ⟨rfl, related⟩
  | .print e, env, image, related, known => by
      rw [Syntax.Stmt.rename, Reference.stmt, Reference.stmt]
      refine .bind (corresponds_printed related known) ?_
      rintro value _ rfl
      exact .pure ⟨rfl, related⟩
  | .output e, env, image, related, known => by
      rw [Syntax.Stmt.rename, Reference.stmt, Reference.stmt, e.position_rename]
      refine .bind (corresponds_enclosing related e.position) ?_
      rintro j _ rfl
      refine .bind (corresponds_expr related e known) ?_
      rintro value _ rfl
      exact .bind (corresponds_fitResult j value) fun _ _ _ => .pure ⟨rfl, related⟩
  | .ifThen test body, env, image, related, known
  | .whileLoop test body, env, image, related, known
  | .repeatLoop test body, env, image, related, known => by
      obtain ⟨inTest, inBody⟩ := List.forall_mem_append.mp known
      rw [Syntax.Stmt.rename, Reference.stmt, Reference.stmt]
      refine .bind (corresponds_condition related _ _ inTest) ?_
      rintro test _ rfl
      refine .bind (corresponds_block body related inBody) ?_
      rintro ⟨body, env⟩ ⟨_, image⟩ ⟨rfl, related⟩
      exact .pure ⟨rfl, related⟩
  | .ifElse test body alternative, env, image, related, known => by
      obtain ⟨inTest, known⟩ := List.forall_mem_append.mp known
      obtain ⟨inBody, inAlternative⟩ := List.forall_mem_append.mp known
      rw [Syntax.Stmt.rename, Reference.stmt, Reference.stmt]
      refine .bind (corresponds_condition related _ _ inTest) ?_
      rintro test _ rfl
      refine .bind (corresponds_block body related inBody) ?_
      rintro ⟨body, env⟩ ⟨_, image⟩ ⟨rfl, related⟩
      refine .bind (corresponds_block alternative related inAlternative) ?_
      rintro ⟨alternative, env⟩ ⟨_, image⟩ ⟨rfl, related⟩
      exact .pure ⟨rfl, related⟩
  | .coil param low high body, env, image, related, known => by
      obtain ⟨own, known⟩ := List.forall_mem_cons.mp known
      obtain ⟨inLow, known⟩ := List.forall_mem_append.mp known
      obtain ⟨inHigh, inBody⟩ := List.forall_mem_append.mp known
      rw [Syntax.Stmt.rename, Reference.stmt, Reference.stmt]
      refine .bind (corresponds_condition related _ _ inLow) ?_
      rintro low _ rfl
      refine .bind (corresponds_condition related _ _ inHigh) ?_
      rintro high _ rfl
      refine .bind (corresponds_counterTy ρ.name param) ?_
      rintro ty _ rfl
      refine .bind (corresponds_expectIdentifier ρ.name param.name) fun _ _ _ => ?_
      refine .bind (related.within none
        (Prod.map (Variable.relabel ρ) (Typed.Stmt.relabelAll ρ)) ?_) ?_
      · refine .bind ((related.inner none).declareVariable own ty true param.name.position) ?_
        rintro ⟨v, env⟩ ⟨_, image⟩ ⟨rfl, related⟩
        refine .bind (corresponds_chunk body related inBody) ?_
        rintro ⟨checked, env⟩ ⟨_, image⟩ ⟨rfl, related⟩
        exact .pure ⟨rfl, related⟩
      · rintro ⟨⟨v, checked⟩, env⟩ ⟨_, image⟩ ⟨rfl, related⟩
        exact .pure ⟨rfl, related⟩
  | .increment token, env, image, related, known
  | .decrement token, env, image, related, known => by
      rw [Syntax.Stmt.rename, Reference.stmt, Reference.stmt]
      refine .bind (corresponds_countable related (known _ (List.mem_singleton_self _))) ?_
      rintro v _ rfl
      exact .pure ⟨rfl, related⟩
  | .call token args, env, image, related, known => by
      obtain ⟨own, inArgs⟩ := List.forall_mem_cons.mp known
      rw [Syntax.Stmt.rename, Reference.stmt, Reference.stmt]
      refine .bind (corresponds_call related own inArgs) ?_
      rintro ⟨j, checked⟩ _ rfl
      exact .pure ⟨rfl, related⟩

theorem corresponds_chunk : ∀ (chunk : List Syntax.Stmt) {env image : Env},
    env.Image ρ asked image → (∀ name ∈ Syntax.Stmt.namesAll chunk, asked name) →
    Corresponds ρ.name (Relabeled ρ asked (Typed.Stmt.relabelAll ρ)) (Reference.chunk env chunk)
      (Reference.chunk image (Syntax.Stmt.renameAll ρ.name chunk))
  | [], env, image, related, _ => .pure ⟨rfl, related⟩
  | s :: rest, env, image, related, known => by
      obtain ⟨inHead, inRest⟩ := List.forall_mem_append.mp known
      rw [Syntax.Stmt.renameAll, Reference.chunk, Reference.chunk]
      refine .bind (corresponds_stmt s related inHead) ?_
      rintro ⟨checked, env⟩ ⟨_, image⟩ ⟨rfl, related⟩
      refine .bind (corresponds_chunk rest related inRest) ?_
      rintro ⟨others, env⟩ ⟨_, image⟩ ⟨rfl, related⟩
      exact .pure ⟨rfl, related⟩

/-- A chunk in a frame of its own. -/
theorem corresponds_block (body : List Syntax.Stmt) {env image : Env}
    (related : env.Image ρ asked image)
    (known : ∀ name ∈ Syntax.Stmt.namesAll body, asked name) :
    Corresponds ρ.name (Relabeled ρ asked (Typed.Stmt.relabelAll ρ))
      (env.within none (Reference.chunk · body))
      (image.within none (Reference.chunk · (Syntax.Stmt.renameAll ρ.name body))) :=
  related.within none _ (corresponds_chunk body (related.inner none) known)

end

end Statements
end JobLang
