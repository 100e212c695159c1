import JobLang.Proofs.Check.Reachable
import JobLang.Proofs.Rejection.Statements

/-!
# Where the place of a diagnostic comes from

Every diagnostic about a statement is placed by a token of the statement: its place is the one of
that token, known or not. Where a place is taken from the first of two that is known, each of the
two is one of a token.
-/
namespace JobLang

open Relation (ReflTransGen)
open Syntax (Parameter)

namespace Syntax

mutual

/-- The tokens of an expression. -/
def Expr.tokens : Expr → List Token
  | .leaf token => [token]
  | .binary operator left right => operator :: (left.tokens ++ right.tokens)
  | .unary operator operand => operator :: operand.tokens
  | .call callee args => callee :: tokensAll args

def Expr.tokensAll : List Expr → List Token
  | [] => []
  | e :: rest => e.tokens ++ tokensAll rest

end

def Parameter.tokens (param : Parameter) : List Token := [param.typeName, param.name]

mutual

/-- The tokens of a statement, those in its bodies among them. -/
def Stmt.tokens : Stmt → List Token
  | .declare typeName name init => typeName :: name :: init.tokens
  | .job returns name params body =>
    returns :: name :: (params.flatMap Parameter.tokens ++ tokensAll body)
  | .assign target source => target :: source.tokens
  | .print value | .output value => value.tokens
  | .ifThen test body | .whileLoop test body | .repeatLoop test body =>
    test.tokens ++ tokensAll body
  | .ifElse test body alternative => test.tokens ++ (tokensAll body ++ tokensAll alternative)
  | .coil counter low high body =>
    counter.tokens ++ (low.tokens ++ (high.tokens ++ tokensAll body))
  | .increment target | .decrement target => [target]
  | .call callee args => callee :: Expr.tokensAll args

def Stmt.tokensAll : List Stmt → List Token
  | [] => []
  | s :: rest => s.tokens ++ tokensAll rest

end

theorem Expr.tokensAll_eq_flatMap (es : List Expr) : tokensAll es = es.flatMap tokens := by
  induction es with
  | nil => rfl
  | cons e rest ih => rw [tokensAll, ih, List.flatMap_cons]

theorem Stmt.tokensAll_eq_flatMap (chunk : List Stmt) : tokensAll chunk = chunk.flatMap tokens := by
  induction chunk with
  | nil => rfl
  | cons s rest ih => rw [tokensAll, ih, List.flatMap_cons]

theorem Expr.tokens_subset_tokensAll {e : Expr} {es : List Expr} (member : e ∈ es) :
    e.tokens ⊆ tokensAll es := by
  rw [tokensAll_eq_flatMap]
  exact fun token own => List.mem_flatMap.mpr ⟨_, member, own⟩

theorem Stmt.tokens_subset_tokensAll {s : Stmt} {chunk : List Stmt} (member : s ∈ chunk) :
    s.tokens ⊆ tokensAll chunk := by
  rw [tokensAll_eq_flatMap]
  exact fun token own => List.mem_flatMap.mpr ⟨_, member, own⟩

mutual

theorem Expr.tokens_subset_of_part {part : Expr} : ∀ e : Expr, part ∈ e.parts →
    part.tokens ⊆ e.tokens
  | .leaf token, member => by
      cases List.mem_singleton.mp member
      exact List.Subset.refl _
  | .binary operator left right, member => by
      rcases List.mem_cons.mp member with rfl | member
      · exact List.Subset.refl _
      refine List.subset_cons_of_subset _ ?_
      rcases List.mem_append.mp member with member | member
      · exact List.subset_append_of_subset_left _ (tokens_subset_of_part left member)
      · exact List.subset_append_of_subset_right _ (tokens_subset_of_part right member)
  | .unary operator operand, member => by
      rcases List.mem_cons.mp member with rfl | member
      · exact List.Subset.refl _
      · exact List.subset_cons_of_subset _ (tokens_subset_of_part operand member)
  | .call callee args, member => by
      rcases List.mem_cons.mp member with rfl | member
      · exact List.Subset.refl _
      · exact List.subset_cons_of_subset _ (tokensAll_subset_of_part args member)

theorem Expr.tokensAll_subset_of_part {part : Expr} : ∀ es : List Expr, part ∈ partsAll es →
    part.tokens ⊆ tokensAll es
  | [], member => by cases member
  | e :: rest, member => by
      rcases List.mem_append.mp member with member | member
      · exact List.subset_append_of_subset_left _ (tokens_subset_of_part e member)
      · exact List.subset_append_of_subset_right _ (tokensAll_subset_of_part rest member)

end

/-- The expressions of a statement consist of tokens of the statement. -/
theorem Stmt.tokens_subset_of_expr {s : Stmt} {e : Expr} (own : e ∈ s.exprs) :
    e.tokens ⊆ s.tokens := by
  intro token member
  cases s with
  | declare | assign | print | output | ifThen | ifElse | whileLoop | repeatLoop =>
    cases List.mem_singleton.mp own
    simp [tokens, member]
  | coil =>
    simp only [exprs, List.mem_cons, List.not_mem_nil, or_false] at own
    rcases own with rfl | rfl <;> simp [tokens, member]
  | call => exact List.mem_cons_of_mem _ (Expr.tokens_subset_tokensAll own member)
  | job | increment | decrement => cases own

theorem Stmt.mem_tokens_of_storedTypes {s : Stmt} {token : Token} (own : token ∈ s.storedTypes) :
    token ∈ s.tokens := by
  cases s with
  | declare | coil =>
    cases List.mem_singleton.mp own
    exact .head _
  | job =>
    obtain ⟨param, member, rfl⟩ := List.mem_map.mp own
    have among : param.typeName ∈ param.tokens := .head _
    simp only [tokens, List.mem_cons, List.mem_append, List.mem_flatMap]
    exact .inr (.inr (.inl ⟨param, member, among⟩))
  | assign | print | output | ifThen | ifElse | whileLoop | repeatLoop | increment | decrement
  | call => cases own

theorem Stmt.mem_tokens_of_newNames {s : Stmt} {token : Token} (own : token ∈ s.newNames) :
    token ∈ s.tokens := by
  cases s with
  | declare | coil =>
    cases List.mem_singleton.mp own
    exact .tail _ (.head _)
  | job =>
    rcases List.mem_cons.mp own with rfl | own
    · exact .tail _ (.head _)
    · obtain ⟨param, member, rfl⟩ := List.mem_map.mp own
      have among : param.name ∈ param.tokens := .tail _ (.head _)
      simp only [tokens, List.mem_cons, List.mem_append, List.mem_flatMap]
      exact .inr (.inr (.inl ⟨param, member, among⟩))
  | assign | print | output | ifThen | ifElse | whileLoop | repeatLoop | increment | decrement
  | call => cases own

theorem Stmt.mem_tokens_of_ownName? {s : Stmt} {token : Token} (own : s.ownName? = some token) :
    token ∈ s.tokens := by
  cases s <;> cases own <;> exact .tail _ (.head _)

theorem Stmt.mem_tokens_of_target? {s : Stmt} {token : Token} (own : s.target? = some token) :
    token ∈ s.tokens := by
  cases s <;> cases own <;> exact .head _

/-- So do its bodies. -/
theorem Stmt.Opens.tokensAll_subset {env opened : Env} {s : Stmt} {body : List Stmt}
    (opens : s.Opens env body opened) : tokensAll body ⊆ s.tokens := by
  intro token member
  cases opens <;> simp [tokens, member]

end Syntax

/-- The place is the one of a token among those given. -/
def PlacedBy (tokens : List Token) (place : Option Position) : Prop :=
  ∃ token ∈ tokens, token.position = place

namespace PlacedBy
variable {tokens more : List Token} {place other : Option Position}

theorem mono (placed : PlacedBy tokens place) (among : tokens ⊆ more) : PlacedBy more place := by
  obtain ⟨token, member, same⟩ := placed
  exact ⟨token, among member, same⟩

theorem or (first : PlacedBy tokens place) (second : PlacedBy tokens other) :
    PlacedBy tokens (place.or other) := by
  cases place with
  | none => exact second
  | some position => exact first

end PlacedBy

section Faults
variable {env : Env} {token : Token} {d : Diagnostic}

theorem placedBy_position : ∀ e : Syntax.Expr, PlacedBy e.tokens e.position
  | .leaf token | .call token _ => ⟨token, .head _, rfl⟩
  | .binary operator left right => by
      have first : PlacedBy (Syntax.Expr.binary operator left right).tokens operator.position :=
        ⟨operator, .head _, rfl⟩
      exact first.or ((placedBy_position left).mono (by simp [Syntax.Expr.tokens]))
  | .unary operator operand => by
      have first : PlacedBy (Syntax.Expr.unary operator operand).tokens operator.position :=
        ⟨operator, .head _, rfl⟩
      exact first.or ((placedBy_position operand).mono (by simp [Syntax.Expr.tokens]))

/-- A checked expression has the place of the expression that was written. -/
theorem position_of_elaborates {e : Syntax.Expr} {checked : Typed.Expr}
    (elaborates : e.Elaborates env checked) : checked.position = e.position := by
  cases elaborates <;> rfl

theorem placedBy_elaborates {e : Syntax.Expr} {checked : Typed.Expr}
    (elaborates : e.Elaborates env checked) : PlacedBy e.tokens checked.position := by
  rw [position_of_elaborates elaborates]
  exact placedBy_position e

theorem placedBy_argument {args : List Syntax.Expr} {checked : List Typed.Expr} {i : Nat}
    {arg : Typed.Expr} (each : Syntax.Expr.ElaborateAll env args checked)
    (given : checked[i]? = some arg) : PlacedBy (Syntax.Expr.tokensAll args) arg.position := by
  induction args generalizing checked i with
  | nil =>
    cases each
    cases given
  | cons e rest ih =>
    cases each with
    | cons head tail =>
      cases i with
      | zero =>
        cases given
        exact (placedBy_elaborates head).mono (List.subset_append_left ..)
      | succ i => exact (ih tail given).mono (List.subset_append_right ..)

theorem position_of_misused {manner : Manner} (misused : env.Misused token manner d) :
    token.position = d.position := by
  cases misused <;> rfl

theorem position_of_notStorable (not : token.NotStorable d) : token.position = d.position := by
  cases not <;> rfl

theorem placedBy_call {args : List Syntax.Expr} (fails : Syntax.CallFails env token args d) :
    PlacedBy (token :: Syntax.Expr.tokensAll args) d.position := by
  cases fails with
  | callee misused => exact ⟨token, .head _, position_of_misused misused⟩
  | arity => exact ⟨token, .head _, rfl⟩
  | argument _ each given =>
    have first := (placedBy_argument each given).mono (List.subset_cons_self token _)
    exact first.or ⟨token, .head _, rfl⟩

theorem placedBy_expr {e : Syntax.Expr} (fails : e.Fails env d) : PlacedBy e.tokens d.position := by
  cases fails with
  | name _ misused => exact ⟨_, .head _, position_of_misused misused⟩
  | literal | symbol => exact ⟨_, .head _, rfl⟩
  | binaryOperator | unaryOperator => exact ⟨_, .head _, rfl⟩
  | operands | operand => exact placedBy_position _
  | call fails => exact placedBy_call fails

theorem placedBy_condition {s : Syntax.Stmt} {construct : String} {expected : Ty}
    {e : Syntax.Expr} {checked : Typed.Expr} (needed : (construct, expected, e) ∈ s.conditions)
    (given : e.Elaborates env checked) : PlacedBy s.tokens checked.position := by
  have own : e ∈ s.exprs := by
    cases s with
    | ifThen | ifElse | whileLoop | repeatLoop =>
      cases List.mem_singleton.mp needed
      exact .head _
    | coil =>
      simp only [Syntax.Stmt.conditions, List.mem_cons, Prod.mk.injEq, List.not_mem_nil,
        or_false] at needed
      rcases needed with ⟨_, _, rfl⟩ | ⟨_, _, rfl⟩
      · exact .head _
      · exact .tail _ (.head _)
    | declare | job | assign | print | output | increment | decrement | call => cases needed
  exact (placedBy_elaborates given).mono (Syntax.Stmt.tokens_subset_of_expr own)

/-- What is wrong with a statement is reported at a token of it. -/
theorem placedBy_stmt {s : Syntax.Stmt} (fails : s.Fails env d) : PlacedBy s.tokens d.position := by
  cases fails with
  | expr own member fails =>
    have inside := (placedBy_expr fails).mono (Syntax.Expr.tokens_subset_of_part _ member)
    exact inside.mono (Syntax.Stmt.tokens_subset_of_expr own)
  | condition needed given => exact placedBy_condition needed given
  | type own not =>
    exact ⟨_, Syntax.Stmt.mem_tokens_of_storedTypes own, position_of_notStorable not⟩
  | name own => exact ⟨_, Syntax.Stmt.mem_tokens_of_newNames own, rfl⟩
  | duplicate own => exact ⟨_, Syntax.Stmt.mem_tokens_of_ownName? own, rfl⟩
  | target own misused =>
    exact ⟨_, Syntax.Stmt.mem_tokens_of_target? own, position_of_misused misused⟩
  | initial given | assigned _ given =>
    refine ((placedBy_elaborates given).mono ?_).or ⟨_, by simp [Syntax.Stmt.tokens], rfl⟩
    exact Syntax.Stmt.tokens_subset_of_expr (.head _)
  | counted counts =>
    rcases counts with rfl | rfl <;> exact ⟨_, .head _, rfl⟩
  | counter | returns => exact ⟨_, .head _, rfl⟩
  | printed given | result _ given => exact placedBy_elaborates given
  | stray => exact placedBy_position _
  | parameter => exact ⟨_, by simp [Syntax.Stmt.tokens, Parameter.tokens], rfl⟩
  | silent => exact ⟨_, .tail _ (.head _), rfl⟩
  | call fails => exact placedBy_call fails

end Faults

section Steps
variable {α β : Type} {step : Check α} {f : α → Check β} {before after : Checker} {d : Diagnostic}

theorem Check.bind_eq_ok {b : β} : (step >>= f) before = .ok b after ↔
    ∃ a middle, step before = .ok a middle ∧ f a middle = .ok b after := by
  change EStateM.bind step f before = _ ↔ _
  rw [EStateM.bind]
  cases step before <;> simp

theorem Check.bind_eq_error : (step >>= f) before = .error d after ↔
    step before = .error d after ∨
      ∃ a middle, step before = .ok a middle ∧ f a middle = .error d after := by
  change EStateM.bind step f before = _ ↔ _
  rw [EStateM.bind]
  cases step before <;> simp

theorem Check.return_eq_error {a : α} : (pure a : Check α) before = .error d after ↔ False :=
  ⟨nofun, False.elim⟩

end Steps

section Programs
variable {d : Diagnostic}

theorem tokensAll_subset_of_enters {first next : Start} (enters : first.Enters next) :
    Syntax.Stmt.tokensAll next.chunk ⊆ Syntax.Stmt.tokensAll first.chunk := by
  obtain ⟨_, opens⟩ := enters
  exact List.Subset.trans opens.tokensAll_subset
    (Syntax.Stmt.tokens_subset_tokensAll (by simp))

theorem placedBy_chunk {env : Env} {chunk : List Syntax.Stmt}
    (rejected : Reference.chunk env chunk = .error d) :
    PlacedBy (Syntax.Stmt.tokensAll chunk) d.position := by
  obtain ⟨last, path, stops⟩ := stops_chunk chunk rejected
  have here : PlacedBy (Syntax.Stmt.tokensAll last.chunk) d.position := by
    obtain ⟨_, fails⟩ := stops
    exact (placedBy_stmt fails).mono (Syntax.Stmt.tokens_subset_tokensAll (by simp))
  have above : Syntax.Stmt.tokensAll last.chunk ⊆ Syntax.Stmt.tokensAll chunk := by
    clear here stops
    induction path with
    | refl => exact List.Subset.refl _
    | tail _ enters ih => exact List.Subset.trans (tokensAll_subset_of_enters enters) ih
  exact here.mono above

/-- A rejected statement has a token that places its diagnostic. -/
theorem placedBy_rejected {env : Env} {s : Syntax.Stmt}
    (rejected : Reference.stmt env s = .error d) : PlacedBy s.tokens d.position := by
  rcases fails_or_opens rejected with fails | ⟨body, opened, opens, rejected⟩
  · exact placedBy_stmt fails
  · exact (placedBy_chunk rejected).mono opens.tokensAll_subset

/-- The first statement at which the check of a chunk fails has a token that places the
diagnostic. -/
theorem exists_first_failing {chunk : List Syntax.Stmt} {checker after : Checker}
    (inRange : checker.InRange) (ran : Syntax.Stmt.checkAll chunk checker = .error d after) :
    ∃ earlier s later trees middle, chunk = earlier ++ s :: later ∧
      Syntax.Stmt.checkAll earlier checker = .ok trees middle ∧
      s.check middle = .error d after ∧ PlacedBy s.tokens d.position := by
  induction chunk generalizing checker with
  | nil => cases ran
  | cons s rest ih =>
    simp only [Syntax.Stmt.checkAll, Check.bind_eq_error, Check.return_eq_error, and_false,
      exists_false, or_false] at ran
    have refines := refines_check s inRange
    rcases ran with failed | ⟨tree, next, first, ran⟩
    · rw [failed] at refines
      have placed := placedBy_rejected refines.outcome_error
      exact ⟨[], s, rest, [], checker, rfl, rfl, failed, placed⟩
    · have inRange' := refines.inRange inRange
      rw [first] at inRange'
      obtain ⟨earlier, t, later, trees, middle, rfl, passed, failed, placed⟩ := ih inRange' ran
      refine ⟨s :: earlier, t, later, tree :: trees, middle, rfl, ?_, failed, placed⟩
      rw [Syntax.Stmt.checkAll]
      exact Check.bind_eq_ok.mpr ⟨tree, next, first,
        Check.bind_eq_ok.mpr ⟨trees, middle, passed, rfl⟩⟩

end Programs

end JobLang
