import JobLang.Proofs.Check.Reachable
import JobLang.Proofs.Rejection.Statements

/-!
# Types in diagnostics

A shown type says where it ends, also where it is followed by other text: the first character tells
a job type from the others, and the parameters of a job end at the parenthesis that closes theirs.
So a type can be read back from what is shown of it, however deep the types of jobs are nested, and
a diagnostic that comes of two types that differ shows them differently.
-/
namespace JobLang

namespace Ty

/-- The types behind the first one of a list, each with a comma before it, up to the parenthesis. -/
def further : List Ty → List Char
  | [] => [')']
  | ty :: rest => ',' :: (ty.render.toList ++ further rest)

/-- A list of types as it stands in a job type, up to the parenthesis. -/
def listed : List Ty → List Char
  | [] => [')']
  | ty :: rest => ty.render.toList ++ further rest

theorem listed_eq (tys : List Ty) :
    listed tys = (",".intercalate (renderAll tys)).toList ++ [')'] := by
  rw [String.toList_intercalate]
  cases tys with
  | nil => rfl
  | cons ty rest =>
    induction rest generalizing ty with
    | nil => simp [listed, further, renderAll]
    | cons next rest ih =>
      have behind := ih next
      simp only [renderAll, List.map_cons] at behind ⊢
      rw [List.intercalate_cons_cons, List.append_assoc, ← behind]
      simp [listed, further]

theorem toList_render_job (params : List Ty) (result : Ty) :
    (job params result).render.toList =
      '(' :: (listed params ++ '-' :: '>' :: result.render.toList) := by
  simp [render, listed_eq]

/-- No type starts with the parenthesis at which a list of types ends. -/
theorem head?_render_ne (ty : Ty) (rest : List Char) :
    (ty.render.toList ++ rest).head? ≠ some ')' := by
  cases ty with
  | num | baal | quote | void => simp [render]
  | job params result => simp [toList_render_job]

mutual

/-- Whatever follows two shown types, they are the same types if the texts are the same. -/
theorem render_append_inj : ∀ (a b : Ty) {rest rest' : List Char},
    a.render.toList ++ rest = b.render.toList ++ rest' → a = b ∧ rest = rest'
  | .job params result, b, rest, rest', same => by
      cases b with
      | num | baal | quote | void => simp [render] at same
      | job params' result' =>
        simp only [toList_render_job, List.cons_append, List.append_assoc, List.cons.injEq,
          true_and] at same
        obtain ⟨rfl, behind⟩ := listed_append_inj params params' same
        obtain ⟨rfl, last⟩ := render_append_inj result result' (by simpa using behind)
        exact ⟨rfl, last⟩
  | .num, b, rest, rest', same | .baal, b, rest, rest', same | .quote, b, rest, rest', same
  | .void, b, rest, rest', same => by
      cases b <;> simp_all [render]

theorem listed_append_inj : ∀ (as bs : List Ty) {rest rest' : List Char},
    listed as ++ rest = listed bs ++ rest' → as = bs ∧ rest = rest'
  | [], [], _, _, same => ⟨rfl, List.append_cancel_left same⟩
  | [], b :: bs, rest, rest', same => by
      rw [listed, listed, List.append_assoc] at same
      exact absurd (congrArg List.head? same).symm (head?_render_ne b _)
  | a :: as, [], rest, rest', same => by
      rw [listed, listed, List.append_assoc] at same
      exact absurd (congrArg List.head? same) (head?_render_ne a _)
  | a :: as, b :: bs, rest, rest', same => by
      rw [listed, listed, List.append_assoc, List.append_assoc] at same
      obtain ⟨rfl, behind⟩ := render_append_inj a b same
      obtain ⟨rfl, last⟩ := further_append_inj as bs behind
      exact ⟨rfl, last⟩

theorem further_append_inj : ∀ (as bs : List Ty) {rest rest' : List Char},
    further as ++ rest = further bs ++ rest' → as = bs ∧ rest = rest'
  | [], [], _, _, same => ⟨rfl, List.append_cancel_left same⟩
  | [], b :: bs, rest, rest', same | b :: bs, [], rest, rest', same => by
      simp [further] at same
  | a :: as, b :: bs, rest, rest', same => by
      simp only [further, List.cons_append, List.append_assoc, List.cons.injEq, true_and] at same
      obtain ⟨rfl, behind⟩ := render_append_inj a b same
      obtain ⟨rfl, last⟩ := further_append_inj as bs behind
      exact ⟨rfl, last⟩

end

theorem render_injective : Function.Injective render := by
  intro a b same
  have texts : a.render.toList ++ [] = b.render.toList ++ [] := by rw [same]
  exact (render_append_inj a b texts).1

end Ty

namespace Fault

/-- What was needed and what was found, as they are shown, if the fault compares two such things. -/
def comparison? : Fault → Option (String × String)
  | .typeMismatch expected received | .argumentType _ _ expected received
  | .returnType _ expected received | .conditionType _ expected received =>
    some (expected, received)
  | .duplicateDeclaration _ | .undeclaredIdentifier _ | .operandTypes .. | .readOnlyAssignment _
  | .notCallable _ | .arity .. | .outputOutsideJob | .unknownType _ | .unknownOperator _
  | .malformedLiteral .. | .unexpectedToken _ => none

/-- What was needed and what was found are shown differently. -/
def TellsApart (fault : Fault) : Prop := ∀ shown ∈ fault.comparison?, shown.1 ≠ shown.2

theorem tellsApart_of_none {fault : Fault} (none : fault.comparison? = none) :
    fault.TellsApart := by
  intro shown compared
  rw [none] at compared
  cases compared

theorem tellsApart_of_ne {fault : Fault} {expected received : String}
    (compares : fault.comparison? = some (expected, received)) (differ : expected ≠ received) :
    fault.TellsApart := by
  intro shown compared
  rw [compares] at compared
  cases compared
  exact differ

/-- Types that differ are shown differently. -/
theorem tellsApart_of_types {fault : Fault} {expected received : Ty}
    (compares : fault.comparison? = some (expected.render, received.render))
    (differ : received ≠ expected) : fault.TellsApart :=
  tellsApart_of_ne compares fun same => differ (Ty.render_injective same).symm

end Fault

section Faults
variable {env : Env} {token : Token} {d : Diagnostic}

theorem tellsApart_misused {manner : Manner} (misused : env.Misused token manner d) :
    d.fault.TellsApart := by
  cases misused with
  | notVariable => exact Fault.tellsApart_of_ne rfl (by decide)
  | malformed | undeclared | readOnly | notJob => exact Fault.tellsApart_of_none rfl

theorem tellsApart_notStorable (not : token.NotStorable d) : d.fault.TellsApart := by
  cases not with
  | unknown => exact Fault.tellsApart_of_none rfl
  | @void ty _ not =>
    refine Fault.tellsApart_of_ne rfl ?_
    cases ty with
    | num | baal | quote => cases not
    | void => decide
    | job params result =>
      intro same
      have first := congrArg (fun text => text.toList.head?) same
      simp [Ty.toList_render_job] at first

theorem tellsApart_call {args : List Syntax.Expr} (fails : Syntax.CallFails env token args d) :
    d.fault.TellsApart := by
  cases fails with
  | callee misused => exact tellsApart_misused misused
  | arity => exact Fault.tellsApart_of_none rfl
  | argument _ _ _ _ mismatch => exact Fault.tellsApart_of_types rfl mismatch

theorem tellsApart_expr {e : Syntax.Expr} (fails : e.Fails env d) : d.fault.TellsApart := by
  cases fails with
  | name _ misused => exact tellsApart_misused misused
  | call fails => exact tellsApart_call fails
  | literal | symbol | binaryOperator | operands | unaryOperator | operand =>
    exact Fault.tellsApart_of_none rfl

theorem tellsApart_stmt {s : Syntax.Stmt} (fails : s.Fails env d) : d.fault.TellsApart := by
  cases fails with
  | expr _ _ fails => exact tellsApart_expr fails
  | type _ not => exact tellsApart_notStorable not
  | target _ misused => exact tellsApart_misused misused
  | call fails => exact tellsApart_call fails
  | condition _ _ mismatch | initial _ _ mismatch | assigned _ _ mismatch | counted _ _ mismatch
  | counter _ mismatch | result _ _ mismatch => exact Fault.tellsApart_of_types rfl mismatch
  | printed _ nothing =>
    rw [nothing]
    exact Fault.tellsApart_of_ne rfl (by decide)
  | @silent _ _ _ _ ty => exact Fault.tellsApart_of_ne rfl ty.render_ne_nothing
  | name | duplicate | stray | returns | parameter => exact Fault.tellsApart_of_none rfl

theorem tellsApart_chunk {chunk : List Syntax.Stmt}
    (rejected : Reference.chunk env chunk = .error d) : d.fault.TellsApart := by
  obtain ⟨last, _, stops⟩ := stops_chunk chunk rejected
  obtain ⟨_, fails⟩ := stops
  exact tellsApart_stmt fails

end Faults

/-- The diagnostic that a step ends in, if it fails. -/
def diagnosticOf {α : Type} : EStateM.Result Diagnostic Checker α → Option Diagnostic
  | .ok .. => none
  | .error d _ => some d

/-- The diagnostic that an analysis ends in, if it fails. -/
def Checker.refusal? (checker : Checker) : Analysis → Option Diagnostic
  | .expr e => diagnosticOf (Check.expr e checker)
  | .call callee args =>
    diagnosticOf
      ((Syntax.checkCall checker.scopes callee args : Check (Job × List Typed.Expr)) checker)
  | .stmt s => diagnosticOf (s.check checker)
  | .chunk body => diagnosticOf (Syntax.Stmt.checkAll body checker)
  | .block body => diagnosticOf (Check.inScope none (Syntax.Stmt.checkAll body) checker)

section Refusals
variable {α : Type} {checker : Checker} {d : Diagnostic}

theorem Refines.refused {outputs : Nat} {result : EStateM.Result Diagnostic Checker α}
    {outcome : Except Diagnostic (α × Env)} (refines : Refines checker outputs result outcome)
    (refused : diagnosticOf result = some d) : outcome = .error d := by
  cases result with
  | ok a after => cases refused
  | error e after =>
    cases refused
    exact refines.outcome_error

theorem Reads.refused {step : Check α} {outcome : Except Diagnostic α}
    (reads : Reads checker step outcome) (refused : diagnosticOf (step checker) = some d) :
    outcome = .error d := by
  cases outcome with
  | ok a =>
    have ran : step checker = .ok a checker := reads
    rw [ran] at refused
    cases refused
  | error e =>
    have ran : step checker = .error e checker := reads
    rw [ran] at refused
    cases refused
    rfl

theorem tellsApart_refusal (inRange : checker.InRange) {analysis : Analysis}
    (refused : checker.refusal? analysis = some d) : d.fault.TellsApart := by
  cases analysis with
  | expr e =>
    obtain ⟨part, _, fails⟩ := fails_expr e ((reads_expr e).refused refused)
    exact tellsApart_expr fails
  | call callee args =>
    have rejected := (Reads.lift (Syntax.checkCall checker.scopes callee args)).refused refused
    rw [checkCall_eq] at rejected
    have called : Reference.chunk checker.env [.call callee args] = .error d := by
      rw [Reference.chunk, Reference.stmt, rejected]
      rfl
    exact tellsApart_chunk called
  | stmt s =>
    have alone : Reference.chunk checker.env [s] = .error d := by
      rw [Reference.chunk, (refines_check s inRange).refused refused]
      rfl
    exact tellsApart_chunk alone
  | chunk body => exact tellsApart_chunk ((refines_checkAll body inRange).refused refused)
  | block body =>
    have rejected := (refines_block body inRange).refused refused
    exact tellsApart_chunk (Env.within_eq_error.mp rejected)

end Refusals

section Programs
variable {d : Diagnostic}

/-- The names of a prelude can only be refused for being there twice. -/
theorem tellsApart_entries {α : Type} {declare : Env → α → Except Diagnostic Env}
    (each : ∀ env a, declare env a = .error d → d.fault.comparison? = none) {entries : List α}
    {env : Env} (rejected : entries.foldlM declare env = .error d) : d.fault.TellsApart := by
  induction entries generalizing env with
  | nil => cases rejected
  | cons a rest ih =>
    rw [List.foldlM_cons] at rejected
    rcases bind_eq_error.mp rejected with rejected | ⟨next, _, rejected⟩
    · exact Fault.tellsApart_of_none (each env a rejected)
    · exact ih rejected

theorem tellsApart_ofPrelude {prelude : Prelude}
    (rejected : Reference.ofPrelude prelude = .error d) : d.fault.TellsApart := by
  rcases bind_eq_error.mp rejected with rejected | ⟨env, _, rejected⟩
  · refine tellsApart_entries (fun env constant rejected => ?_) rejected
    simp only [Reference.declareConstant, bind_eq_error, return_eq_error,
      Env.declareVariable_eq_error, and_false, exists_false, or_false] at rejected
    obtain ⟨_, rfl⟩ := rejected
    rfl
  rcases bind_eq_error.mp rejected with rejected | ⟨last, _, rejected⟩
  · refine tellsApart_entries (fun env builtin rejected => ?_) rejected
    simp only [Reference.declareBuiltin, bind_eq_error, return_eq_error,
      Env.declareJob_eq_error, and_false, exists_false, or_false] at rejected
    obtain ⟨_, rfl⟩ := rejected
    rfl
  · cases rejected

theorem tellsApart_rejected {prelude : Prelude} {program : List Syntax.Stmt}
    (rejected : check prelude program = .error d) : d.fault.TellsApart := by
  rw [check_eq_reference, Reference.check] at rejected
  rcases bind_eq_error.mp rejected with unmade | ⟨env, _, rejected⟩
  · exact tellsApart_ofPrelude unmade
  rcases bind_eq_error.mp rejected with rejected | ⟨_, _, rejected⟩
  · exact tellsApart_chunk rejected
  · cases rejected

end Programs

/-- Two types that are shown by the same text are the same type. Whatever a checker is asked to
analyse, after any analyses before, and whatever program is checked: a diagnostic that compares what
was needed with what was found shows two different texts for them. -/
theorem render_inj_and_tellsApart :
    (∀ a b : Ty, a.render = b.render → a = b) ∧
    (∀ (prelude : Prelude) (checker : Checker), checker.Reachable prelude →
      ∀ analysis d, checker.refusal? analysis = some d → d.fault.TellsApart) ∧
    ∀ (prelude : Prelude) (program : List Syntax.Stmt) d,
      check prelude program = .error d → d.fault.TellsApart := by
  refine ⟨fun a b same => Ty.render_injective same, ?_, fun prelude program d rejected => ?_⟩
  · intro prelude checker reachable analysis d refused
    exact tellsApart_refusal reachable.inRange refused
  · exact tellsApart_rejected rejected

/-- A job whose parameter takes a job, and a job to pass to it that takes none. -/
def handlers : Prelude :=
  (Prelude.empty.addConstant "f" (.job [.num, .quote] (.job [] .void))).addJob "run"
    [.job [.job [.num] .void] .void] .void

/-- The call that passes the one to the other. -/
def passedHandler : Syntax.Stmt :=
  .call ⟨.id, "run", none⟩ [.leaf ⟨.id, "f", none⟩]

theorem tellsApart_of_passedHandler : ∃ checker d, Checker.ofPrelude handlers = .ok checker ∧
    checker.refusal? (.stmt passedHandler) = some d ∧
    check handlers [passedHandler] = .error d ∧
    d.fault = .argumentType "run" 0 "((num)->void)->void" "(num,quote)->()->void" ∧
    d.fault.TellsApart ∧
    (Ty.job [.num, .quote] (.job [] .void)).render = "(num,quote)->()->void" := by
  obtain ⟨_, reached, _⟩ := render_inj_and_tellsApart
  have reachable : Checker.Reachable handlers _ := .start rfl
  have apart := reached handlers _ reachable (.stmt passedHandler) _ rfl
  exact ⟨_, _, rfl, rfl, rfl, rfl, apart, rfl⟩

end JobLang
