import JobLang.Proofs.Check.Plain
import JobLang.Proofs.Positions.Origin
import JobLang.Proofs.Report.Rows
import JobLang.Proofs.Typing.Soundness

/-!
# Reports that a program cannot forge

A message quotes the lexemes of a program, but a tip shows names as they are, and types are shown as
they are by both. A name gets into a fault in this way only after it has been found to have the form
of a name, as a token of the program or as the one that an entity of that name was looked up by.
None of these texts has a line feed, so a report has the rows that it is meant to have and no
others, whatever the program and the source contain.
-/
namespace JobLang

open Relation (ReflTransGen)
open Syntax (Parameter)
open Syntax.Stmt (ElaborateAll)
open Text (IsRow)

open Text (isRow_quote isRow_toString)

/-- Letters, numerals and the underscore are all that a name has. -/
theorem Token.isRow_lexeme {token : Token} (form : token.isIdentifier = true) :
    IsRow token.lexeme.toList := by
  have letter : Text.isLetter '\n' = false := by decide
  have numeral : Text.isNumeral '\n' = false := by decide
  intro feed
  rw [isIdentifier] at form
  cases split : token.lexeme.toList with
  | nil => simp [split] at feed
  | cons first rest =>
    rw [split] at form feed
    simp only [Bool.and_eq_true, Bool.or_eq_true, decide_eq_true_eq, List.all_eq_true] at form
    rcases List.mem_cons.mp feed with rfl | feed
    · simp [letter] at form
    · have named := form.2 _ feed
      simp [letter, numeral] at named

mutual

theorem Ty.isRow_render : ∀ ty : Ty, IsRow ty.render.toList
  | .num | .baal | .quote | .void => by decide
  | .job params result => by
      have listed : IsRow (",".intercalate (renderAll params)).toList := by
        rw [String.toList_intercalate]
        exact Text.isRow_intercalate (by decide) (isRow_renderAll params)
      have opening : IsRow ("(" ++ ",".intercalate (renderAll params)).toList :=
        .append (by decide) listed
      rw [render]
      exact .append (.append opening (by decide)) (isRow_render result)

theorem Ty.isRow_renderAll :
    ∀ tys : List Ty, ∀ text ∈ (renderAll tys).map String.toList, IsRow text
  | [] => List.forall_mem_nil _
  | ty :: rest => List.forall_mem_cons.mpr ⟨isRow_render ty, isRow_renderAll rest⟩

end

theorem BinaryOp.isRow_render (op : BinaryOp) : IsRow op.render.toList := by
  cases op <;> decide

theorem UnaryOp.isRow_render (op : UnaryOp) : IsRow op.render.toList := by
  cases op <;> decide

theorem Category.isRow_render (category : Category) : IsRow category.render.toList := by
  cases category <;> decide

namespace Fault

/-- The texts that the message or the tip of a fault shows as they are. The other texts are quoted,
and numbers are written with digits. -/
def shown : Fault → List String
  | .duplicateDeclaration name | .undeclaredIdentifier name | .readOnlyAssignment name
  | .notCallable name => [name]
  | .typeMismatch expected received | .argumentType _ _ expected received => [expected, received]
  | .operandTypes operator left right => [operator, left, right]
  | .returnType job expected received => [job, expected, received]
  | .conditionType construct expected received => [construct, expected, received]
  | .malformedLiteral category _ => [category]
  | .arity .. | .outputOutsideJob | .unknownType _ | .unknownOperator _ | .unexpectedToken _ => []

/-- No text is shown as it is that has a line feed. -/
def IsPlain (fault : Fault) : Prop := ∀ text ∈ fault.shown, IsRow text.toList

theorem isRow_name (fault : Fault) : IsRow fault.name.toList := by
  cases fault <;> exact .literal rfl

theorem IsPlain.isRow_message {fault : Fault} (plain : fault.IsPlain) :
    IsRow fault.message.toList := by
  unfold message
  cases fault with
  | duplicateDeclaration name | undeclaredIdentifier name | unknownType name =>
    exact .append (.append (.literal rfl) (isRow_quote name)) (.literal rfl)
  | readOnlyAssignment name | notCallable name | unknownOperator name | unexpectedToken name =>
    exact .append (.literal rfl) (isRow_quote name)
  | typeMismatch expected received =>
    have first := plain expected (.head _)
    have second := plain received (.tail _ (.head _))
    exact .append (.append (.append (.literal rfl) first) (.literal rfl)) second
  | operandTypes operator left right =>
    have first := plain left (.tail _ (.head _))
    have second := plain right (.tail _ (.tail _ (.head _)))
    exact .append (.append (.append (.append (.append (.literal rfl) (isRow_quote operator))
      (.literal rfl)) first) (.literal rfl)) second
  | argumentType job index expected received =>
    have first := plain received (.tail _ (.head _))
    have second := plain expected (.head _)
    exact .append (.append (.append (.append (.append (.append (.append (.literal rfl)
      (isRow_toString index)) (.literal rfl)) (isRow_quote job)) (.literal rfl)) first)
      (.literal rfl)) second
  | returnType job expected received =>
    have first := plain received (.tail _ (.tail _ (.head _)))
    have second := plain expected (.tail _ (.head _))
    exact .append (.append (.append (.append (.append (.literal rfl) (isRow_quote job))
      (.literal rfl)) first) (.literal rfl)) second
  | conditionType construct expected received =>
    have opening := plain construct (.head _)
    have first := plain expected (.tail _ (.head _))
    have second := plain received (.tail _ (.tail _ (.head _)))
    exact .append (.append (.append (.append opening (.literal rfl)) first) (.literal rfl)) second
  | arity job expected received =>
    exact .append (.append (.append (.append (isRow_quote job) (.literal rfl))
      (isRow_toString expected)) (.literal rfl)) (isRow_toString received)
  | outputOutsideJob => exact .literal rfl
  | malformedLiteral category lexeme =>
    have first := plain category (.head _)
    exact .append (.append (.append (.literal rfl) first) (.literal rfl)) (isRow_quote lexeme)

theorem IsPlain.isRow_of_tip? {fault : Fault} {tip : String} (plain : fault.IsPlain)
    (given : fault.tip? = some tip) : IsRow tip.toList := by
  unfold tip? at given
  cases fault with
  | duplicateDeclaration name =>
    have first := plain name (.head _)
    cases given
    exact .append (.append (.append (.literal rfl) first) (.literal rfl)) (.literal rfl)
  | undeclaredIdentifier name | readOnlyAssignment name | notCallable name =>
    have first := plain name (.head _)
    cases given
    exact .append (.append (.literal rfl) first) (.literal rfl)
  | typeMismatch expected received =>
    have first := plain expected (.head _)
    have second := plain received (.tail _ (.head _))
    cases given
    exact .append (.append (.append (.append (.literal rfl) first) (.literal rfl)) second)
      (.literal rfl)
  | operandTypes operator left right =>
    have first := plain operator (.head _)
    cases given
    exact .append (.append (.literal rfl) first) (.literal rfl)
  | argumentType job index expected received =>
    have first := plain expected (.head _)
    have second := plain received (.tail _ (.head _))
    cases given
    exact .append (.append (.append (.append (.append (.append (.literal rfl)
      (isRow_toString (index + 1))) (.literal rfl)) first) (.literal rfl)) second) (.literal rfl)
  | returnType job expected received | conditionType job expected received =>
    have first := plain job (.head _)
    have second := plain expected (.tail _ (.head _))
    cases given
    exact .append (.append (.append (.append (.literal rfl) first) (.literal rfl)) second)
      (.literal rfl)
  | arity job expected received =>
    cases given
    exact .append (.append (.append (isRow_toString expected) (.literal rfl))
      (isRow_toString received)) (.literal rfl)
  | outputOutsideJob =>
    cases given
    exact .literal rfl
  | unknownType | unknownOperator | malformedLiteral | unexpectedToken => cases given

end Fault

/-- An environment in which names are found as they were looked up, and in which the job around an
output has the name that a token had. -/
structure Env.Trusted (env : Env) : Prop where
  named : env.Named
  job : ∀ j ∈ env.job, IsRow j.name.toList

section Faults
variable {env : Env} {token : Token} {d : Diagnostic}

theorem isPlain_malformed (token : Token) : token.malformed.fault.IsPlain :=
  List.forall_mem_singleton.mpr token.category.isRow_render

/-- An entity that a token refers to has the name that the token is. -/
theorem isRow_of_refers {entity : Entity} (named : env.Named) (refers : env.Refers token entity) :
    IsRow entity.name.toList := by
  rw [name_of_refers named refers]
  exact token.isRow_lexeme refers.1

theorem isPlain_misused {manner : Manner} (named : env.Named)
    (misused : env.Misused token manner d) : d.fault.IsPlain := by
  cases misused with
  | malformed => exact isPlain_malformed token
  | undeclared _ form => exact List.forall_mem_singleton.mpr (token.isRow_lexeme form)
  | notVariable =>
    exact List.forall_mem_cons.mpr ⟨by decide, List.forall_mem_singleton.mpr (by decide)⟩
  | @readOnly v refers | @notJob v refers =>
    have own : IsRow (Entity.var v).name.toList := isRow_of_refers named refers
    exact List.forall_mem_singleton.mpr own

theorem isPlain_notStorable (not : token.NotStorable d) : d.fault.IsPlain := by
  cases not with
  | unknown => exact List.forall_mem_nil _
  | @void ty =>
    exact List.forall_mem_cons.mpr
      ⟨.literal rfl, List.forall_mem_singleton.mpr ty.isRow_render⟩

/-- Two types that do not agree are shown as types. -/
theorem isPlain_typeMismatch (expected received : Ty) :
    (Fault.typeMismatch expected.render received.render).IsPlain :=
  List.forall_mem_cons.mpr
    ⟨expected.isRow_render, List.forall_mem_singleton.mpr received.isRow_render⟩

theorem isPlain_call {args : List Syntax.Expr} (named : env.Named)
    (fails : Syntax.CallFails env token args d) : d.fault.IsPlain := by
  cases fails with
  | callee misused => exact isPlain_misused named misused
  | arity => exact List.forall_mem_nil _
  | argument => exact isPlain_typeMismatch _ _

theorem isPlain_expr {e : Syntax.Expr} (named : env.Named) (fails : e.Fails env d) :
    d.fault.IsPlain := by
  cases fails with
  | name _ misused => exact isPlain_misused named misused
  | literal => exact isPlain_malformed _
  | symbol | binaryOperator | unaryOperator => exact List.forall_mem_nil _
  | @operands _ _ _ op l r =>
    exact List.forall_mem_cons.mpr ⟨op.isRow_render, isPlain_typeMismatch l.ty r.ty⟩
  | @operand _ _ op e =>
    exact List.forall_mem_cons.mpr ⟨op.isRow_render, List.forall_mem_cons.mpr
      ⟨e.ty.isRow_render, List.forall_mem_singleton.mpr (by decide)⟩⟩
  | call fails => exact isPlain_call named fails

theorem isRow_of_conditions {s : Syntax.Stmt} {construct : String} {expected : Ty}
    {e : Syntax.Expr} (needed : (construct, expected, e) ∈ s.conditions) :
    IsRow construct.toList := by
  have listed : construct ∈ s.conditions.map Prod.fst := List.mem_map_of_mem needed
  have each : ∀ text ∈ s.conditions.map Prod.fst, IsRow text.toList := by
    cases s <;> simp only [Syntax.Stmt.conditions, List.map_cons, List.map_nil] <;> decide
  exact each construct listed

theorem isPlain_stmt {s : Syntax.Stmt} (trusted : env.Trusted) (fails : s.Fails env d) :
    d.fault.IsPlain := by
  cases fails with
  | expr _ _ fails => exact isPlain_expr trusted.named fails
  | condition needed =>
    exact List.forall_mem_cons.mpr ⟨isRow_of_conditions needed, isPlain_typeMismatch _ _⟩
  | type _ not => exact isPlain_notStorable not
  | name => exact isPlain_malformed _
  | duplicate _ _ form | parameter _ form =>
    exact List.forall_mem_singleton.mpr (Token.isRow_lexeme form)
  | target _ misused => exact isPlain_misused trusted.named misused
  | initial | assigned | counted | counter => exact isPlain_typeMismatch _ _
  | @printed _ checked =>
    exact List.forall_mem_cons.mpr
      ⟨.literal rfl, List.forall_mem_singleton.mpr checked.ty.isRow_render⟩
  | stray | returns => exact List.forall_mem_nil _
  | result within =>
    exact List.forall_mem_cons.mpr ⟨trusted.job _ within, isPlain_typeMismatch _ _⟩
  | @silent _ _ _ _ ty _ _ _ form =>
    exact List.forall_mem_cons.mpr ⟨Token.isRow_lexeme form, List.forall_mem_cons.mpr
      ⟨ty.isRow_render, List.forall_mem_singleton.mpr (by decide)⟩⟩
  | call fails => exact isPlain_call trusted.named fails

end Faults

section Kept
variable {env after : Env}

theorem trusted_stmt {s : Syntax.Stmt} {checked : Typed.Stmt}
    (elaborates : s.Elaborates env checked after) (trusted : env.Trusted) : after.Trusted where
  named := named_stmt elaborates trusted.named
  job := by
    rw [job_elaborates elaborates]
    exact trusted.job

theorem trusted_chunk {chunk : List Syntax.Stmt} {checked : List Typed.Stmt}
    (accepted : ElaborateAll env chunk checked after) (trusted : env.Trusted) : after.Trusted := by
  induction chunk generalizing env checked with
  | nil =>
    cases accepted
    exact trusted
  | cons s rest ih =>
    cases accepted with
    | cons head tail => exact ih tail (trusted_stmt head trusted)

/-- A body is checked in the job around it, or in a job of which the name has the form of one. -/
theorem trusted_opens {s : Syntax.Stmt} {body : List Syntax.Stmt} (opens : s.Opens env body after)
    (trusted : env.Trusted) : after.Trusted := by
  cases opens with
  | @job _ _ name _ _ _ _ j _ _ _ made opens form =>
    subst made
    refine ⟨named_parameters opens (named_add trusted.named (.job _)), ?_⟩
    rw [job_parameters opens]
    intro j within
    cases within
    exact name.isRow_lexeme form
  | ifThen | ifElse | alternative | whileLoop | repeatLoop => exact ⟨trusted.named, trusted.job⟩
  | coil =>
    have inner : (env.inner none).Named := trusted.named
    exact ⟨named_add inner _, trusted.job⟩

theorem trusted_of_enters {first last : Start} (path : ReflTransGen Start.Enters first last)
    (trusted : first.env.Trusted) : last.env.Trusted := by
  induction path with
  | refl => exact trusted
  | tail _ enters ih =>
    obtain ⟨accepted, opens⟩ := enters
    exact trusted_opens opens (trusted_chunk accepted ih)

theorem trusted_ofPrelude {prelude : Prelude} (made : Reference.ofPrelude prelude = .ok env) :
    env.Trusted := by
  cases env_ofPrelude made
  exact ⟨named_ofEntities _ _, nofun⟩

/-- Whatever is wrong with a chunk, no text with a line feed is shown for it as it is. -/
theorem isPlain_chunk {chunk : List Syntax.Stmt} {d : Diagnostic} (trusted : env.Trusted)
    (rejected : Reference.chunk env chunk = .error d) : d.fault.IsPlain := by
  obtain ⟨last, path, stops⟩ := stops_chunk chunk rejected
  have trusted := trusted_of_enters path trusted
  obtain ⟨accepted, fails⟩ := stops
  exact isPlain_stmt (trusted_chunk accepted trusted) fails

end Kept

namespace Diagnostic

/-- How many rows the report of a diagnostic has: one without a place, two if the place is not in
the source text, and three more to show it. -/
def height (d : Diagnostic) (source : String) : Nat :=
  match d.position with
  | none => 1
  | some position => if source.utf8ByteSize ≤ position.offset then 2 else 5

variable {d : Diagnostic}

theorem length_rows (d : Diagnostic) (source : String) :
    (rows d source).length = d.height source := by
  rw [rows, height]
  cases d.position with
  | none => rfl
  | some position =>
    simp only [placeRows, ← Text.byteLength_toList, ← Text.lineAt?_eq_none_iff]
    cases Text.lineAt? source.toList position.offset <;> rfl

theorem isRow_message (plain : d.fault.IsPlain)
    (file : ∀ position ∈ d.position, IsRow position.file.toList) : IsRow d.message.toList := by
  rw [message]
  cases place : d.position with
  | none => exact plain.isRow_message
  | some position =>
    have named := file position place
    exact .append (.append plain.isRow_message (.literal rfl))
      (.append (.append named (.literal rfl)) (isRow_toString position.offset))

theorem isRow_headRow (plain : d.fault.IsPlain) : IsRow (headRow d) := by
  have said : IsRow (d.fault.tip?.getD d.fault.message).toList := by
    cases given : d.fault.tip? with
    | none => exact plain.isRow_message
    | some tip => exact plain.isRow_of_tip? given
  exact .append (.append (.append (.append (.literal rfl) d.fault.isRow_name)
    (.literal rfl)) said) (.literal rfl)

theorem isRow_placeRows (source : String) {position : Position}
    (file : IsRow position.file.toList) : ∀ row ∈ placeRows source position, IsRow row := by
  have place : IsRow ("-> " ++ position.file).toList := .append (.literal rfl) file
  refine List.forall_mem_cons.mpr ⟨place, ?_⟩
  cases found : Text.lineAt? source.toList position.offset with
  | none => exact List.forall_mem_nil _
  | some line =>
    obtain ⟨before, behind, between, _⟩ := Text.lineAt?_eq_some_iff.mp found
    have caret : IsRow (caretMargin line ++ ['^']) :=
      Text.isRow_append.mpr ⟨isRow_caretMargin line, by decide⟩
    exact List.forall_mem_cons.mpr ⟨isRow_marginRow line, List.forall_mem_cons.mpr
      ⟨isRow_sourceRow between.single, List.forall_mem_singleton.mpr caret⟩⟩

theorem isRow_rows (plain : d.fault.IsPlain)
    (file : ∀ position ∈ d.position, IsRow position.file.toList) (source : String) :
    ∀ row ∈ rows d source, IsRow row := by
  refine List.forall_mem_cons.mpr ⟨isRow_headRow plain, ?_⟩
  cases place : d.position with
  | none => exact List.forall_mem_nil _
  | some position => exact isRow_placeRows source (file position place)

end Diagnostic

/-- Whatever the lexemes of a rejected program and its source text contain, there is no line feed in
the message and in the tip if there is none in the names of files. There is a report exactly if its
caret fits. It is made of rows without line feeds, each followed by one, and there are as many of
them as the place of the diagnostic asks for: one without a place, two for a place at the end of the
source or past it, and else five. -/
theorem rows_of_rejected {prelude : Prelude} {checker : Checker} {program : List Syntax.Stmt}
    {d : Diagnostic} (made : Checker.ofPrelude prelude = .ok checker)
    (files : ∀ token ∈ Syntax.Stmt.tokensAll program, ∀ position ∈ token.position,
      IsRow position.file.toList)
    (rejected : check prelude program = .error d) (source : String) :
    IsRow d.message.toList ∧ (∀ tip ∈ d.fault.tip?, IsRow tip.toList) ∧
    ((∃ text, d.report? source = some text) ↔ d.CaretFits source) ∧
    ∀ text, d.report? source = some text →
      ∃ rows, text.toList = Text.ofRows rows ∧ (∀ row ∈ rows, IsRow row) ∧
        rows.length = d.height source := by
  obtain ⟨_, start⟩ := start_of_ofPrelude made
  rw [check_eq_reference, Reference.check, start] at rejected
  simp only [bind_eq_error, return_eq_error, reduceCtorEq, Except.ok.injEq, exists_eq_left',
    false_or, and_false, exists_false, or_false] at rejected
  have plain := isPlain_chunk (trusted_ofPrelude start) rejected
  obtain ⟨token, member, place⟩ := placedBy_chunk rejected
  have file : ∀ position ∈ d.position, IsRow position.file.toList := by
    rw [← place]
    exact files token member
  refine ⟨d.isRow_message plain file, fun _ given => plain.isRow_of_tip? given, ?_, ?_⟩
  · constructor
    · rintro ⟨text, written⟩
      exact (Diagnostic.report?_eq_some_iff.mp written).1
    · intro fits
      exact ⟨_, Diagnostic.report?_eq_some_iff.mpr ⟨fits, String.toList_ofList⟩⟩
  · intro text written
    exact ⟨d.rows source, (Diagnostic.report?_eq_some_iff.mp written).2,
      d.isRow_rows plain file source, d.length_rows source⟩

/-- A prelude with a constant that has a line feed in its name. -/
def brokenConstant : Prelude := Prelude.empty.addConstant "a\nError" .num

/-- A program that uses the constant. -/
def brokenName : List Syntax.Stmt := [.print (.leaf ⟨.id, "a\nError", some ⟨6, "main"⟩⟩)]

theorem rows_of_brokenName :
    (∃ checker, Checker.ofPrelude brokenConstant = .ok checker) ∧
    ∃ d, check brokenConstant brokenName = .error d ∧ d.CaretFits "print a\nError" ∧
      ∃ text rows, d.report? "print a\nError" = some text ∧ text.toList = Text.ofRows rows ∧
        (∀ row ∈ rows, IsRow row) ∧ rows.length = 5 := by
  have made : Checker.ofPrelude brokenConstant = .ok _ := rfl
  have files : ∀ token ∈ Syntax.Stmt.tokensAll brokenName, ∀ position ∈ token.position,
      IsRow position.file.toList := by
    intro token member position place
    cases List.mem_singleton.mp member
    cases place
    decide
  have rejected : check brokenConstant brokenName =
      .error ⟨.malformedLiteral "Id" "a\nError", some ⟨6, "main"⟩⟩ := rfl
  obtain ⟨_, _, exact, rows⟩ := rows_of_rejected made files rejected "print a\nError"
  have fits := exact.mp ⟨_, rfl⟩
  obtain ⟨text, written⟩ := exact.mpr fits
  obtain ⟨shown, spelled, each, count⟩ := rows text written
  exact ⟨⟨_, made⟩, _, rejected, fits, text, shown, written, spelled, each, count⟩

/-- A text on one line with a name behind letters. -/
def nameBehind (letters : Nat) : String := String.ofList (List.replicate letters 'a' ++ ['y'])

/-- The program that prints the name. -/
def printBehind (letters : Nat) : List Syntax.Stmt :=
  [.print (.leaf ⟨.id, "y", some ⟨letters, "main.kobe"⟩⟩)]

/-- What is wrong with the program if the name is not declared. -/
def undeclaredBehind (letters : Nat) : Diagnostic :=
  ⟨.undeclaredIdentifier "y", some ⟨letters, "main.kobe"⟩⟩

theorem lineAt?_nameBehind (letters : Nat) :
    Text.lineAt? (nameBehind letters).toList letters =
      some ⟨1, List.replicate letters 'a' ++ ['y'], letters⟩ := by
  have size : Text.byteLength (List.replicate letters 'a' ++ ['y']) = letters + 1 := by
    rw [Text.byteLength_eq_length_iff.mpr, List.length_append, List.length_replicate]
    · rfl
    · intro c member
      rcases List.mem_append.mp member with member | member
      · rw [List.eq_of_mem_replicate member]
        rfl
      · rw [List.mem_singleton.mp member]
        rfl
  have row : IsRow (List.replicate letters 'a') := Text.isRow_replicate (by decide) letters
  refine Text.lineAt?_eq_some_iff.mpr ⟨[], [], ⟨?_, .inl rfl, rfl, ?_, fun more => absurd rfl more⟩,
    ?_, ?_⟩
  · rw [nameBehind, String.toList_ofList, List.append_nil, List.nil_append]
  · rw [List.dropLast_concat]
    exact row
  · rw [Text.byteLength, Nat.zero_add]
  · rw [size]
    exact Nat.lt_succ_self letters

theorem caretFits_nameBehind_iff (letters : Nat) :
    (undeclaredBehind letters).CaretFits (nameBehind letters) ↔ letters < Diagnostic.widest := by
  have none : Diagnostic.indentation (List.replicate letters 'a' ++ ['y']) = [] := by
    cases letters <;> rfl
  rw [Diagnostic.caretFits_iff rfl, lineAt?_nameBehind letters]
  simp only [Option.mem_def, Option.some.injEq, forall_eq', Diagnostic.Fits, none]
  exact Iff.rfl

/-- Behind 65535 letters a name is too far to the right for its caret. -/
theorem report?_undeclaredBehind :
    (∃ checker, Checker.ofPrelude .empty = .ok checker) ∧
    (∀ token ∈ Syntax.Stmt.tokensAll (printBehind 65535), ∀ position ∈ token.position,
      IsRow position.file.toList) ∧
    check .empty (printBehind 65535) = .error (undeclaredBehind 65535) ∧
    (undeclaredBehind 65535).height (nameBehind 65535) = 5 ∧
    (undeclaredBehind 65535).report? (nameBehind 65535) = none := by
  have files : ∀ token ∈ Syntax.Stmt.tokensAll (printBehind 65535), ∀ position ∈ token.position,
      IsRow position.file.toList := by
    intro token member position place
    cases List.mem_singleton.mp member
    cases place
    decide
  have rejected : check .empty (printBehind 65535) = .error (undeclaredBehind 65535) :=
    Diagnostic.eq_error_of_match (by decide +kernel)
  have tall (letters : Nat) : (undeclaredBehind letters).height (nameBehind letters) = 5 := by
    have shown := lineAt?_nameBehind letters
    have size : ¬(nameBehind letters).utf8ByteSize ≤ letters := by
      rw [← Text.byteLength_toList, ← Text.lineAt?_eq_none_iff, shown]
      nofun
    exact if_neg size
  refine ⟨⟨_, rfl⟩, files, rejected, tall 65535, ?_⟩
  rw [Diagnostic.report?_eq_none_iff, caretFits_nameBehind_iff]
  exact Nat.lt_irrefl 65535

end JobLang
