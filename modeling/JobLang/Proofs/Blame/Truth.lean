import JobLang.Proofs.Binding.Integrity
import JobLang.Proofs.Blame.Text
import JobLang.Proofs.Relabeling.Growth
import JobLang.Proofs.Typing.Soundness

/-!
# Diagnostics are right about the text

The environment in which the check of a chunk starts is the one that the text around the chunk
describes: each name is bound to an entity of the kind that its innermost declaration says. This is
kept on the way from a chunk to a body in it. At the statement where the check stops, what the
diagnostic says of the environment therefore holds of the text.
-/
namespace JobLang

open Relation (ReflTransGen)
open Syntax (Parameter)
open Syntax.Stmt (ElaborateAll)

/-- The declaration makes the binding. -/
inductive Declaration.Binds : Declaration → String × Entity → Prop
  | var {role : Role} (v : Variable) (kind : role.kind = .var)
      (readOnly : v.readOnly = role.isReadOnly) : Binds ⟨v.name, role⟩ (v.name, .var v)
  | job {role : Role} (j : Job) (kind : role.kind = .job) : Binds ⟨j.name, role⟩ (j.name, .job j)

theorem Declaration.Binds.of_var {declaration : Declaration} {name : String} {v : Variable}
    (binds : declaration.Binds (name, .var v)) : v.name = name ∧
      declaration.role.kind = .var ∧ v.readOnly = declaration.role.isReadOnly := by
  cases binds with
  | var _ kind readOnly => exact ⟨rfl, kind, readOnly⟩

theorem Role.mem_of_isReadOnly {role : Role} (readOnly : role.isReadOnly = true) :
    role ∈ [Role.constant, .parameter, .counter] := by
  cases role <;> first | decide | cases readOnly

/-- The declarations make the frame, in the same order. -/
abbrev Describes (declarations : List Declaration) (frame : Frame) : Prop :=
  List.Forall₂ Declaration.Binds declarations frame

namespace Describes
variable {declarations : List Declaration} {frame : Frame}

/-- A name is bound in the frame if it is declared, and then by its first declaration. -/
theorem lookup (describes : Describes declarations frame) (name : String) :
    (frame.lookup name = none ∧ ∀ declaration ∈ declarations, declaration.name ≠ name) ∨
    ∃ declaration entity, declarations.find? (·.name = name) = some declaration ∧
      frame.lookup name = some entity ∧ declaration.Binds (name, entity) := by
  induction describes with
  | nil => exact .inl ⟨rfl, List.forall_mem_nil _⟩
  | @cons declaration binding _ _ binds _ ih =>
    obtain ⟨key, entity⟩ := binding
    have own : key = declaration.name := by cases binds <;> rfl
    subst own
    by_cases same : declaration.name = name
    · subst same
      exact .inr ⟨declaration, entity, by simp, by simp, binds⟩
    · rcases ih with ⟨absent, none⟩ | ⟨found, entity', first, bound, binds'⟩
      · left
        refine ⟨?_, List.forall_mem_cons.mpr ⟨same, none⟩⟩
        rw [List.lookup_cons, beq_false_of_ne (Ne.symm same)]
        exact absent
      · refine .inr ⟨found, entity', ?_, ?_, binds'⟩
        · rw [List.find?_cons_of_neg (by simpa using same)]
          exact first
        · rw [List.lookup_cons, beq_false_of_ne (Ne.symm same)]
          exact bound

end Describes

theorem find?_eq_lookup (env : Env) (name : String) :
    env.find? name = (env.top ++ env.outer.flatten).lookup name := by
  rw [Env.find?, ← List.flatten_cons]
  induction env.top :: env.outer with
  | nil => rfl
  | cons frame rest ih =>
    rw [List.flatten_cons, List.findSome?_cons, List.lookup_append, ih]
    cases frame.lookup name <;> rfl

/-- What a name stands for is what its first declaration says. -/
theorem exists_declaration {visible : List Declaration} {env : Env} {token : Token}
    {entity : Entity} (describes : Describes visible (env.top ++ env.outer.flatten))
    (refers : env.Refers token entity) :
    ∃ declaration, visible.find? (·.name = token.lexeme) = some declaration ∧
      declaration.Binds (token.lexeme, entity) := by
  have found := refers.2
  rw [find?_eq_lookup] at found
  rcases describes.lookup token.lexeme with ⟨absent, _⟩ | ⟨declaration, _, first, bound, binds⟩
  · cases absent.symm.trans found
  · cases bound.symm.trans found
    exact ⟨declaration, first, binds⟩

section Accepted
variable {declarations : List Declaration} {env after : Env}

theorem describes_newVariable (describes : Describes declarations env.top) (name : String) (ty : Ty)
    {role : Role} (kind : role.kind = .var) :
    Describes (⟨name, role⟩ :: declarations)
      (env.add (.var (env.newVariable name ty role.isReadOnly))).top :=
  .cons (.var (env.newVariable name ty role.isReadOnly) kind rfl) describes

theorem describes_newJob (describes : Describes declarations env.top) (name : String)
    (params : List Ty) (returns : Ty) {role : Role} (kind : role.kind = .job) :
    Describes (⟨name, role⟩ :: declarations)
      (env.add (.job (env.newJob name params returns))).top :=
  .cons (.job (env.newJob name params returns) kind) describes

theorem describes_parameters {params : List (Parameter × Ty)} {vars : List Variable}
    (opens : Parameters env params vars after) (describes : Describes declarations env.top) :
    Describes ((params.map fun param => .ofParameter param.1).reverse ++ declarations)
      after.top := by
  induction opens generalizing declarations with
  | nil => exact describes
  | cons _ _ _ ih =>
    rw [List.map_cons, List.reverse_cons, List.append_assoc]
    exact ih (describes_newVariable describes _ _ rfl)

theorem describes_stmt {s : Syntax.Stmt} {checked : Typed.Stmt}
    (elaborates : s.Elaborates env checked after) (describes : Describes declarations env.top) :
    Describes (s.declaration?.toList ++ declarations) after.top := by
  cases elaborates with
  | declare => exact describes_newVariable describes _ _ rfl
  | job _ _ _ _ made _ _ _ =>
    subst made
    exact describes_newJob describes _ _ _ rfl
  | assign | print | output | ifThen | ifElse | whileLoop | repeatLoop | coil | increment
  | decrement | call => exact describes

theorem describes_chunk {chunk : List Syntax.Stmt} {checked : List Typed.Stmt}
    (accepted : ElaborateAll env chunk checked after) (describes : Describes declarations env.top) :
    Describes ((chunk.filterMap Syntax.Stmt.declaration?).reverse ++ declarations) after.top := by
  induction chunk generalizing env checked declarations with
  | nil =>
    cases accepted
    exact describes
  | cons s rest ih =>
    cases accepted with
    | cons head tail =>
      have rest' := ih tail (describes_stmt head describes)
      rw [← List.append_assoc] at rest'
      rw [List.filterMap_cons]
      cases made : s.declaration? with
      | none =>
        rw [made] at rest'
        simpa using rest'
      | some declaration =>
        rw [made] at rest'
        simpa using rest'

theorem job_chunk {chunk : List Syntax.Stmt} {checked : List Typed.Stmt}
    (accepted : ElaborateAll env chunk checked after) : after.job = env.job := by
  induction chunk generalizing env checked with
  | nil =>
    cases accepted
    rfl
  | cons s rest ih =>
    cases accepted with
    | cons head tail => exact (ih tail).trans (job_elaborates head)

end Accepted

/-- The environment in which the check starts is described by the text around the chunk. -/
structure Place.IsStart (place : Place) (start : Start) : Prop where
  own : Describes place.own start.env.top
  around : Describes place.around start.env.outer.flatten
  inJob : start.env.job.isSome = place.inJob
  chunk : start.chunk = place.chunk

namespace Place.IsStart
variable {place : Place} {env middle : Env} {earlier later : List Syntax.Stmt} {s : Syntax.Stmt}
  {checked : List Typed.Stmt}

/-- What can be seen behind some statements of a chunk. -/
theorem behind (isStart : place.IsStart ⟨env, earlier ++ s :: later⟩)
    (accepted : ElaborateAll env earlier checked middle) :
    Describes (place.behind earlier) (middle.top ++ middle.outer.flatten) := by
  rw [Place.behind, ← List.append_assoc, (frames_chunk accepted).2]
  exact List.rel_append (describes_chunk accepted isStart.own) isStart.around

theorem job (isStart : place.IsStart ⟨env, earlier ++ s :: later⟩)
    (accepted : ElaborateAll env earlier checked middle) : middle.job.isSome = place.inJob := by
  rw [job_chunk accepted]
  exact isStart.inJob

end Place.IsStart

/-- A body is checked in an environment that the text around the body describes. -/
theorem isStart_of_opens {visible : List Declaration} {inJob : Bool} {env opened : Env}
    {s : Syntax.Stmt} {body : List Syntax.Stmt} (opens : s.Opens env body opened)
    (describes : Describes visible (env.top ++ env.outer.flatten))
    (job : env.job.isSome = inJob) :
    ∃ place ∈ s.bodies visible inJob, place.IsStart ⟨opened, body⟩ := by
  cases opens with
  | @job _ returns name params _ ty tys j vars type types made opens =>
    subst made
    have outer := (frames_parameters opens).2
    have zipped : (params.zip tys).map Prod.fst = params :=
      List.map_fst_zip (Nat.le_of_eq types.length_eq)
    have own := describes_parameters opens .nil
    rw [List.append_nil, ← Function.comp_def Declaration.ofParameter, ← List.map_map,
      zipped] at own
    refine ⟨_, .head _, own, ?_, ?_, rfl⟩
    · rw [outer]
      exact .cons (.job (env.newJob ..) rfl) describes
    · rw [job_parameters opens]
      rfl
  | ifThen | whileLoop | repeatLoop =>
    exact ⟨_, .head _, .nil, describes, job, rfl⟩
  | ifElse => exact ⟨_, .head _, .nil, describes, job, rfl⟩
  | alternative => exact ⟨_, .tail _ (.head _), .nil, describes, job, rfl⟩
  | coil made =>
    subst made
    exact ⟨_, .head _, .cons (.var (env.newVariable ..) rfl rfl) .nil, describes, job, rfl⟩

/-- The check gets to places only. -/
theorem exists_isStart {place : Place} {first last : Start} (isStart : place.IsStart first)
    (path : ReflTransGen Start.Enters first last) :
    ∃ inner, ReflTransGen Place.Encloses place inner ∧ inner.IsStart last := by
  induction path with
  | refl => exact ⟨place, .refl, isStart⟩
  | tail _ enters ih =>
    obtain ⟨outer, path, isStart⟩ := ih
    obtain ⟨accepted, opens⟩ := enters
    obtain ⟨inner, body, isStart'⟩ :=
      isStart_of_opens opens (isStart.behind accepted) (isStart.job accepted)
    exact ⟨inner, path.tail ⟨_, _, _, isStart.chunk.symm, body⟩, isStart'⟩

section Faults
variable {isPlace : Place → Prop} {place : Place} {d : Diagnostic}

/-- A name that is misused where the declarations of the text are right about the environment. -/
theorem borneOut_misused {visible : List Declaration} {env : Env} {token : Token}
    {manner : Manner} (known : isPlace place)
    (mentions : place.Mentions manner token.lexeme visible)
    (describes : Describes visible (env.top ++ env.outer.flatten))
    (misused : env.Misused token manner d) : d.fault.BorneOut isPlace := by
  cases misused with
  | malformed | notVariable => trivial
  | undeclared _ form absent =>
    rw [find?_eq_lookup] at absent
    rcases describes.lookup token.lexeme with ⟨_, none⟩ | ⟨_, _, _, bound, _⟩
    · exact ⟨place, manner, visible, known, mentions, none⟩
    · cases absent.symm.trans bound
  | readOnly refers fixed =>
    obtain ⟨declaration, first, binds⟩ := exists_declaration describes refers
    obtain ⟨own, _, readOnly⟩ := binds.of_var
    rw [Fault.BorneOut, own]
    exact ⟨place, visible, declaration, known, mentions, first,
      Role.mem_of_isReadOnly (readOnly.symm.trans fixed)⟩
  | notJob refers =>
    obtain ⟨declaration, first, binds⟩ := exists_declaration describes refers
    obtain ⟨own, kind, _⟩ := binds.of_var
    rw [Fault.BorneOut, own]
    exact ⟨place, visible, declaration, known, mentions, first, kind⟩

theorem borneOut_call {visible : List Declaration} {env : Env} {token : Token}
    {args : List Syntax.Expr} (known : isPlace place)
    (mentions : place.Mentions .call token.lexeme visible)
    (describes : Describes visible (env.top ++ env.outer.flatten))
    (fails : Syntax.CallFails env token args d) : d.fault.BorneOut isPlace := by
  cases fails with
  | callee misused => exact borneOut_misused known mentions describes misused
  | arity | argument => trivial

theorem borneOut_expr {visible : List Declaration} {env : Env} {e : Syntax.Expr}
    (known : isPlace place)
    (mentions : ∀ use, e.mention? = some use → place.Mentions use.1 use.2 visible)
    (describes : Describes visible (env.top ++ env.outer.flatten)) (fails : e.Fails env d) :
    d.fault.BorneOut isPlace := by
  cases fails with
  | name category misused =>
    exact borneOut_misused known (mentions (.read, _) (if_pos category)) describes misused
  | call fails => exact borneOut_call known (mentions (.call, _) rfl) describes fails
  | literal | symbol | binaryOperator | operands | unaryOperator | operand => trivial

theorem mention?_mem_mentions {s : Syntax.Stmt} {e part : Syntax.Expr} {use : Manner × String}
    (own : e ∈ s.exprs) (member : part ∈ e.parts) (mention : part.mention? = some use) :
    use ∈ s.mentions :=
  List.mem_append_right _
    (List.mem_filterMap.mpr ⟨part, Syntax.Expr.mem_partsAll.mpr ⟨e, own, member⟩, mention⟩)

theorem mention?_of_target? {s : Syntax.Stmt} {token : Token} (own : s.target? = some token) :
    s.mention? = some (.write, token.lexeme) := by
  cases s <;> cases own <;> rfl

theorem declaration?_of_ownName? {s : Syntax.Stmt} {token : Token}
    (own : s.ownName? = some token) : ∃ role, s.declaration? = some ⟨token.lexeme, role⟩ := by
  cases s <;> cases own <;> exact ⟨_, rfl⟩

/-- A name that is declared once more is declared twice. -/
theorem two_le_count {name : String} {before after : List String} (member : name ∈ before) :
    2 ≤ (before ++ name :: after).count name := by
  have once := List.count_pos_iff.mpr member
  rw [List.count_append, List.count_cons_self]
  omega

/-- A name that is bound in the frame of a chunk when a statement declares it. -/
theorem two_le_count_of_bound {env middle : Env} {earlier later : List Syntax.Stmt}
    {s : Syntax.Stmt} {checked : List Typed.Stmt} {token : Token}
    (isStart : place.IsStart ⟨env, earlier ++ s :: later⟩)
    (accepted : ElaborateAll env earlier checked middle) (own : s.ownName? = some token)
    (bound : (middle.top.lookup token.lexeme).isSome) :
    2 ≤ place.declaredNames.count token.lexeme := by
  have describes := describes_chunk accepted isStart.own
  have member : token.lexeme ∈
      (place.own ++ earlier.filterMap Syntax.Stmt.declaration?).map Declaration.name := by
    rcases describes.lookup token.lexeme with ⟨absent, _⟩ | ⟨declaration, _, first, _, _⟩
    · rw [absent] at bound
      cases bound
    · have same := List.find?_some first
      have among := List.mem_of_find?_eq_some first
      refine List.mem_map.mpr ⟨declaration, ?_, of_decide_eq_true same⟩
      simpa [or_comm] using among
  obtain ⟨role, declares⟩ := declaration?_of_ownName? own
  have split : place.declaredNames =
      (place.own ++ earlier.filterMap Syntax.Stmt.declaration?).map Declaration.name ++
        token.lexeme :: (later.filterMap Syntax.Stmt.declaration?).map Declaration.name := by
    rw [Place.declaredNames, ← isStart.chunk]
    simp [declares]
  rw [split]
  exact two_le_count member

/-- A name that two parameters of a job have. -/
theorem two_le_count_of_parameter {earlier later : List Parameter} {param : Parameter}
    {around : List Declaration} {inJob : Bool} {body : List Syntax.Stmt}
    (bound : param.name.lexeme ∈ earlier.map (·.name.lexeme)) :
    2 ≤ (Place.declaredNames
      ⟨((earlier ++ param :: later).map .ofParameter).reverse, around, inJob, body⟩).count
        param.name.lexeme := by
  have names : (earlier ++ param :: later).map (Declaration.name ∘ .ofParameter) =
      earlier.map (·.name.lexeme) ++ param.name.lexeme :: later.map (·.name.lexeme) :=
    List.map_append
  rw [Place.declaredNames, List.map_append, List.count_append, List.map_reverse,
    List.count_reverse, List.map_map, names]
  exact Nat.le_add_right_of_le (two_le_count bound)

/-- At the statement where the check stops, the fault can be seen in the text. -/
theorem borneOut_of_stops {start : Start} (known : isPlace place)
    (inside : ∀ {inner}, place.Encloses inner → isPlace inner) (isStart : place.IsStart start)
    (stops : start.Stops d) : d.fault.BorneOut isPlace := by
  obtain @⟨env, middle, earlier, later, s, _, _, accepted, fails⟩ := stops
  have chunk := isStart.chunk.symm
  have describes := isStart.behind accepted
  have mentioned : ∀ use ∈ s.mentions, place.Mentions use.1 use.2 (place.behind earlier) :=
    fun use member => ⟨earlier, s, later, chunk, member, rfl⟩
  have here : s ∈ place.chunk := by simp [chunk]
  cases fails with
  | condition | name | initial | assigned | counted | counter | printed | returns => trivial
  | type _ not => cases not <;> trivial
  | expr own member fails =>
    exact borneOut_expr known (fun use mention =>
      mentioned use (mention?_mem_mentions own member mention)) describes fails
  | target own misused =>
    have member : _ ∈ s.mentions :=
      List.mem_append_left _ (Option.mem_toList.mpr (mention?_of_target? own))
    exact borneOut_misused known (mentioned _ member) describes misused
  | call fails => exact borneOut_call known (mentioned _ (.head _)) describes fails
  | stray outside =>
    have inJob := isStart.job accepted
    rw [outside] at inJob
    exact ⟨place, _, known, inJob.symm, here⟩
  | result => exact fun received => absurd received (Ty.render_ne_nothing _)
  | @silent returns name params body ty type result silent =>
    refine fun _ => ⟨place, returns, name, params, body, known, here, rfl, ?_, ?_, silent⟩
    · exact (Ty.render_of_ofName? type).symm
    · intro void
      rw [void] at type
      exact result (Option.some.inj type).symm
  | parameter bound =>
    exact ⟨_, inside ⟨earlier, _, later, chunk, .head _⟩, two_le_count_of_parameter bound⟩
  | duplicate own bound => exact ⟨place, known, two_le_count_of_bound isStart accepted own bound⟩

end Faults

section Programs
variable {prelude : Prelude} {program : List Syntax.Stmt}

/-- Entries with names of their own can all be declared. -/
theorem exists_declareEntries {declarations : List Declaration} {env : Env}
    {entries : List Prelude.Entry} (describes : Describes declarations env.top)
    (distinct : (entries.map Prelude.Entry.name).Nodup)
    (fresh : ∀ entry ∈ entries, ∀ declaration ∈ declarations, declaration.name ≠ entry.name) :
    ∃ after, entries.foldlM Reference.declareEntry env = .ok after ∧
      Describes ((entries.map .ofEntry).reverse ++ declarations) after.top ∧
      after.outer = env.outer ∧ after.job = env.job := by
  induction entries generalizing env declarations with
  | nil => exact ⟨env, rfl, describes, rfl, rfl⟩
  | cons entry rest ih =>
    obtain ⟨apart, distinct⟩ := List.nodup_cons.mp distinct
    obtain ⟨own, fresh⟩ := List.forall_mem_cons.mp fresh
    have free : env.top.lookup entry.name = none := by
      rcases describes.lookup entry.name with ⟨absent, _⟩ | ⟨declaration, _, first, _, _⟩
      · exact absent
      · have same : declaration.name = entry.name := by simpa using List.find?_some first
        exact absurd same (own declaration (List.mem_of_find?_eq_some first))
    have describes' : Describes (.ofEntry entry :: declarations)
        (env.add (Entity.ofEntry env.next entry)).top := by
      cases entry with
      | constant name ty => exact .cons (.var ⟨env.next, name, ty, true⟩ rfl rfl) describes
      | job builtin => exact describes_newJob describes _ _ _ rfl
    have named : (Declaration.ofEntry entry).name = entry.name := by cases entry <;> rfl
    have fresh' : ∀ other ∈ rest, ∀ declaration ∈ Declaration.ofEntry entry :: declarations,
        declaration.name ≠ other.name := by
      intro other member
      refine List.forall_mem_cons.mpr ⟨fun same => apart ?_, fresh other member⟩
      rw [← named, same]
      exact List.mem_map_of_mem member
    obtain ⟨after, declared, described, outer, job⟩ := ih describes' distinct fresh'
    refine ⟨after, ?_, ?_, outer, job⟩
    · rw [List.foldlM_cons, declareEntry_of_lookup free]
      exact declared
    · rw [List.map_cons, List.reverse_cons, List.append_assoc]
      exact described

/-- A program starts in the environment that its prelude describes. -/
theorem exists_ofPrelude (program : List Syntax.Stmt)
    (distinct : (prelude.entries.map Prelude.Entry.name).Nodup) :
    ∃ env, Reference.ofPrelude prelude = .ok env ∧
      (Place.ofProgram prelude program).IsStart ⟨env, program⟩ := by
  have blank : Describes [] Env.blank.top := .nil
  obtain ⟨env, declared, describes, outer, job⟩ :=
    exists_declareEntries blank distinct fun _ _ => List.forall_mem_nil _
  rw [List.append_nil] at describes
  refine ⟨env.inner none, ?_, .nil, ?_, ?_, rfl⟩
  · rw [Reference.ofPrelude_eq_foldlM, declared]
    rfl
  · change Describes _ (env.top :: env.outer).flatten
    rw [outer, Env.blank, List.flatten_singleton]
    exact describes
  · change env.job.isSome = false
    rw [job]
    rfl

/-- If the names of the prelude are distinct and a program is rejected, the text of the program has
what the diagnostic says of it. A name that is said not to be declared is used where no declaration
of it can be seen. A name that is said to be declared already is declared twice in one scope. A name
that cannot be called or not be written is used so where its innermost declaration is of a variable,
or of a read-only one. An output outside of jobs stands outside of jobs, and in the body of a job
that is said to output nothing there is no output. -/
theorem borneOut_of_rejected {d : Diagnostic}
    (distinct : (prelude.entries.map Prelude.Entry.name).Nodup)
    (rejected : check prelude program = .error d) :
    d.fault.BorneOut (ReflTransGen Place.Encloses (.ofProgram prelude program)) := by
  obtain ⟨env, made, isStart⟩ := exists_ofPrelude program distinct
  rw [check_eq_reference, Reference.check, made] at rejected
  simp only [bind_eq_error, return_eq_error, reduceCtorEq, Except.ok.injEq, exists_eq_left',
    false_or, and_false, exists_false, or_false] at rejected
  obtain ⟨last, path, stops⟩ := stops_chunk program rejected
  obtain ⟨place, inside, isStart'⟩ := exists_isStart isStart path
  exact borneOut_of_stops inside (fun encloses => inside.tail encloses) isStart' stops

end Programs

/-- A prelude of one job. -/
def sine : Prelude := Prelude.empty.addJob "sin" [.num] .num

/-- A parameter that is called, and that has the name of the job of the prelude. -/
def calledParameter : List Syntax.Stmt :=
  let sin : Token := ⟨.id, "sin", none⟩
  [.job ⟨.id, "void", none⟩ ⟨.id, "f", none⟩ [⟨⟨.id, "baal", none⟩, sin⟩]
    [.ifThen (.leaf sin) [.call sin [.leaf sin]]]]

theorem borneOut_of_calledParameter :
    (sine.entries.map Prelude.Entry.name).Nodup ∧
    check sine calledParameter = .error ⟨.notCallable "sin", none⟩ ∧
    Fault.BorneOut (ReflTransGen Place.Encloses (.ofProgram sine calledParameter))
      (.notCallable "sin") := by
  have distinct : (sine.entries.map Prelude.Entry.name).Nodup := by decide
  have rejected : check sine calledParameter = .error ⟨.notCallable "sin", none⟩ := rfl
  exact ⟨distinct, rejected, borneOut_of_rejected distinct rejected⟩

end JobLang
