import JobLang.Proofs.Binding.Entities
import JobLang.Proofs.Check.Whole
import Mathlib.Data.List.Nodup

/-!
# Binding integrity of accepted programs

The entities of an accepted program are numbered in source order behind those of the prelude, no
chunk declares a name twice, and every use is of the entity that its name means at that place. All
three follow from what a derivation does to the environment: it puts the entities that a chunk
declares on the top frame, and nothing else.
-/
namespace JobLang

open Syntax (Parameter)
open Typed.Stmt (declared declared_cons introducedAll chunksAll usesAt usesAll)

namespace Frame

theorem ofEntities_append (first second : List Entity) :
    ofEntities (first ++ second) = ofEntities second ++ ofEntities first := by
  simp [ofEntities]

theorem ofEntities_cons (entity : Entity) (rest : List Entity) :
    ofEntities (entity :: rest) = ofEntities rest ++ [(entity.name, entity)] := by
  simp [ofEntities]

theorem map_fst_ofEntities (entities : List Entity) :
    (ofEntities entities).map Prod.fst = (entities.map Entity.name).reverse := by
  simp [ofEntities]

theorem map_snd_ofEntities (entities : List Entity) :
    (ofEntities entities).map Prod.snd = entities.reverse := by
  simp [ofEntities, Function.comp_def]

end Frame

theorem frames_parameters {env after : Env} {params : List (Parameter × Ty)} {vars : List Variable}
    (opens : Parameters env params vars after) :
    after.top = Frame.ofEntities (vars.map .var) ++ env.top ∧ after.outer = env.outer := by
  induction opens with
  | nil => exact ⟨rfl, rfl⟩
  | cons _ _ _ ih =>
    obtain ⟨top, outer⟩ := ih
    refine ⟨?_, outer⟩
    rw [top, List.map_cons, Frame.ofEntities_cons, List.append_assoc]
    rfl

theorem frames_stmt {env after : Env} {s : Syntax.Stmt} {checked : Typed.Stmt}
    (elaborates : s.Elaborates env checked after) :
    after.top = Frame.ofEntities checked.declared?.toList ++ env.top ∧
      after.outer = env.outer := by
  cases elaborates <;> exact ⟨rfl, rfl⟩

theorem frames_chunk {env after : Env} {chunk : List Syntax.Stmt} {checked : List Typed.Stmt} :
    Syntax.Stmt.ElaborateAll env chunk checked after →
      after.top = Frame.ofEntities (declared checked) ++ env.top ∧ after.outer = env.outer
  | .nil => ⟨rfl, rfl⟩
  | .cons head tail => by
      obtain ⟨top, outer⟩ := frames_stmt head
      obtain ⟨top', outer'⟩ := frames_chunk tail
      refine ⟨?_, outer'.trans outer⟩
      rw [top', top, declared_cons, Frame.ofEntities_append, List.append_assoc]

/-- The entities have consecutive numbers, from the first one up to before the next one. -/
def Numbered (first next : Nat) (entities : List Entity) : Prop :=
  entities.map Entity.id = List.range' first entities.length ∧ next = first + entities.length

namespace Numbered
variable {first middle next : Nat} {earlier later : List Entity}

theorem nil (first : Nat) : Numbered first first [] := ⟨rfl, rfl⟩

theorem cons {entity : Entity} (own : entity.id = first) (rest : Numbered (first + 1) next later) :
    Numbered first next (entity :: later) := by
  obtain ⟨ids, rfl⟩ := rest
  refine ⟨?_, by rw [List.length_cons]; omega⟩
  rw [List.map_cons, ids, own, List.length_cons, List.range'_succ]

theorem append (before : Numbered first middle earlier) (behind : Numbered middle next later) :
    Numbered first next (earlier ++ later) := by
  obtain ⟨ids, rfl⟩ := before
  obtain ⟨ids', rfl⟩ := behind
  refine ⟨?_, by rw [List.length_append]; omega⟩
  rw [List.map_append, ids, ids', List.length_append, List.range'_append_1]

end Numbered

theorem numbered_parameters {env after : Env} {params : List (Parameter × Ty)}
    {vars : List Variable} (opens : Parameters env params vars after) :
    Numbered env.next after.next (vars.map .var) := by
  induction opens with
  | nil => exact .nil _
  | cons _ _ _ ih => exact .cons rfl ih

mutual

theorem numbered_stmt {env after : Env} {s : Syntax.Stmt} {checked : Typed.Stmt} :
    s.Elaborates env checked after → Numbered env.next after.next checked.introduced
  | .declare .. => .cons rfl (.nil _)
  | .job _ _ _ _ made opens inside _ => by
      subst made
      have body := numbered_chunk inside
      exact .cons rfl ((numbered_parameters opens).append body)
  | .ifThen _ _ inside | .whileLoop _ _ inside | .repeatLoop _ _ inside => by
      have body := numbered_chunk inside
      exact body
  | .ifElse _ _ inside otherwise => by
      have body := numbered_chunk inside
      have alternative := numbered_chunk otherwise
      exact body.append alternative
  | .coil _ _ _ _ _ _ made inside => by
      subst made
      have body := numbered_chunk inside
      exact .cons rfl body
  | .assign .. | .print .. | .output .. | .increment .. | .decrement .. | .call .. => .nil _

theorem numbered_chunk {env after : Env} {chunk : List Syntax.Stmt} {checked : List Typed.Stmt} :
    Syntax.Stmt.ElaborateAll env chunk checked after →
      Numbered env.next after.next (introducedAll checked)
  | .nil => .nil _
  | .cons head tail => (numbered_stmt head).append (numbered_chunk tail)

end

/-- The top frame has every name at most once. -/
def Env.Distinct (env : Env) : Prop := (env.top.map Prod.fst).Nodup

theorem not_mem_of_lookup {frame : Frame} {name : String} (fresh : frame.lookup name = none) :
    name ∉ frame.map Prod.fst := by
  intro member
  obtain ⟨binding, bound, rfl⟩ := List.mem_map.mp member
  have absent := List.lookup_eq_none_iff.mp fresh binding bound
  simp at absent

theorem distinct_add {env : Env} (entity : Entity) (distinct : env.Distinct)
    (fresh : env.top.lookup entity.name = none) : (env.add entity).Distinct :=
  List.nodup_cons.mpr ⟨not_mem_of_lookup fresh, distinct⟩

theorem distinct_parameters {env after : Env} {params : List (Parameter × Ty)}
    {vars : List Variable} (opens : Parameters env params vars after) (distinct : env.Distinct) :
    after.Distinct := by
  induction opens with
  | nil => exact distinct
  | cons _ fresh _ ih => exact ih (distinct_add _ distinct fresh)

theorem distinct_stmt {env after : Env} {s : Syntax.Stmt} {checked : Typed.Stmt}
    (elaborates : s.Elaborates env checked after) (distinct : env.Distinct) : after.Distinct := by
  cases elaborates with
  | declare _ _ _ fresh => exact distinct_add _ distinct fresh
  | job _ _ _ fresh made _ _ _ =>
    subst made
    exact distinct_add (.job _) distinct fresh
  | assign | print | output | ifThen | ifElse | whileLoop | repeatLoop | coil | increment
  | decrement | call => exact distinct

theorem distinct_chunk {env after : Env} {chunk : List Syntax.Stmt} {checked : List Typed.Stmt} :
    Syntax.Stmt.ElaborateAll env chunk checked after → env.Distinct → after.Distinct
  | .nil, distinct => distinct
  | .cons head tail, distinct => distinct_chunk tail (distinct_stmt head distinct)

/-- A frame that starts with some entities, and then goes to a chunk, has distinct names. -/
theorem nodup_chunk {env after : Env} (first : List Entity) {chunk : List Syntax.Stmt}
    {checked : List Typed.Stmt} (elaborates : Syntax.Stmt.ElaborateAll env chunk checked after)
    (start : env.top = Frame.ofEntities first) (distinct : env.Distinct) :
    ((first ++ declared checked).map Entity.name).Nodup := by
  have whole := distinct_chunk elaborates distinct
  rw [Env.Distinct, (frames_chunk elaborates).1, start, ← Frame.ofEntities_append,
    Frame.map_fst_ofEntities] at whole
  exact List.nodup_reverse.mp whole

mutual

theorem chunks_stmt {env after : Env} {s : Syntax.Stmt} {checked : Typed.Stmt} :
    s.Elaborates env checked after →
      ∀ chunk ∈ checked.chunks, (chunk.map Entity.name).Nodup
  | .declare .. | .assign .. | .print .. | .output .. | .increment .. | .decrement ..
  | .call .. => by
      intro chunk member
      cases member
  | .job _ _ _ _ _ opens inside _ => by
      intro chunk member
      rcases List.mem_cons.mp member with rfl | member
      · have start := (frames_parameters opens).1
        have distinct := distinct_parameters opens List.nodup_nil
        exact nodup_chunk _ inside (start.trans (List.append_nil _)) distinct
      · exact chunks_chunk inside chunk member
  | .ifThen _ _ inside | .whileLoop _ _ inside | .repeatLoop _ _ inside => by
      intro chunk member
      rcases List.mem_cons.mp member with rfl | member
      · exact nodup_chunk [] inside rfl List.nodup_nil
      · exact chunks_chunk inside chunk member
  | .ifElse _ _ inside otherwise => by
      intro chunk member
      rcases List.mem_append.mp member with member | member
      · rcases List.mem_cons.mp member with rfl | member
        · exact nodup_chunk [] inside rfl List.nodup_nil
        · exact chunks_chunk inside chunk member
      · rcases List.mem_cons.mp member with rfl | member
        · exact nodup_chunk [] otherwise rfl List.nodup_nil
        · exact chunks_chunk otherwise chunk member
  | .coil _ _ _ _ _ _ _ inside => by
      intro chunk member
      rcases List.mem_cons.mp member with rfl | member
      · exact nodup_chunk [_] inside rfl (List.nodup_singleton _)
      · exact chunks_chunk inside chunk member

theorem chunks_chunk {env after : Env} {chunk : List Syntax.Stmt} {checked : List Typed.Stmt} :
    Syntax.Stmt.ElaborateAll env chunk checked after →
      ∀ chunk ∈ chunksAll checked, (chunk.map Entity.name).Nodup
  | .nil => by
      intro chunk member
      cases member
  | .cons head tail => by
      intro chunk member
      rcases List.mem_append.mp member with member | member
      · exact chunks_stmt head chunk member
      · exact chunks_chunk tail chunk member

end

/-- The entities that can be seen in an environment, the innermost and the latest first. -/
def Env.visible (env : Env) : List Entity := (env.top :: env.outer).flatten.map Prod.snd

/-- Every entity is bound to its own name. -/
def Env.Named (env : Env) : Prop :=
  ∀ binding ∈ (env.top :: env.outer).flatten, binding.1 = binding.2.name

theorem lookup_eq_find? {frame : Frame} (named : ∀ binding ∈ frame, binding.1 = binding.2.name)
    (name : String) :
    frame.lookup name = (frame.map Prod.snd).find? (fun seen => seen.name = name) := by
  induction frame with
  | nil => rfl
  | cons binding rest ih =>
    obtain ⟨key, entity⟩ := binding
    have own : key = entity.name := named _ (List.mem_cons_self ..)
    have ih := ih fun binding member => named binding (List.mem_cons_of_mem _ member)
    rw [List.lookup_cons, List.map_cons, List.find?_cons, ih, own]
    by_cases same : entity.name = name
    · simp [same]
    · have other : (name == entity.name) = false := by simp [Ne.symm same]
      simp [same, other]

theorem find?_visible {env : Env} (named : env.Named) (name : String) :
    env.find? name = env.visible.find? (fun seen => seen.name = name) := by
  rw [Env.find?, Env.visible]
  rw [Env.Named] at named
  generalize env.top :: env.outer = frames at named
  induction frames with
  | nil => rfl
  | cons frame around ih =>
    rw [List.flatten_cons] at named ⊢
    rw [List.findSome?_cons, List.map_append, List.find?_append,
      lookup_eq_find? fun binding member => named binding (List.mem_append_left _ member),
      ih fun binding member => named binding (List.mem_append_right _ member)]
    cases (frame.map Prod.snd).find? _ <;> rfl

/-- What a name stands for is the innermost entity of that name. -/
theorem resolved_of_refers {env : Env} {token : Token} {entity : Entity} (named : env.Named)
    (refers : env.Refers token entity) : Typed.Use.Resolved ⟨entity, env.visible⟩ := by
  have found := refers.2
  rw [find?_visible named] at found
  have own : entity.name = token.lexeme := by simpa using List.find?_some found
  rw [Typed.Use.Resolved, own]
  exact found

theorem resolved_usesAt {visible first second : List Entity}
    (left : ∀ use ∈ usesAt visible first, use.Resolved)
    (right : ∀ use ∈ usesAt visible second, use.Resolved) :
    ∀ use ∈ usesAt visible (first ++ second), use.Resolved := by
  intro use member
  rw [usesAt, List.map_append] at member
  rcases List.mem_append.mp member with member | member
  · exact left use member
  · exact right use member

theorem resolved_use {env : Env} {token : Token} {entity : Entity} (named : env.Named)
    (refers : env.Refers token entity) :
    ∀ use ∈ usesAt env.visible [entity], use.Resolved := by
  intro use member
  cases List.mem_singleton.mp member
  exact resolved_of_refers named refers

section Expressions
variable {env : Env}

mutual

theorem uses_expr {e : Syntax.Expr} {checked : Typed.Expr} (named : env.Named) :
    e.Elaborates env checked → ∀ use ∈ usesAt env.visible checked.references, use.Resolved
  | .name _ refers => resolved_use named refers
  | .literal _ => by
      intro use member
      cases member
  | .binary _ first second _ => resolved_usesAt (uses_expr named first) (uses_expr named second)
  | .unary _ inner _ => by
      have operand := uses_expr named inner
      exact operand
  | .call refers each _ => resolved_usesAt (resolved_use named refers) (uses_exprs named each)

theorem uses_exprs {es : List Syntax.Expr} {checked : List Typed.Expr} (named : env.Named) :
    Syntax.Expr.ElaborateAll env es checked →
      ∀ use ∈ usesAt env.visible (Typed.Expr.referencesAll checked), use.Resolved
  | .nil => by
      intro use member
      cases member
  | .cons head tail => resolved_usesAt (uses_expr named head) (uses_exprs named tail)

end

end Expressions

theorem named_add {env : Env} (named : env.Named) (entity : Entity) : (env.add entity).Named := by
  intro binding member
  rcases List.mem_cons.mp member with rfl | member
  · rfl
  · exact named binding member

theorem named_parameters {env after : Env} {params : List (Parameter × Ty)}
    {vars : List Variable} (opens : Parameters env params vars after) (named : env.Named) :
    after.Named := by
  induction opens with
  | nil => exact named
  | cons _ _ _ ih => exact ih (named_add named _)

theorem named_stmt {env after : Env} {s : Syntax.Stmt} {checked : Typed.Stmt}
    (elaborates : s.Elaborates env checked after) (named : env.Named) : after.Named := by
  cases elaborates with
  | declare => exact named_add named _
  | job => exact named_add named _
  | assign | print | output | ifThen | ifElse | whileLoop | repeatLoop | coil | increment
  | decrement | call => exact named

theorem visible_parameters {env after : Env} {params : List (Parameter × Ty)}
    {vars : List Variable} (opens : Parameters env params vars after) :
    after.visible = (vars.map .var).reverse ++ env.visible := by
  obtain ⟨top, outer⟩ := frames_parameters opens
  rw [Env.visible, top, outer, List.flatten_cons, List.append_assoc, List.map_append,
    Frame.map_snd_ofEntities]
  rfl

theorem visible_stmt {env after : Env} {s : Syntax.Stmt} {checked : Typed.Stmt}
    (elaborates : s.Elaborates env checked after) :
    after.visible = checked.declared?.toList ++ env.visible := by
  cases elaborates <;> rfl

mutual

theorem uses_stmt {env after : Env} {s : Syntax.Stmt} {checked : Typed.Stmt} :
    s.Elaborates env checked after → env.Named →
      ∀ use ∈ checked.uses env.visible, use.Resolved
  | .declare value _ _ _, named => uses_expr named value
  | .job _ _ _ _ made opens inside _, named => by
      subst made
      have body := uses_chunk inside (named_parameters opens (named_add named (.job _)))
      rw [visible_parameters opens] at body
      exact body
  | .assign refers _ assigned _, named =>
      resolved_usesAt (resolved_use named refers) (uses_expr named assigned)
  | .print given _, named => uses_expr named given
  | .output _ given _, named => uses_expr named given
  | .ifThen tested _ inside, named | .whileLoop tested _ inside, named
  | .repeatLoop tested _ inside, named => by
      have body := uses_chunk inside named
      intro use member
      rcases List.mem_append.mp member with member | member
      · exact uses_expr named tested use member
      · exact body use member
  | .ifElse tested _ inside otherwise, named => by
      have body := uses_chunk inside named
      have alternative := uses_chunk otherwise named
      intro use member
      rcases List.mem_append.mp member with member | member
      · exact uses_expr named tested use member
      rcases List.mem_append.mp member with member | member
      · exact body use member
      · exact alternative use member
  | .coil lower _ upper _ _ _ made inside, named => by
      subst made
      have body := uses_chunk inside (named_add named _)
      intro use member
      rcases List.mem_append.mp member with member | member
      · exact resolved_usesAt (uses_expr named lower) (uses_expr named upper) use member
      · exact body use member
  | .increment refers _ _, named => resolved_use named refers
  | .decrement refers _ _, named => resolved_use named refers
  | .call refers each _, named =>
      resolved_usesAt (resolved_use named refers) (uses_exprs named each)

theorem uses_chunk {env after : Env} {chunk : List Syntax.Stmt} {checked : List Typed.Stmt} :
    Syntax.Stmt.ElaborateAll env chunk checked after → env.Named →
      ∀ use ∈ usesAll env.visible checked, use.Resolved
  | .nil, named => by
      intro use member
      cases member
  | .cons head tail, named => by
      have rest := uses_chunk tail (named_stmt head named)
      rw [visible_stmt head] at rest
      intro use member
      rcases List.mem_append.mp member with member | member
      · exact uses_stmt head named use member
      · exact rest use member

end

theorem chunks_program {outer : List Frame} {job : Option Job} {next : Nat} {after : Env}
    {program : List Syntax.Stmt} {checked : List Typed.Stmt}
    (derived : Syntax.Stmt.ElaborateAll ⟨[], outer, job, next⟩ program checked after) :
    ∀ chunk ∈ declared checked :: chunksAll checked, (chunk.map Entity.name).Nodup := by
  intro chunk member
  rcases List.mem_cons.mp member with rfl | member
  · exact nodup_chunk [] derived rfl List.nodup_nil
  · exact chunks_chunk derived chunk member

theorem named_ofEntities (entities : List Entity) (next : Nat) :
    Env.Named ⟨[], [Frame.ofEntities entities], none, next⟩ := by
  intro binding member
  simp only [List.flatten_cons, List.flatten_nil, List.nil_append, List.append_nil,
    Frame.ofEntities, List.mem_reverse, List.mem_map] at member
  obtain ⟨entity, _, rfl⟩ := member
  rfl

/-- The uses in a program, from the frame above that of the entities which it can use. -/
theorem uses_program {entities : List Entity} {next : Nat} {after : Env}
    {program : List Syntax.Stmt} {checked : List Typed.Stmt}
    (derived : Syntax.Stmt.ElaborateAll ⟨[], [Frame.ofEntities entities], none, next⟩ program
      checked after) : ∀ use ∈ usesAll entities.reverse checked, use.Resolved := by
  have uses := uses_chunk derived (named_ofEntities entities next)
  rw [Env.visible, List.flatten_cons, List.flatten_cons, List.flatten_nil, List.nil_append,
    List.append_nil, Frame.map_snd_ofEntities] at uses
  exact uses

/-- An accepted program numbers what it introduces in source order, behind the entities of its
prelude. No chunk of it declares a name twice. Whatever it uses is the innermost entity of that name
that can be seen there, the entities of the prelude being the outermost. -/
theorem binding_of_accepted {prelude : Prelude} {program : List Syntax.Stmt}
    {checked : List Typed.Stmt} (accepted : check prelude program = .ok checked) :
    (introducedAll checked).map Entity.id =
      List.range' (prelude.constants.length + prelude.jobs.length)
        (introducedAll checked).length ∧
    (∀ chunk ∈ declared checked :: chunksAll checked, (chunk.map Entity.name).Nodup) ∧
    ∀ use ∈ usesAll prelude.entities.reverse checked, use.Resolved := by
  obtain ⟨env, after, made, accepted⟩ := reference_of_check accepted
  have derived := elaborates_chunk program accepted
  cases env_ofPrelude made
  exact ⟨(numbered_chunk derived).1, chunks_program derived, uses_program derived⟩

/-- A job that calls itself, with a parameter named like a variable declared before the job. -/
def recursiveProgram : List Syntax.Stmt :=
  [.declare ⟨.id, "baal", none⟩ ⟨.id, "x", none⟩ (.leaf ⟨.baal, "true", none⟩),
    .job ⟨.id, "baal", none⟩ ⟨.id, "f", none⟩ [⟨⟨.id, "baal", none⟩, ⟨.id, "x", none⟩⟩]
      [.output (.call ⟨.id, "f", none⟩ [.leaf ⟨.id, "x", none⟩])]]

theorem binding_of_recursiveProgram : ∃ checked, check .empty recursiveProgram = .ok checked ∧
    (introducedAll checked).map Entity.id = [0, 1, 2] ∧
    ∀ use ∈ usesAll [] checked, use.Resolved := by
  have accepted : check .empty recursiveProgram = .ok _ := rfl
  obtain ⟨ids, _, uses⟩ := binding_of_accepted accepted
  exact ⟨_, accepted, ids, uses⟩

end JobLang
