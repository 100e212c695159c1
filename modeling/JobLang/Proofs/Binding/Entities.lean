import JobLang.Proofs.Check.Elaboration

/-!
# Declarations and uses in a tree

A tree holds whole entities, where it declares them and where it uses them. This module lists the
entities that a tree introduces, the ones that each chunk of it declares, and the ones that it uses,
each use with the entities that can be seen from it.
-/
namespace JobLang.Typed

namespace Expr

mutual

/-- The variables that an expression reads and the jobs that it calls. -/
def references : Expr → List Entity
  | .lit .. => []
  | .var v _ => [.var v]
  | .binary _ left right _ => left.references ++ right.references
  | .unary _ operand _ => operand.references
  | .call callee args _ => .job callee :: referencesAll args

def referencesAll : List Expr → List Entity
  | [] => []
  | e :: rest => e.references ++ referencesAll rest

end

end Expr

/-- An entity that is used, and the entities that can be seen at that place, the innermost and the
latest first. -/
structure Use where
  entity : Entity
  visible : List Entity

/-- The entity that is used is the first of its name that can be seen. -/
def Use.Resolved (use : Use) : Prop :=
  use.visible.find? (fun seen => seen.name = use.entity.name) = some use.entity

/-- The number of the entity that is used is that of an entity that can be seen. -/
def Use.Bound (use : Use) : Prop := use.entity.id ∈ use.visible.map Entity.id

theorem Use.Resolved.bound {use : Use} (resolved : use.Resolved) : use.Bound :=
  List.mem_map_of_mem (List.mem_of_find?_eq_some resolved)

namespace Stmt

open List (Sublist)

/-- The entity that a statement declares in its own chunk. -/
def declared? : Stmt → Option Entity
  | .declare v _ => some (.var v)
  | .job j _ _ => some (.job j)
  | .assign .. | .print _ | .output _ | .ifThen .. | .ifElse .. | .whileLoop .. | .repeatLoop ..
  | .coil .. | .increment _ | .decrement _ | .call .. => none

/-- The entities that a chunk declares, without those in the chunks inside it. -/
def declared (chunk : List Stmt) : List Entity := chunk.filterMap declared?

theorem declared_cons (s : Stmt) (rest : List Stmt) :
    declared (s :: rest) = s.declared?.toList ++ declared rest := by
  rw [declared, List.filterMap_cons]
  cases s.declared? <;> rfl

theorem declared_append (first second : List Stmt) :
    declared (first ++ second) = declared first ++ declared second := List.filterMap_append

mutual

/-- The entities that a statement introduces at any depth, in source order. -/
def introduced : Stmt → List Entity
  | .declare v _ => [.var v]
  | .job j params body => .job j :: (params.map .var ++ introducedAll body)
  | .ifThen _ body | .whileLoop _ body | .repeatLoop _ body => introducedAll body
  | .ifElse _ body alternative => introducedAll body ++ introducedAll alternative
  | .coil counter _ _ body => .var counter :: introducedAll body
  | .assign .. | .print _ | .output _ | .increment _ | .decrement _ | .call .. => []

def introducedAll : List Stmt → List Entity
  | [] => []
  | s :: rest => s.introduced ++ introducedAll rest

end

theorem introducedAll_append (first second : List Stmt) :
    introducedAll (first ++ second) = introducedAll first ++ introducedAll second :=
  append_of_cons rfl (fun _ _ => rfl) first second

theorem introducedAll_singleton (s : Stmt) : introducedAll [s] = s.introduced := by
  rw [introducedAll, introducedAll, List.append_nil]

mutual

/-- The declarations of every chunk inside a statement. Those of a job's body start with the
parameters, and those of a coil's body with the counter. -/
def chunks : Stmt → List (List Entity)
  | .job _ params body => (params.map .var ++ declared body) :: chunksAll body
  | .ifThen _ body | .whileLoop _ body | .repeatLoop _ body => declared body :: chunksAll body
  | .ifElse _ body alternative =>
    (declared body :: chunksAll body) ++ (declared alternative :: chunksAll alternative)
  | .coil counter _ _ body => (.var counter :: declared body) :: chunksAll body
  | .declare .. | .assign .. | .print _ | .output _ | .increment _ | .decrement _ | .call .. => []

def chunksAll : List Stmt → List (List Entity)
  | [] => []
  | s :: rest => s.chunks ++ chunksAll rest

end

theorem chunksAll_append (first second : List Stmt) :
    chunksAll (first ++ second) = chunksAll first ++ chunksAll second :=
  append_of_cons rfl (fun _ _ => rfl) first second

theorem chunksAll_singleton (s : Stmt) : chunksAll [s] = s.chunks := by
  rw [chunksAll, chunksAll, List.append_nil]

theorem declared_sublist_introducedAll (chunk : List Stmt) :
    Sublist (declared chunk) (introducedAll chunk) := by
  induction chunk with
  | nil => exact .refl _
  | cons s rest ih =>
    have head : Sublist s.declared?.toList s.introduced := by
      cases s with
      | declare => exact .refl _
      | job => exact (List.nil_sublist _).cons_cons _
      | assign | print | output | ifThen | ifElse | whileLoop | repeatLoop | coil | increment
      | decrement | call => exact List.nil_sublist _
    rw [declared_cons, introducedAll]
    exact head.append ih

mutual

theorem chunks_sublist_introduced : ∀ s : Stmt, ∀ chunk ∈ s.chunks, Sublist chunk s.introduced
  | .job j params body => by
      have own := declared_sublist_introducedAll body
      intro chunk member
      rcases List.mem_cons.mp member with rfl | member
      · exact (own.append_left _).cons _
      · have inside := chunksAll_sublist_introducedAll body chunk member
        exact (inside.trans (List.sublist_append_right ..)).cons _
  | .ifThen _ body | .whileLoop _ body | .repeatLoop _ body => by
      have own := declared_sublist_introducedAll body
      have inside := chunksAll_sublist_introducedAll body
      exact List.forall_mem_cons.mpr ⟨own, inside⟩
  | .ifElse _ body alternative => by
      have inside : ∀ chunk ∈ declared body :: chunksAll body,
          Sublist chunk (introducedAll body) := List.forall_mem_cons.mpr
        ⟨declared_sublist_introducedAll body, chunksAll_sublist_introducedAll body⟩
      have otherwise : ∀ chunk ∈ declared alternative :: chunksAll alternative,
          Sublist chunk (introducedAll alternative) := List.forall_mem_cons.mpr
        ⟨declared_sublist_introducedAll alternative, chunksAll_sublist_introducedAll alternative⟩
      intro chunk member
      rcases List.mem_append.mp member with member | member
      · exact (inside chunk member).trans (List.sublist_append_left ..)
      · exact (otherwise chunk member).trans (List.sublist_append_right ..)
  | .coil counter _ _ body => by
      intro chunk member
      rcases List.mem_cons.mp member with rfl | member
      · exact (declared_sublist_introducedAll body).cons_cons _
      · exact (chunksAll_sublist_introducedAll body chunk member).cons _
  | .declare .. | .assign .. | .print _ | .output _ | .increment _ | .decrement _ | .call .. => by
      intro chunk member
      cases member

/-- A chunk declares some of the entities that the tree around it introduces, in the same order. -/
theorem chunksAll_sublist_introducedAll : ∀ tree : List Stmt,
    ∀ chunk ∈ chunksAll tree, Sublist chunk (introducedAll tree)
  | [] => List.forall_mem_nil _
  | s :: rest => by
      intro chunk member
      rw [introducedAll]
      rcases List.mem_append.mp member with member | member
      · exact (chunks_sublist_introduced s chunk member).trans (List.sublist_append_left ..)
      · have inside := chunksAll_sublist_introducedAll rest chunk member
        exact inside.trans (List.sublist_append_right ..)

end

/-- The chunks of a tree in which no number is introduced twice. -/
theorem nodup_ids_of_distinct {tree : List Stmt}
    (distinct : ((introducedAll tree).map Entity.id).Nodup) :
    ∀ chunk ∈ declared tree :: chunksAll tree, (chunk.map Entity.id).Nodup := by
  intro chunk member
  have parts : ∀ chunk ∈ declared tree :: chunksAll tree, Sublist chunk (introducedAll tree) :=
    List.forall_mem_cons.mpr
      ⟨declared_sublist_introducedAll tree, chunksAll_sublist_introducedAll tree⟩
  exact distinct.sublist ((parts chunk member).map Entity.id)

/-- Entities that are used in one place. -/
def usesAt (visible entities : List Entity) : List Use := entities.map (⟨·, visible⟩)

mutual

/-- The uses in a statement, where the given entities can be seen from the statement. A job can be
seen from its own body, a variable cannot be seen from its own first value. -/
def uses (visible : List Entity) : Stmt → List Use
  | .declare _ init => usesAt visible init.references
  | .job j params body => usesAll ((params.map .var).reverse ++ .job j :: visible) body
  | .assign target source => usesAt visible (.var target :: source.references)
  | .print value | .output value => usesAt visible value.references
  | .ifThen test body | .whileLoop test body | .repeatLoop test body =>
    usesAt visible test.references ++ usesAll visible body
  | .ifElse test body alternative =>
    usesAt visible test.references ++ (usesAll visible body ++ usesAll visible alternative)
  | .coil counter low high body =>
    usesAt visible (low.references ++ high.references) ++ usesAll (.var counter :: visible) body
  | .increment target | .decrement target => usesAt visible [.var target]
  | .call callee args => usesAt visible (.job callee :: Expr.referencesAll args)

/-- The uses in a chunk. What a statement declares can be seen from the ones that follow it. -/
def usesAll (visible : List Entity) : List Stmt → List Use
  | [] => []
  | s :: rest => s.uses visible ++ usesAll (s.declared?.toList ++ visible) rest

end

theorem usesAll_singleton (visible : List Entity) (s : Stmt) :
    usesAll visible [s] = s.uses visible := by
  rw [usesAll, usesAll, List.append_nil]

theorem usesAll_append (visible : List Entity) (first second : List Stmt) :
    usesAll visible (first ++ second) =
      usesAll visible first ++ usesAll ((declared first).reverse ++ visible) second := by
  induction first generalizing visible with
  | nil => rfl
  | cons s rest ih =>
    have single : s.declared?.toList.reverse = s.declared?.toList := by
      cases s.declared? <;> rfl
    rw [List.cons_append, usesAll, usesAll, ih, declared_cons, List.reverse_append, single,
      List.append_assoc, List.append_assoc]

end Stmt
end JobLang.Typed
