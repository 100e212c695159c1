import JobLang.Proofs.Simplify.Binding
import JobLang.Proofs.Simplify.Calls

/-!
# Declarations of simplified trees

A branch that is always taken gives its statements to the chunk around it, and its declarations with
them. So a chunk of a simplified tree can declare a name twice, though never an entity, and then one
of the two was in such a branch. A job with a result can also lose all of its outputs. It does so
only if all of them were in dead parts.
-/
namespace JobLang
namespace Typed.Stmt

open List (Sublist)

mutual

/-- The declarations of every branch that gives its statements to the chunk around it, at any depth
outside dead parts. -/
def taken : Stmt → List (List Entity)
  | .job _ _ body => takenAll body
  | .ifThen test body =>
    match verdict? test.simplify with
    | some true => declared body :: takenAll body
    | some false => []
    | none => takenAll body
  | .ifElse test body alternative =>
    match verdict? test.simplify with
    | some true => declared body :: takenAll body
    | some false => declared alternative :: takenAll alternative
    | none => takenAll body ++ takenAll alternative
  | .whileLoop test body => if test.simplify.isBaal false then [] else takenAll body
  | .repeatLoop count body => if count.simplify.isNum 0 then [] else takenAll body
  | .coil _ low high body =>
    if isEmptyRange low.simplify high.simplify then [] else takenAll body
  | .declare .. | .assign .. | .print _ | .output _ | .increment _ | .decrement _ | .call .. => []

def takenAll : List Stmt → List (List Entity)
  | [] => []
  | s :: rest => s.taken ++ takenAll rest

end

mutual

theorem taken_subset_chunks : ∀ s : Stmt, s.taken ⊆ s.chunks
  | .job _ params body => by
      have inside := takenAll_subset_chunksAll body
      rw [taken, chunks]
      exact List.subset_cons_of_subset _ inside
  | .ifThen test body => by
      have inside := takenAll_subset_chunksAll body
      rw [taken, chunks]
      split
      · exact List.cons_subset_cons _ inside
      · exact List.nil_subset _
      · exact List.subset_cons_of_subset _ inside
  | .ifElse test body alternative => by
      have inside := takenAll_subset_chunksAll body
      have otherwise := takenAll_subset_chunksAll alternative
      rw [taken, chunks]
      split
      · exact List.subset_append_of_subset_left _ (List.cons_subset_cons _ inside)
      · exact List.subset_append_of_subset_right _ (List.cons_subset_cons _ otherwise)
      · exact append_subset_append (List.subset_cons_of_subset _ inside)
          (List.subset_cons_of_subset _ otherwise)
  | .whileLoop _ body | .repeatLoop _ body | .coil _ _ _ body => by
      have inside := takenAll_subset_chunksAll body
      rw [taken, chunks]
      split
      · exact List.nil_subset _
      · exact List.subset_cons_of_subset _ inside
  | .declare .. | .assign .. | .print _ | .output _ | .increment _ | .decrement _ | .call .. =>
      List.nil_subset _

theorem takenAll_subset_chunksAll : ∀ chunk : List Stmt, takenAll chunk ⊆ chunksAll chunk
  | [] => List.nil_subset _
  | s :: rest => by
      rw [takenAll, chunksAll]
      exact append_subset_append (taken_subset_chunks s) (takenAll_subset_chunksAll rest)

end

mutual

theorem declared_simplify : ∀ s : Stmt,
    declared s.simplify ⊆ s.declared?.toList ++ s.taken.flatten
  | .ifThen test body => by
      have inside := declared_simplifyAll body
      rw [simplify, taken]
      match verdict? test.simplify with
      | some true => exact inside
      | some false => exact List.nil_subset _
      | none => exact List.nil_subset _
  | .ifElse test body alternative => by
      have inside := declared_simplifyAll body
      have otherwise := declared_simplifyAll alternative
      rw [simplify, taken]
      match verdict? test.simplify with
      | some true => exact inside
      | some false => exact otherwise
      | none => exact List.nil_subset _
  | .declare .. | .job .. => by
      rw [simplify]
      exact List.subset_append_left ..
  | .assign .. | .whileLoop .. | .repeatLoop .. | .coil .. => by
      rw [simplify]
      split <;> exact List.nil_subset _
  | .print _ | .output _ | .increment _ | .decrement _ | .call .. => by
      rw [simplify]
      exact List.nil_subset _

/-- What a simplified chunk declares was declared in the chunk or in a taken branch. -/
theorem declared_simplifyAll : ∀ chunk : List Stmt,
    declared (simplifyAll chunk) ⊆ declared chunk ++ (takenAll chunk).flatten
  | [] => List.nil_subset _
  | s :: rest => by
      intro entity member
      rw [simplifyAll, declared_append] at member
      rw [declared_cons, takenAll, List.flatten_append]
      rcases List.mem_append.mp member with member | member
      · have source := List.mem_append.mp (declared_simplify s member)
        simp only [List.mem_append]
        tauto
      · have source := List.mem_append.mp (declared_simplifyAll rest member)
        simp only [List.mem_append]
        tauto

end

/-- Every one of the chunks has declarations of one of the given chunks, and of branches. -/
def MergedFrom (given branches : List (List Entity)) (chunks : List (List Entity)) : Prop :=
  ∀ chunk ∈ chunks, ∃ own ∈ given, chunk ⊆ own ++ branches.flatten

namespace MergedFrom
variable {given given' branches branches' first second : List (List Entity)}
  {own chunk : List Entity}

theorem nil : MergedFrom given branches [] := List.forall_mem_nil _

theorem mono (merged : MergedFrom given branches first) (more : given ⊆ given')
    (wider : branches ⊆ branches') : MergedFrom given' branches' first := by
  intro chunk member
  obtain ⟨own, source, inside⟩ := merged chunk member
  refine ⟨own, more source, fun entity found => ?_⟩
  rcases List.mem_append.mp (inside found) with found | found
  · exact List.mem_append_left _ found
  · obtain ⟨branch, member, found⟩ := List.mem_flatten.mp found
    exact List.mem_append_right _ (List.mem_flatten.mpr ⟨branch, wider member, found⟩)

theorem append (left : MergedFrom given branches first)
    (right : MergedFrom given' branches' second) :
    MergedFrom (given ++ given') (branches ++ branches') (first ++ second) :=
  List.forall_mem_append.mpr
    ⟨left.mono (List.subset_append_left ..) (List.subset_append_left ..),
      right.mono (List.subset_append_right ..) (List.subset_append_right ..)⟩

theorem cons (head : chunk ⊆ own ++ branches.flatten) (tail : MergedFrom given branches first) :
    MergedFrom (own :: given) branches (chunk :: first) :=
  List.forall_mem_cons.mpr
    ⟨⟨own, List.mem_cons_self .., head⟩, tail.mono (List.subset_cons_self ..) (.refl _)⟩

/-- A chunk may be given, and be a branch, that nothing comes from. -/
theorem unused (merged : MergedFrom given branches first) (own : List Entity) :
    MergedFrom (own :: given) (own :: branches) first :=
  merged.mono (List.subset_cons_self ..) (List.subset_cons_self ..)

end MergedFrom

mutual

theorem chunks_simplify : ∀ s : Stmt, MergedFrom s.chunks s.taken (chunksAll s.simplify)
  | .job _ params body => by
      have inside := chunksAll_simplifyAll body
      have own := declared_simplifyAll body
      rw [simplify, chunksAll_singleton, taken]
      refine .cons ?_ inside
      rw [List.append_assoc]
      exact append_subset_append (.refl _) own
  | .ifThen test body => by
      have inside := chunksAll_simplifyAll body
      have own := declared_simplifyAll body
      rw [simplify, taken]
      match verdict? test.simplify with
      | some true => exact inside.unused (declared body)
      | some false => exact .nil
      | none =>
        rw [chunksAll_singleton]
        exact .cons own inside
  | .ifElse test body alternative => by
      have inside := chunksAll_simplifyAll body
      have otherwise := chunksAll_simplifyAll alternative
      have own := declared_simplifyAll body
      have own' := declared_simplifyAll alternative
      rw [simplify, taken]
      match verdict? test.simplify with
      | some true =>
        have inside := inside.unused (declared body)
        exact inside.mono (List.subset_append_left ..) (.refl _)
      | some false =>
        have otherwise := otherwise.unused (declared alternative)
        exact otherwise.mono (List.subset_append_right ..) (.refl _)
      | none =>
        rw [chunksAll_singleton]
        exact MergedFrom.append (.cons own inside) (.cons own' otherwise)
  | .whileLoop _ body | .repeatLoop _ body => by
      have inside := chunksAll_simplifyAll body
      have own := declared_simplifyAll body
      rw [simplify, taken]
      split
      · exact .nil
      · rw [chunksAll_singleton]
        exact .cons own inside
  | .coil counter _ _ body => by
      have inside := chunksAll_simplifyAll body
      have own := declared_simplifyAll body
      rw [simplify, taken]
      split
      · exact .nil
      · rw [chunksAll_singleton]
        exact .cons (List.cons_subset_cons _ own) inside
  | .assign .. => by
      rw [simplify]
      split <;> exact .nil
  | .declare .. | .print _ | .output _ | .increment _ | .decrement _ | .call .. => by
      rw [simplify]
      exact .nil

/-- Every chunk of a simplified tree is a chunk of the tree with parts of taken branches. -/
theorem chunksAll_simplifyAll : ∀ chunk : List Stmt,
    MergedFrom (chunksAll chunk) (takenAll chunk) (chunksAll (simplifyAll chunk))
  | [] => .nil
  | s :: rest => by
      rw [simplifyAll, chunksAll_append]
      exact (chunks_simplify s).append (chunksAll_simplifyAll rest)

end

mutual

theorem outputs_simplify : ∀ s : Stmt, outputsAll s.simplify = s.prune.outputs
  | .ifThen test body => by
      have inside := outputsAll_simplifyAll body
      rw [simplify, prune, outputs]
      match verdict? test.simplify with
      | some true => exact inside
      | some false => rfl
      | none => exact inside
  | .ifElse test body alternative => by
      have inside := outputsAll_simplifyAll body
      have otherwise := outputsAll_simplifyAll alternative
      rw [simplify, prune, outputs]
      match verdict? test.simplify with
      | some true => exact inside
      | some false => exact otherwise.trans (Nat.zero_add _).symm
      | none =>
        rw [outputsAll_singleton, outputs, inside, otherwise]
        rfl
  | .whileLoop _ body | .repeatLoop _ body | .coil _ _ _ body => by
      have inside := outputsAll_simplifyAll body
      rw [simplify, prune, outputs]
      split
      · rfl
      · exact inside
  | .assign .. => by
      rw [simplify, prune]
      split <;> rfl
  | .declare .. | .job .. | .print _ | .output _ | .increment _ | .decrement _ | .call .. => by
      rw [simplify, prune]
      rfl

/-- A simplified chunk has the outputs of its live parts. -/
theorem outputsAll_simplifyAll : ∀ chunk : List Stmt,
    outputsAll (simplifyAll chunk) = outputsAll (pruneAll chunk)
  | [] => rfl
  | s :: rest => by
      rw [simplifyAll, pruneAll, outputsAll_append, outputsAll, outputs_simplify s,
        outputsAll_simplifyAll rest]

end

/-- Every one of the jobs is one of the given jobs, with its body simplified. -/
def SimplifiedFrom (given jobs : List (Job × List Stmt)) : Prop :=
  ∀ job ∈ jobs, ∃ body, (job.1, body) ∈ given ∧ job.2 = simplifyAll body

namespace SimplifiedFrom
variable {given given' first second : List (Job × List Stmt)}

theorem nil : SimplifiedFrom given [] := List.forall_mem_nil _

theorem mono (simplified : SimplifiedFrom given first) (more : given ⊆ given') :
    SimplifiedFrom given' first := by
  intro job member
  obtain ⟨body, source, result⟩ := simplified job member
  exact ⟨body, more source, result⟩

theorem append (left : SimplifiedFrom given first) (right : SimplifiedFrom given' second) :
    SimplifiedFrom (given ++ given') (first ++ second) :=
  List.forall_mem_append.mpr
    ⟨left.mono (List.subset_append_left ..), right.mono (List.subset_append_right ..)⟩

theorem cons {j : Job} {body : List Stmt} (inside : SimplifiedFrom given first) :
    SimplifiedFrom ((j, body) :: given) ((j, simplifyAll body) :: first) :=
  List.forall_mem_cons.mpr
    ⟨⟨body, List.mem_cons_self .., rfl⟩, inside.mono (List.subset_cons_self ..)⟩

end SimplifiedFrom

mutual

theorem jobs_simplify : ∀ s : Stmt, SimplifiedFrom s.jobs (jobsAll s.simplify)
  | .job j params body => by
      rw [simplify, jobsAll_singleton]
      exact .cons (jobsAll_simplifyAll body)
  | .ifThen test body => by
      have inside := jobsAll_simplifyAll body
      rw [simplify]
      split
      · exact inside
      · exact .nil
      · rw [jobsAll_singleton]
        exact inside
  | .ifElse test body alternative => by
      have inside := jobsAll_simplifyAll body
      have otherwise := jobsAll_simplifyAll alternative
      rw [simplify]
      split
      · exact inside.mono (List.subset_append_left ..)
      · exact otherwise.mono (List.subset_append_right ..)
      · rw [jobsAll_singleton]
        exact inside.append otherwise
  | .whileLoop _ body | .repeatLoop _ body | .coil _ _ _ body => by
      have inside := jobsAll_simplifyAll body
      rw [simplify]
      split
      · exact .nil
      · rw [jobsAll_singleton]
        exact inside
  | .assign .. => by
      rw [simplify]
      split <;> exact .nil
  | .declare .. | .print _ | .output _ | .increment _ | .decrement _ | .call .. => by
      rw [simplify]
      exact .nil

/-- The jobs of a simplified tree are jobs of the tree, their bodies simplified. -/
theorem jobsAll_simplifyAll : ∀ chunk : List Stmt,
    SimplifiedFrom (jobsAll chunk) (jobsAll (simplifyAll chunk))
  | [] => .nil
  | s :: rest => by
      rw [simplifyAll, jobsAll_append]
      exact (jobs_simplify s).append (jobsAll_simplifyAll rest)

end

/-- Two entities have different names, or one of them was declared in a branch and the other was
not. -/
def Separated (branches : List (List Entity)) (a b : Entity) : Prop :=
  a.name = b.name → ∃ branch ∈ branches, (a ∈ branch ↔ b ∉ branch)

theorem separated_of_merged {own chunk : List Entity} {branches : List (List Entity)}
    (distinct : (own.map Entity.name).Nodup)
    (each : ∀ branch ∈ branches, (branch.map Entity.name).Nodup)
    (merged : chunk ⊆ own ++ branches.flatten) {a b : Entity} (first : a ∈ chunk)
    (second : b ∈ chunk) (other : a ≠ b) : Separated branches a b := by
  intro same
  have apart {entities : List Entity} (distinct : (entities.map Entity.name).Nodup)
      (here : a ∈ entities) : b ∉ entities :=
    fun there => other (List.inj_on_of_nodup_map distinct here there same)
  rcases List.mem_append.mp (merged first) with first | first
  · rcases List.mem_append.mp (merged second) with second | second
    · exact absurd second (apart distinct first)
    · obtain ⟨branch, member, inside⟩ := List.mem_flatten.mp second
      have outside : a ∉ branch := fun here => apart (each branch member) here inside
      exact ⟨branch, member, iff_of_false outside (not_not_intro inside)⟩
  · obtain ⟨branch, member, inside⟩ := List.mem_flatten.mp first
    exact ⟨branch, member, iff_of_true inside (apart (each branch member) inside)⟩

/-- Declarations of a tree whose chunks have distinct names. -/
theorem separated_simplifyAll {tree : List Stmt}
    (distinct : ∀ chunk ∈ declared tree :: chunksAll tree, (chunk.map Entity.name).Nodup) :
    ∀ chunk ∈ declared (simplifyAll tree) :: chunksAll (simplifyAll tree),
      ∀ a ∈ chunk, ∀ b ∈ chunk, a ≠ b → Separated (takenAll tree) a b := by
  have merges := (chunksAll_simplifyAll tree).cons (declared_simplifyAll tree)
  have each : ∀ branch ∈ takenAll tree, (branch.map Entity.name).Nodup :=
    fun branch member =>
      distinct branch (List.mem_cons_of_mem _ (takenAll_subset_chunksAll tree member))
  intro chunk member a first b second other
  obtain ⟨own, source, merged⟩ := merges chunk member
  exact separated_of_merged (distinct own source) each merged first second other

end Typed.Stmt

open Typed.Stmt

/-- No chunk of a simplified program declares an entity twice. It declares a name twice only if one
of the two declarations is from a taken branch of the accepted program and the other is not from
that branch. Every job with a result was declared in the accepted program, with an output in its
body, and has the outputs that were not in dead parts. -/
theorem declarations_of_simplified {prelude : Prelude} {program : List Syntax.Stmt}
    {checked : List Typed.Stmt} (accepted : check prelude program = .ok checked) :
    (∀ chunk ∈ declared (simplifyAll checked) :: chunksAll (simplifyAll checked),
      (chunk.map Entity.id).Nodup ∧ chunk.Pairwise (Separated (takenAll checked))) ∧
    ∀ job ∈ jobsAll (simplifyAll checked), job.1.returns ≠ .void →
      ∃ body, (job.1, body) ∈ jobsAll checked ∧ job.2 = simplifyAll body ∧ outputsAll body ≠ 0 ∧
        outputsAll job.2 = outputsAll (pruneAll body) := by
  have formed := wellFormed_of_check accepted
  obtain ⟨env, after, made, accepted⟩ := reference_of_check accepted
  have derived := elaborates_chunk program accepted
  cases env_ofPrelude made
  constructor
  · intro chunk member
    have part := (introducedAll_simplifyAll checked).map Entity.id
    have ids := nodup_ids_of_distinct (formed.distinct.sublist part) chunk member
    have separated := separated_simplifyAll (chunks_program derived) chunk member
    refine ⟨ids, (List.Nodup.of_map _ ids).imp_of_mem ?_⟩
    exact fun first second other => separated _ first _ second other
  · intro job member result
    obtain ⟨body, source, simplified⟩ := jobsAll_simplifyAll checked job member
    have outputs := outputsAll_simplifyAll body
    rw [← simplified] at outputs
    exact ⟨body, source, simplified, jobsOutput_chunk derived _ source result, outputs⟩

/-- Both branches of the program give their declarations to the whole program, and the loop takes
the output away. -/
theorem clash_of_mergingProgram : ∃ checked, check .empty mergingProgram = .ok checked ∧
    ¬ ((declared (simplifyAll checked)).map Entity.name).Nodup ∧
    ¬ ∀ job ∈ jobsAll (simplifyAll checked), job.1.returns ≠ .void → outputsAll job.2 ≠ 0 := by
  refine ⟨_, rfl, ?_, ?_⟩
  · decide
  · decide

theorem declarations_of_mergingProgram : ∃ checked, check .empty mergingProgram = .ok checked ∧
    (declared (simplifyAll checked)).Pairwise (Separated (takenAll checked)) := by
  have accepted : check .empty mergingProgram = .ok _ := rfl
  obtain ⟨chunks, _⟩ := declarations_of_simplified accepted
  exact ⟨_, accepted, (chunks _ (List.mem_cons_self ..)).2⟩

end JobLang
