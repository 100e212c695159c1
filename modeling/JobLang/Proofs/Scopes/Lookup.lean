import JobLang.Proofs.Scopes.Stack
import Mathlib.Logic.Function.Iterate

/-!
# Looking up in an arena of scopes

A scope may be added below any number, so that in an arena there can be a scope which is its own
parent, one whose parent has not been made, and one whose parent is made later. Such a scope is
never entered: the current one has been made below a scope that was current itself. So parents lead
from it down to the first scope, and a look-up that follows them comes to an end without leaving the
arena. What is in the arena stays there.
-/
namespace JobLang

/-- The scope has kept its parent, its job and its bindings; it may have got more bindings. -/
structure Scope.Continues (before after : Scope) : Prop where
  parent : after.parent = before.parent
  job : after.job = before.job
  binding (name : String) (entity : Entity) :
    before.find? name = some entity → after.find? name = some entity

namespace Scope.Continues
variable {before middle after : Scope}

theorem refl (scope : Scope) : scope.Continues scope := ⟨rfl, rfl, fun _ _ found => found⟩

theorem trans (first : before.Continues middle) (second : middle.Continues after) :
    before.Continues after where
  parent := second.parent.trans first.parent
  job := second.job.trans first.job
  binding name entity found := second.binding name entity (first.binding name entity found)

/-- A name is bound that was not bound in the scope. -/
theorem extend {scope : Scope} {name : String} (free : scope.find? name = none) (entity : Entity) :
    scope.Continues (scope.extend [(name, entity)]) where
  parent := rfl
  job := rfl
  binding key old found := by
    have other : (key == name) = false := by
      apply beq_false_of_ne
      rintro rfl
      rw [free] at found
      cases found
    change List.lookup key ((name, entity) :: scope.bindings) = some old
    rw [List.lookup_cons, other]
    exact found

end Scope.Continues

namespace Scopes

/-- What has been made stays, and what is made has a parent. -/
structure Grows (before after : Scopes) : Prop where
  kept {id : Nat} {scope : Scope} : before.get? id = some scope →
    ∃ later, after.get? id = some later ∧ scope.Continues later
  made {id : Nat} {scope : Scope} : after.get? id = some scope →
    before.arena.length ≤ id → scope.parent ≠ none

namespace Grows
variable {before middle after : Scopes}

theorem same (arena : after.arena = before.arena) : before.Grows after where
  kept {id scope} found := ⟨scope, by rw [get?, arena]; exact found, .refl scope⟩
  made {id scope} found newer := by
    rw [get?, arena] at found
    have made := Arena.lt_length_of_get? found
    omega

theorem trans (first : before.Grows middle) (second : middle.Grows after) :
    before.Grows after where
  kept {id scope} found := by
    obtain ⟨scope', found', continues⟩ := first.kept found
    obtain ⟨scope'', found'', continues'⟩ := second.kept found'
    exact ⟨scope'', found'', continues.trans continues'⟩
  made {id scope} found newer := by
    by_cases between : id < middle.arena.length
    · cases found' : middle.get? id with
      | none =>
        have := Arena.get?_eq_none_iff.mp found'
        omega
      | some scope' =>
        obtain ⟨later, there, continues⟩ := second.kept found'
        rw [there] at found
        cases found
        rw [continues.parent]
        exact first.made found' newer
    · exact second.made found (by omega)

/-- A scope is added below whatever parent. -/
theorem cons {scope : Scope} (below : scope.parent ≠ none)
    (arena : after.arena = scope :: before.arena) : before.Grows after where
  kept {id old} found := by
    refine ⟨old, ?_, .refl old⟩
    rw [get?, arena, ← found]
    exact Arena.get?_append (Arena.lt_length_of_get? found) [scope]
  made {id new} found newer := by
    rw [get?, arena, Arena.get?] at found
    split at found
    · cases found
      exact below
    · have := Arena.lt_length_of_get? found
      omega

theorem declare {scopes : Scopes} {name : String} {entity : Entity} {place : Option Position}
    (declared : scopes.declare name entity place = .ok after) : scopes.Grows after := by
  rw [Scopes.declare] at declared
  cases bound : (scopes.get? scopes.current).bind (·.find? name) with
  | some old =>
    rw [bound] at declared
    cases declared
  | none =>
    rw [bound] at declared
    cases declared
    have changed (id : Nat) : Arena.get? (scopes.arena.modify (.extend [(name, entity)])
        scopes.current) id = if id = scopes.current then
          (scopes.get? scopes.current).map (.extend [(name, entity)]) else scopes.get? id :=
      Arena.get?_modify _ _ _ _
    constructor
    · intro id scope found
      by_cases here : id = scopes.current
      · subst here
        rw [found, Option.bind_some] at bound
        refine ⟨scope.extend [(name, entity)], ?_, .extend bound entity⟩
        rw [get?]
        refine (changed _).trans ?_
        rw [if_pos rfl, found]
        rfl
      · exact ⟨scope, ((changed id).trans (if_neg here)).trans found, .refl scope⟩
    · intro id scope found newer
      have made := Arena.lt_length_of_get? found
      rw [Arena.length_modify] at made
      omega

/-- What one request does to the arena. -/
theorem step (scopes : Scopes) (request : Request) :
    scopes.Grows (Scopes.machine.after scopes request) := by
  cases request with
  | addChild parent job | enter job => exact .cons (Option.some_ne_none _) rfl
  | leave =>
    refine .same ?_
    change scopes.leave.arena = scopes.arena
    rw [leave]
    split <;> rfl
  | declare name entity place =>
    change scopes.Grows (stateAfter scopes (scopes.declare name entity place))
    cases outcome : scopes.declare name entity place with
    | ok after => exact .declare outcome
    | error d => exact .same rfl
  | resolve | resolveAs | resolveVariable | enclosingJob => exact .same rfl

theorem afterAll (scopes : Scopes) (requests : List Request) :
    scopes.Grows (Scopes.machine.afterAll scopes requests) := by
  induction requests generalizing scopes with
  | nil => exact .same rfl
  | cons request rest ih => exact (step scopes request).trans (ih _)

end Grows

/-- The number that a request hands out for the scope that it makes. -/
def made? (scopes : Scopes) : Request → Option Nat
  | .addChild parent job => some (scopes.addChild parent job).1
  | .enter job => some (scopes.enter job).current
  | .leave | .declare .. | .resolve .. | .resolveAs .. | .resolveVariable ..
  | .enclosingJob => none

/-- The numbers that requests hand out, one after another. -/
def numbers : Scopes → List Request → List Nat
  | _, [] => []
  | scopes, request :: rest =>
    (scopes.made? request).toList ++ (Scopes.machine.after scopes request).numbers rest

theorem length_after (scopes : Scopes) (request : Request) :
    (Scopes.machine.after scopes request).arena.length =
      scopes.arena.length + (scopes.made? request).toList.length := by
  cases request with
  | addChild parent job | enter job => rfl
  | leave =>
    change scopes.leave.arena.length = scopes.arena.length
    rw [leave]
    split <;> rfl
  | declare name entity place =>
    change (stateAfter scopes (scopes.declare name entity place)).arena.length =
      scopes.arena.length
    rw [declare]
    split
    · rfl
    · exact Arena.length_modify _ _ _
  | resolve | resolveAs | resolveVariable | enclosingJob => rfl

/-- A scope gets the next number. -/
theorem made?_eq (scopes : Scopes) (request : Request) :
    (scopes.made? request).toList =
      List.range' scopes.arena.length (scopes.made? request).toList.length := by
  cases request <;> rfl

theorem numbers_eq (scopes : Scopes) (requests : List Request) :
    scopes.numbers requests =
      List.range' scopes.arena.length (scopes.numbers requests).length := by
  induction requests generalizing scopes with
  | nil => rfl
  | cons request rest ih =>
    rw [numbers, List.length_append, List.range'_append_1.symm, ← made?_eq, ← length_after, ← ih]

end Scopes

namespace Arena

/-- The numbers that parents lead through, from the first of them to that of a scope without one. -/
inductive Trail (arena : Arena) : Nat → List Nat → Prop
  | outermost {id : Nat} {scope : Scope} (found : arena.get? id = some scope)
      (first : scope.parent = none) : Trail arena id [id]
  | inner {id parent : Nat} {scope : Scope} {around : List Nat}
      (found : arena.get? id = some scope) (link : scope.parent = some parent)
      (rest : Trail arena parent around) : Trail arena id (id :: around)

/-- A look-up on its way. -/
inductive Search
  /-- The scope to look into next; behind a scope without a parent there is none. -/
  | looking (next : Option Nat)
  | found (entity : Entity)
  /-- There is no scope with the number to look into. -/
  | outside (id : Nat)

namespace Search

/-- Looks into one scope, and goes on to its parent if the name is not bound there. -/
def advance (arena : Arena) (name : String) : Search → Search
  | .looking (some id) =>
    match arena.get? id with
    | some scope =>
      match scope.find? name with
      | some entity => .found entity
      | none => .looking scope.parent
    | none => .outside id
  | .looking none => .looking none
  | .found entity => .found entity
  | .outside id => .outside id

/-- The end of a look-up that finds what is given. -/
def ended : Option Entity → Search
  | some entity => .found entity
  | none => .looking none

theorem advance_of_get? {arena : Arena} {id : Nat} {scope : Scope}
    (found : arena.get? id = some scope) (name : String) :
    advance arena name (.looking (some id)) =
      ((scope.find? name).map Search.found).getD (.looking scope.parent) := by
  simp only [advance, found]
  cases scope.find? name <;> rfl

theorem advance_ended (arena : Arena) (name : String) (result : Option Entity) :
    advance arena name (ended result) = ended result := by
  cases result <;> rfl

theorem ended_ne_outside (result : Option Entity) (id : Nat) : ended result ≠ .outside id := by
  cases result <;> nofun

end Search

section Chains
variable {arena : Arena} {id : Nat} {layers : List Layer}

theorem Chain.exists_trail (chain : arena.Chain id layers)
    (rooted : ∀ {id scope}, arena.get? id = some scope → scope.parent = none → id = 0) :
    ∃ trail, arena.Trail id trail ∧ trail.Pairwise (· > ·) ∧ (∀ n ∈ trail, n ≤ id) ∧
      trail.getLast? = some 0 := by
  induction chain with
  | @outermost id scope found first =>
    refine ⟨[id], .outermost found first, List.pairwise_singleton _ _, by simp, ?_⟩
    rw [rooted found first]
    rfl
  | @inner id parent scope _ found link older _ ih =>
    obtain ⟨trail, rest, falls, bounded, last⟩ := ih
    refine ⟨id :: trail, .inner found link rest, ?_, ?_, ?_⟩
    · refine List.pairwise_cons.mpr ⟨fun n member => ?_, falls⟩
      have := bounded n member
      omega
    · intro n member
      rcases List.mem_cons.mp member with rfl | member
      · exact Nat.le_refl _
      · have := bounded n member
        omega
    · rw [List.getLast?_cons, last]
      rfl

/-- A look-up in a scope that binds the name ends there. -/
theorem search_of_bound {scope : Scope} (found : arena.get? id = some scope) {name : String}
    {entity : Entity} (bound : scope.find? name = some entity) (rounds : Nat) :
    (Search.advance arena name)^[rounds + 1] (.looking (some id)) = .ended (some entity) := by
  rw [Function.iterate_succ_apply, Search.advance_of_get? found, bound]
  exact Function.iterate_fixed (Search.advance_ended arena name (some entity)) rounds

/-- A look-up along a chain ends, and finds what the lineage tells. -/
theorem Chain.search (chain : arena.Chain id layers) (name : String) {rounds : Nat}
    (enough : id < rounds) :
    (Search.advance arena name)^[rounds] (.looking (some id)) =
      .ended ((arena.lineage id).findSome? (·.find? name)) := by
  obtain ⟨rounds, rfl⟩ := Nat.exists_eq_add_one_of_ne_zero (Nat.ne_zero_of_lt enough)
  induction chain generalizing rounds with
  | @outermost id scope found first =>
    rw [lineage_of_get? found (by simp [first]), first]
    cases here : scope.find? name with
    | some entity =>
      rw [List.findSome?_cons_of_isSome (by simp [here]), here]
      exact search_of_bound found here rounds
    | none =>
      rw [List.findSome?_cons_of_isNone (by simp [here]), Function.iterate_succ_apply,
        Search.advance_of_get? found, here, first]
      exact Function.iterate_fixed (Search.advance_ended arena name none) rounds
  | @inner id parent scope _ found link older _ ih =>
    rw [lineage_of_get? found (by simpa [link] using older), link]
    cases here : scope.find? name with
    | some entity =>
      rw [List.findSome?_cons_of_isSome (by simp [here]), here]
      exact search_of_bound found here rounds
    | none =>
      rw [List.findSome?_cons_of_isNone (by simp [here]), Function.iterate_succ_apply,
        Search.advance_of_get? found, here, link]
      obtain ⟨rounds, rfl⟩ : ∃ fewer, rounds = fewer + 1 :=
        Nat.exists_eq_add_one_of_ne_zero (by omega)
      exact ih rounds (by omega)

/-- A look-up along a chain has looked into scopes of the arena only. -/
theorem Chain.search_ne_outside (chain : arena.Chain id layers) (name : String)
    (rounds other : Nat) :
    (Search.advance arena name)^[rounds] (.looking (some id)) ≠ .outside other := by
  intro outside
  have stays : (Search.advance arena name)^[id + 1] (.outside other) = .outside other :=
    Function.iterate_fixed rfl _
  have enough : id < id + 1 + rounds := by omega
  have later := chain.search name enough
  rw [Function.iterate_add_apply, outside, stays] at later
  exact Search.ended_ne_outside _ _ later.symm

end Chains
end Arena

/-- The first scope is the only one without a parent. -/
theorem Scopes.eq_zero_of_parent {requests : List Request} {id : Nat} {scope : Scope}
    (found : (Scopes.machine.afterAll .root requests).get? id = some scope)
    (first : scope.parent = none) : id = 0 := by
  by_contra later
  have grows := Grows.afterAll .root requests
  exact grows.made found (Nat.one_le_iff_ne_zero.mpr later) first

/-- After whatever requests, with whatever parents for the scopes that are added, the current scope
is in the arena, and it is all that declaring, leaving and asking for the job look into. Parents
lead from it through numbers of the arena that fall down to zero. A look-up that follows them has
ended after as many rounds as the current number tells and one more, with what the name stands for,
and has not looked outside of the arena on its way. The scopes that are made are numbered from one
on, no number being given twice. Whatever requests come later, every scope keeps its number, its
parent, its job and its bindings. -/
theorem trail_of_requests (requests : List Request) :
    let scopes := Scopes.machine.afterAll .root requests
    (∃ scope, scopes.get? scopes.current = some scope) ∧
    (∃ trail, scopes.arena.Trail scopes.current trail ∧ trail.Pairwise (· > ·) ∧
      (∀ id ∈ trail, id < scopes.arena.length) ∧ trail.getLast? = some 0) ∧
    (∀ name rounds, scopes.current < rounds →
      (Arena.Search.advance scopes.arena name)^[rounds] (.looking (some scopes.current)) =
        .ended (scopes.find? name)) ∧
    (∀ name rounds id,
      (Arena.Search.advance scopes.arena name)^[rounds] (.looking (some scopes.current)) ≠
        .outside id) ∧
    (∃ count, Scopes.root.numbers requests = List.range' 1 count) ∧
    ∀ later id scope, scopes.get? id = some scope →
      ∃ kept, (Scopes.machine.afterAll scopes later).get? id = some kept ∧
        scope.Continues kept := by
  intro scopes
  have chain : scopes.arena.Chain scopes.current _ := Scopes.Shows.root.afterAll requests
  have inRange := chain.lt_length
  refine ⟨?_, ?_, fun name rounds enough => chain.search name enough, chain.search_ne_outside,
    ⟨_, Scopes.root.numbers_eq requests⟩, ?_⟩
  · cases found : scopes.get? scopes.current with
    | some scope => exact ⟨scope, rfl⟩
    | none =>
      have := Arena.get?_eq_none_iff.mp found
      omega
  · obtain ⟨trail, leads, falls, bounded, last⟩ :=
      chain.exists_trail fun found first => Scopes.eq_zero_of_parent found first
    refine ⟨trail, leads, falls, fun id member => ?_, last⟩
    have := bounded id member
    omega
  · intro later id scope found
    exact (Scopes.Grows.afterAll scopes later).kept found

/-- A scope below itself, one below a scope that is made later, and one below no scope at all, and
then scopes that are entered. -/
def detachedRequests : List Request :=
  [.declare "x" (.var ⟨0, "x", .num, false⟩) none, .addChild 1 none, .addChild 4 none,
    .addChild 99 none, .enter none, .enter none, .addChild 6 none, .leave]

theorem trail_of_detachedRequests :
    let scopes := Scopes.machine.afterAll .root detachedRequests
    scopes.get? 1 = some ⟨some 1, none, []⟩ ∧ scopes.arena.Trail scopes.current [4, 0] ∧
    Scopes.root.numbers detachedRequests = [1, 2, 3, 4, 5, 6] ∧
    (Arena.Search.advance scopes.arena "x")^[5] (.looking (some scopes.current)) =
      .found (.var ⟨0, "x", .num, false⟩) ∧
    ∃ kept, (Scopes.machine.afterAll scopes [.enter none, .leave, .leave]).get? 1 = some kept ∧
      kept.parent = some 1 := by
  intro scopes
  obtain ⟨_, _, ends, _, _, stays⟩ := trail_of_requests detachedRequests
  have self : scopes.get? 1 = some ⟨some 1, none, []⟩ := rfl
  obtain ⟨kept, there, continues⟩ := stays [.enter none, .leave, .leave] 1 _ self
  have first : scopes.get? 0 = some _ := rfl
  have fourth : scopes.get? 4 = some _ := rfl
  exact ⟨self, .inner fourth rfl (.outermost first rfl), rfl, ends "x" 5 (by decide), kept, there,
    continues.parent⟩

end JobLang
