import JobLang.Proofs.Simplify.Redex

/-!
# Sizes of simplified trees

The size of a tree is the number of its expressions and statements, at every depth. Simplification
gives back a tree as it is or a tree of smaller size: each rule takes away more nodes than it makes,
and where no rule applies a node is put together again from its parts. So a tree that keeps its size
is not changed at all, down to types, places, numbers of entities and bits of doubles.
-/
namespace JobLang.Typed

/-- The one is the other, or of smaller size. -/
def Shrinks {α : Type} (size : α → Nat) (before after : α) : Prop :=
  after = before ∨ size after < size before

namespace Shrinks
variable {α β : Type} {size : α → Nat} {size' : β → Nat} {before after : α} {before' after' : β}

theorem refl (x : α) : Shrinks size x x := .inl rfl

theorem le (shrinks : Shrinks size before after) : size after ≤ size before := by
  rcases shrinks with rfl | smaller
  · exact Nat.le_refl _
  · exact Nat.le_of_lt smaller

theorem eq_of_size_eq (shrinks : Shrinks size before after) (same : size after = size before) :
    after = before := by
  rcases shrinks with unchanged | smaller
  · exact unchanged
  · omega

theorem trans {middle : α} (first : Shrinks size before middle)
    (second : Shrinks size middle after) : Shrinks size before after := by
  rcases second with rfl | smaller
  · exact first
  · exact .inr (Nat.lt_of_lt_of_le smaller first.le)

theorem pair (first : Shrinks size before after) (second : Shrinks size' before' after') :
    Shrinks (fun x : α × β => size x.1 + size' x.2) (before, before') (after, after') := by
  rcases first with rfl | first
  · rcases second with rfl | second
    · exact .refl _
    · exact .inr (Nat.add_lt_add_left second _)
  · exact .inr (Nat.add_lt_add_of_lt_of_le first second.le)

/-- A node made of parts that stay or become smaller does so as well. -/
theorem node (parts : Shrinks size before after) (make : α → β) (own : Nat)
    (counted : ∀ x, size' (make x) = size x + own) :
    Shrinks size' (make before) (make after) := by
  rcases parts with rfl | smaller
  · exact .refl _
  · exact .inr (by rw [counted, counted]; exact Nat.add_lt_add_right smaller own)

end Shrinks

namespace Expr

mutual

/-- The number of nodes of an expression. -/
def size : Expr → Nat
  | .lit .. | .var .. => 1
  | .binary _ left right _ => left.size + right.size + 1
  | .unary _ operand _ => operand.size + 1
  | .call _ args _ => sizeAll args + 1

def sizeAll : List Expr → Nat
  | [] => 0
  | e :: rest => e.size + sizeAll rest

end

theorem size_pos (e : Expr) : 0 < e.size := by
  cases e <;> exact Nat.succ_pos _

section Binary
variable {op : BinaryOp} {left right e : Expr} {note : Note}

/-- A binary node stays, or becomes something smaller than the node. -/
theorem Outcome.shrinks (outcome : Outcome op left right note e) :
    Shrinks size (.binary op left right note) e := by
  have first := left.size_pos
  have second := right.size_pos
  cases outcome with
  | stays => exact .refl _
  | folded | absorbed | keepsLeft | keepsRight | negated =>
    refine .inr ?_
    simp only [size]
    omega

theorem shrinks_simplifyUnary (op : UnaryOp) (operand : Expr) (note : Note) :
    Shrinks size (.unary op operand note) (simplifyUnary op operand note) := by
  rw [simplifyUnary]
  split
  · exact .inr (Nat.succ_lt_succ operand.size_pos)
  · exact .refl _

end Binary

theorem shrinks_node {α : Type} {part : α → Nat} {before after : α}
    (parts : Shrinks part before after) (make : α → Expr)
    (counted : ∀ x, (make x).size = part x + 1) : Shrinks size (make before) (make after) :=
  parts.node make 1 counted

mutual

theorem shrinks_simplify : ∀ e : Expr, Shrinks size e e.simplify
  | .lit .. | .var .. => .refl _
  | .binary op left right note => by
      have parts := Shrinks.pair (shrinks_simplify left) (shrinks_simplify right)
      have rebuilt := shrinks_node parts (fun x => .binary op x.1 x.2 note) fun _ => rfl
      rw [simplify]
      exact rebuilt.trans (outcome_simplifyBinary op left.simplify right.simplify note).shrinks
  | .unary op operand note => by
      have rebuilt := shrinks_node (shrinks_simplify operand) (.unary op · note) fun _ => rfl
      rw [simplify]
      exact rebuilt.trans (shrinks_simplifyUnary op operand.simplify note)
  | .call callee args note => by
      rw [simplify]
      exact shrinks_node (shrinks_simplifyAll args) (.call callee · note) fun _ => rfl

theorem shrinks_simplifyAll : ∀ es : List Expr, Shrinks sizeAll es (simplifyAll es)
  | [] => .refl _
  | e :: rest => by
      have parts := Shrinks.pair (shrinks_simplify e) (shrinks_simplifyAll rest)
      rw [simplifyAll]
      exact parts.node (fun x => x.1 :: x.2) 0 fun _ => rfl

end

end Expr

namespace Stmt

mutual

/-- The number of nodes of a statement, those of its expressions among them. -/
def size : Stmt → Nat
  | .declare _ e | .assign _ e | .print e | .output e => e.size + 1
  | .job _ _ body => sizeAll body + 1
  | .ifThen e body | .whileLoop e body | .repeatLoop e body => e.size + sizeAll body + 1
  | .ifElse test body alternative => test.size + (sizeAll body + sizeAll alternative) + 1
  | .coil _ low high body => low.size + (high.size + sizeAll body) + 1
  | .increment _ | .decrement _ => 1
  | .call _ args => Expr.sizeAll args + 1

def sizeAll : List Stmt → Nat
  | [] => 0
  | s :: rest => s.size + sizeAll rest

end

theorem sizeAll_append (first second : List Stmt) :
    sizeAll (first ++ second) = sizeAll first + sizeAll second := by
  induction first with
  | nil => exact (Nat.zero_add _).symm
  | cons s rest ih => rw [List.cons_append, sizeAll, sizeAll, ih, Nat.add_assoc]

theorem sizeAll_singleton (s : Stmt) : sizeAll [s] = s.size := by
  rw [sizeAll, sizeAll, Nat.add_zero]

theorem size_pos (s : Stmt) : 0 < s.size := by
  cases s <;> exact Nat.succ_pos _

/-- A chunk of one statement made of parts that stay or become smaller. -/
theorem shrinks_singleton {α : Type} {part : α → Nat} {before after : α}
    (parts : Shrinks part before after) (make : α → Stmt)
    (counted : ∀ x, (make x).size = part x + 1) : Shrinks sizeAll [make before] [make after] :=
  parts.node (fun x => [make x]) 1 fun x => by rw [sizeAll_singleton, counted]

/-- A statement gives place to less than itself. -/
theorem shrinks_of_lt {s : Stmt} {chunk : List Stmt} (smaller : sizeAll chunk < s.size) :
    Shrinks sizeAll [s] chunk :=
  .inr (by rw [sizeAll_singleton]; exact smaller)

mutual

theorem shrinks_simplify : ∀ s : Stmt, Shrinks sizeAll [s] s.simplify
  | .declare v init => by
      rw [simplify]
      exact shrinks_singleton init.shrinks_simplify (.declare v) fun _ => rfl
  | .job j params body => by
      rw [simplify]
      exact shrinks_singleton (shrinks_simplifyAll body) (.job j params) fun _ => rfl
  | .assign target source => by
      rw [simplify]
      split
      · exact shrinks_of_lt (size_pos _)
      · exact shrinks_singleton source.shrinks_simplify (.assign target) fun _ => rfl
  | .print value => by
      rw [simplify]
      exact shrinks_singleton value.shrinks_simplify .print fun _ => rfl
  | .output value => by
      rw [simplify]
      exact shrinks_singleton value.shrinks_simplify .output fun _ => rfl
  | .ifThen test body => by
      have inside := shrinks_simplifyAll body
      rw [simplify]
      split
      · refine shrinks_of_lt ?_
        have le := inside.le
        rw [size]
        omega
      · exact shrinks_of_lt (size_pos _)
      · have parts := test.shrinks_simplify.pair inside
        exact shrinks_singleton parts (fun x => .ifThen x.1 x.2) fun _ => rfl
  | .ifElse test body alternative => by
      have inside := shrinks_simplifyAll body
      have otherwise := shrinks_simplifyAll alternative
      rw [simplify]
      split
      · refine shrinks_of_lt ?_
        have le := inside.le
        rw [size]
        omega
      · refine shrinks_of_lt ?_
        have le := otherwise.le
        rw [size]
        omega
      · have parts := test.shrinks_simplify.pair (inside.pair otherwise)
        exact shrinks_singleton parts (fun x => .ifElse x.1 x.2.1 x.2.2) fun _ => rfl
  | .whileLoop test body => by
      rw [simplify]
      split
      · exact shrinks_of_lt (size_pos _)
      · have parts := test.shrinks_simplify.pair (shrinks_simplifyAll body)
        exact shrinks_singleton parts (fun x => .whileLoop x.1 x.2) fun _ => rfl
  | .repeatLoop count body => by
      rw [simplify]
      split
      · exact shrinks_of_lt (size_pos _)
      · have parts := count.shrinks_simplify.pair (shrinks_simplifyAll body)
        exact shrinks_singleton parts (fun x => .repeatLoop x.1 x.2) fun _ => rfl
  | .coil counter low high body => by
      rw [simplify]
      split
      · exact shrinks_of_lt (size_pos _)
      · have parts := high.shrinks_simplify.pair (shrinks_simplifyAll body)
        exact shrinks_singleton (low.shrinks_simplify.pair parts)
          (fun x => .coil counter x.1 x.2.1 x.2.2) fun _ => rfl
  | .increment _ | .decrement _ => .refl _
  | .call callee args => by
      rw [simplify]
      exact shrinks_singleton (Expr.shrinks_simplifyAll args) (.call callee) fun _ => rfl

theorem shrinks_simplifyAll : ∀ chunk : List Stmt, Shrinks sizeAll chunk (simplifyAll chunk)
  | [] => .refl _
  | s :: rest => by
      have parts := (shrinks_simplify s).pair (shrinks_simplifyAll rest)
      rw [simplifyAll]
      exact parts.node (fun x => x.1 ++ x.2) 0 fun x => sizeAll_append x.1 x.2

end

/-- A simplified expression or chunk is never larger than it was, and it is as large only if it is
the same: whatever changes a tree takes nodes away. -/
theorem size_simplify_le_and_eq_of_size_eq :
    (∀ e : Expr, e.simplify.size ≤ e.size ∧ (e.simplify.size = e.size → e.simplify = e)) ∧
    ∀ chunk : List Stmt, sizeAll (simplifyAll chunk) ≤ sizeAll chunk ∧
      (sizeAll (simplifyAll chunk) = sizeAll chunk → simplifyAll chunk = chunk) := by
  constructor
  · intro e
    have shrinks := e.shrinks_simplify
    exact ⟨shrinks.le, shrinks.eq_of_size_eq⟩
  · intro chunk
    have shrinks := shrinks_simplifyAll chunk
    exact ⟨shrinks.le, shrinks.eq_of_size_eq⟩

end Stmt
end JobLang.Typed
