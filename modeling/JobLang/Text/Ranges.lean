/-!
# Sets of characters as ranges

The character classes of the language are standard Unicode properties, and each is written down
as a list of closed ranges of code points in increasing order. This module holds the membership
test that all of them share; the tables stand in modules of their own.
-/
namespace JobLang.Text

/-- Ranges that start at a code point or behind it, each of them behind the one before it. -/
def IncreasingFrom : Nat → List (Nat × Nat) → Prop
  | _, [] => True
  | least, (low, high) :: rest => least ≤ low ∧ low ≤ high ∧ IncreasingFrom (high + 1) rest

instance decidableIncreasingFrom : ∀ least ranges, Decidable (IncreasingFrom least ranges)
  | _, [] => inferInstanceAs (Decidable True)
  | least, (low, high) :: rest =>
    have := decidableIncreasingFrom (high + 1) rest
    inferInstanceAs (Decidable (least ≤ low ∧ low ≤ high ∧ IncreasingFrom (high + 1) rest))

/-- Closed ranges of code points, in increasing order and without overlap. -/
structure Ranges where
  list : List (Nat × Nat)
  increasing : IncreasingFrom 0 list := by decide +kernel

/-- Looks for the range of a code point, up to the first range above it. -/
def searchRanges : List (Nat × Nat) → Nat → Bool
  | [], _ => false
  | (low, high) :: rest, code =>
    if code < low then false
    else if code ≤ high then true
    else searchRanges rest code

theorem IncreasingFrom.le {least : Nat} {ranges : List (Nat × Nat)}
    (increasing : IncreasingFrom least ranges) : ∀ range ∈ ranges, least ≤ range.1 := by
  induction ranges generalizing least with
  | nil => exact List.forall_mem_nil _
  | cons range rest ih =>
    obtain ⟨start, ordered, later⟩ := increasing
    intro other member
    rcases List.mem_cons.mp member with rfl | member
    · exact start
    · have := ih later other member
      omega

theorem searchRanges_iff {least : Nat} {ranges : List (Nat × Nat)}
    (increasing : IncreasingFrom least ranges) (code : Nat) :
    searchRanges ranges code = true ↔ ∃ range ∈ ranges, range.1 ≤ code ∧ code ≤ range.2 := by
  induction ranges generalizing least with
  | nil => simp [searchRanges]
  | cons range rest ih =>
    obtain ⟨low, high⟩ := range
    obtain ⟨start, ordered, later⟩ := increasing
    have split : (∃ range ∈ (low, high) :: rest, range.1 ≤ code ∧ code ≤ range.2) ↔
        (low ≤ code ∧ code ≤ high) ∨ searchRanges rest code = true := by
      rw [ih later]
      simp only [List.mem_cons, exists_eq_or_imp]
    rw [split, searchRanges]
    by_cases below : code < low
    · -- All later ranges are above this one, so that the search may stop.
      have none : searchRanges rest code ≠ true := by
        intro found
        obtain ⟨range, member, reached, _⟩ := (ih later).mp found
        have := later.le range member
        omega
      rw [if_pos below]
      constructor
      · intro found
        cases found
      · rintro (inside | found)
        · omega
        · exact absurd found none
    · rw [if_neg below]
      by_cases inside : code ≤ high
      · rw [if_pos inside]
        exact ⟨fun _ => .inl ⟨Nat.not_lt.mp below, inside⟩, fun _ => rfl⟩
      · rw [if_neg inside]
        constructor
        · exact .inr
        · rintro (here | found)
          · omega
          · exact found

/-- Whether a code point lies in one of the ranges. -/
def Ranges.contains (ranges : Ranges) (code : Nat) : Bool := searchRanges ranges.list code

theorem Ranges.contains_iff (ranges : Ranges) (code : Nat) :
    ranges.contains code = true ↔ ∃ range ∈ ranges.list, range.1 ≤ code ∧ code ≤ range.2 :=
  searchRanges_iff ranges.increasing code

end JobLang.Text
