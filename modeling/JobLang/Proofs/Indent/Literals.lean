import JobLang.Text.Indent

/-!
# Literals in a text, and what the layout writes for a character

A string literal starts with a quote outside of literals and ends with the next quote that has no
active backslash before it. What stands outside of literals is only known by reading the text from
its start, so whatever is said about it here is said along such a reading. The layout reads a text
in the same way: what it does at one character, and in which state it goes on, is listed once, one
rule for each case.
-/
namespace JobLang.Text

/-- Where a character stands, as far as string literals are concerned. -/
inductive Side
  | outside
  | inside
  /-- Inside, and behind an active backslash. -/
  | escaped
deriving DecidableEq

def Side.next : Side → Char → Side
  | .outside, c => if c = '"' then .inside else .outside
  | .inside, c => if c = '\\' then .escaped else if c = '"' then .outside else .inside
  | .escaped, _ => .inside

/-- The text without the spaces and line feeds outside of literals. -/
def strip : Side → List Char → List Char
  | _, [] => []
  | side, c :: rest =>
    if side = .outside ∧ (c = ' ' ∨ c = '\n') then strip side rest
    else c :: strip (side.next c) rest

/-- The literals of a text, each with its quotes. Inside of a literal the first one is what is left
of that literal. The last literal may have no quote at its end. -/
def literals : Side → List Char → List (List Char)
  | .outside, [] => []
  | .outside, c :: rest =>
    if c = '"' then (literals .inside rest).modifyHead (c :: ·) else literals .outside rest
  | .inside, [] | .escaped, [] => [[]]
  | .inside, c :: rest =>
    if c = '"' then [c] :: literals .outside rest
    else (literals (Side.inside.next c) rest).modifyHead (c :: ·)
  | .escaped, c :: rest => (literals .inside rest).modifyHead (c :: ·)

/-- Behind a space and behind a line feed a text goes on as before them. -/
theorem next_of_blank {c : Char} (blank : c = ' ' ∨ c = '\n') : Side.outside.next c = .outside := by
  rcases blank with rfl | rfl <;> rfl

/-- The spaces and line feeds outside of literals do not matter for the literals. -/
theorem literals_strip (side : Side) (text : List Char) :
    literals side (strip side text) = literals side text := by
  induction text generalizing side with
  | nil => rfl
  | cons c rest ih =>
    rw [strip]
    by_cases blank : side = .outside ∧ (c = ' ' ∨ c = '\n')
    · obtain ⟨rfl, blank⟩ := blank
      have other : c ≠ '"' := by rcases blank with rfl | rfl <;> decide
      rw [if_pos ⟨rfl, blank⟩, ih, literals, if_neg other]
    · rw [if_neg blank]
      cases side with
      | outside =>
        by_cases quote : c = '"'
        · have entered : Side.outside.next c = .inside := if_pos quote
          rw [literals, literals, if_pos quote, if_pos quote, entered, ih]
        · have stayed : Side.outside.next c = .outside := if_neg quote
          rw [literals, literals, if_neg quote, if_neg quote, stayed, ih]
      | inside =>
        by_cases quote : c = '"'
        · subst quote
          exact congrArg (['"'] :: ·) (ih .outside)
        · rw [literals, literals, if_neg quote, if_neg quote, ih]
      | escaped => exact congrArg (List.modifyHead (c :: ·)) (ih .inside)

example : literals .outside "a \"b\\\" \" , \"c ".toList =
    ["\"b\\\" \"".toList, "\"c ".toList] := by decide

/-- What is left of a text depends on its first character and on what is left behind it. -/
theorem strip_cons_congr {side : Side} {c : Char} {rest rest' : List Char}
    (same : strip (side.next c) rest = strip (side.next c) rest') :
    strip side (c :: rest) = strip side (c :: rest') := by
  rw [strip, strip]
  by_cases blank : side = .outside ∧ (c = ' ' ∨ c = '\n')
  · obtain ⟨rfl, blank⟩ := blank
    rw [next_of_blank blank] at same
    rw [if_pos ⟨rfl, blank⟩, if_pos ⟨rfl, blank⟩, same]
  · rw [if_neg blank, if_neg blank, same]

/-- Spaces and line feeds. -/
def IsGap (text : List Char) : Prop := ∀ c ∈ text, c = ' ' ∨ c = '\n'

theorem strip_gap_append {gap : List Char} (blank : IsGap gap) (text : List Char) :
    strip .outside (gap ++ text) = strip .outside text := by
  induction gap with
  | nil => rfl
  | cons c gap ih =>
    obtain ⟨first, blank⟩ := List.forall_mem_cons.mp blank
    rw [List.cons_append, strip, if_pos ⟨rfl, first⟩, ih blank]

namespace Indent

theorem isGap_newline (depth : Nat) : IsGap (newline depth) := by
  intro c member
  rcases List.mem_cons.mp member with rfl | member
  · exact .inr rfl
  · exact .inl (List.eq_of_mem_replicate member)

def IsOpener (c : Char) : Prop := c = '\x7b' ∨ c = '(' ∨ c = '['

def IsCloser (c : Char) : Prop := c = '\x7d' ∨ c = ')' ∨ c = ']'

instance (c : Char) : Decidable (IsOpener c) :=
  inferInstanceAs (Decidable (c = '\x7b' ∨ c = '(' ∨ c = '['))

instance (c : Char) : Decidable (IsCloser c) :=
  inferInstanceAs (Decidable (c = '\x7d' ∨ c = ')' ∨ c = ']'))

/-- The side of the next character. -/
def Mode.side : Mode → Side
  | .plain | .dropSpace => .outside
  | .quoted => .inside
  | .escaped => .escaped

/-- What is written for a character in a state, and the state behind it. -/
inductive Step : State → Char → List Char → State → Prop
  | escaped (depth : Nat) (c : Char) : Step ⟨depth, .escaped⟩ c [c] ⟨depth, .quoted⟩
  | backslash (depth : Nat) : Step ⟨depth, .quoted⟩ '\\' ['\\'] ⟨depth, .escaped⟩
  | quoteEnd (depth : Nat) : Step ⟨depth, .quoted⟩ '"' ['"'] ⟨depth, .plain⟩
  | quoted (depth : Nat) {c : Char} (backslash : c ≠ '\\') (quote : c ≠ '"') :
      Step ⟨depth, .quoted⟩ c [c] ⟨depth, .quoted⟩
  | quoteStart {state : State} (outside : state.mode.side = .outside) :
      Step state '"' ['"'] ⟨state.depth, .quoted⟩
  | opener {state : State} {c : Char} (outside : state.mode.side = .outside) (opens : IsOpener c) :
      Step state c (c :: newline (state.depth + 1))
        ⟨state.depth + 1, if c = '\x7b' then .dropSpace else state.mode⟩
  | closer {state : State} {c : Char} (outside : state.mode.side = .outside) (closes : IsCloser c) :
      Step state c (newline (state.depth - 1) ++ [c]) ⟨state.depth - 1, state.mode⟩
  | comma {state : State} (outside : state.mode.side = .outside) :
      Step state ',' (',' :: newline state.depth) ⟨state.depth, .dropSpace⟩
  | dropped (depth : Nat) : Step ⟨depth, .dropSpace⟩ ' ' [] ⟨depth, .plain⟩
  | kept {state : State} {c : Char} (outside : state.mode.side = .outside) (quote : c ≠ '"')
      (opens : ¬IsOpener c) (closes : ¬IsCloser c) (comma : c ≠ ',')
      (space : c = ' ' → state.mode = .plain) : Step state c [c] state

theorem step_of_other {state : State} {c : Char} (outside : state.mode.side = .outside)
    (quote : c ≠ '"') (opens : ¬IsOpener c) (closes : ¬IsCloser c) (comma : c ≠ ',')
    (space : c ≠ ' ') : Step state c (state.emit c) (state.next c) := by
  have kept : Step state c [c] state :=
    .kept outside quote opens closes comma fun space' => absurd space' space
  obtain ⟨depth, mode⟩ := state
  simp only [IsOpener, IsCloser, not_or] at opens closes
  cases mode with
  | quoted | escaped => cases outside
  | plain | dropSpace =>
    simpa [State.emit, State.next, quote, opens, closes, comma, space] using kept

/-- The layout does what the rules say. -/
theorem step (state : State) (c : Char) : Step state c (state.emit c) (state.next c) := by
  obtain ⟨depth, mode⟩ := state
  cases mode with
  | escaped => exact .escaped depth c
  | quoted =>
    by_cases backslash : c = '\\'
    · subst backslash
      exact .backslash depth
    by_cases quote : c = '"'
    · subst quote
      exact .quoteEnd depth
    have same : State.next ⟨depth, .quoted⟩ c = ⟨depth, .quoted⟩ := by
      simp [State.next, backslash, quote]
    rw [same]
    exact .quoted depth backslash quote
  | plain | dropSpace =>
    by_cases quote : c = '"'
    · subst quote
      exact .quoteStart rfl
    by_cases opens : IsOpener c
    · rcases opens with rfl | rfl | rfl <;> exact .opener rfl (by decide)
    by_cases closes : IsCloser c
    · rcases closes with rfl | rfl | rfl <;> exact .closer rfl (by decide)
    by_cases comma : c = ','
    · subst comma
      exact .comma rfl
    by_cases space : c = ' '
    · subst space
      first
        | exact .dropped depth
        | exact .kept rfl quote opens closes comma fun _ => rfl
    · exact step_of_other rfl quote opens closes comma space

end Indent
end JobLang.Text
