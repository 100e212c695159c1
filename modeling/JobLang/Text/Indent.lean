/-!
# Indented text

A text with brackets on one line is laid out over many: a line starts behind every opening bracket
and every comma and before every closing bracket, two spaces deeper for each bracket that is still
open. String literals are copied as they are, so that a bracket inside one does not count.
-/
namespace JobLang.Text.Indent

/-- What the next character means. -/
inductive Mode
  /-- Outside a string literal. -/
  | plain
  /-- Outside a string literal, and the next space is left out. -/
  | dropSpace
  /-- Inside a string literal. -/
  | quoted
  /-- Inside a string literal, behind an active backslash. -/
  | escaped
deriving DecidableEq, Repr, Inhabited

structure State where
  /-- The number of open brackets; a closing bracket too many does not lower it below zero. -/
  depth : Nat
  mode : Mode
deriving DecidableEq, Repr, Inhabited

/-- A new line with the indentation for a number of open brackets. -/
def newline (depth : Nat) : List Char := '\n' :: List.replicate (2 * depth) ' '

/-- The state behind a character. The space that is to be left out may come later, behind other
characters, unless a string literal starts first. -/
def State.next (state : State) (c : Char) : State :=
  match state.mode with
  | .escaped => { state with mode := .quoted }
  | .quoted =>
    if c = '\\' then { state with mode := .escaped }
    else if c = '"' then { state with mode := .plain }
    else state
  | .plain | .dropSpace =>
    if c = '"' then { state with mode := .quoted }
    else if c = '\x7b' then ⟨state.depth + 1, .dropSpace⟩
    else if c = '(' ∨ c = '[' then { state with depth := state.depth + 1 }
    else if c = '\x7d' ∨ c = ')' ∨ c = ']' then { state with depth := state.depth - 1 }
    else if c = ',' then { state with mode := .dropSpace }
    else if c = ' ' then { state with mode := .plain }
    else state

/-- What is written for a character. -/
def State.emit (state : State) (c : Char) : List Char :=
  match state.mode with
  | .quoted | .escaped => [c]
  | .plain | .dropSpace =>
    if c = '\x7b' ∨ c = '(' ∨ c = '[' then c :: newline (state.depth + 1)
    else if c = '\x7d' ∨ c = ')' ∨ c = ']' then newline (state.depth - 1) ++ [c]
    else if c = ',' then c :: newline state.depth
    else if c = ' ' ∧ state.mode = .dropSpace then []
    else [c]

/-- Lays out the rest of a text from a state on. -/
def layoutFrom (state : State) : List Char → List Char
  | [] => []
  | c :: rest => state.emit c ++ layoutFrom (state.next c) rest

/-- The state before the first character. -/
def State.start : State := ⟨0, .plain⟩

end Indent

/-- The text laid out over lines. -/
def indent (text : String) : String :=
  String.ofList (Indent.layoutFrom Indent.State.start text.toList)

end JobLang.Text
