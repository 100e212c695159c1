import JobLang.Proofs.Indent.Lossless

/-!
# Brackets

A bracket of a text counts if it stands outside of literals. Reading a text from its start keeps
the opening brackets that have not been closed, and comes to an end at a closing bracket that does
not belong to the innermost of them. The layout of a text has the brackets of the text, so that it
is read in the same way, and the depth of the layout is the number of brackets that are open.
-/
namespace JobLang.Text

open Indent (IsOpener IsCloser)

/-- How far a text has been read: where the next character stands, and the opening brackets that
have not been closed, the innermost first. -/
structure Reading where
  side : Side
  opened : List Char
deriving DecidableEq

/-- The closing bracket is of the kind of the opening one. -/
def Closes (opener closer : Char) : Prop :=
  (opener, closer) ∈ [('\x7b', '\x7d'), ('(', ')'), ('[', ']')]

instance (opener closer : Char) : Decidable (Closes opener closer) :=
  inferInstanceAs (Decidable ((opener, closer) ∈ [('\x7b', '\x7d'), ('(', ')'), ('[', ']')]))

theorem Closes.isCloser {opener closer : Char} (closes : Closes opener closer) :
    IsCloser closer := by
  simp only [Closes, List.mem_cons, Prod.mk.injEq, List.not_mem_nil, or_false] at closes
  rcases closes with ⟨_, rfl⟩ | ⟨_, rfl⟩ | ⟨_, rfl⟩ <;> decide

theorem Closes.isOpener {opener closer : Char} (closes : Closes opener closer) :
    IsOpener opener := by
  simp only [Closes, List.mem_cons, Prod.mk.injEq, List.not_mem_nil, or_false] at closes
  rcases closes with ⟨rfl, _⟩ | ⟨rfl, _⟩ | ⟨rfl, _⟩ <;> decide

theorem not_isCloser_of_isOpener {c : Char} (opens : IsOpener c) : ¬IsCloser c := by
  rcases opens with rfl | rfl | rfl <;> decide

theorem visible_of_isOpener {c : Char} (opens : IsOpener c) : c ≠ ' ' ∧ c ≠ '\n' := by
  rcases opens with rfl | rfl | rfl <;> decide

theorem visible_of_isCloser {c : Char} (closes : IsCloser c) : c ≠ ' ' ∧ c ≠ '\n' := by
  rcases closes with rfl | rfl | rfl <;> decide

namespace Reading

/-- The reading before the first character. -/
def start : Reading := ⟨.outside, []⟩

/-- Reads one more character. -/
def next? (reading : Reading) (c : Char) : Option Reading :=
  if reading.side = .outside ∧ IsOpener c then some ⟨.outside, c :: reading.opened⟩
  else if reading.side = .outside ∧ IsCloser c then
    match reading.opened with
    | opener :: around => if Closes opener c then some ⟨.outside, around⟩ else none
    | [] => none
  else some ⟨reading.side.next c, reading.opened⟩

/-- The reading behind a text. -/
def after? (reading : Reading) (text : List Char) : Option Reading := text.foldlM next? reading

/-- How one character is read. -/
inductive Step : Reading → Char → Reading → Prop
  | opener (around : List Char) {c : Char} (opens : IsOpener c) :
      Step ⟨.outside, around⟩ c ⟨.outside, c :: around⟩
  | closer {opener c : Char} (around : List Char) (closes : Closes opener c) :
      Step ⟨.outside, opener :: around⟩ c ⟨.outside, around⟩
  | other {side : Side} (opened : List Char) {c : Char}
      (plain : side = .outside → ¬IsOpener c ∧ ¬IsCloser c) :
      Step ⟨side, opened⟩ c ⟨side.next c, opened⟩

theorem next?_eq_some_iff {reading next : Reading} {c : Char} :
    reading.next? c = some next ↔ Step reading c next := by
  obtain ⟨side, opened⟩ := reading
  constructor
  · intro read
    by_cases opens : side = .outside ∧ IsOpener c
    · obtain ⟨rfl, opens⟩ := opens
      rw [next?, if_pos ⟨rfl, opens⟩] at read
      cases read
      exact .opener opened opens
    rw [next?, if_neg opens] at read
    by_cases closes : side = .outside ∧ IsCloser c
    · obtain ⟨rfl, closes⟩ := closes
      rw [if_pos ⟨rfl, closes⟩] at read
      cases opened with
      | nil => cases read
      | cons opener around =>
        simp only at read
        split at read
        · next pair =>
          cases read
          exact .closer around pair
        · cases read
    · rw [if_neg closes] at read
      cases read
      refine .other opened fun outside => ⟨fun opens' => ?_, fun closes' => ?_⟩
      · exact opens ⟨outside, opens'⟩
      · exact closes ⟨outside, closes'⟩
  · intro step
    cases step with
    | opener _ opens => rw [next?, if_pos ⟨rfl, opens⟩]
    | @closer opener _ around closes =>
      have other := mt not_isCloser_of_isOpener (not_not_intro closes.isCloser)
      rw [next?, if_neg (fun both => other both.2), if_pos ⟨rfl, closes.isCloser⟩]
      simp only [if_pos closes]
    | other _ plain =>
      rw [next?, if_neg (fun both => (plain both.1).1 both.2),
        if_neg (fun both => (plain both.1).2 both.2)]

/-- Brackets do not matter for the literals. -/
theorem Step.side {reading next : Reading} {c : Char} (step : Step reading c next) :
    next.side = reading.side.next c := by
  cases step with
  | opener _ opens => rcases opens with rfl | rfl | rfl <;> rfl
  | closer _ closes =>
    rcases closes.isCloser with rfl | rfl | rfl <;> rfl
  | other => rfl

/-- What is read stays readable inside of further brackets, which stay open. -/
theorem Step.inside {side side' : Side} {opened opened' : List Char} {c : Char}
    (step : Step ⟨side, opened⟩ c ⟨side', opened'⟩) (around : List Char) :
    Step ⟨side, opened ++ around⟩ c ⟨side', opened' ++ around⟩ := by
  cases step with
  | opener _ opens => exact .opener _ opens
  | closer _ closes => exact .closer _ closes
  | other _ plain => exact .other _ plain

theorem after?_cons (reading : Reading) (c : Char) (rest : List Char) :
    reading.after? (c :: rest) = (reading.next? c).bind (·.after? rest) := List.foldlM_cons

theorem after?_append (reading : Reading) (first second : List Char) :
    reading.after? (first ++ second) = (reading.after? first).bind (·.after? second) :=
  List.foldlM_append

theorem after?_cons_eq_some {reading last : Reading} {c : Char} {rest : List Char} :
    reading.after? (c :: rest) = some last ↔
      ∃ next, Step reading c next ∧ next.after? rest = some last := by
  simp only [after?_cons, Option.bind_eq_some_iff, next?_eq_some_iff]

theorem after?_append_eq_some {reading last : Reading} {first second : List Char} :
    reading.after? (first ++ second) = some last ↔
      ∃ middle, reading.after? first = some middle ∧ middle.after? second = some last := by
  simp only [after?_append, Option.bind_eq_some_iff]

theorem side_of_after? {reading last : Reading} {text : List Char}
    (read : reading.after? text = some last) :
    last.side = text.foldl Side.next reading.side := by
  induction text generalizing reading with
  | nil =>
    cases read
    rfl
  | cons c rest ih =>
    obtain ⟨next, step, read⟩ := after?_cons_eq_some.mp read
    rw [ih read, step.side]
    rfl

theorem after?_inside {side side' : Side} {opened opened' text : List Char}
    (read : after? ⟨side, opened⟩ text = some ⟨side', opened'⟩) (around : List Char) :
    after? ⟨side, opened ++ around⟩ text = some ⟨side', opened' ++ around⟩ := by
  induction text generalizing side opened with
  | nil =>
    cases read
    rfl
  | cons c rest ih =>
    obtain ⟨⟨middle, between⟩, step, read⟩ := after?_cons_eq_some.mp read
    exact after?_cons_eq_some.mpr ⟨_, step.inside around, ih read⟩

/-- A bracket that is open behind a text was open before it, and the text has closed what was open
inside of it; or it has been opened in the text, and what follows it there has closed what it
opened. -/
theorem exists_opener {side side' : Side} {opened around text : List Char} {opener : Char}
    (read : after? ⟨side, opened⟩ text = some ⟨side', opener :: around⟩) :
    (∃ closed, opened = closed ++ opener :: around ∧
      after? ⟨side, closed⟩ text = some ⟨side', []⟩) ∨
    ∃ before between, text = before ++ opener :: between ∧
      after? ⟨side, opened⟩ before = some ⟨.outside, around⟩ ∧
      after? start between = some ⟨side', []⟩ := by
  induction text generalizing side opened with
  | nil =>
    cases read
    exact .inl ⟨[], rfl, rfl⟩
  | cons c rest ih =>
    obtain ⟨next, step, read⟩ := after?_cons_eq_some.mp read
    have later {reading : Reading} {before between : List Char}
        (step : Step ⟨side, opened⟩ c reading) (split : rest = before ++ opener :: between)
        (first : reading.after? before = some ⟨.outside, around⟩)
        (inner : after? start between = some ⟨side', []⟩) :
        ∃ before between, c :: rest = before ++ opener :: between ∧
          after? ⟨side, opened⟩ before = some ⟨.outside, around⟩ ∧
          after? start between = some ⟨side', []⟩ :=
      ⟨c :: before, between, by rw [split, List.cons_append],
        after?_cons_eq_some.mpr ⟨reading, step, first⟩, inner⟩
    cases step with
    | opener _ opens =>
      rcases ih read with ⟨closed, split, inner⟩ | ⟨before, between, split, first, inner⟩
      · cases closed with
        | nil =>
          -- The bracket is the one just read, and the rest closes what it opens.
          cases split
          exact .inr ⟨[], rest, rfl, rfl, inner⟩
        | cons own closed =>
          cases split
          exact .inl ⟨closed, rfl, after?_cons_eq_some.mpr ⟨_, .opener closed opens, inner⟩⟩
      · exact .inr (later (.opener _ opens) split first inner)
    | @closer own _ behind closes =>
      rcases ih read with ⟨closed, split, inner⟩ | ⟨before, between, split, first, inner⟩
      · subst split
        have whole := after?_cons_eq_some.mpr ⟨_, .closer closed closes, inner⟩
        exact .inl ⟨own :: closed, rfl, whole⟩
      · exact .inr (later (.closer _ closes) split first inner)
    | other _ plain =>
      rcases ih read with ⟨closed, split, inner⟩ | ⟨before, between, split, first, inner⟩
      · exact .inl ⟨closed, split, after?_cons_eq_some.mpr ⟨_, .other closed plain, inner⟩⟩
      · exact .inr (later (.other _ plain) split first inner)

/-- Spaces and line feeds outside of literals are no brackets. -/
theorem after?_gap {gap : List Char} (blank : IsGap gap) (opened : List Char) :
    after? ⟨.outside, opened⟩ gap = some ⟨.outside, opened⟩ := by
  induction gap with
  | nil => rfl
  | cons c rest ih =>
    obtain ⟨first, blank⟩ := List.forall_mem_cons.mp blank
    have step : Step ⟨.outside, opened⟩ c ⟨.outside, opened⟩ := by
      have plain : ¬IsOpener c ∧ ¬IsCloser c := by rcases first with rfl | rfl <;> decide
      have stays : Step ⟨.outside, opened⟩ c ⟨Side.outside.next c, opened⟩ :=
        .other opened fun _ => plain
      rwa [next_of_blank first] at stays
    exact after?_cons_eq_some.mpr ⟨_, step, ih blank⟩

end Reading

namespace Indent

/-- What is written for a character is read as the character. -/
theorem Step.after?_eq {state next : State} {c : Char} {written : List Char}
    (step : Step state c written next) (opened : List Char) :
    Reading.after? ⟨state.mode.side, opened⟩ written =
      Reading.next? ⟨state.mode.side, opened⟩ c := by
  have alone : Reading.after? ⟨state.mode.side, opened⟩ [c] =
      Reading.next? ⟨state.mode.side, opened⟩ c := by
    rw [Reading.after?_cons]
    exact Option.bind_fun_some _
  cases step with
  | escaped | backslash | quoteEnd | quoted | quoteStart | kept => exact alone
  | @opener state c outside opens =>
    have read : Reading.next? ⟨.outside, opened⟩ c = some ⟨.outside, c :: opened⟩ :=
      Reading.next?_eq_some_iff.mpr (.opener opened opens)
    rw [outside, Reading.after?_cons, read]
    exact Reading.after?_gap (isGap_newline _) _
  | closer outside =>
    rw [outside] at alone ⊢
    rw [Reading.after?_append, Reading.after?_gap (isGap_newline _)]
    exact alone
  | comma outside =>
    have read : Reading.next? ⟨.outside, opened⟩ ',' = some ⟨.outside, opened⟩ :=
      Reading.next?_eq_some_iff.mpr (.other opened fun _ => by decide)
    rw [outside, Reading.after?_cons, read]
    exact Reading.after?_gap (isGap_newline _) _
  | dropped =>
    have read : Reading.next? ⟨.outside, opened⟩ ' ' = some ⟨.outside, opened⟩ :=
      Reading.next?_eq_some_iff.mpr (.other opened fun _ => by decide)
    exact read.symm

/-- A text has been read as far as it has been laid out: the depth is the number of open
brackets. -/
structure State.Agrees (state : State) (reading : Reading) : Prop where
  side : reading.side = state.mode.side
  depth : reading.opened.length = state.depth

theorem Step.agrees {state next : State} {c : Char} {written : List Char}
    {reading read : Reading} (step : Step state c written next) (reads : reading.Step c read)
    (agrees : state.Agrees reading) : next.Agrees read where
  side := by rw [reads.side, agrees.side, step.side]
  depth := by
    have depth := agrees.depth
    have side := agrees.side
    cases reads with
    | opener around opens =>
      cases step with
      | escaped | backslash | quoteEnd | quoted => cases side
      | opener => simpa using depth
      | closer _ closes => exact absurd closes (not_isCloser_of_isOpener opens)
      | quoteStart | comma | dropped => exact absurd opens (by decide)
      | kept _ _ other => exact absurd opens other
    | closer around closes =>
      have closer := closes.isCloser
      cases step with
      | escaped | backslash | quoteEnd | quoted => cases side
      | opener _ opens => exact absurd closer (not_isCloser_of_isOpener opens)
      | closer =>
        rw [List.length_cons] at depth
        change around.length = _ - 1
        omega
      | quoteStart | comma | dropped => exact absurd closer (by decide)
      | kept _ _ _ other => exact absurd closer other
    | other opened plain =>
      cases step with
      | opener outside opens => exact absurd opens (plain (side.trans outside)).1
      | closer outside closes => exact absurd closes (plain (side.trans outside)).2
      | escaped | backslash | quoteEnd | quoted | quoteStart | comma | dropped | kept => exact depth

/-- Behind every part of a text that can be read, the depth is the number of open brackets. -/
theorem State.Agrees.run {state : State} {reading last : Reading} {text : List Char}
    (agrees : state.Agrees reading) (read : reading.after? text = some last) :
    (text.foldl State.next state).Agrees last := by
  induction text generalizing state reading with
  | nil =>
    cases read
    exact agrees
  | cons c rest ih =>
    obtain ⟨next, reads, read⟩ := Reading.after?_cons_eq_some.mp read
    exact ih ((step state c).agrees reads agrees) read

/-- A layout is read as the text. -/
theorem after?_layoutFrom {state : State} {reading : Reading}
    (side : reading.side = state.mode.side) (text : List Char) :
    reading.after? (layoutFrom state text) = reading.after? text := by
  induction text generalizing state reading with
  | nil => rfl
  | cons c rest ih =>
    obtain ⟨own, opened⟩ := reading
    subst side
    rw [layoutFrom, Reading.after?_append, (step state c).after?_eq, Reading.after?_cons]
    cases read : Reading.next? ⟨state.mode.side, opened⟩ c with
    | none => rfl
    | some next =>
      have after := (Reading.next?_eq_some_iff.mp read).side
      rw [Option.bind_some, Option.bind_some, ih]
      rw [after, (step state c).side]

end Indent
end JobLang.Text
