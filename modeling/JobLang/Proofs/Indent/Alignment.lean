import JobLang.Proofs.Indent.Brackets
import Mathlib.Data.List.DropRight

/-!
# Brackets that line up

Every line of a layout starts with the spaces that its depth asks for, and goes on, if the text has
no spaces of its own where a line starts, with something else than a space. A line that is not ended
keeps its depth: the depth changes at brackets only, and there a new line starts. So an opening
bracket stands on a line with the indentation of the brackets around it, and so does the bracket
that closes it, which is the first on its line.
-/
namespace JobLang.Text

open Indent (IsOpener IsCloser)

/-- What stands behind the last line feed of a text. -/
def lastLine (text : List Char) : List Char := text.rtakeWhile (· ≠ '\n')

/-- The line of a text that goes through the place between its two parts. -/
def lineAround (before behind : List Char) : List Char :=
  lastLine before ++ behind.takeWhile (· ≠ '\n')

/-- The number of spaces that a line starts with. -/
def leadingSpaces (line : List Char) : Nat := (line.takeWhile (· = ' ')).length

theorem lastLine_append {more : List Char} (single : '\n' ∉ more) (text : List Char) :
    lastLine (text ++ more) = lastLine text ++ more := by
  have all : ∀ c ∈ more.reverse, decide (c ≠ '\n') = true := by
    intro c member
    have other : c ≠ '\n' := fun feed => single (feed ▸ List.mem_reverse.mp member)
    exact decide_eq_true other
  rw [lastLine, List.rtakeWhile, List.reverse_append, List.takeWhile_append_of_pos all,
    List.reverse_append, List.reverse_reverse]
  rfl

theorem lastLine_append_feed (text : List Char) : lastLine (text ++ ['\n']) = [] := by
  simp [lastLine, List.rtakeWhile]

theorem lastLine_append_newline (text : List Char) (depth : Nat) :
    lastLine (text ++ Indent.newline depth) = List.replicate (2 * depth) ' ' := by
  have spaces : '\n' ∉ List.replicate (2 * depth) ' ' :=
    fun member => absurd (List.eq_of_mem_replicate member) (by decide)
  have split : text ++ Indent.newline depth = text ++ ['\n'] ++ List.replicate (2 * depth) ' ' := by
    rw [Indent.newline, List.append_assoc]
    rfl
  rw [split, lastLine_append spaces, lastLine_append_feed, List.nil_append]

theorem leadingSpaces_space (rest : List Char) :
    leadingSpaces (' ' :: rest) = leadingSpaces rest + 1 := by
  simp [leadingSpaces]

theorem leadingSpaces_of_ne {c : Char} (visible : c ≠ ' ') (rest : List Char) :
    leadingSpaces (c :: rest) = 0 := by
  simp [leadingSpaces, visible]

theorem leadingSpaces_replicate_append (n : Nat) {c : Char} (visible : c ≠ ' ')
    (rest : List Char) : leadingSpaces (List.replicate n ' ' ++ c :: rest) = n := by
  induction n with
  | zero => exact leadingSpaces_of_ne visible rest
  | succ n ih => rw [List.replicate_succ, List.cons_append, leadingSpaces_space, ih]

/-- Outside of literals there is no space directly behind a parenthesis or a square bracket that
opens, and one at most directly behind an opening brace and behind a comma. -/
def Tidy : Side → List Char → Prop
  | _, [] => True
  | side, c :: rest =>
    (side = .outside → (c = '(' ∨ c = '[' → leadingSpaces rest = 0) ∧
      (c = '\x7b' ∨ c = ',' → leadingSpaces rest ≤ 1)) ∧ Tidy (side.next c) rest

instance decidableTidy : ∀ (side : Side) (text : List Char), Decidable (Tidy side text)
  | _, [] => inferInstanceAs (Decidable True)
  | side, c :: rest =>
    have := decidableTidy (side.next c) rest
    inferInstanceAs (Decidable (_ ∧ Tidy (side.next c) rest))

namespace Indent

/-- A line with the indentation of a depth, which is fresh if there is nothing else on it yet. -/
inductive Margin (depth : Nat) : Bool → List Char → Prop
  | fresh : Margin depth true (List.replicate (2 * depth) ' ')
  | begun {c : Char} (visible : c ≠ ' ') (rest : List Char) :
      Margin depth false (List.replicate (2 * depth) ' ' ++ c :: rest)

section Margins
variable {depth : Nat} {fresh : Bool} {line : List Char}

theorem Margin.append (margin : Margin depth fresh line) {c : Char}
    (visible : fresh = true → c ≠ ' ') : Margin depth false (line ++ [c]) := by
  cases margin with
  | fresh => exact .begun (visible rfl) []
  | begun other rest =>
    rw [List.append_assoc]
    exact .begun other (rest ++ [c])

theorem Margin.leadingSpaces_append (margin : Margin depth fresh line) {c : Char}
    (visible : c ≠ ' ') (rest : List Char) : leadingSpaces (line ++ c :: rest) = 2 * depth := by
  cases margin with
  | fresh => exact leadingSpaces_replicate_append _ visible rest
  | begun other begun =>
    rw [List.append_assoc]
    exact leadingSpaces_replicate_append _ other _

end Margins

/-- What has been laid out ends in a line with the indentation of the depth, and if the line is
fresh, the text goes on without a space that is kept. -/
def State.Aligned (state : State) (laid rest : List Char) : Prop :=
  ∃ fresh, Margin state.depth fresh (lastLine laid) ∧
    (fresh = true → leadingSpaces rest ≤ if state.mode = .dropSpace then 1 else 0)

theorem Step.aligned {state next : State} {c : Char} {written laid rest : List Char}
    (step : Step state c written next) (aligned : state.Aligned laid (c :: rest))
    (tidy : Tidy state.mode.side (c :: rest)) (feed : c ≠ '\n') :
    next.Aligned (laid ++ written) rest := by
  obtain ⟨fresh, margin, blank⟩ := aligned
  -- A character that is kept as it is ends up on the same line, which is fresh no more.
  have kept {mode : Mode} (visible : fresh = true → c ≠ ' ') :
      State.Aligned ⟨state.depth, mode⟩ (laid ++ [c]) rest := by
    refine ⟨false, ?_, nofun⟩
    rw [lastLine_append (by simpa using feed.symm)]
    exact margin.append visible
  have visible (writes : state.mode ≠ .dropSpace) : fresh = true → c ≠ ' ' := by
    rintro here rfl
    have few := blank here
    rw [if_neg writes, leadingSpaces_space] at few
    omega
  cases step with
  | escaped | backslash | quoteEnd | quoted => exact kept (visible nofun)
  | quoteStart => exact kept fun _ => by decide
  | @kept state c _ _ _ _ _ space =>
    refine kept fun here => ?_
    rintro rfl
    have writes : state.mode ≠ .dropSpace := by rw [space rfl]; decide
    exact visible writes here rfl
  | @opener state c outside opens =>
    refine ⟨true, ?_, fun _ => ?_⟩
    · rw [List.append_cons, lastLine_append_newline]
      exact .fresh
    · obtain ⟨none, one⟩ := tidy.1 outside
      rcases opens with rfl | rfl | rfl
      · exact one (.inl rfl)
      · exact Nat.le_of_eq (none (.inl rfl)) |>.trans (Nat.zero_le _)
      · exact Nat.le_of_eq (none (.inr rfl)) |>.trans (Nat.zero_le _)
  | @closer state c outside closes =>
    refine ⟨false, ?_, nofun⟩
    rw [← List.append_assoc, lastLine_append (by simpa using feed.symm), lastLine_append_newline]
    exact .begun (visible_of_isCloser closes).1 []
  | comma outside =>
    refine ⟨true, ?_, fun _ => (tidy.1 outside).2 (.inr rfl)⟩
    rw [List.append_cons, lastLine_append_newline]
    exact .fresh
  | dropped depth =>
    refine ⟨fresh, by rwa [List.append_nil], fun here => ?_⟩
    have few := blank here
    rw [if_pos rfl, leadingSpaces_space] at few
    rw [if_neg nofun]
    omega

/-- A part of a tidy text is laid out so that its last line has the indentation of the depth. -/
theorem State.Aligned.run {state : State} {laid text rest : List Char}
    (aligned : state.Aligned laid (text ++ rest)) (tidy : Tidy state.mode.side (text ++ rest))
    (single : '\n' ∉ text) :
    (text.foldl State.next state).Aligned (laid ++ layoutFrom state text) rest := by
  induction text generalizing state laid with
  | nil =>
    rw [layoutFrom, List.append_nil]
    exact aligned
  | cons c text ih =>
    obtain ⟨feed, single⟩ := not_or.mp (mt List.mem_cons.mpr single)
    have next := (step state c).aligned aligned tidy (Ne.symm feed)
    have tidy' : Tidy (state.next c).mode.side (text ++ rest) := by
      rw [(step state c).side]
      exact tidy.2
    rw [layoutFrom, ← List.append_assoc]
    exact ih next tidy' single

theorem State.aligned_start {text : List Char} (first : leadingSpaces text = 0) :
    State.start.Aligned [] text := by
  have empty : Margin 0 true (lastLine []) := .fresh
  exact ⟨true, empty, fun _ => Nat.le_of_eq first⟩

/-- What is written for a character before the character itself. -/
def State.lead (state : State) (c : Char) : List Char :=
  if state.mode.side = .outside ∧ IsCloser c then newline (state.depth - 1) else []

/-- Of what is written for a character, the character itself is all that is no gap. -/
theorem Step.split {state next : State} {c d : Char} {written before behind : List Char}
    (step : Step state c written next) (parts : written = before ++ d :: behind)
    (visible : d ≠ ' ' ∧ d ≠ '\n') : d = c ∧ before = state.lead c := by
  have apart {gap : List Char} (blank : IsGap gap) : d ∉ gap := by
    intro member
    rcases blank d member with rfl | rfl
    · exact visible.1 rfl
    · exact visible.2 rfl
  have alone (single : [c] = before ++ d :: behind) (none : state.lead c = []) :
      d = c ∧ before = state.lead c := by
    rw [none]
    cases before with
    | nil =>
      cases single
      exact ⟨rfl, rfl⟩
    | cons b before => simp at single
  have first {gap : List Char} (blank : IsGap gap) (parts : c :: gap = before ++ d :: behind)
      (none : state.lead c = []) : d = c ∧ before = state.lead c := by
    rw [none]
    cases before with
    | nil =>
      cases parts
      exact ⟨rfl, rfl⟩
    | cons b before =>
      cases parts
      exact absurd (List.mem_append_right _ (List.mem_cons_self ..)) (apart blank)
  cases step with
  | escaped | backslash | quoteEnd | quoted => exact alone parts (if_neg nofun)
  | quoteStart => exact alone parts (if_neg fun both => absurd both.2 (by decide))
  | kept _ _ _ closes => exact alone parts (if_neg fun both => closes both.2)
  | opener _ opens =>
    exact first (isGap_newline _) parts (if_neg fun both => not_isCloser_of_isOpener opens both.2)
  | comma => exact first (isGap_newline _) parts (if_neg fun both => absurd both.2 (by decide))
  | dropped => simp at parts
  | closer outside closes =>
    have lead : state.lead c = newline (state.depth - 1) := if_pos ⟨outside, closes⟩
    rw [lead]
    rcases List.append_eq_append_iff.mp parts with ⟨more, whole, tail⟩ | ⟨more, whole, tail⟩
    · cases more with
      | nil =>
        cases tail
        exact ⟨rfl, by rw [whole, List.append_nil]⟩
      | cons b more => simp at tail
    · cases more with
      | nil =>
        cases tail
        exact ⟨rfl, by rw [whole, List.append_nil]⟩
      | cons b more =>
        cases tail
        have member : d ∈ newline (state.depth - 1) := by
          rw [whole]
          exact List.mem_append_right _ (List.mem_cons_self ..)
        exact absurd member (apart (isGap_newline _))

/-- A character of a layout that is no gap has been laid out for a character of the text. -/
theorem exists_of_layoutFrom {state : State} {text before behind : List Char} {d : Char}
    (parts : layoutFrom state text = before ++ d :: behind) (visible : d ≠ ' ' ∧ d ≠ '\n') :
    ∃ earlier later, text = earlier ++ d :: later ∧
      before = layoutFrom state earlier ++ (earlier.foldl State.next state).lead d := by
  induction text generalizing state before with
  | nil => simp [layoutFrom] at parts
  | cons c rest ih =>
    have further {before' : List Char} (whole : before = state.emit c ++ before')
        (parts' : layoutFrom (state.next c) rest = before' ++ d :: behind) :
        ∃ earlier later, c :: rest = earlier ++ d :: later ∧
          before = layoutFrom state earlier ++ (earlier.foldl State.next state).lead d := by
      obtain ⟨earlier, later, rfl, same⟩ := ih parts'
      refine ⟨c :: earlier, later, rfl, ?_⟩
      rw [whole, same, layoutFrom, List.append_assoc]
      rfl
    rw [layoutFrom] at parts
    rcases List.append_eq_append_iff.mp parts with ⟨more, whole, tail⟩ | ⟨more, whole, tail⟩
    · exact further whole tail
    · cases more with
      | nil =>
        have whole' : before = state.emit c ++ [] := by rw [whole, List.append_nil, List.append_nil]
        exact further whole' tail.symm
      | cons b more =>
        cases tail
        obtain ⟨rfl, lead⟩ := (step state c).split whole visible
        exact ⟨[], rest, rfl, lead⟩

end Indent

/-- The brackets of a text outside of literals are properly nested. -/
def Nested (text : List Char) : Prop := ∃ side, Reading.start.after? text = some ⟨side, []⟩

/-- An opening bracket of a text, the closing one that belongs to it, and the opening brackets that
are open around the two. -/
structure Paired (text before : List Char) (opener : Char) (between : List Char) (closer : Char)
    (behind around : List Char) : Prop where
  split : text = before ++ opener :: between ++ closer :: behind
  outside : Reading.start.after? before = some ⟨.outside, around⟩
  closes : Closes opener closer
  nested : Reading.start.after? between = some ⟨.outside, []⟩

section Pairs
variable {text before between behind around : List Char} {opener closer : Char}

theorem Paired.opened (paired : Paired text before opener between closer behind around) :
    Reading.start.after? (before ++ opener :: between) = some ⟨.outside, opener :: around⟩ := by
  refine Reading.after?_append_eq_some.mpr ⟨_, paired.outside, ?_⟩
  refine Reading.after?_cons_eq_some.mpr ⟨_, .opener around paired.closes.isOpener, ?_⟩
  exact Reading.after?_inside paired.nested (opener :: around)

/-- In a nested text, a closing bracket belongs to an opening one. -/
theorem exists_paired (nested : Nested text) {front : List Char}
    (split : text = front ++ closer :: behind) (closes : IsCloser closer)
    (outside : front.foldl Side.next .outside = .outside) :
    ∃ before opener between around, front = before ++ opener :: between ∧
      Paired text before opener between closer behind around := by
  obtain ⟨side, read⟩ := nested
  rw [split] at read
  obtain ⟨⟨middle, opened⟩, first, read⟩ := Reading.after?_append_eq_some.mp read
  obtain ⟨next, step, _⟩ := Reading.after?_cons_eq_some.mp read
  have here : middle = .outside := (Reading.side_of_after? first).trans outside
  subst here
  cases step with
  | opener _ opens => exact absurd closes (not_isCloser_of_isOpener opens)
  | other _ plain => exact absurd closes (plain rfl).2
  | @closer opener _ around pair =>
    rcases Reading.exists_opener first with ⟨closed, none, _⟩ | ⟨before, between, whole, rest⟩
    · cases closed <;> cases none
    · refine ⟨before, opener, between, around, whole, ?_, rest.1, pair, rest.2⟩
      rw [split, whole]

theorem lineAround_cons {c : Char} (feed : c ≠ '\n') (before rest : List Char) :
    lineAround before (c :: rest) = lastLine before ++ c :: rest.takeWhile (· ≠ '\n') := by
  simp [lineAround, feed]

end Pairs

namespace Indent

section Places
variable {text front behind opened : List Char} {c : Char}

/-- What is written before a character is no bracket. -/
theorem State.after?_lead (state : State) (c : Char) (opened : List Char) :
    Reading.after? ⟨state.mode.side, opened⟩ (state.lead c) =
      some ⟨state.mode.side, opened⟩ := by
  rw [lead]
  split
  · next both =>
    rw [both.1]
    exact Reading.after?_gap (isGap_newline _) opened
  · rfl

/-- A bracket of a layout has been laid out at the depth of the brackets around it. -/
theorem exists_place (parts : layoutFrom .start text = front ++ c :: behind)
    (visible : c ≠ ' ' ∧ c ≠ '\n')
    (read : Reading.start.after? front = some ⟨.outside, opened⟩) :
    ∃ earlier later, text = earlier ++ c :: later ∧
      front = layoutFrom .start earlier ++ (earlier.foldl State.next .start).lead c ∧
      (earlier.foldl State.next .start).mode.side = .outside ∧
      (earlier.foldl State.next .start).depth = opened.length := by
  obtain ⟨earlier, later, split, whole⟩ := exists_of_layoutFrom parts visible
  rw [whole] at read
  obtain ⟨⟨side, inner⟩, first, last⟩ := Reading.after?_append_eq_some.mp read
  rw [after?_layoutFrom rfl] at first
  have start : State.start.Agrees Reading.start := ⟨rfl, rfl⟩
  obtain ⟨rfl, depth⟩ := start.run first
  rw [State.after?_lead] at last
  obtain ⟨outside, rfl⟩ := Reading.mk.inj (Option.some.inj last)
  exact ⟨earlier, later, split, whole, outside, depth.symm⟩

/-- The line of an opening bracket has the indentation of the brackets around it. -/
theorem leadingSpaces_of_opener (single : '\n' ∉ text) (first : leadingSpaces text = 0)
    (tidy : Tidy .outside text) (parts : layoutFrom .start text = front ++ c :: behind)
    (opens : IsOpener c) (read : Reading.start.after? front = some ⟨.outside, opened⟩) :
    leadingSpaces (lineAround front (c :: behind)) = 2 * opened.length := by
  have visible := visible_of_isOpener opens
  obtain ⟨earlier, later, rfl, whole, _, depth⟩ := exists_place parts visible read
  have lead : (earlier.foldl State.next .start).lead c = [] :=
    if_neg fun both => not_isCloser_of_isOpener opens both.2
  have single' : '\n' ∉ earlier := fun member => single (List.mem_append_left _ member)
  obtain ⟨fresh, margin, _⟩ := (State.aligned_start first).run tidy single'
  rw [List.nil_append, depth] at margin
  rw [lineAround_cons visible.2, whole, lead, List.append_nil]
  exact margin.leadingSpaces_append visible.1 _

/-- A closing bracket is the first on its line, with the indentation of the brackets around it. -/
theorem lastLine_of_closer {opener : Char}
    (parts : layoutFrom .start text = front ++ c :: behind) (closes : IsCloser c)
    (read : Reading.start.after? front = some ⟨.outside, opener :: opened⟩) :
    lastLine front = List.replicate (2 * opened.length) ' ' := by
  obtain ⟨earlier, later, _, whole, outside, depth⟩ :=
    exists_place parts (visible_of_isCloser closes) read
  have lead : (earlier.foldl State.next .start).lead c = newline opened.length := by
    rw [State.lead, if_pos ⟨outside, closes⟩, depth, List.length_cons, Nat.add_sub_cancel]
  rw [whole, lead, lastLine_append_newline]

theorem nested_layoutFrom (nested : Nested text) : Nested (layoutFrom .start text) := by
  obtain ⟨side, read⟩ := nested
  exact ⟨side, (after?_layoutFrom rfl _).trans read⟩

/-- Of two brackets of a layout that belong to each other, the closing one is the first on its line,
and the lines of both have the indentation of the brackets around them. -/
theorem lines_of_pair {opener closer : Char} {before between around : List Char}
    (single : '\n' ∉ text) (first : leadingSpaces text = 0) (tidy : Tidy .outside text)
    (paired : Paired (layoutFrom .start text) before opener between closer behind around) :
    lastLine (before ++ opener :: between) = List.replicate (2 * around.length) ' ' ∧
    leadingSpaces (lineAround (before ++ opener :: between) (closer :: behind)) =
      2 * around.length ∧
    leadingSpaces (lineAround before (opener :: between ++ closer :: behind)) =
      2 * around.length := by
  have closes := paired.closes.isCloser
  have visible := visible_of_isCloser closes
  have last := lastLine_of_closer paired.split closes paired.opened
  refine ⟨last, ?_, ?_⟩
  · rw [lineAround_cons visible.2, last]
    exact leadingSpaces_replicate_append _ visible.1 _
  · have split := paired.split
    rw [List.append_assoc, List.cons_append] at split
    exact leadingSpaces_of_opener single first tidy split paired.closes.isOpener paired.outside

end Places
end Indent

/-- In the layout of a text with properly nested brackets, which has no line feeds and no spaces
where a line of the layout starts, but for those that are left out: every closing bracket outside of
literals belongs to an opening one. Of two brackets that belong to each other, the closing one has
nothing but spaces before it on its line, and its line starts with as many spaces as the line of the
opening one, which are two for each bracket around them. At the end no bracket is open, and the last
line starts without spaces. -/
theorem lines_of_paired (text : String) (nested : Nested text.toList)
    (single : '\n' ∉ text.toList) (first : leadingSpaces text.toList = 0)
    (tidy : Tidy .outside text.toList) :
    (∀ front closer behind, (indent text).toList = front ++ closer :: behind → IsCloser closer →
      front.foldl Side.next .outside = .outside →
      ∃ before opener between around, front = before ++ opener :: between ∧
        Paired (indent text).toList before opener between closer behind around) ∧
    (∀ before opener between closer behind around,
      Paired (indent text).toList before opener between closer behind around →
      lastLine (before ++ opener :: between) = List.replicate (2 * around.length) ' ' ∧
      leadingSpaces (lineAround (before ++ opener :: between) (closer :: behind)) =
        2 * around.length ∧
      leadingSpaces (lineAround before (opener :: between ++ closer :: behind)) =
        2 * around.length) ∧
    (text.toList.foldl Indent.State.next Indent.State.start).depth = 0 ∧
    leadingSpaces (lastLine (indent text).toList) = 0 := by
  rw [toList_indent]
  have start : Indent.State.start.Agrees Reading.start := ⟨rfl, rfl⟩
  have closed : (text.toList.foldl Indent.State.next .start).depth = 0 := by
    obtain ⟨side, read⟩ := nested
    exact (start.run read).depth.symm
  refine ⟨?_, ?_, closed, ?_⟩
  · intro front closer behind split closes outside
    exact exists_paired (Indent.nested_layoutFrom nested) split closes outside
  · intro before opener between closer behind around paired
    exact Indent.lines_of_pair single first tidy paired
  · have tidy' : Tidy .outside (text.toList ++ []) := by rwa [List.append_nil]
    have first' : leadingSpaces (text.toList ++ []) = 0 := by rwa [List.append_nil]
    obtain ⟨fresh, margin, _⟩ := (Indent.State.aligned_start first').run tidy' single
    rw [closed, List.nil_append] at margin
    generalize lastLine (Indent.layoutFrom .start text.toList) = line at margin
    cases margin with
    | fresh => rfl
    | begun visible rest => exact leadingSpaces_of_ne visible rest

/-- What the layout of the dump has before the parentheses in it. These stand inside of the braces,
and the one in the literal between them is no bracket. -/
def dumpBefore : List Char := "Print \x7b\n  argument: Quote".toList

def dumpBetween : List Char := "\n    \"a, (\\\"\"\n  ".toList

def dumpBehind : List Char := ",\n  position: None \n\x7d".toList

theorem lines_of_spelledDump :
    Nested spelledDump.toList ∧ '\n' ∉ spelledDump.toList ∧
    leadingSpaces spelledDump.toList = 0 ∧ Tidy .outside spelledDump.toList ∧
    Paired (indent spelledDump).toList dumpBefore '(' dumpBetween ')' dumpBehind ['\x7b'] ∧
    leadingSpaces (lineAround dumpBefore ('(' :: dumpBetween ++ ')' :: dumpBehind)) =
      2 * ['\x7b'].length ∧
    (spelledDump.toList.foldl Indent.State.next Indent.State.start).depth = 0 := by
  have nested : Nested spelledDump.toList := ⟨.outside, by decide⟩
  have single : '\n' ∉ spelledDump.toList := by decide
  have first : leadingSpaces spelledDump.toList = 0 := by decide
  have tidy : Tidy .outside spelledDump.toList := by decide
  have paired : Paired (indent spelledDump).toList dumpBefore '(' dumpBetween ')' dumpBehind
      ['\x7b'] := ⟨by decide +kernel, by decide, by decide, by decide⟩
  obtain ⟨_, lines, depth, _⟩ := lines_of_paired spelledDump nested single first tidy
  obtain ⟨_, _, indented⟩ := lines dumpBefore '(' dumpBetween ')' dumpBehind ['\x7b'] paired
  exact ⟨nested, single, first, tidy, paired, indented, depth⟩

end JobLang.Text
