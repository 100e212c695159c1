import JobLang.Text.Line
import Mathlib.Data.List.Basic

/-!
# The line that holds a byte offset

A line is a piece of a text that starts behind a line feed, or at the start, and reaches up to the
next line feed. The pieces before it are lines as well, so that their line feeds count them and
their bytes add up to the offset at which it starts. An offset below the end of the text lies in
exactly one line, and that line is the one that is found.
-/
namespace JobLang.Text

theorem byteLength_append (first second : List Char) :
    byteLength (first ++ second) = byteLength first + byteLength second := by
  induction first with
  | nil => simp [byteLength]
  | cons c rest ih =>
    simp only [List.cons_append, byteLength, ih]
    omega

/-- A character takes at least one byte. -/
theorem length_le_byteLength (text : List Char) : text.length ≤ byteLength text := by
  induction text with
  | nil => simp [byteLength]
  | cons c rest ih =>
    have size := c.utf8Size_pos
    simp only [List.length_cons, byteLength]
    omega

theorem byteLength_eq_length_iff {text : List Char} :
    byteLength text = text.length ↔ ∀ c ∈ text, c.utf8Size = 1 := by
  induction text with
  | nil => simp [byteLength]
  | cons c rest ih =>
    have size := c.utf8Size_pos
    have others := length_le_byteLength rest
    rw [List.forall_mem_cons, ← ih, byteLength, List.length_cons]
    omega

/-- Empty, or with a line feed at the end, so that a line can start behind it. -/
def EndsLine (text : List Char) : Prop := text = [] ∨ text.getLast? = some '\n'

theorem EndsLine.of_cons {c : Char} {rest : List Char} (ends : EndsLine (c :: rest)) :
    (c = '\n' ∧ rest = []) ∨ (rest ≠ [] ∧ EndsLine rest) := by
  cases rest with
  | nil =>
    left
    simpa [EndsLine] using ends
  | cons d rest =>
    right
    refine ⟨by simp, .inr ?_⟩
    simpa [EndsLine, List.getLast?_cons_cons] using ends

theorem EndsLine.append {first second : List Char} (ends : EndsLine first)
    (ends' : EndsLine second) : EndsLine (first ++ second) := by
  rcases ends' with rfl | last
  · simpa using ends
  · right
    simp [List.getLast?_append, last]

theorem lines_ne_nil {text : List Char} (nonempty : text ≠ []) : lines text ≠ [] := by
  intro none
  have whole := flatten_lines text
  rw [none] at whole
  exact nonempty whole.symm

/-- The lines of a text are those of its two parts if none reaches from the one into the other. -/
theorem lines_append {before : List Char} (ends : EndsLine before) (rest : List Char) :
    lines (before ++ rest) = lines before ++ lines rest := by
  induction before with
  | nil => rfl
  | cons c before ih =>
    rcases ends.of_cons with ⟨rfl, rfl⟩ | ⟨more, ends⟩
    · simp [lines]
    · have ih := ih ends
      by_cases feed : c = '\n'
      · simp [lines, feed, ih]
      · obtain ⟨line, others, first⟩ := List.exists_cons_of_ne_nil (lines_ne_nil more)
        simp [lines, feed, ih, first]

theorem lines_single {line : List Char} (nonempty : line ≠ []) (single : '\n' ∉ line.dropLast) :
    lines line = [line] := by
  induction line with
  | nil => exact absurd rfl nonempty
  | cons c rest ih =>
    cases rest with
    | nil => by_cases feed : c = '\n' <;> simp [lines, feed]
    | cons d rest =>
      rw [List.dropLast_cons_of_ne_nil (by simp), List.mem_cons, not_or] at single
      obtain ⟨feed, single⟩ := single
      rw [lines, ih (by simp) single]
      simp [Ne.symm feed]

/-- A line is not empty, and a line feed can only be its last character. -/
theorem single_of_mem_lines {text line : List Char} (member : line ∈ lines text) :
    line ≠ [] ∧ '\n' ∉ line.dropLast := by
  induction text generalizing line with
  | nil => simp [lines] at member
  | cons c rest ih =>
    by_cases feed : c = '\n'
    · simp only [lines, feed, if_true, List.mem_cons] at member
      rcases member with rfl | member
      · simp
      · exact ih member
    · cases others : lines rest with
      | nil =>
        simp only [lines, feed, others, if_false, List.mem_singleton] at member
        subst member
        simp
      | cons first others' =>
        simp only [lines, feed, others, if_false, List.mem_cons] at member
        obtain ⟨nonempty, single⟩ := ih (others ▸ List.mem_cons_self ..)
        rcases member with rfl | member
        · refine ⟨by simp, ?_⟩
          rw [List.dropLast_cons_of_ne_nil nonempty, List.mem_cons, not_or]
          exact ⟨Ne.symm feed, single⟩
        · exact ih (others ▸ List.mem_cons_of_mem _ member)

/-- Only the last line can be without a line feed. -/
theorem getLast?_of_lines_eq {text line : List Char} {earlier later : List (List Char)}
    (split : lines text = earlier ++ line :: later) (more : later ≠ []) :
    line.getLast? = some '\n' := by
  induction text generalizing earlier line with
  | nil => simp [lines] at split
  | cons c rest ih =>
    by_cases feed : c = '\n'
    · rw [lines, if_pos feed] at split
      rcases List.cons_eq_append_iff.mp split with ⟨_, same⟩ | ⟨earlier', _, split⟩
      · cases same
        simp [feed]
      · exact ih split
    · rw [lines, if_neg feed] at split
      cases others : lines rest with
      | nil =>
        rw [others] at split
        rcases List.cons_eq_append_iff.mp split with ⟨_, same⟩ | ⟨_, _, none⟩
        · cases same
          exact absurd rfl more
        · simp at none
      | cons first others' =>
        rw [others] at split
        rcases List.cons_eq_append_iff.mp split with ⟨_, same⟩ | ⟨earlier', _, split⟩
        · cases same
          have here : lines rest = [] ++ first :: later := others
          have last := ih here
          rw [List.getLast?_cons, last]
          rfl
        · have behind : lines rest = (first :: earlier') ++ line :: later := by
            rw [others, split]
            rfl
          exact ih behind

/-- Lines that end in a line feed, put together, have as many line feeds as there are of them. -/
theorem endsLine_and_count_flatten {earlier : List (List Char)}
    (each : ∀ line ∈ earlier, '\n' ∉ line.dropLast ∧ line.getLast? = some '\n') :
    EndsLine earlier.flatten ∧ earlier.flatten.count '\n' = earlier.length := by
  induction earlier with
  | nil => exact ⟨.inl rfl, rfl⟩
  | cons line rest ih =>
    obtain ⟨⟨single, last⟩, each⟩ := List.forall_mem_cons.mp each
    obtain ⟨ends, count⟩ := ih each
    have closed : line = line.dropLast ++ ['\n'] :=
      (List.dropLast_append_getLast? '\n' (by simp [last])).symm
    have once : line.count '\n' = 1 := by
      rw [closed, List.count_append, List.count_eq_zero_of_not_mem single]
      rfl
    refine ⟨EndsLine.append (.inr last) ends, ?_⟩
    rw [List.flatten_cons, List.count_append, once, count, List.length_cons]
    omega

theorem each_of_lines_eq {text line : List Char} {earlier later : List (List Char)}
    (split : lines text = earlier ++ line :: later) :
    ∀ line ∈ earlier, '\n' ∉ line.dropLast ∧ line.getLast? = some '\n' := by
  intro first member
  obtain ⟨before, between, rfl⟩ := List.append_of_mem member
  rw [List.append_assoc, List.cons_append] at split
  have among : first ∈ lines text := by simp [split]
  exact ⟨(single_of_mem_lines among).2, getLast?_of_lines_eq split (by simp)⟩

/-- The part of a text before a line has as many lines as it has line feeds. -/
theorem length_lines {before : List Char} (ends : EndsLine before) :
    (lines before).length = before.count '\n' := by
  induction before with
  | nil => rfl
  | cons c before ih =>
    rcases ends.of_cons with ⟨rfl, rfl⟩ | ⟨more, ends⟩
    · rfl
    · have ih := ih ends
      by_cases feed : c = '\n'
      · simp [lines, feed, ih]
      · obtain ⟨line, others, first⟩ := List.exists_cons_of_ne_nil (lines_ne_nil more)
        rw [first] at ih
        simp [lines, feed, first, List.count_cons_of_ne feed, ← ih]

theorem locate?_append {earlier later : List (List Char)} {line : List Char} {number column : Nat}
    (inside : column < byteLength line) :
    locate? number (earlier ++ line :: later) (byteLength earlier.flatten + column) =
      some ⟨number + earlier.length, line, column⟩ := by
  induction earlier generalizing number with
  | nil => simp [locate?, byteLength, inside]
  | cons first rest ih =>
    have behind : ¬byteLength (first :: rest).flatten + column < byteLength first := by
      rw [List.flatten_cons, byteLength_append]
      omega
    have left : byteLength (first :: rest).flatten + column - byteLength first =
        byteLength rest.flatten + column := by
      rw [List.flatten_cons, byteLength_append]
      omega
    rw [List.cons_append, locate?, if_neg behind, left, ih, List.length_cons,
      Nat.add_right_comm, Nat.add_assoc]

theorem exists_of_locate? {number offset : Nat} {texts : List (List Char)} {line : Line}
    (found : locate? number texts offset = some line) :
    ∃ earlier later, texts = earlier ++ line.content :: later ∧
      line.number = number + earlier.length ∧
      offset = byteLength earlier.flatten + line.column := by
  induction texts generalizing number offset with
  | nil => cases found
  | cons text rest ih =>
    rw [locate?] at found
    by_cases inside : offset < byteLength text
    · rw [if_pos inside] at found
      cases found
      exact ⟨[], rest, rfl, rfl, by simp [byteLength]⟩
    · rw [if_neg inside] at found
      obtain ⟨earlier, later, rfl, counted, place⟩ := ih found
      refine ⟨text :: earlier, later, rfl, ?_, ?_⟩
      · rw [counted, List.length_cons]
        omega
      · rw [List.flatten_cons, byteLength_append]
        omega

theorem locate?_eq_none_iff {number offset : Nat} {texts : List (List Char)} :
    locate? number texts offset = none ↔ byteLength texts.flatten ≤ offset := by
  induction texts generalizing number offset with
  | nil => simp [locate?, byteLength]
  | cons text rest ih =>
    rw [locate?, List.flatten_cons, byteLength_append]
    by_cases inside : offset < byteLength text
    · simp only [inside, if_true, reduceCtorEq, false_iff]
      omega
    · rw [if_neg inside, ih]
      omega

/-- The line stands in the text between the two other parts of it. -/
structure Line.Between (line : Line) (text before behind : List Char) : Prop where
  split : text = before ++ line.content ++ behind
  starts : EndsLine before
  /-- The line feeds before a line count it. -/
  number : line.number = before.count '\n' + 1
  single : '\n' ∉ line.content.dropLast
  ends : behind ≠ [] → line.content.getLast? = some '\n'

theorem Line.Between.lines_eq {line : Line} {text before behind : List Char}
    (between : line.Between text before behind) (nonempty : line.content ≠ []) :
    lines text = lines before ++ line.content :: lines behind := by
  have one : lines line.content = [line.content] := lines_single nonempty between.single
  rw [between.split, List.append_assoc, lines_append between.starts]
  by_cases last : behind = []
  · rw [last, List.append_nil, one]
    rfl
  · rw [lines_append (.inr (between.ends last)), one]
    rfl

theorem lineAt?_eq_some_iff {text : List Char} {offset : Nat} {line : Line} :
    lineAt? text offset = some line ↔ ∃ before behind, line.Between text before behind ∧
      byteLength before + line.column = offset ∧ line.column < byteLength line.content := by
  constructor
  · intro found
    have inside := column_lt_of_locate? found
    obtain ⟨earlier, later, split, counted, place⟩ := exists_of_locate? found
    have among : line.content ∈ lines text := by simp [split]
    obtain ⟨starts, count⟩ := endsLine_and_count_flatten (each_of_lines_eq split)
    have whole := flatten_lines text
    rw [split, List.flatten_append, List.flatten_cons, ← List.append_assoc] at whole
    refine ⟨earlier.flatten, later.flatten, ⟨whole.symm, starts, ?_, ?_, ?_⟩, place.symm, inside⟩
    · omega
    · exact (single_of_mem_lines among).2
    · intro more
      refine getLast?_of_lines_eq split ?_
      rintro rfl
      exact more rfl
  · rintro ⟨before, behind, between, rfl, inside⟩
    have nonempty : line.content ≠ [] := by
      intro none
      simp [none, byteLength] at inside
    have place : locate? 1 (lines before ++ line.content :: lines behind)
        (byteLength (lines before).flatten + line.column) =
          some ⟨1 + (lines before).length, line.content, line.column⟩ := locate?_append inside
    rw [flatten_lines, ← between.lines_eq nonempty, length_lines between.starts, Nat.add_comm 1,
      ← between.number] at place
    exact place

theorem lineAt?_eq_none_iff {text : List Char} {offset : Nat} :
    lineAt? text offset = none ↔ byteLength text ≤ offset := by
  rw [lineAt?, locate?_eq_none_iff, flatten_lines]

/-- No line is found for an offset at the end of a source text or past it, and only for such an
offset. What is found for another one is the line around it: the line stands between two parts of
the text, of which the first is empty or ends in a line feed, and has as many line feeds as there
are lines before; it has no line feed but as its last character, and ends in one if anything
follows; and the offset is as many bytes behind its start as the column says. There is no other such
line. -/
theorem lineAt?_none_iff_and_some_iff (source : String) (offset : Nat) :
    (lineAt? source.toList offset = none ↔ source.utf8ByteSize ≤ offset) ∧
    ∀ line, lineAt? source.toList offset = some line ↔
      ∃ before behind, line.Between source.toList before behind ∧
        byteLength before + line.column = offset ∧ line.column < byteLength line.content := by
  refine ⟨?_, fun line => lineAt?_eq_some_iff⟩
  rw [lineAt?_eq_none_iff, byteLength_toList]

end JobLang.Text
