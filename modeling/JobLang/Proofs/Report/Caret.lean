import JobLang.Check.Program
import JobLang.Proofs.Report.Rows

/-!
# Where the caret stands

The row above the caret shows the characters of a line without the blanks at its start. The caret
stands behind as many marks as the line has bytes before the offset, its spaces and tabs at the
start left out. So it can be too far to the right, but never to the left, of the character at the
offset: it is under that character exactly if no other blanks are left out and each of the
characters shown before it takes one byte.
-/
namespace JobLang

namespace Text

/-- Of two parts that a text starts with, the one with more bytes starts with the other. -/
theorem exists_append_of_byteLength_le {first second first' second' : List Char}
    (same : first ++ second = first' ++ second') (le : byteLength first ≤ byteLength first') :
    ∃ between, first' = first ++ between ∧ second = between ++ second' := by
  rcases List.append_eq_append_iff.mp same with ⟨between, longer, rest⟩ | ⟨between, longer, rest⟩
  · exact ⟨between, longer, rest⟩
  · have none : between = [] := by
      have size := length_le_byteLength between
      rw [longer, byteLength_append] at le
      exact List.eq_nil_of_length_eq_zero (by omega)
    subst none
    exact ⟨[], by simpa using longer.symm, by simpa using rest.symm⟩

/-- A character of a text stands in the line that is found by the offset of the character. -/
theorem exists_lineAt? {text before after : List Char} {c : Char}
    (split : text = before ++ c :: after) :
    ∃ line earlier later left right, lineAt? text (byteLength before) = some line ∧
      line.Between text earlier later ∧ before = earlier ++ left ∧
      line.content = left ++ c :: right ∧ line.column = byteLength left := by
  cases found : lineAt? text (byteLength before) with
  | none =>
    have past := lineAt?_eq_none_iff.mp found
    have size := c.utf8Size_pos
    rw [split, byteLength_append, byteLength] at past
    omega
  | some line =>
    obtain ⟨earlier, later, between, place, inside⟩ := lineAt?_eq_some_iff.mp found
    have whole : earlier ++ (line.content ++ later) = before ++ c :: after := by
      rw [← split, between.split, List.append_assoc]
    obtain ⟨left, rfl, rest⟩ := exists_append_of_byteLength_le whole (by omega)
    rw [byteLength_append] at place
    have column : line.column = byteLength left := by omega
    obtain ⟨right, content, rest⟩ := exists_append_of_byteLength_le rest.symm (by omega)
    cases right with
    | nil =>
      rw [List.append_nil] at content
      rw [content, column] at inside
      exact absurd inside (Nat.lt_irrefl _)
    | cons d right =>
      cases rest
      exact ⟨line, earlier, later, left, right, rfl, between, rfl, content, column⟩

/-- Of the blanks at the start of a text all are spaces and tabs, and all that is behind them is
made of characters that take one byte. -/
structure IsAligned (text : List Char) : Prop where
  blanks : ∀ b ∈ text.takeWhile isBlank, b = ' ' ∨ b = '\t'
  bytes : ∀ b ∈ text.dropWhile isBlank, b.utf8Size = 1

theorem isAligned_cons_of_visible {b : Char} (visible : isBlank b = false) (text : List Char) :
    IsAligned (b :: text) ↔ ∀ c ∈ b :: text, c.utf8Size = 1 := by
  have none : (b :: text).takeWhile isBlank = [] := by simp [visible]
  have all : (b :: text).dropWhile isBlank = b :: text := by simp [visible]
  constructor
  · intro aligned
    have bytes := aligned.bytes
    rwa [all] at bytes
  · intro bytes
    refine ⟨?_, ?_⟩
    · rw [none]
      exact List.forall_mem_nil _
    · rw [all]
      exact bytes

theorem isAligned_cons_of_blank {b : Char} (blank : isBlank b = true) (text : List Char) :
    IsAligned (b :: text) ↔ (b = ' ' ∨ b = '\t') ∧ IsAligned text := by
  have taken : (b :: text).takeWhile isBlank = b :: text.takeWhile isBlank := by simp [blank]
  have dropped : (b :: text).dropWhile isBlank = text.dropWhile isBlank := by simp [blank]
  constructor
  · rintro ⟨blanks, bytes⟩
    rw [taken] at blanks
    rw [dropped] at bytes
    obtain ⟨first, blanks⟩ := List.forall_mem_cons.mp blanks
    exact ⟨first, blanks, bytes⟩
  · rintro ⟨first, blanks, bytes⟩
    refine ⟨?_, ?_⟩
    · rw [taken]
      exact List.forall_mem_cons.mpr ⟨first, blanks⟩
    · rw [dropped]
      exact bytes

end Text

namespace Diagnostic

open Text (IsAligned IsRow byteLength isBlank ofRows trim)

theorem indentation_cons_of_indent {b : Char} (indent : b = ' ' ∨ b = '\t') (text : List Char) :
    indentation (b :: text) = b :: indentation text :=
  List.takeWhile_cons_of_pos (by simpa using indent)

theorem indentation_cons_of_other {b : Char} (other : ¬(b = ' ' ∨ b = '\t')) (text : List Char) :
    indentation (b :: text) = [] :=
  List.takeWhile_cons_of_neg (by simpa using other)

theorem isBlank_of_indent {b : Char} (indent : b = ' ' ∨ b = '\t') : isBlank b = true := by
  rcases indent with rfl | rfl <;> decide

theorem indentation_append_cons (left : List Char) {c : Char} (visible : isBlank c = false)
    (right : List Char) : indentation (left ++ c :: right) = indentation left := by
  induction left with
  | nil =>
    have other : ¬(c = ' ' ∨ c = '\t') := by
      intro indent
      rw [isBlank_of_indent indent] at visible
      cases visible
    exact indentation_cons_of_other other right
  | cons b left ih =>
    rw [List.cons_append]
    by_cases indent : b = ' ' ∨ b = '\t'
    · rw [indentation_cons_of_indent indent, indentation_cons_of_indent indent, ih]
    · rw [indentation_cons_of_other indent, indentation_cons_of_other indent]

/-- How many marks there are for what stands before a character in its line. -/
def marks (left : List Char) : Nat := byteLength left - (indentation left).length

theorem marks_cons_of_indent {b : Char} (indent : b = ' ' ∨ b = '\t') (text : List Char) :
    marks (b :: text) = marks text := by
  have size : b.utf8Size = 1 := by rcases indent with rfl | rfl <;> rfl
  rw [marks, marks, indentation_cons_of_indent indent, Text.byteLength, size, List.length_cons]
  omega

theorem marks_cons_of_other {b : Char} (other : ¬(b = ' ' ∨ b = '\t')) (text : List Char) :
    marks (b :: text) = byteLength (b :: text) := by
  rw [marks, indentation_cons_of_other other]
  rfl

/-- There are at least as many marks as characters shown, and just as many only if the text is
aligned. -/
theorem length_le_marks_and_eq_iff (left : List Char) :
    (left.dropWhile isBlank).length ≤ marks left ∧
    (marks left = (left.dropWhile isBlank).length ↔ IsAligned left) := by
  induction left with
  | nil =>
    have aligned : IsAligned [] := ⟨List.forall_mem_nil _, List.forall_mem_nil _⟩
    exact ⟨Nat.le_refl _, fun _ => aligned, fun _ => rfl⟩
  | cons b left ih =>
    have enough := Text.length_le_byteLength (b :: left)
    by_cases blank : isBlank b = true
    · have dropped : (b :: left).dropWhile isBlank = left.dropWhile isBlank := by simp [blank]
      rw [dropped, Text.isAligned_cons_of_blank blank]
      by_cases indent : b = ' ' ∨ b = '\t'
      · rw [marks_cons_of_indent indent]
        simpa only [indent, true_and] using ih
      · -- A blank that is no indentation is counted, but not shown.
        have fewer := (List.dropWhile_sublist (l := left) isBlank).length_le
        rw [List.length_cons] at enough
        simp only [marks_cons_of_other indent, indent, false_and, iff_false]
        omega
    · have visible := eq_false_of_ne_true blank
      have indent : ¬(b = ' ' ∨ b = '\t') := fun indent => blank (isBlank_of_indent indent)
      have kept : (b :: left).dropWhile isBlank = b :: left := by simp [visible]
      rw [kept, marks_cons_of_other indent, Text.isAligned_cons_of_visible visible]
      exact ⟨enough, Text.byteLength_eq_length_iff⟩

/-- What the row with the source shows before a character, the number of the line included. -/
def shownBefore (line : Text.Line) (left : List Char) : List Char :=
  (toString line.number).toList ++ [' ', '|', ' '] ++ left.dropWhile isBlank

theorem sourceRow_eq {line : Text.Line} {left right : List Char} {c : Char}
    (content : line.content = left ++ c :: right) (visible : isBlank c = false) :
    ∃ right', sourceRow line = shownBefore line left ++ c :: right' := by
  rw [sourceRow, content, Text.trim_append_cons left visible, shownBefore]
  exact ⟨_, (List.append_assoc ..).symm⟩

theorem length_caretMargin {line : Text.Line} {left right : List Char} {c : Char}
    (content : line.content = left ++ c :: right) (visible : isBlank c = false)
    (column : line.column = byteLength left) :
    (caretMargin line).length = (toString line.number).length + 3 + marks left := by
  rw [caretMargin, marginRow, content, indentation_append_cons left visible, column, marks]
  simp only [List.length_append, List.length_replicate, List.length_cons, List.length_nil]

theorem caret_not_mem_caretMargin (line : Text.Line) : '^' ∉ caretMargin line := by
  simp [caretMargin, marginRow]

/-- A character of the source stands behind some text in its line. -/
structure Holds (source : String) (before : List Char) (c : Char) (line : Text.Line)
    (left : List Char) : Prop where
  split : ∃ earlier later, line.Between source.toList earlier later ∧ before = earlier ++ left
  content : ∃ right, line.content = left ++ c :: right

/-- There is a report, and its last two rows are made for a line: the one with the source shows a
character behind what it shows of the text before it, the other one has the caret at its end. -/
structure Shows (d : Diagnostic) (source : String) (c : Char) (line : Text.Line)
    (left : List Char) : Prop where
  report : ∃ text above, d.report? source = some text ∧
    text.toList = ofRows (above ++ [sourceRow line, caretMargin line ++ ['^']])
  rows : IsRow (sourceRow line) ∧ IsRow (caretMargin line)
  shown : ∃ right, sourceRow line = shownBefore line left ++ c :: right
  caret : '^' ∉ caretMargin line

/-- For a diagnostic at the offset of a character that is not blank, the last two rows of the report
show the trimmed line that holds the character, behind the number of the line, and the caret, if the
marks for what is before the character leave room for the caret; if they do not, there is no report.
The caret stands in the column of the character or to the right of it. It stands in that column
exactly if what is before the character in its line is aligned. -/
theorem caret_under_iff_isAligned {d : Diagnostic} {position : Position} {source : String}
    {before after : List Char} {c : Char} (place : d.position = some position)
    (split : source.toList = before ++ c :: after) (offset : byteLength before = position.offset)
    (visible : isBlank c = false) :
    ∃ line left, Holds source before c line left ∧
      (d.Shows source c line left ↔ marks left + 1 ≤ widest) ∧
      (d.report? source = none ↔ widest < marks left + 1) ∧
      (shownBefore line left).length ≤ (caretMargin line).length ∧
      (d.Shows source c line left ∧ (caretMargin line).length = (shownBefore line left).length ↔
        marks left + 1 ≤ widest ∧ IsAligned left) := by
  obtain ⟨line, earlier, later, left, right, found, between, rfl, content, column⟩ :=
    Text.exists_lineAt? split
  have fits : d.CaretFits source ↔ marks left + 1 ≤ widest := by
    rw [caretFits_iff place, ← offset, found]
    simp [Fits, marks, content, indentation_append_cons left visible, column]
  have rows : rows d source = [headRow d, ("-> " ++ position.file).toList, marginRow line] ++
      [sourceRow line, caretMargin line ++ ['^']] := by
    simp only [Diagnostic.rows, place, placeRows, ← offset, found]
    rfl
  have shows : d.Shows source c line left ↔ marks left + 1 ≤ widest := by
    rw [← fits]
    constructor
    · rintro ⟨⟨text, _, written, _⟩, _⟩
      exact (report?_eq_some_iff.mp written).1
    · intro fits
      have written := report?_eq_some_iff.mpr ⟨fits, String.toList_ofList⟩
      refine ⟨⟨_, _, written, String.toList_ofList.trans (congrArg ofRows rows)⟩,
        ⟨isRow_sourceRow between.single, isRow_caretMargin line⟩,
        sourceRow_eq content visible, caret_not_mem_caretMargin line⟩
  have length := length_caretMargin content visible column
  have width : (shownBefore line left).length =
      (toString line.number).length + 3 + (left.dropWhile isBlank).length := by
    simp only [shownBefore, List.length_append, String.length_toList, List.length_cons,
      List.length_nil]
  obtain ⟨enough, same⟩ := length_le_marks_and_eq_iff left
  refine ⟨line, left, ⟨⟨earlier, later, between, rfl⟩, right, content⟩, shows, ?_, ?_, ?_⟩
  · rw [report?_eq_none_iff, fits, Nat.not_le]
  · omega
  · rw [shows, ← same]
    omega

/-- A text with an indented line, and what stands before the argument of the call in that line. -/
def indentedCall : String := "num x = 1\n  print(y)\n"

def beforeArgument : List Char := "num x = 1\n  print(".toList

theorem caret_under_argument :
    indentedCall.toList = beforeArgument ++ 'y' :: [')', '\n'] ∧
    byteLength beforeArgument = 18 ∧ isBlank 'y' = false ∧
    let d : Diagnostic := ⟨.undeclaredIdentifier "y", some ⟨18, "main.kobe"⟩⟩
    ∃ line left, Holds indentedCall beforeArgument 'y' line left ∧
      (d.Shows indentedCall 'y' line left ↔ marks left + 1 ≤ widest) ∧
      (d.report? indentedCall = none ↔ widest < marks left + 1) ∧
      (shownBefore line left).length ≤ (caretMargin line).length ∧
      (d.Shows indentedCall 'y' line left ∧
        (caretMargin line).length = (shownBefore line left).length ↔
        marks left + 1 ≤ widest ∧ IsAligned left) := by
  have split : indentedCall.toList = beforeArgument ++ 'y' :: [')', '\n'] := by decide
  have offset : byteLength beforeArgument = 18 := by decide
  have visible : isBlank 'y' = false := by decide
  exact ⟨split, offset, visible, caret_under_iff_isAligned rfl split offset visible⟩

/-- A line that adds something undeclared to the constant of the prelude. -/
def greekLine : String := "num a = π add y"

/-- The program in that line. -/
def greekSum : List Syntax.Stmt :=
  let token (category : Category) (lexeme : String) (offset : Nat) : Token :=
    ⟨category, lexeme, some ⟨offset, "main.kobe"⟩⟩
  [.declare (token .id "num" 0) (token .id "a" 4)
    (.binary (token .sym "add" 11) (.leaf (token .id "π" 8)) (.leaf (token .id "y" 15)))]

/-- What is wrong with the program. -/
def undeclaredSummand : Diagnostic := ⟨.undeclaredIdentifier "y", some ⟨15, "main.kobe"⟩⟩

theorem report?_undeclaredSummand : ∃ text above, undeclaredSummand.report? greekLine = some text ∧
    text.toList = ofRows (above ++
      ["1 | num a = π add y".toList, "  | ---------------^".toList]) := by
  let line : Text.Line := ⟨1, greekLine.toList, 15⟩
  have found : Text.lineAt? greekLine.toList 15 = some line := by decide
  have source : sourceRow line = "1 | num a = π add y".toList := by decide
  have caret : caretMargin line ++ ['^'] = "  | ---------------^".toList := by decide
  have fits : undeclaredSummand.CaretFits greekLine := by
    rw [caretFits_iff rfl, found]
    intro line' same
    cases same
    decide
  refine ⟨_, [headRow undeclaredSummand, "-> main.kobe".toList, marginRow line],
    report?_eq_some_iff.mpr ⟨fits, String.toList_ofList⟩, ?_⟩
  rw [String.toList_ofList, ← source, ← caret]
  simp only [rows, undeclaredSummand, placeRows, found]
  rfl

/-- The constant takes two bytes, so that the caret stands behind the end of the row above it. -/
theorem caret_behind_greekSum :
    check .standard greekSum = .error undeclaredSummand ∧
    greekLine.toList = "num a = π add ".toList ++ ['y'] ∧
    byteLength "num a = π add ".toList = 15 ∧ isBlank 'y' = false ∧
    (∃ text above, undeclaredSummand.report? greekLine = some text ∧ text.toList =
      ofRows (above ++ ["1 | num a = π add y".toList, "  | ---------------^".toList])) ∧
    "1 | num a = π add y".toList.idxOf 'y' = 18 ∧ "1 | num a = π add y".toList.length = 19 ∧
    "  | ---------------^".toList.idxOf '^' = 19 := by
  have rejected : check .standard greekSum = .error undeclaredSummand :=
    eq_error_of_match (by decide +kernel)
  refine ⟨rejected, by decide, by decide, by decide, report?_undeclaredSummand, ?_, ?_, ?_⟩ <;>
    decide

end Diagnostic
end JobLang
