import JobLang.Diagnostic.Report
import JobLang.Proofs.Report.Lookup

/-!
# The rows of a report

A report is a list of rows, each followed by a line feed. The first names the fault, the second
names the file, and the last three show the source. Those that show the source are without line
feeds of their own for every source: a line has its only line feed at the end, where blanks are cut
off.
-/
namespace JobLang

namespace Text

/-- A text without a line feed. -/
def IsRow (text : List Char) : Prop := '\n' ∉ text

instance (text : List Char) : Decidable (IsRow text) := inferInstanceAs (Decidable ('\n' ∉ text))

/-- The text of some rows, each with a line feed behind it. -/
def ofRows (rows : List (List Char)) : List Char := rows.flatMap (· ++ ['\n'])

theorem isRow_nil : IsRow [] := List.not_mem_nil

theorem isRow_append {first second : List Char} :
    IsRow (first ++ second) ↔ IsRow first ∧ IsRow second := by
  simp [IsRow]

theorem IsRow.subset {text part : List Char} (row : IsRow text) (among : part ⊆ text) :
    IsRow part := fun feed => row (among feed)

theorem isRow_replicate {c : Char} (other : c ≠ '\n') (n : Nat) : IsRow (List.replicate n c) := by
  intro feed
  exact other (List.eq_of_mem_replicate feed).symm

theorem toList_pushn (c : Char) (n : Nat) : ("".pushn c n).toList = List.replicate n c := by
  rw [String.pushn_eq_repeat_push]
  induction n with
  | zero => rfl
  | succ n ih => simp [Nat.repeat, ih, List.replicate_succ']

/-- A text is known by its rows. -/
theorem some_eq_some_iff_of_rows {shown text : String} {rows : List (List Char)}
    (spelled : shown.toList = ofRows rows) :
    some shown = some text ↔ text.toList = ofRows rows := by
  rw [Option.some.injEq, ← String.toList_inj, spelled]
  exact eq_comm

/-- Numbers are written with digits only. -/
theorem isRow_toString (n : Nat) : IsRow (toString n).toList := by
  intro feed
  rw [Nat.toString_eq_repr, Nat.toList_repr] at feed
  have digit := Nat.isDigit_of_mem_toDigits (by decide) (by decide) feed
  simp [Char.isDigit] at digit

theorem IsRow.append {first second : String} (row : IsRow first.toList)
    (row' : IsRow second.toList) : IsRow (first ++ second).toList := by
  rw [String.toList_append]
  exact isRow_append.mpr ⟨row, row'⟩

/-- A string is looked at through the characters that spell it. -/
theorem IsRow.literal {text : String} {chars : List Char} (spelled : text = String.ofList chars)
    (row : IsRow chars := by decide) : IsRow text.toList := by
  rw [spelled, String.toList_ofList]
  exact row

theorem exists_digitChar_of_mem_toDigits {base : Nat} (more : 1 < base) {n : Nat} {c : Char}
    (member : c ∈ Nat.toDigits base n) : ∃ m < base, c = m.digitChar := by
  induction n using Nat.strongRecOn with
  | ind n ih =>
    by_cases small : n < base
    · rw [Nat.toDigits_of_lt_base small] at member
      exact ⟨n, small, List.mem_singleton.mp member⟩
    · rw [Nat.toDigits_of_base_le more (Nat.not_lt.mp small)] at member
      rcases List.mem_append.mp member with member | member
      · have fewer : n / base < n := Nat.div_lt_self (by omega) more
        exact ih (n / base) fewer member
      · exact ⟨n % base, Nat.mod_lt n (by omega), List.mem_singleton.mp member⟩

/-- Hexadecimal digits are digits and letters. -/
theorem isRow_toDigits (n : Nat) : IsRow (Nat.toDigits 16 n) := by
  have digit : ∀ m < 16, m.digitChar ≠ '\n' := by decide
  intro feed
  obtain ⟨m, small, same⟩ := exists_digitChar_of_mem_toDigits (by decide) feed
  exact digit m small same.symm

/-- A line feed is shown by its escape. -/
theorem isRow_escape (c : Char) : IsRow (escape c) := by
  by_cases feed : c = '\n'
  · subst feed
    decide
  · have other : '\n' ≠ c := Ne.symm feed
    have digits := isRow_toDigits c.toNat
    rw [IsRow] at digits
    unfold escape codeEscape
    split_ifs <;> simp [IsRow, other, digits]

theorem isRow_quote (text : String) : IsRow (quote text).toList := by
  intro feed
  simp only [quote, String.toList_ofList, List.cons_append, List.mem_cons, List.mem_append,
    List.mem_flatMap, List.not_mem_nil, or_false] at feed
  rcases feed with feed | ⟨c, _, feed⟩ | feed
  · exact absurd feed (by decide)
  · exact isRow_escape c feed
  · exact absurd feed (by decide)

/-- A text put together from pieces has no characters but theirs and those between them. -/
theorem isRow_intercalate {between : List Char} {pieces : List (List Char)} (row : IsRow between)
    (rows : ∀ piece ∈ pieces, IsRow piece) : IsRow (between.intercalate pieces) := by
  induction pieces with
  | nil => exact isRow_nil
  | cons piece rest ih =>
    obtain ⟨first, rows⟩ := List.forall_mem_cons.mp rows
    cases rest with
    | nil => simpa using first
    | cons next rest =>
      rw [List.intercalate_cons_cons, isRow_append, isRow_append]
      exact ⟨⟨first, row⟩, ih rows⟩

theorem dropWhile_append_cons {p : Char → Bool} (left : List Char) {c : Char} (stop : p c = false)
    (right : List Char) : (left ++ c :: right).dropWhile p = left.dropWhile p ++ c :: right := by
  induction left with
  | nil => simp [stop]
  | cons d left ih => by_cases drop : p d = true <;> simp [drop, ih]

/-- A character that is not blank stays, and so does all between two such characters. -/
theorem trim_append_cons (left : List Char) {c : Char} (visible : isBlank c = false)
    (right : List Char) :
    trim (left ++ c :: right) =
      left.dropWhile isBlank ++ c :: (right.reverse.dropWhile isBlank).reverse := by
  rw [trim, dropWhile_append_cons left visible, List.reverse_append, List.reverse_cons,
    List.append_assoc, List.singleton_append, dropWhile_append_cons _ visible]
  simp

theorem trim_subset (text : List Char) : trim text ⊆ text := by
  intro c member
  rw [trim, List.mem_reverse] at member
  have member := (List.dropWhile_sublist _).mem member
  rw [List.mem_reverse] at member
  exact (List.dropWhile_sublist _).mem member

theorem trim_append_blank (text : List Char) {b : Char} (blank : isBlank b = true) :
    trim (text ++ [b]) = trim text := by
  rw [trim, trim, List.dropWhile_append]
  cases rest : text.dropWhile isBlank with
  | nil => simp [blank]
  | cons c rest => simp [blank]

/-- Blanks that have been left out before make no difference. -/
theorem trim_append_left {hidden : List Char} (blank : ∀ b ∈ hidden, isBlank b = true)
    (text : List Char) : trim (hidden ++ text) = trim text := by
  rw [trim, trim, List.dropWhile_append_of_pos blank]

/-- The line feed of a line is cut off with the blanks around it. -/
theorem isRow_trim {line : List Char} (single : '\n' ∉ line.dropLast) : IsRow (trim line) := by
  rcases List.eq_nil_or_concat' line with rfl | ⟨body, last, rfl⟩
  · exact isRow_nil
  · rw [List.dropLast_concat] at single
    by_cases feed : last = '\n'
    · subst feed
      rw [trim_append_blank body (by decide)]
      exact IsRow.subset single (trim_subset body)
    · have other : IsRow [last] := by simpa [IsRow] using Ne.symm feed
      have row : IsRow (body ++ [last]) := isRow_append.mpr ⟨single, other⟩
      exact row.subset (trim_subset _)

end Text

namespace Diagnostic

open Text (IsRow ofRows trim)

/-- Leaving out the indentation first makes no difference to the trimmed line. -/
theorem trim_drop_indentation (line : List Char) :
    trim (line.drop (indentation line).length) = trim line := by
  have split : indentation line ++ line.drop (indentation line).length = line :=
    (List.prefix_iff_eq_append.mp (List.takeWhile_prefix _))
  have blank : ∀ b ∈ indentation line, Text.isBlank b = true := by
    intro b member
    have listed := List.all_eq_true.mp List.all_takeWhile b member
    simp only [Bool.or_eq_true, decide_eq_true_eq] at listed
    rcases listed with rfl | rfl <;> decide
  conv_rhs => rw [← split]
  exact (Text.trim_append_left blank _).symm

/-- The row above the source line, which is also the start of the row below it. -/
def marginRow (line : Text.Line) : List Char :=
  List.replicate ((toString line.number).length + 1) ' ' ++ ['|']

/-- The row with the number of a line and what it shows of the line. -/
def sourceRow (line : Text.Line) : List Char :=
  (toString line.number).toList ++ [' ', '|', ' '] ++ trim line.content

/-- What stands before the caret. -/
def caretMargin (line : Text.Line) : List Char :=
  marginRow line ++ [' '] ++ List.replicate (line.column - (indentation line.content).length) '-'

/-- The marks before the caret and the caret are not wider than a field can be. -/
def Fits (line : Text.Line) : Prop :=
  line.column - (indentation line.content).length + 1 ≤ widest

instance (line : Text.Line) : Decidable (Fits line) := inferInstanceAs (Decidable (_ ≤ widest))

/-- The lines that show the source are these three rows, and there are none unless the caret
fits. -/
theorem excerpt?_eq_some_iff {line : Text.Line} {text : String} :
    excerpt? line = some text ↔ Fits line ∧
      text.toList = ofRows [marginRow line, sourceRow line, caretMargin line ++ ['^']] := by
  have spaces : (" " : String).toList = [' '] := rfl
  have bar : ("|" : String).toList = ['|'] := rfl
  have feed : ("\n" : String).toList = ['\n'] := rfl
  have divider : (" | " : String).toList = [' ', '|', ' '] := rfl
  have caret : ("^\n" : String).toList = ['^', '\n'] := rfl
  by_cases fits : Fits line
  · have written : excerpt? line = some _ := if_pos fits
    rw [written, and_iff_right fits]
    apply Text.some_eq_some_iff_of_rows
    simp only [String.toList_append, Text.toList_pushn, String.toList_ofList,
      trim_drop_indentation, spaces, bar, feed, divider, caret]
    simp [ofRows, marginRow, sourceRow, caretMargin]
  · have none : excerpt? line = none := if_neg fits
    rw [none]
    constructor
    · intro written
      cases written
    · intro written
      exact absurd written.1 fits

theorem isRow_marginRow (line : Text.Line) : IsRow (marginRow line) :=
  Text.isRow_append.mpr ⟨Text.isRow_replicate (by decide) _, by decide⟩

theorem isRow_sourceRow {line : Text.Line} (single : '\n' ∉ line.content.dropLast) :
    IsRow (sourceRow line) := by
  have number : IsRow ((toString line.number).toList ++ [' ', '|', ' ']) :=
    Text.isRow_append.mpr ⟨Text.isRow_toString line.number, by decide⟩
  exact Text.isRow_append.mpr ⟨number, Text.isRow_trim single⟩

theorem isRow_caretMargin (line : Text.Line) : IsRow (caretMargin line) := by
  have margin : IsRow (marginRow line ++ [' ']) :=
    Text.isRow_append.mpr ⟨isRow_marginRow line, by decide⟩
  exact Text.isRow_append.mpr ⟨margin, Text.isRow_replicate (by decide) _⟩

/-- The first row of a report. -/
def headRow (d : Diagnostic) : List Char :=
  ("Error: " ++ d.fault.name ++ " (" ++ d.fault.tip?.getD d.fault.message ++ ")").toList

/-- The rows that show a place of a source text, if it is in the text. -/
def placeRows (source : String) (position : Position) : List (List Char) :=
  ("-> " ++ position.file).toList ::
    match Text.lineAt? source.toList position.offset with
    | none => []
    | some line => [marginRow line, sourceRow line, caretMargin line ++ ['^']]

/-- The rows of the report for a diagnostic. -/
def rows (d : Diagnostic) (source : String) : List (List Char) :=
  headRow d :: match d.position with
    | none => []
    | some position => placeRows source position

theorem toList_headline (d : Diagnostic) : d.headline.toList = headRow d ++ ['\n'] := by
  have close : ")\n" = ")" ++ "\n" := rfl
  rw [headline, close, ← String.append_assoc, String.toList_append]
  rfl

/-- If the report has a caret, it fits. -/
def CaretFits (d : Diagnostic) (source : String) : Prop :=
  ∀ position ∈ d.position, ∀ line ∈ Text.lineAt? source.toList position.offset, Fits line

theorem caretFits_iff {d : Diagnostic} {source : String} {position : Position}
    (place : d.position = some position) :
    d.CaretFits source ↔ ∀ line ∈ Text.lineAt? source.toList position.offset, Fits line := by
  constructor
  · intro fits
    exact fits position place
  · intro fits position' place'
    rw [place] at place'
    cases place'
    exact fits

/-- A report is made of its rows, and there is one unless its caret does not fit. -/
theorem report?_eq_some_iff {d : Diagnostic} {source text : String} :
    d.report? source = some text ↔ d.CaretFits source ∧ text.toList = ofRows (rows d source) := by
  cases place : d.position with
  | none =>
    have fits : d.CaretFits source := by
      intro position here
      rw [place] at here
      cases here
    rw [report?, rows, place, and_iff_right fits]
    apply Text.some_eq_some_iff_of_rows
    simp [toList_headline, ofRows]
  | some position =>
    have opening : (d.headline ++ "-> " ++ position.file ++ "\n").toList =
        ofRows [headRow d, ("-> " ++ position.file).toList] := by
      have feed : ("\n" : String).toList = ['\n'] := rfl
      simp [toList_headline, ofRows, feed]
    rw [report?, rows, place, caretFits_iff place]
    simp only [placeRows]
    cases Text.lineAt? source.toList position.offset with
    | none =>
      have fits : ∀ shown ∈ (none : Option Text.Line), Fits shown := by
        intro shown member
        cases member
      rw [and_iff_right fits]
      exact Text.some_eq_some_iff_of_rows opening
    | some line =>
      have fits : (∀ shown ∈ some line, Fits shown) ↔ Fits line := by simp
      rw [fits, Option.map_eq_some_iff]
      constructor
      · rintro ⟨shown, written, rfl⟩
        obtain ⟨here, spelled⟩ := excerpt?_eq_some_iff.mp written
        refine ⟨here, ?_⟩
        rw [String.toList_append, opening, spelled]
        exact List.flatMap_append.symm
      · rintro ⟨here, spelled⟩
        refine ⟨String.ofList _, excerpt?_eq_some_iff.mpr ⟨here, String.toList_ofList⟩, ?_⟩
        rw [← String.toList_inj, String.toList_append, opening, String.toList_ofList, spelled]
        exact List.flatMap_append.symm

theorem report?_eq_none_iff {d : Diagnostic} {source : String} :
    d.report? source = none ↔ ¬d.CaretFits source := by
  rw [Option.eq_none_iff_forall_ne_some]
  constructor
  · intro none fits
    exact none _ (report?_eq_some_iff.mpr ⟨fits, String.toList_ofList⟩)
  · intro wide text written
    exact wide (report?_eq_some_iff.mp written).1

/-- An outcome is a diagnostic if looking for one finds it. -/
theorem eq_error_of_match {α : Type} {outcome : Except Diagnostic α} {d : Diagnostic}
    (found : (match outcome with | .error d => some d | .ok _ => none) = some d) :
    outcome = .error d := by
  cases outcome with
  | ok => cases found
  | error =>
    cases found
    rfl

end Diagnostic
end JobLang
