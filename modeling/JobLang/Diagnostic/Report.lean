import JobLang.Diagnostic
import JobLang.Text.Blank
import JobLang.Text.Line

/-!
# Reports

A report shows a diagnostic to the reader of the program. It names the fault and the file, and
where the source has the place, it shows the line with a caret under the character. A field can be
filled up to a certain width only, and a caret that would stand behind it cannot be shown: then
there is no report at all.
-/
namespace JobLang.Diagnostic

/-- The first line of a report: the name of the fault, and its tip or else its message. -/
def headline (diagnostic : Diagnostic) : String :=
  "Error: " ++ diagnostic.fault.name ++ " ("
    ++ diagnostic.fault.tip?.getD diagnostic.fault.message ++ ")\n"

/-- Spaces and tabs at the start of a line, which are not shown. -/
def indentation (line : List Char) : List Char := line.takeWhile fun c => c = ' ' || c = '\t'

/-- The greatest width that a field can be filled up to. -/
def widest : Nat := 65535

/-- The lines of a report that show the source: an empty row, the row with the source line, and the
row with the caret. The column is counted without the indentation. The caret ends a field that is
filled with marks. -/
def excerpt? (line : Text.Line) : Option String :=
  let number := toString line.number
  -- This field is filled too, but it only has to hold the number of a line.
  let margin := "".pushn ' ' (number.length + 1) ++ "|"
  let blanks := (indentation line.content).length
  let shown := String.ofList (Text.trim (line.content.drop blanks))
  let marks := line.column - blanks
  if marks + 1 ≤ widest then
    some (margin ++ "\n" ++ number ++ " | " ++ shown ++ "\n"
      ++ margin ++ " " ++ "".pushn '-' marks ++ "^\n")
  else none

/-- The report for a diagnostic about the given source text, if it can be written. -/
def report? (diagnostic : Diagnostic) (source : String) : Option String :=
  match diagnostic.position with
  | none => some diagnostic.headline
  | some position =>
    let place := diagnostic.headline ++ "-> " ++ position.file ++ "\n"
    match Text.lineAt? source.toList position.offset with
    | none => some place
    | some line => (excerpt? line).map (place ++ ·)

end JobLang.Diagnostic
