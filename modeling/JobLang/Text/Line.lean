/-!
# Lines of a text

A line reaches up to and including its line feed, and only the last line can be without one. Places
within a text are byte offsets, so the length of a line is that of its encoding.
-/
namespace JobLang.Text

/-- The number of bytes that a text takes. -/
def byteLength : List Char → Nat
  | [] => 0
  | c :: rest => c.utf8Size + byteLength rest

/-- The bytes of a string are those of its characters. -/
theorem byteLength_toList (s : String) : byteLength s.toList = s.utf8ByteSize := by
  obtain ⟨text, rfl⟩ : ∃ text, s = String.ofList text := ⟨s.toList, s.ofList_toList.symm⟩
  rw [String.toList_ofList]
  induction text with
  | nil => simp [byteLength]
  | cons c rest ih =>
    have split : String.ofList (c :: rest) = String.singleton c ++ String.ofList rest := by
      rw [String.singleton_eq_ofList, ← String.ofList_append]
      rfl
    rw [split, String.utf8ByteSize_append, String.utf8ByteSize_singleton, ← ih]
    simp [byteLength]

/-- The lines of a text, each with its line feed. -/
def lines : List Char → List (List Char)
  | [] => []
  | c :: rest =>
    if c = '\n' then [c] :: lines rest
    else match lines rest with
      | [] => [[c]]
      | line :: others => (c :: line) :: others

/-- A line found by a byte offset, with the rest of the offset inside it. -/
structure Line where
  /-- Lines are counted from one. -/
  number : Nat
  content : List Char
  column : Nat
deriving DecidableEq

/-- Finds the line that holds a byte offset, counted from the start of the lines given. -/
def locate? (number : Nat) : List (List Char) → Nat → Option Line
  | [], _ => none
  | line :: rest, offset =>
    if offset < byteLength line then some ⟨number, line, offset⟩
    else locate? (number + 1) rest (offset - byteLength line)

/-- The line that holds a byte offset of a text; no line holds an offset past the end. -/
def lineAt? (text : List Char) (offset : Nat) : Option Line := locate? 1 (lines text) offset

/-- Nothing of a text is lost or added by dividing it into lines. -/
theorem flatten_lines (text : List Char) : (lines text).flatten = text := by
  induction text with
  | nil => rfl
  | cons c rest ih =>
    rw [lines]
    split
    · simp [ih]
    · cases h : lines rest with
      | nil => simpa [h] using ih
      | cons line others => simpa [h] using ih

/-- The offset left over lies inside the line that was found. -/
theorem column_lt_of_locate? {number : Nat} {texts : List (List Char)} {offset : Nat} {line : Line}
    (found : locate? number texts offset = some line) : line.column < byteLength line.content := by
  induction texts generalizing number offset with
  | nil => simp [locate?] at found
  | cons text rest ih =>
    rw [locate?] at found
    split at found
    next inside =>
      cases found
      exact inside
    next => exact ih found

end JobLang.Text
