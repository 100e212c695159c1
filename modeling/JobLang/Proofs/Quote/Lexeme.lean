import JobLang.Proofs.Quote.Grammar

/-!
# Quoted lexemes

The body of a quoted lexeme is cut out of its bytes. A quote is one byte, so both cuts are between
characters whatever characters the body has, and what a token spells is what the grammar gives for
the text between the quotes. Every string is spelled by some lexeme: the one with a backslash before
each of its quotes and backslashes.
-/
namespace JobLang

namespace Quote

theorem exists_pos? {lexeme before behind : String} (cut : lexeme = before ++ behind) :
    ∃ place, lexeme.pos? before.rawEndPos = some place ∧ place.Splits before behind := by
  have valid : before.rawEndPos.IsValid lexeme :=
    String.Pos.Raw.isValid_iff_exists_append.mpr ⟨before, behind, cut, rfl⟩
  have passed := String.Pos.Raw.isValidForSlice_eq_true_iff.mpr valid.toSlice
  refine ⟨lexeme.pos before.rawEndPos valid, ?_, cut, rfl⟩
  rw [String.pos?, String.Slice.pos?, dif_pos passed]
  rfl

theorem inner?_of_quoted {lexeme body : String} (quoted : lexeme = "\"" ++ body ++ "\"") :
    inner? lexeme = some body := by
  have quoted' : lexeme = "\"" ++ (body ++ "\"") := quoted.trans (String.append_assoc ..)
  have size : lexeme.utf8ByteSize - 1 = ("\"" ++ body).utf8ByteSize := by
    rw [quoted, String.utf8ByteSize_append]
    rfl
  obtain ⟨first, found, splits⟩ := exists_pos? quoted'
  obtain ⟨last, found', splits'⟩ := exists_pos? quoted
  obtain ⟨ordered, copied⟩ := String.copy_slice_eq_iff_splits.mpr ⟨"\"", "\"", splits, splits'⟩
  have start : lexeme.pos? ⟨1⟩ = some first := found
  have stop : lexeme.pos? ⟨lexeme.utf8ByteSize - 1⟩ = some last := by
    rw [size]
    exact found'
  have slice : lexeme.slice? first last = some (lexeme.slice first last ordered) := dif_pos ordered
  simp only [inner?, start, stop, slice, Option.bind_eq_bind, Option.bind_some]
  exact congrArg some copied

theorem eq_of_toList {lexeme : String} {body : List Char}
    (quoted : lexeme.toList = '"' :: (body ++ ['"'])) :
    lexeme = "\"" ++ String.ofList body ++ "\"" := by
  rw [← String.toList_inj, quoted]
  simp

/-- A backslash before each quote and each backslash. -/
def escape (text : List Char) : List Char :=
  text.flatMap fun c => if c = '\\' ∨ c = '"' then ['\\', c] else [c]

/-- A lexeme for a string. -/
def enquote (text : String) : String := "\"" ++ String.ofList (escape text.toList) ++ "\""

theorem spells_escape (text : List Char) : Spells (escape text) text := by
  induction text with
  | nil => exact .nil
  | cons c text ih =>
    by_cases special : c = '\\' ∨ c = '"'
    · have escaped : escape (c :: text) = ['\\', c] ++ escape text := by
        rw [escape, List.flatMap_cons, if_pos special]
        rfl
      have listed : (c, c) ∈ escapes := by
        rcases special with rfl | rfl <;> decide
      rw [escaped]
      exact .cons (.named listed) ih
    · have plain : escape (c :: text) = [c] ++ escape text := by
        rw [escape, List.flatMap_cons, if_neg special]
        rfl
      obtain ⟨noBackslash, noQuote⟩ := not_or.mp special
      rw [plain]
      exact .cons (.plain noQuote noBackslash) ih

end Quote

namespace Token

theorem quote?_of_body {token : Token} {body : List Char}
    (quoted : token.lexeme.toList = '"' :: (body ++ ['"'])) (inner : Quote.Body body) :
    token.quote? = (Quote.unescape? (some ['\\']) body).map String.ofList := by
  have form := Quote.eq_of_toList quoted
  have long : decide (token.lexeme.utf8ByteSize < 2) = false := by
    have quote : "\"".utf8ByteSize = 1 := rfl
    rw [decide_eq_false_iff_not, form, String.utf8ByteSize_append, String.utf8ByteSize_append,
      quote]
    omega
  have closed : Quote.isQuoted token.lexeme.toList = true :=
    Quote.isQuoted_iff.mpr ⟨body, quoted, inner⟩
  rw [quote?, long, closed, Quote.inner?_of_quoted form]
  simp only [Bool.not_true, Bool.or_false, Bool.false_eq_true, if_false, Option.bind_eq_bind,
    Option.bind_some, String.toList_ofList]
  exact Option.map_eq_bind.symm

theorem quote?_eq_some_iff {token : Token} {value : String} :
    token.quote? = some value ↔
      ∃ body, token.lexeme.toList = '"' :: (body ++ ['"']) ∧ Quote.Spells body value.toList := by
  constructor
  · intro spelled
    have closed : Quote.isQuoted token.lexeme.toList = true := by
      by_contra opened
      rw [quote?, if_pos (by simp [opened])] at spelled
      cases spelled
    obtain ⟨body, quoted, inner⟩ := Quote.isQuoted_iff.mp closed
    rw [quote?_of_body quoted inner] at spelled
    obtain ⟨text, resolved, rfl⟩ := Option.map_eq_some_iff.mp spelled
    rw [String.toList_ofList]
    exact ⟨body, quoted, inner.spells resolved⟩
  · rintro ⟨body, quoted, spells⟩
    rw [quote?_of_body quoted spells.body, spells.unescape?, Option.map_some, String.ofList_toList]

/-- A token spells a string exactly if its lexeme is a body between two quotes whose units stand for
the characters of the string. The body of a quoted lexeme is cut out between characters, and what it
stands for does not depend on what a backslash with nothing behind it would stand for. Each string
is spelled by the lexeme that has a backslash before each of its quotes and backslashes. -/
theorem quote?_spells_and_cut_and_enquote (token : Token) :
    (∀ value, token.quote? = some value ↔
      ∃ body, token.lexeme.toList = '"' :: (body ++ ['"']) ∧ Quote.Spells body value.toList) ∧
    (Quote.isQuoted token.lexeme.toList = true →
      ∃ body, Quote.inner? token.lexeme = some body ∧ token.lexeme = "\"" ++ body ++ "\"" ∧
        ∀ lone, Quote.unescape? lone body.toList = Quote.unescape? (some ['\\']) body.toList) ∧
    ∀ text, Token.quote? { token with lexeme := Quote.enquote text } = some text := by
  refine ⟨fun value => quote?_eq_some_iff, fun closed => ?_, fun text => ?_⟩
  · obtain ⟨body, quoted, inner⟩ := Quote.isQuoted_iff.mp closed
    have form := Quote.eq_of_toList quoted
    refine ⟨String.ofList body, Quote.inner?_of_quoted form, form, fun lone => ?_⟩
    rw [String.toList_ofList]
    exact inner.unescape?_eq lone (some ['\\'])
  · refine quote?_eq_some_iff.mpr ⟨Quote.escape text.toList, ?_, Quote.spells_escape _⟩
    simp [Quote.enquote]

/-- One digit with a letter behind it that is none, and an escaped quote before the closing one. -/
def digitAndQuote : Token := ⟨.quote, "\"\\x4é\\\"\"", none⟩

theorem quote?_digitAndQuote :
    digitAndQuote.quote? = some "\x04é\"" ∧
      Quote.isQuoted digitAndQuote.lexeme.toList = true ∧
      ∃ body, Quote.inner? digitAndQuote.lexeme = some body ∧
        digitAndQuote.lexeme = "\"" ++ body ++ "\"" ∧
        ∀ lone, Quote.unescape? lone body.toList = Quote.unescape? (some ['\\']) body.toList := by
  have decoding := quote?_spells_and_cut_and_enquote digitAndQuote
  have closed : Quote.isQuoted digitAndQuote.lexeme.toList = true := by decide
  have spells : Quote.Spells ['\\', 'x', '4', 'é', '\\', '"'] ['\x04', 'é', '"'] := by
    have lastDigit : ∀ b ∈ ['é', '\\', '"'].head?, ∀ n, ¬Quote.HexDigit b n := by
      rintro _ ⟨⟩
      exact Quote.hexDigit?_eq_none_iff.mp (by decide)
    have digit : Quote.HexDigit '4' 4 := by decide
    exact .cons (.oneDigit digit lastDigit) <|
      .cons (.plain (by decide) (by decide)) (.cons (.named (by decide)) .nil)
  exact ⟨(decoding.1 _).mpr ⟨_, rfl, spells⟩, closed, decoding.2.1 closed⟩

end Token
end JobLang
