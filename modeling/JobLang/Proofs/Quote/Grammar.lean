import JobLang.Token
import Mathlib.Tactic.IntervalCases

/-!
# The grammar of quoted text

A quoted text is read twice: once to find out whether its closing quote is the last character, and
once to resolve its escapes. The first reading takes every backslash together with one character,
the second takes a hexadecimal escape together with its digits. Both agree on where the text ends,
so that the second reading never comes to a backslash with nothing behind it, and together they
accept what the grammar below spells.
-/
namespace JobLang

namespace Quote

/-- A hexadecimal digit in lower or upper case, and its value. -/
def HexDigit (c : Char) (n : Nat) : Prop :=
  "0123456789abcdef".toList[n]? = some c ∨ "0123456789ABCDEF".toList[n]? = some c

instance (c : Char) (n : Nat) : Decidable (HexDigit c n) := inferInstanceAs (Decidable (_ ∨ _))

/-- The characters that name another one behind a backslash, each with the one it names. -/
def escapes : List (Char × Char) :=
  [('n', '\n'), ('t', '\t'), ('r', '\r'), ('\\', '\\'), ('"', '"'), ('0', '\x00')]

/-- A unit of quoted text and what it stands for, in front of the rest of the text. -/
inductive Piece (rest : List Char) : List Char → List Char → Prop
  | plain {c : Char} (noQuote : c ≠ '"') (noBackslash : c ≠ '\\') : Piece rest [c] [c]
  | named {c d : Char} (listed : (c, d) ∈ escapes) : Piece rest ['\\', c] [d]
  | twoDigits {a b : Char} {high low : Nat} (first : HexDigit a high) (second : HexDigit b low)
      (ascii : 16 * high + low ≤ 0x7F) :
      Piece rest ['\\', 'x', a, b] [Char.ofNat (16 * high + low)]
  | oneDigit {a : Char} {low : Nat} (digit : HexDigit a low)
      (last : ∀ b ∈ rest.head?, ∀ n, ¬HexDigit b n) : Piece rest ['\\', 'x', a] [Char.ofNat low]
  | kept {c : Char} (unknown : c ∉ 'x' :: escapes.map Prod.fst) : Piece rest ['\\', c] ['\\', c]

/-- What the units of a text stand for, one after the other. -/
inductive Spells : List Char → List Char → Prop
  | nil : Spells [] []
  | cons {piece text rest value : List Char} (first : Piece rest piece text)
      (others : Spells rest value) : Spells (piece ++ rest) (text ++ value)

/-- Text without a quote or a backslash but in an escape, which is a backslash and a character. -/
inductive Body : List Char → Prop
  | nil : Body []
  | plain {c : Char} {rest : List Char} (noQuote : c ≠ '"') (noBackslash : c ≠ '\\')
      (others : Body rest) : Body (c :: rest)
  | escape (c : Char) {rest : List Char} (others : Body rest) : Body ('\\' :: c :: rest)

theorem toNat_lt_of_hexDigit? {c : Char} {n : Nat} (found : hexDigit? c = some n) :
    c.toNat < 128 := by
  rw [hexDigit?] at found
  split_ifs at found with range range range
  all_goals exact Nat.lt_of_le_of_lt range.2 (by decide)

theorem HexDigit.lt {c : Char} {n : Nat} (digit : HexDigit c n) : n < 16 := by
  rcases digit with found | found
  · exact (List.getElem?_eq_some_iff.mp found).1
  · exact (List.getElem?_eq_some_iff.mp found).1

theorem hexDigit?_eq_some_iff {c : Char} {n : Nat} : hexDigit? c = some n ↔ HexDigit c n := by
  constructor
  · intro found
    have ascii : ∀ k < 128, ∀ n ∈ hexDigit? (Char.ofNat k), HexDigit (Char.ofNat k) n := by decide
    have digit := ascii c.toNat (toNat_lt_of_hexDigit? found) n
    rw [Char.ofNat_toNat] at digit
    exact digit found
  · intro digit
    have small := digit.lt
    rcases digit with found | found
    · interval_cases n <;> cases found <;> rfl
    · interval_cases n <;> cases found <;> rfl

theorem hexDigit?_eq_none_iff {c : Char} : hexDigit? c = none ↔ ∀ n, ¬HexDigit c n := by
  simp only [Option.eq_none_iff_forall_ne_some, ne_eq, hexDigit?_eq_some_iff]

theorem HexDigit.plain {c : Char} {n : Nat} (digit : HexDigit c n) : c ≠ '"' ∧ c ≠ '\\' := by
  rw [← hexDigit?_eq_some_iff] at digit
  constructor
  · rintro rfl
    cases digit
  · rintro rfl
    cases digit

theorem escapeValue_of_mem {c d : Char} (listed : (c, d) ∈ escapes) : escapeValue c = [d] := by
  have all : ∀ escape ∈ escapes, escapeValue escape.1 = [escape.2] := by decide
  exact all (c, d) listed

theorem ne_x_of_mem {c d : Char} (listed : (c, d) ∈ escapes) : c ≠ 'x' := by
  have all : ∀ escape ∈ escapes, escape.1 ≠ 'x' := by decide
  exact all (c, d) listed

theorem escapeValue_of_not_mem {c : Char} (unlisted : c ∉ escapes.map Prod.fst) :
    escapeValue c = ['\\', c] := by
  fun_cases escapeValue c with
  | case7 => rfl
  | case1 | case2 | case3 | case4 | case5 | case6 => exact absurd (by decide) unlisted

theorem piece_escape (rest : List Char) {c : Char} (noHex : c ≠ 'x') :
    Piece rest ['\\', c] (escapeValue c) := by
  by_cases listed : c ∈ escapes.map Prod.fst
  · obtain ⟨⟨c, d⟩, member, rfl⟩ := List.mem_map.mp listed
    rw [escapeValue_of_mem member]
    exact .named member
  · rw [escapeValue_of_not_mem listed]
    exact .kept (List.not_mem_cons_of_ne_of_not_mem noHex listed)

theorem Body.isClosed {body : List Char} (inner : Body body) :
    isClosed (body ++ ['"']) = true := by
  induction inner with
  | nil => rfl
  | plain noQuote noBackslash _ ih => simpa [Quote.isClosed, noBackslash] using ih
  | escape c _ ih => exact ih

theorem exists_body_of_isClosed {text : List Char} (closed : isClosed text = true) :
    ∃ body, text = body ++ ['"'] ∧ Body body := by
  fun_induction isClosed text with
  | case1 => cases closed
  | case2 rest =>
    cases of_decide_eq_true closed
    exact ⟨[], rfl, .nil⟩
  | case3 c rest ih =>
    obtain ⟨body, rfl, inner⟩ := ih closed
    exact ⟨'\\' :: c :: body, rfl, .escape c inner⟩
  | case4 c rest noQuote noEscape ih =>
    obtain ⟨noBackslash, closed⟩ := Bool.and_eq_true_iff.mp closed
    obtain ⟨body, rfl, inner⟩ := ih closed
    exact ⟨c :: body, rfl, .plain noQuote (of_decide_eq_true noBackslash) inner⟩

theorem isQuoted_iff {text : List Char} :
    isQuoted text = true ↔ ∃ body, text = '"' :: (body ++ ['"']) ∧ Body body := by
  constructor
  · intro quoted
    revert quoted
    fun_cases isQuoted text with
    | case1 rest =>
      intro closed
      obtain ⟨body, rfl, inner⟩ := exists_body_of_isClosed closed
      exact ⟨body, rfl, inner⟩
    | case2 => exact nofun
  · rintro ⟨body, rfl, inner⟩
    exact inner.isClosed

theorem Piece.body {piece text rest : List Char} (first : Piece rest piece text)
    (others : Body rest) : Body (piece ++ rest) := by
  cases first with
  | plain noQuote noBackslash => exact .plain noQuote noBackslash others
  | named | kept => exact .escape _ others
  | twoDigits first second =>
    exact .escape 'x' (.plain first.plain.1 first.plain.2 <|
      .plain second.plain.1 second.plain.2 others)
  | oneDigit digit => exact .escape 'x' (.plain digit.plain.1 digit.plain.2 others)

theorem Body.of_escape {c : Char} {rest : List Char} (inner : Body ('\\' :: c :: rest)) :
    Body rest := by
  cases inner with
  | plain _ noBackslash => exact absurd rfl noBackslash
  | escape _ others => exact others

theorem Body.of_digit {c : Char} {n : Nat} {rest : List Char} (digit : HexDigit c n)
    (inner : Body (c :: rest)) : Body rest := by
  cases inner with
  | plain _ _ others => exact others
  | escape => exact absurd rfl digit.plain.2

theorem Spells.body {text value : List Char} (spells : Spells text value) : Body text := by
  induction spells with
  | nil => exact .nil
  | cons first _ ih => exact first.body ih

theorem unescape?_escape (lone : Option (List Char)) {c : Char} (noHex : c ≠ 'x')
    (rest : List Char) :
    unescape? lone ('\\' :: c :: rest) = (unescape? lone rest).map (escapeValue c ++ ·) := by
  simp [unescape?, noHex]

theorem unescape?_piece (lone : Option (List Char)) {piece text rest : List Char}
    (first : Piece rest piece text) :
    unescape? lone (piece ++ rest) = (unescape? lone rest).map (text ++ ·) := by
  cases first with
  | plain _ noBackslash => simp [unescape?, noBackslash]
  | named listed =>
    have resolved := unescape?_escape lone (ne_x_of_mem listed) rest
    rw [escapeValue_of_mem listed] at resolved
    exact resolved
  | kept unknown =>
    obtain ⟨noHex, unlisted⟩ := List.ne_and_not_mem_of_not_mem_cons unknown
    have resolved := unescape?_escape lone noHex rest
    rw [escapeValue_of_not_mem unlisted] at resolved
    exact resolved
  | twoDigits first second ascii =>
    rw [← hexDigit?_eq_some_iff] at first second
    simp [unescape?, first, second, ascii]
  | oneDigit digit last =>
    rw [← hexDigit?_eq_some_iff] at digit
    cases rest with
    | nil => simp [unescape?, digit]
    | cons b rest =>
      have other := hexDigit?_eq_none_iff.mpr (last b rfl)
      simp [unescape?, digit, other]

theorem Spells.unescape? {text value : List Char} (spells : Spells text value)
    (lone : Option (List Char)) : unescape? lone text = some value := by
  induction spells with
  | nil => rfl
  | cons first _ ih => rw [unescape?_piece lone first, ih, Option.map_some]

/-- What passed the first reading, and is resolved by the second one, is spelled by its units. -/
theorem Body.spells {text value : List Char} {lone : Option (List Char)} (inner : Body text)
    (resolved : Quote.unescape? lone text = some value) : Spells text value := by
  fun_induction Quote.unescape? lone text generalizing value with
  | case1 =>
    cases resolved
    exact .nil
  | case2 =>
    cases inner with
    | plain _ noBackslash => exact absurd rfl noBackslash
  | case4 digit =>
    obtain ⟨low, found, rfl⟩ := Option.map_eq_some_iff.mp resolved
    refine .cons (.oneDigit (hexDigit?_eq_some_iff.mp found) ?_) .nil
    rintro _ ⟨⟩
  | case5 first second rest high low found' found ascii ih =>
    -- The first reading took this unit as an escape and two characters.
    rw [hexDigit?_eq_some_iff] at found found'
    obtain ⟨others, behind, rfl⟩ := Option.map_eq_some_iff.mp resolved
    have inner := (inner.of_escape.of_digit found).of_digit found'
    exact .cons (.twoDigits found found' ascii) (ih inner behind)
  | case7 first second rest low none found ih =>
    rw [hexDigit?_eq_some_iff] at found
    obtain ⟨others, behind, rfl⟩ := Option.map_eq_some_iff.mp resolved
    refine .cons (.oneDigit found ?_) (ih (inner.of_escape.of_digit found) behind)
    rintro _ ⟨⟩
    exact hexDigit?_eq_none_iff.mp none
  | case9 c rest noEnd noDigit noDigits ih =>
    obtain ⟨others, behind, rfl⟩ := Option.map_eq_some_iff.mp resolved
    have noHex : c ≠ 'x' := by
      rintro rfl
      match rest with
      | [] => exact noEnd rfl rfl
      | [digit] => exact noDigit digit rfl rfl
      | first :: second :: rest => exact noDigits first second rest rfl rfl
    exact .cons (piece_escape rest noHex) (ih inner.of_escape behind)
  | case10 c rest _ _ _ _ noEscape ih =>
    obtain ⟨others, behind, rfl⟩ := Option.map_eq_some_iff.mp resolved
    cases inner with
    | plain noQuote noBackslash inner =>
      exact .cons (.plain noQuote noBackslash) (ih inner behind)
    | escape d => exact (noEscape _ _ rfl rfl).elim
  | case3 | case6 | case8 => cases resolved

/-- The second reading of what passed the first one finds no lone backslash. -/
theorem Body.unescape?_eq {text : List Char} (inner : Body text) (lone other : Option (List Char)) :
    Quote.unescape? lone text = Quote.unescape? other text := by
  ext value
  constructor
  · intro resolved
    exact (inner.spells resolved).unescape? other
  · intro resolved
    exact (inner.spells resolved).unescape? lone

end Quote
end JobLang
