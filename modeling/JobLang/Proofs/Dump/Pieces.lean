import JobLang.Proofs.Indent.Alignment
import JobLang.Proofs.Quote.Grammar
import JobLang.Proofs.Report.Rows

/-!
# Pieces of a dump

A dump is put together from words and quoted texts, with brackets around them, commas between them
and spaces where the layout expects spaces. Each part of it closes the brackets that it opens and
leaves what follows as it was. Parts next to each other, in brackets and in lists are such parts
again, so that what is put together in this way is fit for the layout as a whole.
-/
namespace JobLang.Text

open Indent (IsOpener IsCloser)
open Quote (Body)

/-- A text without line feeds that is read from outside of literals to outside of literals, closes
the brackets that it opens, and changes nothing for a text behind it. -/
structure IsSettled (text : List Char) : Prop where
  row : IsRow text
  closed : Reading.start.after? text = some .start
  shaped {rest : List Char} : Shaped .outside rest → Shaped .outside (text ++ rest)
  tidy {rest : List Char} : Tidy .outside rest → Tidy .outside (text ++ rest)

/-- A settled text that starts with a visible character. -/
structure IsPiece (text : List Char) : Prop extends IsSettled text where
  visible (rest : List Char) : leadingSpaces (text ++ rest) = 0

/-- A character that is nothing but itself to the layout. -/
def IsInk (c : Char) : Prop := c ∉ ['"', '\x7b', '\x7d', '(', ')', '[', ']', ',', '\n', ' ']

instance (c : Char) : Decidable (IsInk c) :=
  inferInstanceAs (Decidable (c ∉ ['"', '\x7b', '\x7d', '(', ')', '[', ']', ',', '\n', ' ']))

theorem shaped_cons {c : Char} (quote : c ≠ '"') (rest : List Char) :
    Shaped .outside (c :: rest) ↔
      (c ≠ '\n' ∧ (c = '\x7b' ∨ c = ',' → rest.head? = some ' ')) ∧ Shaped .outside rest := by
  simp only [Shaped, Side.next, if_neg quote, true_imp_iff]

theorem tidy_cons {c : Char} (quote : c ≠ '"') (rest : List Char) :
    Tidy .outside (c :: rest) ↔ ((c = '(' ∨ c = '[' → leadingSpaces rest = 0) ∧
      (c = '\x7b' ∨ c = ',' → leadingSpaces rest ≤ 1)) ∧ Tidy .outside rest := by
  simp only [Tidy, Side.next, if_neg quote, true_imp_iff]

theorem isSettled_nil : IsSettled [] := ⟨isRow_nil, rfl, id, id⟩

theorem IsSettled.append {first second : List Char} (settled : IsSettled first)
    (settled' : IsSettled second) : IsSettled (first ++ second) where
  row := isRow_append.mpr ⟨settled.row, settled'.row⟩
  closed := Reading.after?_append_eq_some.mpr ⟨_, settled.closed, settled'.closed⟩
  shaped shaped := by
    rw [List.append_assoc]
    exact settled.shaped (settled'.shaped shaped)
  tidy tidy := by
    rw [List.append_assoc]
    exact settled.tidy (settled'.tidy tidy)

theorem isSettled_single {c : Char} (plain : IsInk c ∨ c = ' ') : IsSettled [c] := by
  have other : c ∉ ['"', '\x7b', '\x7d', '(', ')', '[', ']', ',', '\n'] := by
    rcases plain with ink | rfl
    · intro member
      exact ink (List.mem_append_left [' '] member)
    · decide
  simp only [List.mem_cons, List.not_mem_nil, or_false, not_or] at other
  obtain ⟨quote, brace, brace', round, round', square, square', comma, feed⟩ := other
  refine ⟨?_, ?_, fun shaped => ?_, fun tidy => ?_⟩
  · simpa [IsRow] using Ne.symm feed
  · have step : Reading.Step .start c ⟨Side.outside.next c, []⟩ :=
      .other [] fun _ => by simp [IsOpener, IsCloser, *]
    have stays : Side.outside.next c = .outside := if_neg quote
    rw [stays] at step
    exact Reading.after?_cons_eq_some.mpr ⟨_, step, rfl⟩
  · exact (shaped_cons quote _).mpr ⟨⟨feed, fun starts => by simp [brace, comma] at starts⟩, shaped⟩
  · refine (tidy_cons quote _).mpr ⟨⟨fun starts => ?_, fun starts => ?_⟩, tidy⟩
    · simp [round, square] at starts
    · simp [brace, comma] at starts

theorem IsPiece.append {first second : List Char} (piece : IsPiece first)
    (settled : IsSettled second) : IsPiece (first ++ second) where
  toIsSettled := piece.toIsSettled.append settled
  visible rest := by
    rw [List.append_assoc]
    exact piece.visible (second ++ rest)

theorem isPiece_word {text : List Char} (nonempty : text ≠ []) (ink : ∀ c ∈ text, IsInk c) :
    IsPiece text := by
  induction text with
  | nil => exact absurd rfl nonempty
  | cons c rest ih =>
    obtain ⟨first, others⟩ := List.forall_mem_cons.mp ink
    have space : c ≠ ' ' := by
      rintro rfl
      exact absurd first (by decide)
    have piece : IsPiece [c] := ⟨isSettled_single (.inl first), leadingSpaces_of_ne space⟩
    cases rest with
    | nil => exact piece
    | cons d rest => exact piece.append (ih (List.cons_ne_nil d rest) others).toIsSettled

/-- A piece behind another one and a space. -/
theorem IsPiece.spaced {first second : List Char} (piece : IsPiece first)
    (piece' : IsPiece second) : IsPiece (first ++ ' ' :: second) :=
  piece.append ((isSettled_single (.inr rfl)).append piece'.toIsSettled)

/-- A comma has a space behind it, and behind that something visible. -/
theorem IsPiece.comma {text : List Char} (piece : IsPiece text) :
    IsSettled ([',', ' '] ++ text) where
  row := isRow_append.mpr ⟨by decide, piece.row⟩
  closed := Reading.after?_append_eq_some.mpr ⟨.start, rfl, piece.closed⟩
  shaped {rest} shaped := by
    have spaced : Shaped .outside (' ' :: (text ++ rest)) :=
      (isSettled_single (.inr rfl)).shaped (piece.shaped shaped)
    exact (shaped_cons (by decide) _).mpr ⟨⟨by decide, fun _ => rfl⟩, spaced⟩
  tidy {rest} tidy := by
    have spaced : Tidy .outside (' ' :: (text ++ rest)) :=
      (isSettled_single (.inr rfl)).tidy (piece.tidy tidy)
    have one : leadingSpaces (' ' :: (text ++ rest)) = 1 := by
      rw [leadingSpaces_space, piece.visible rest]
    refine (tidy_cons (by decide) _).mpr ⟨⟨fun starts => absurd starts (by decide), fun _ => ?_⟩,
      spaced⟩
    exact Nat.le_of_eq one

/-- Pieces in a list, with commas between them. -/
theorem isPiece_intercalate {pieces : List (List Char)} (nonempty : pieces ≠ [])
    (each : ∀ piece ∈ pieces, IsPiece piece) : IsPiece ([',', ' '].intercalate pieces) := by
  induction pieces with
  | nil => exact absurd rfl nonempty
  | cons first rest ih =>
    obtain ⟨piece, others⟩ := List.forall_mem_cons.mp each
    cases rest with
    | nil => simpa using piece
    | cons second rest =>
      rw [List.intercalate_cons_cons, List.append_assoc]
      exact piece.append (ih (List.cons_ne_nil second rest) others).comma

/-- A pair of brackets around a settled text. Of spaces there is one behind a brace and none behind
the other brackets. -/
theorem isPiece_enclosed {opener closer : Char} (closes : Closes opener closer) {inner : List Char}
    (settled : IsSettled inner) (brace : opener = '\x7b' → inner.head? = some ' ')
    (spaces : ∀ rest, leadingSpaces (inner ++ closer :: rest) ≤ if opener = '\x7b' then 1 else 0) :
    IsPiece (opener :: (inner ++ [closer])) := by
  have opens := visible_of_isOpener closes.isOpener
  have ends := visible_of_isCloser closes.isCloser
  have noQuote : opener ≠ '"' ∧ closer ≠ '"' ∧ closer ≠ '\x7b' ∧ opener ≠ ',' ∧ closer ≠ ',' ∧
      closer ≠ '(' ∧ closer ≠ '[' := by
    have all : ∀ pair ∈ [('\x7b', '\x7d'), ('(', ')'), ('[', ']')], pair.1 ≠ '"' ∧ pair.2 ≠ '"' ∧
        pair.2 ≠ '\x7b' ∧ pair.1 ≠ ',' ∧ pair.2 ≠ ',' ∧ pair.2 ≠ '(' ∧ pair.2 ≠ '[' := by decide
    exact all _ closes
  obtain ⟨quote, quote', brace', comma, comma', round, square⟩ := noQuote
  have split (rest : List Char) :
      opener :: (inner ++ [closer]) ++ rest = opener :: (inner ++ closer :: rest) := by simp
  refine ⟨⟨?_, ?_, fun {rest} shaped => ?_, fun {rest} tidy => ?_⟩, fun rest => ?_⟩
  · have first : IsRow [opener] := by simpa [IsRow] using Ne.symm opens.2
    have last : IsRow [closer] := by simpa [IsRow] using Ne.symm ends.2
    exact isRow_append.mpr ⟨first, isRow_append.mpr ⟨settled.row, last⟩⟩
  · have inside := Reading.after?_inside settled.closed [opener]
    have last : Reading.after? ⟨.outside, [opener]⟩ [closer] = some .start :=
      Reading.after?_cons_eq_some.mpr ⟨_, .closer [] closes, rfl⟩
    refine Reading.after?_cons_eq_some.mpr ⟨_, .opener [] closes.isOpener, ?_⟩
    exact Reading.after?_append_eq_some.mpr ⟨_, inside, last⟩
  · have behind : Shaped .outside (closer :: rest) :=
      (shaped_cons quote' rest).mpr ⟨⟨ends.2, by simp [brace', comma']⟩, shaped⟩
    rw [split, shaped_cons quote]
    refine ⟨⟨opens.2, ?_⟩, settled.shaped behind⟩
    rintro (starts | starts)
    · rw [List.head?_append, brace starts]
      rfl
    · exact absurd starts comma
  · have behind : Tidy .outside (closer :: rest) :=
      (tidy_cons quote' rest).mpr ⟨⟨by simp [round, square], by simp [brace', comma']⟩, tidy⟩
    have few := spaces rest
    rw [split, tidy_cons quote]
    refine ⟨⟨?_, ?_⟩, settled.tidy behind⟩
    · intro starts
      have other : opener ≠ '\x7b' := by rcases starts with rfl | rfl <;> decide
      rw [if_neg other] at few
      omega
    · rintro (starts | starts)
      · rwa [if_pos starts] at few
      · exact absurd starts comma
  · exact leadingSpaces_of_ne opens.1 _

/-- Round and square brackets stand directly around a piece, or around nothing. -/
theorem isPiece_brackets {opener closer : Char} (closes : Closes opener closer)
    (other : opener ≠ '\x7b') {text : List Char} (inner : text = [] ∨ IsPiece text) :
    IsPiece (opener :: (text ++ [closer])) := by
  have ends := visible_of_isCloser closes.isCloser
  rcases inner with rfl | piece
  · refine isPiece_enclosed closes isSettled_nil (fun brace => absurd brace other) fun rest => ?_
    rw [List.nil_append, leadingSpaces_of_ne ends.1]
    exact Nat.zero_le _
  · refine isPiece_enclosed closes piece.toIsSettled (fun brace => absurd brace other) ?_
    intro rest
    rw [piece.visible]
    exact Nat.zero_le _

/-- Braces have a space on each side of what they enclose. -/
theorem IsPiece.braced {text : List Char} (piece : IsPiece text) :
    IsPiece ('\x7b' :: ((' ' :: (text ++ [' '])) ++ ['\x7d'])) := by
  have space : IsSettled [' '] := isSettled_single (.inr rfl)
  refine isPiece_enclosed (by decide) (space.append (piece.toIsSettled.append space))
    (fun _ => rfl) fun rest => ?_
  rw [List.cons_append, leadingSpaces_space, List.append_assoc, piece.visible]
  exact Nat.le_refl 1

theorem shaped_cons_of_ne {side : Side} (inside : side ≠ .outside) (c : Char) (rest : List Char) :
    Shaped side (c :: rest) ↔ Shaped (side.next c) rest := by
  simp only [Shaped, inside, false_imp_iff, true_and]

theorem tidy_cons_of_ne {side : Side} (inside : side ≠ .outside) (c : Char) (rest : List Char) :
    Tidy side (c :: rest) ↔ Tidy (side.next c) rest := by
  simp only [Tidy, inside, false_imp_iff, true_and]

/-- The body of a literal is read without leaving the literal, and asks for nothing on its way. -/
theorem inside_of_body {body : List Char} (inner : Body body) :
    Reading.after? ⟨.inside, []⟩ body = some ⟨.inside, []⟩ ∧
    (∀ {rest}, Shaped .inside rest → Shaped .inside (body ++ rest)) ∧
    ∀ {rest}, Tidy .inside rest → Tidy .inside (body ++ rest) := by
  have step {side : Side} (inside : side ≠ .outside) (c : Char) :
      Reading.Step ⟨side, []⟩ c ⟨side.next c, []⟩ :=
    .other [] fun outside => absurd outside inside
  induction inner with
  | nil => exact ⟨rfl, id, id⟩
  | @plain c rest noQuote noBackslash _ ih =>
    obtain ⟨read, shaped, tidy⟩ := ih
    have stays : Side.inside.next c = .inside := by
      rw [Side.next, if_neg noBackslash, if_neg noQuote]
    refine ⟨?_, fun behind => ?_, fun behind => ?_⟩
    · refine Reading.after?_cons_eq_some.mpr ⟨_, step (by decide) c, ?_⟩
      rwa [stays]
    · rw [List.cons_append, shaped_cons_of_ne (by decide), stays]
      exact shaped behind
    · rw [List.cons_append, tidy_cons_of_ne (by decide), stays]
      exact tidy behind
  | escape c _ ih =>
    obtain ⟨read, shaped, tidy⟩ := ih
    have escaped : Side.escaped ≠ .outside := by decide
    have entered : Reading.Step ⟨.inside, []⟩ '\\' ⟨.escaped, []⟩ := step (by decide) '\\'
    have back : Reading.Step ⟨.escaped, []⟩ c ⟨.inside, []⟩ := step (by decide) c
    refine ⟨?_, fun behind => ?_, fun behind => ?_⟩
    · refine Reading.after?_cons_eq_some.mpr ⟨_, entered, ?_⟩
      exact Reading.after?_cons_eq_some.mpr ⟨_, back, read⟩
    · have behind := (shaped_cons_of_ne escaped c _).mpr (shaped behind)
      exact (shaped_cons_of_ne (by decide) '\\' _).mpr behind
    · have behind := (tidy_cons_of_ne escaped c _).mpr (tidy behind)
      exact (tidy_cons_of_ne (by decide) '\\' _).mpr behind

theorem body_append {text rest : List Char} (plain : ∀ c ∈ text, c ≠ '"' ∧ c ≠ '\\')
    (inner : Body rest) : Body (text ++ rest) := by
  induction text with
  | nil => exact inner
  | cons c text ih =>
    obtain ⟨first, others⟩ := List.forall_mem_cons.mp plain
    exact .plain first.1 first.2 (ih others)

theorem body_escape (c : Char) {rest : List Char} (inner : Body rest) :
    Body (escape c ++ rest) := by
  have digits : ∀ d ∈ Nat.toDigits 16 c.toNat, d ≠ '"' ∧ d ≠ '\\' := by
    have plain : ∀ m < 16, m.digitChar ≠ '"' ∧ m.digitChar ≠ '\\' := by decide
    intro d member
    obtain ⟨m, small, rfl⟩ := exists_digitChar_of_mem_toDigits (by decide) member
    exact plain m small
  rw [escape]
  split_ifs with zero tab back feed mark hidden
  · exact .escape _ inner
  · exact .escape _ inner
  · exact .escape _ inner
  · exact .escape _ inner
  · exact .escape _ inner
  · have closed : Body ('\x7d' :: rest) := .plain (by decide) (by decide) inner
    have code : Body ('\x7b' :: (Nat.toDigits 16 c.toNat ++ '\x7d' :: rest)) :=
      .plain (by decide) (by decide) (body_append digits closed)
    simpa [codeEscape] using Body.escape 'u' code
  · obtain ⟨noBackslash, noQuote⟩ := not_or.mp mark
    exact .plain noQuote noBackslash inner

/-- A quoted text is one literal. -/
theorem isPiece_quote (text : String) : IsPiece (quote text).toList := by
  have body : Body (text.toList.flatMap escape) := by
    induction text.toList with
    | nil => exact .nil
    | cons c rest ih => exact body_escape c ih
  obtain ⟨read, shaped, tidy⟩ := inside_of_body body
  have spelled : (quote text).toList = '"' :: (text.toList.flatMap escape ++ ['"']) := by
    rw [quote, String.toList_ofList]
    rfl
  have opened : Reading.Step .start '"' ⟨.inside, []⟩ := .other [] fun _ => by decide
  have closed : Reading.Step ⟨.inside, []⟩ '"' .start := .other [] (absurd · (by decide))
  refine ⟨⟨isRow_quote text, ?_, fun {rest} behind => ?_, fun {rest} behind => ?_⟩, fun rest => ?_⟩
  · rw [spelled]
    refine Reading.after?_cons_eq_some.mpr ⟨_, opened, ?_⟩
    refine Reading.after?_append_eq_some.mpr ⟨_, read, ?_⟩
    exact Reading.after?_cons_eq_some.mpr ⟨_, closed, rfl⟩
  · have ends : Shaped .inside ('"' :: rest) := (shaped_cons_of_ne (by decide) '"' rest).mpr behind
    rw [spelled, List.cons_append, List.append_assoc]
    exact ⟨fun _ => ⟨by decide, by simp⟩, shaped ends⟩
  · have ends : Tidy .inside ('"' :: rest) := (tidy_cons_of_ne (by decide) '"' rest).mpr behind
    rw [spelled, List.cons_append, List.append_assoc]
    exact ⟨fun _ => by simp, tidy ends⟩
  · rw [spelled]
    exact leadingSpaces_of_ne (by decide) _

end JobLang.Text
