import JobLang.Proofs.Indent.Literals
import JobLang.Typed.Dump

/-!
# The layout loses nothing

Laying out a text adds and leaves out spaces and line feeds outside of literals only, so that the
rest of the text, and with it the literals, can be read from the layout. Of a text that has no line
feeds there, and a space behind every opening brace and every comma, the layout also tells where the
spaces are: such a text is determined by its layout.
-/
namespace JobLang.Text

namespace Indent

/-- A text and its layout are on the same side of the literals at every character. -/
theorem Step.side {state next : State} {c : Char} {written : List Char}
    (step : Step state c written next) : next.mode.side = state.mode.side.next c := by
  cases step with
  | escaped | backslash | quoteEnd | dropped => rfl
  | quoted _ backslash quote => simp [Mode.side, Side.next, backslash, quote]
  | quoteStart outside =>
    rw [outside]
    rfl
  | opener outside opens =>
    rw [outside]
    rcases opens with rfl | rfl | rfl
    · rfl
    · exact outside
    · exact outside
  | closer outside closes =>
    rw [outside]
    rcases closes with rfl | rfl | rfl <;> rfl
  | comma outside =>
    rw [outside]
    rfl
  | kept outside quote =>
    rw [outside, Side.next, if_neg quote]

/-- What is written for a character is the character, but for spaces and line feeds outside of
literals. -/
theorem Step.strip_append {state next : State} {c : Char} {written laid rest : List Char}
    (step : Step state c written next)
    (same : strip next.mode.side laid = strip next.mode.side rest) :
    strip state.mode.side (written ++ laid) = strip state.mode.side (c :: rest) := by
  have side := step.side
  have kept : strip state.mode.side (c :: laid) = strip state.mode.side (c :: rest) := by
    rw [side] at same
    exact strip_cons_congr same
  cases step with
  | escaped | backslash | quoteEnd | quoted | quoteStart | kept => exact kept
  | opener outside opens =>
    have stays : Side.outside.next c = .outside := by rcases opens with rfl | rfl | rfl <;> rfl
    rw [outside] at kept ⊢
    refine Eq.trans (strip_cons_congr ?_) kept
    rw [stays]
    exact strip_gap_append (isGap_newline _) laid
  | closer outside =>
    rw [outside] at kept ⊢
    rw [List.append_assoc, strip_gap_append (isGap_newline _)]
    exact kept
  | comma outside =>
    rw [outside] at kept ⊢
    refine Eq.trans (strip_cons_congr ?_) kept
    exact strip_gap_append (isGap_newline _) laid
  | dropped => exact same

theorem strip_layoutFrom (state : State) (text : List Char) :
    strip state.mode.side (layoutFrom state text) = strip state.mode.side text := by
  induction text generalizing state with
  | nil => rfl
  | cons c rest ih => exact (step state c).strip_append (ih (state.next c))

end Indent

/-- Outside of literals there is no line feed, and a space behind every opening brace and comma. -/
def Shaped : Side → List Char → Prop
  | _, [] => True
  | side, c :: rest =>
    (side = .outside → c ≠ '\n' ∧ (c = '\x7b' ∨ c = ',' → rest.head? = some ' ')) ∧
      Shaped (side.next c) rest

instance decidableShaped : ∀ (side : Side) (text : List Char), Decidable (Shaped side text)
  | _, [] => inferInstanceAs (Decidable True)
  | side, c :: rest =>
    have := decidableShaped (side.next c) rest
    inferInstanceAs (Decidable (_ ∧ Shaped (side.next c) rest))

namespace Indent

/-- If a space is to be left out, it is the next character. -/
def State.Expects (state : State) (text : List Char) : Prop :=
  state.mode = .dropSpace → text.head? = some ' '

theorem Step.expects {state next : State} {c : Char} {written rest : List Char}
    (step : Step state c written next) (shaped : Shaped state.mode.side (c :: rest))
    (expects : state.Expects (c :: rest)) : next.Expects rest := by
  have first : state.mode = .dropSpace → c = ' ' := fun drops => by simpa using expects drops
  intro drops
  cases step with
  | escaped | backslash | quoteEnd | quoted | quoteStart | dropped => cases drops
  | opener outside opens =>
    by_cases brace : c = '\x7b'
    · exact (shaped.1 outside).2 (.inl brace)
    · simp only [if_neg brace] at drops
      rw [first drops] at opens
      exact absurd opens (by decide)
  | closer _ closes =>
    rw [first drops] at closes
    exact absurd closes (by decide)
  | comma outside => exact (shaped.1 outside).2 (.inr rfl)
  | kept _ _ _ _ _ space =>
    cases drops.symm.trans (space (first drops))

/-- What is written starts with a line feed for a closing bracket, and else with the character. -/
theorem Step.head {state next : State} {c : Char} {written : List Char}
    (step : Step state c written next) (writes : state.mode ≠ .dropSpace) :
    written.head? = some (if state.mode.side = .outside ∧ IsCloser c then '\n' else c) := by
  cases step with
  | escaped | backslash | quoteEnd | quoted => rfl
  | quoteStart | comma => simp [IsCloser]
  | opener _ opens =>
    have other : ¬IsCloser c := by rcases opens with rfl | rfl | rfl <;> decide
    simp [other]
  | closer outside closes =>
    rw [if_pos ⟨outside, closes⟩]
    rfl
  | dropped => exact absurd rfl writes
  | kept _ _ _ closes => simp [closes]

theorem Step.eq_of_isCloser {state next : State} {c : Char} {written : List Char}
    (step : Step state c written next) (outside : state.mode.side = .outside)
    (closes : IsCloser c) : written = newline (state.depth - 1) ++ [c] := by
  cases step with
  | escaped | backslash | quoteEnd | quoted => cases outside
  | quoteStart | comma | dropped => exact absurd closes (by decide)
  | opener _ opens => rcases opens with rfl | rfl | rfl <;> exact absurd closes (by decide)
  | closer => rfl
  | kept _ _ _ other => exact absurd closes other

/-- Two characters for which the same is written, before whatever else, are the same. -/
theorem eq_of_emit_append {state : State} {c d : Char} {laid laid' : List Char}
    (writes : state.mode ≠ .dropSpace) (feed : state.mode.side = .outside → c ≠ '\n')
    (feed' : state.mode.side = .outside → d ≠ '\n')
    (same : state.emit c ++ laid = state.emit d ++ laid') : c = d := by
  have first := (step state c).head writes
  have first' := (step state d).head writes
  have heads := congrArg List.head? same
  rw [List.head?_append, List.head?_append, first, first'] at heads
  have heads := Option.some.inj heads
  by_cases closes : state.mode.side = .outside ∧ IsCloser c
  · obtain ⟨outside, closes⟩ := closes
    by_cases closes' : IsCloser d
    · rw [(step state c).eq_of_isCloser outside closes,
        (step state d).eq_of_isCloser outside closes', List.append_assoc, List.append_assoc] at same
      exact (List.cons.inj (List.append_cancel_left same)).1
    · rw [if_pos ⟨outside, closes⟩, if_neg (fun both => closes' both.2)] at heads
      exact absurd heads.symm (feed' outside)
  · rw [if_neg closes] at heads
    by_cases closes' : state.mode.side = .outside ∧ IsCloser d
    · rw [if_pos closes'] at heads
      exact absurd heads (feed closes'.1)
    · rwa [if_neg closes'] at heads

theorem layoutFrom_cons_ne_nil {state : State} (writes : state.mode ≠ .dropSpace) (c : Char)
    (rest : List Char) : layoutFrom state (c :: rest) ≠ [] := by
  intro none
  have nothing := (List.append_eq_nil_iff.mp none).1
  have first := (step state c).head writes
  rw [nothing] at first
  cases first

theorem layoutFrom_injective {state : State} {first second : List Char}
    (shaped : Shaped state.mode.side first) (shaped' : Shaped state.mode.side second)
    (expects : state.Expects first) (expects' : state.Expects second)
    (same : layoutFrom state first = layoutFrom state second) : first = second := by
  induction first generalizing state second with
  | nil =>
    have writes : state.mode ≠ .dropSpace := fun drops => by cases expects drops
    cases second with
    | nil => rfl
    | cons d rest' => exact absurd same.symm (layoutFrom_cons_ne_nil writes d rest')
  | cons c rest ih =>
    cases second with
    | nil =>
      have writes : state.mode ≠ .dropSpace := fun drops => by cases expects' drops
      exact absurd same (layoutFrom_cons_ne_nil writes c rest)
    | cons d rest' =>
      rw [layoutFrom, layoutFrom] at same
      have equal : c = d := by
        by_cases drops : state.mode = .dropSpace
        · have space : some c = some d := (expects drops).trans (expects' drops).symm
          exact Option.some.inj space
        · exact eq_of_emit_append drops (fun outside => (shaped.1 outside).1)
            (fun outside => (shaped'.1 outside).1) same
      subst equal
      have side := (step state c).side
      have rests : rest = rest' := by
        refine ih ?_ ?_ ((step state c).expects shaped expects)
          ((step state c).expects shaped' expects') (List.append_cancel_left same)
        · rw [side]
          exact shaped.2
        · rw [side]
          exact shaped'.2
      rw [rests]

end Indent

theorem toList_indent (text : String) :
    (indent text).toList = Indent.layoutFrom .start text.toList := String.toList_ofList

theorem strip_indent (text : String) :
    strip .outside (indent text).toList = strip .outside text.toList := by
  rw [toList_indent]
  exact Indent.strip_layoutFrom .start text.toList

theorem literals_indent (text : String) :
    literals .outside (indent text).toList = literals .outside text.toList := by
  rw [← literals_strip, strip_indent, literals_strip]

theorem eq_of_indent_eq {first second : String} (shaped : Shaped .outside first.toList)
    (shaped' : Shaped .outside second.toList) (same : indent first = indent second) :
    first = second := by
  have layouts := String.ofList_inj.mp same
  have expects (text : List Char) : Indent.State.start.Expects text := nofun
  have chars : first.toList = second.toList := by
    refine Indent.layoutFrom_injective ?_ ?_ (expects _) (expects _) layouts
    · exact shaped
    · exact shaped'
  exact String.toList_inj.mp chars

/-- Without the spaces and line feeds outside of literals, a text and its layout are the same, so
that they have the same literals in the same order. Of two texts that have no line feed there, and
behind every opening brace and every comma a space, the layouts are the same only if the texts
are. -/
theorem strip_indent_and_indent_injective :
    (∀ text : String, strip .outside (indent text).toList = strip .outside text.toList ∧
      literals .outside (indent text).toList = literals .outside text.toList) ∧
    ∀ first second : String, Shaped .outside first.toList → Shaped .outside second.toList →
      indent first = indent second → first = second := by
  refine ⟨fun text => ⟨strip_indent text, literals_indent text⟩, ?_⟩
  intro first second shaped shaped' same
  exact eq_of_indent_eq shaped shaped' same

/-- A dump with a bracket, a comma and a quote in a literal. -/
def quotedDump : String :=
  Dump.record "Print" [("argument", Dump.tuple "Quote" [quote "a, (\""]), ("position", "None")]

/-- The dump as it is spelled. -/
def spelledDump : String := "Print \x7b argument: Quote(\"a, (\\\"\"), position: None \x7d"

theorem indent_quotedDump :
    literals .outside (indent quotedDump).toList = ["\"a, (\\\"\"".toList] ∧
    Shaped .outside spelledDump.toList ∧ Shaped .outside quotedDump.toList ∧
    indent spelledDump = indent quotedDump ∧ spelledDump = quotedDump := by
  obtain ⟨kept, determined⟩ := strip_indent_and_indent_injective
  have shaped : Shaped .outside spelledDump.toList := by decide
  have shaped' : Shaped .outside quotedDump.toList := by decide
  have same : indent spelledDump = indent quotedDump := rfl
  have spelled : literals .outside quotedDump.toList = ["\"a, (\\\"\"".toList] := by decide
  exact ⟨(kept quotedDump).2.trans spelled, shaped, shaped', same,
    determined spelledDump quotedDump shaped shaped' same⟩

end JobLang.Text
