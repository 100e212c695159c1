import JobLang.Proofs.Dump.Pieces
import JobLang.Typed.Dump

/-!
# The dump of a program, laid out

The dump of every program is a piece: names of nodes and fields are words, and so are numbers, and
everything else is quoted or put together from smaller pieces. So whatever holds of the layout of a
text that is fit for it holds of the dump of a program over many lines: nothing is lost, the dump on
one line can be told from it, and its brackets line up.
-/
namespace JobLang

open Text (IsInk IsPiece)

/-- A text of characters that are nothing but themselves to the layout. -/
def IsWord (text : String) : Prop := text.toList ≠ [] ∧ ∀ c ∈ text.toList, IsInk c

-- Only the characters of the text are looked at, not all that there are.
instance (text : String) : Decidable (IsWord text) :=
  have : Decidable (∀ c ∈ text.toList, IsInk c) := List.decidableBAll IsInk text.toList
  inferInstanceAs (Decidable (_ ∧ ∀ c ∈ text.toList, IsInk c))

theorem IsWord.isPiece {text : String} (word : IsWord text) : IsPiece text.toList :=
  Text.isPiece_word word.1 word.2

theorem IsWord.append_left {first second : String} (word : IsWord second)
    (ink : ∀ c ∈ first.toList, IsInk c) : IsWord (first ++ second) := by
  rw [IsWord, String.toList_append]
  exact ⟨List.append_ne_nil_of_right_ne_nil _ word.1, List.forall_mem_append.mpr ⟨ink, word.2⟩⟩

theorem isInk_of_isDigit {c : Char} (digit : c.isDigit = true) : IsInk c := by
  intro special
  have none : ['"', '\x7b', '\x7d', '(', ')', '[', ']', ',', '\n', ' '].any Char.isDigit = false :=
    by decide
  exact List.any_eq_false.mp none c special digit

theorem isInk_of_mem_toDigits {n : Nat} {c : Char} (member : c ∈ Nat.toDigits 10 n) : IsInk c :=
  isInk_of_isDigit (Nat.isDigit_of_mem_toDigits (by decide) (by decide) member)

theorem isWord_toString (n : Nat) : IsWord (toString n) := by
  rw [Nat.toString_eq_repr, IsWord, Nat.toList_repr]
  exact ⟨Nat.toDigits_ne_nil, fun c member => isInk_of_mem_toDigits member⟩

theorem isInk_of_mem_toString {n : Int} {c : Char} (member : c ∈ (toString n).toList) :
    IsInk c := by
  cases n with
  | ofNat n => exact (isWord_toString n).2 c member
  | negSucc n =>
    have split : (toString (Int.negSucc n)).toList = '-' :: (toString (n + 1)).toList :=
      String.toList_append
    rw [split] at member
    rcases List.mem_cons.mp member with rfl | member
    · decide
    · exact (isWord_toString (n + 1)).2 c member

namespace Number

/-- Digits in positional notation are still digits, but for the point, which is always there. -/
theorem isInk_of_mem_positional {digits : List Char} (ink : ∀ c ∈ digits, IsInk c) (lead : Int) :
    positional digits lead ≠ [] ∧ ∀ c ∈ positional digits lead, IsInk c := by
  have zeros (n : Nat) : ∀ c ∈ List.replicate n '0', IsInk c := by
    intro c member
    rw [List.eq_of_mem_replicate member]
    decide
  rw [positional]
  split
  · refine ⟨by simp, fun c member => ?_⟩
    rcases List.mem_append.mp member with member | member
    · rcases List.mem_append.mp member with member | member
      · have point : IsWord "0." := by decide
        exact point.2 c member
      · exact zeros _ c member
    · exact ink c member
  · have padded (n : Nat) : ∀ c ∈ digits ++ List.replicate n '0', IsInk c :=
      List.forall_mem_append.mpr ⟨ink, zeros n⟩
    refine ⟨by simp, fun c member => ?_⟩
    simp only [List.mem_append, List.mem_cons] at member
    rcases member with member | rfl | member
    · exact padded _ c (List.mem_of_mem_take member)
    · decide
    · split at member
      · rw [List.mem_singleton.mp member]
        decide
      · exact padded _ c (List.mem_of_mem_drop member)

theorem isInk_of_mem_scientific {digits : List Char} (ink : ∀ c ∈ digits, IsInk c) (lead : Int) :
    scientific digits lead ≠ [] ∧ ∀ c ∈ scientific digits lead, IsInk c := by
  have power : ∀ c ∈ 'e' :: (toString lead).toList, IsInk c :=
    List.forall_mem_cons.mpr ⟨by decide, fun c member => isInk_of_mem_toString member⟩
  rcases digits with _ | ⟨first, _ | ⟨second, rest⟩⟩
  · exact ⟨List.cons_ne_nil _ _, power⟩
  · exact ⟨List.cons_ne_nil _ _, List.forall_mem_append.mpr ⟨ink, power⟩⟩
  · obtain ⟨ink, others⟩ := List.forall_mem_cons.mp ink
    have pointed : ∀ c ∈ first :: '.' :: second :: rest, IsInk c :=
      List.forall_mem_cons.mpr ⟨ink, List.forall_mem_cons.mpr ⟨by decide, others⟩⟩
    exact ⟨List.cons_ne_nil _ _, List.forall_mem_append.mpr ⟨pointed, power⟩⟩

theorem isWord_layout (form : Layout) (x : Decimal) : IsWord (form.render x) := by
  have ink : ∀ c ∈ x.leading.1, IsInk c := by
    intro c member
    rw [Decimal.leading, List.mem_reverse] at member
    have member := (List.dropWhile_sublist _).mem member
    exact isInk_of_mem_toDigits (List.mem_reverse.mp member)
  rcases parts : x.leading with ⟨digits, lead⟩
  rw [parts] at ink
  rw [Layout.render, parts, IsWord]
  dsimp only
  split_ifs
  · rw [String.toList_ofList]
    exact isInk_of_mem_positional ink lead
  · rw [String.toList_ofList]
    exact isInk_of_mem_scientific ink lead

theorem isWord_render (x : Float) : IsWord (render x) := by
  rw [render]
  split
  · split_ifs <;> decide
  · next value _ =>
    have sign : ∀ c ∈ (if value.negative then "-" else "").toList, IsInk c := by
      have minus : IsWord "-" := by decide
      split_ifs
      · exact minus.2
      · exact List.forall_mem_nil _
    by_cases zero : value.mantissa = 0
    · have word : IsWord "0.0" := by decide
      dsimp only
      rw [if_pos zero]
      exact word.append_left sign
    · dsimp only
      rw [if_neg zero]
      exact (isWord_layout standardLayout value.shortest).append_left sign

end Number

namespace Dump

open Text (isPiece_brackets isPiece_intercalate isPiece_quote)

theorem toList_intercalate (texts : List String) :
    (", ".intercalate texts).toList = [',', ' '].intercalate (texts.map String.toList) :=
  String.toList_intercalate

/-- The items of a list, if there are any. -/
theorem items_eq_nil_or_isPiece {items : List String} (each : ∀ item ∈ items, IsPiece item.toList) :
    (", ".intercalate items).toList = [] ∨ IsPiece (", ".intercalate items).toList := by
  rw [toList_intercalate]
  rcases items with _ | ⟨item, rest⟩
  · exact .inl rfl
  · refine .inr (isPiece_intercalate (by simp) fun piece member => ?_)
    obtain ⟨item, listed, rfl⟩ := List.mem_map.mp member
    exact each item listed

theorem isPiece_list {items : List String} (each : ∀ item ∈ items, IsPiece item.toList) :
    IsPiece (list items).toList := by
  have square : Text.Closes '[' ']' := by decide
  have piece := isPiece_brackets square (by decide) (items_eq_nil_or_isPiece each)
  rw [list, String.toList_append, String.toList_append]
  exact piece

theorem isPiece_tuple {name : String} (word : IsWord name) {fields : List String}
    (each : ∀ field ∈ fields, IsPiece field.toList) : IsPiece (tuple name fields).toList := by
  have round : Text.Closes '(' ')' := by decide
  have piece := isPiece_brackets round (by decide) (items_eq_nil_or_isPiece each)
  rw [tuple, String.toList_append, String.toList_append, String.toList_append, List.append_assoc,
    List.append_assoc]
  exact word.isPiece.append piece.toIsSettled

theorem isPiece_optional {content : Option String} (piece : ∀ text ∈ content, IsPiece text.toList) :
    IsPiece (optional content).toList := by
  cases content with
  | none => exact IsWord.isPiece (by decide)
  | some text =>
    refine isPiece_tuple (by decide) ?_
    rintro field member
    rw [List.mem_singleton.mp member]
    exact piece text rfl

/-- The fields of a node, of which there is at least one: the name of each is a word, and it holds
a piece. -/
inductive AreFields : List (String × String) → Prop
  | last {name text : String} (word : IsWord name) (piece : IsPiece text.toList) :
    AreFields [(name, text)]
  | cons {name text : String} {rest : List (String × String)} (word : IsWord name)
    (piece : IsPiece text.toList) (others : AreFields rest) : AreFields ((name, text) :: rest)

theorem AreFields.ne_nil {fields : List (String × String)} (are : AreFields fields) :
    fields ≠ [] := by
  cases are <;> exact List.cons_ne_nil _ _

theorem AreFields.isPiece_of_mem {fields : List (String × String)} (are : AreFields fields) :
    ∀ field ∈ fields, IsPiece (field.1 ++ ": " ++ field.2).toList := by
  have single {name text : String} (word : IsWord name) (piece : IsPiece text.toList) :
      IsPiece (name ++ ": " ++ text).toList := by
    have colon : IsWord ":" := by decide
    have spaced := (colon.append_left word.2).isPiece.spaced piece
    simpa using spaced
  induction are with
  | last word piece => exact List.forall_mem_singleton.mpr (single word piece)
  | cons word piece _ ih => exact List.forall_mem_cons.mpr ⟨single word piece, ih⟩

theorem isPiece_record {name : String} (word : IsWord name) {fields : List (String × String)}
    (are : AreFields fields) : IsPiece (record name fields).toList := by
  have inner : IsPiece
      (", ".intercalate (fields.map fun field => field.1 ++ ": " ++ field.2)).toList := by
    rw [toList_intercalate]
    refine isPiece_intercalate (by simpa using are.ne_nil) fun piece member => ?_
    obtain ⟨text, spelled, rfl⟩ := List.mem_map.mp member
    obtain ⟨field, listed, rfl⟩ := List.mem_map.mp spelled
    exact are.isPiece_of_mem field listed
  have spaced := word.isPiece.spaced inner.braced
  simpa [record] using spaced

theorem isPiece_truth (b : Bool) : IsPiece (truth b).toList := by
  cases b <;> exact IsWord.isPiece (by decide)

end Dump

open Dump (isPiece_list isPiece_optional isPiece_record isPiece_truth isPiece_tuple)
open Text (isPiece_quote)

theorem Position.isPiece_dump (position : Position) : IsPiece position.dump.toList := by
  have offset := (isWord_toString position.offset).isPiece
  have file := isPiece_quote position.file
  exact isPiece_tuple (by decide)
    (List.forall_mem_cons.mpr ⟨offset, List.forall_mem_singleton.mpr file⟩)

mutual

theorem Ty.isPiece_dump : ∀ ty : Ty, IsPiece ty.dump.toList
  | .num | .baal | .quote | .void => IsWord.isPiece (by decide)
  | .job params result => by
    have listed := isPiece_list (Ty.isPiece_of_mem_dumpAll params)
    refine isPiece_tuple (by decide) (List.forall_mem_singleton.mpr ?_)
    exact isPiece_record (by decide)
      (.cons (by decide) listed (.last (by decide) (Ty.isPiece_dump result)))

theorem Ty.isPiece_of_mem_dumpAll : ∀ tys : List Ty, ∀ item ∈ Ty.dumpAll tys, IsPiece item.toList
  | [] => nofun
  | ty :: rest =>
    List.forall_mem_cons.mpr ⟨Ty.isPiece_dump ty, Ty.isPiece_of_mem_dumpAll rest⟩

end

theorem BinaryOp.isPiece_dump (op : BinaryOp) : IsPiece op.dump.toList := by
  cases op <;> exact IsWord.isPiece (by decide)

theorem UnaryOp.isPiece_dump (op : UnaryOp) : IsPiece op.dump.toList := by
  cases op <;> exact IsWord.isPiece (by decide)

theorem Variable.isPiece_dump (v : Variable) : IsPiece v.dump.toList := by
  refine isPiece_record (by decide) (.cons (by decide) (isWord_toString v.id).isPiece ?_)
  refine .cons (by decide) (isPiece_quote v.name) ?_
  exact .cons (by decide) v.ty.isPiece_dump (.last (by decide) (isPiece_truth v.readOnly))

theorem Job.isPiece_dump (job : Job) : IsPiece job.dump.toList := by
  have params := isPiece_list (Ty.isPiece_of_mem_dumpAll job.params)
  refine isPiece_record (by decide) (.cons (by decide) (isWord_toString job.id).isPiece ?_)
  refine .cons (by decide) (isPiece_quote job.name) ?_
  exact .cons (by decide) params (.last (by decide) job.returns.isPiece_dump)

theorem Value.isPiece_dump (value : Value) : IsPiece value.dump.toList := by
  cases value with
  | num x =>
    exact isPiece_tuple (by decide)
      (List.forall_mem_singleton.mpr (Number.isWord_render x).isPiece)
  | baal b => exact isPiece_tuple (by decide) (List.forall_mem_singleton.mpr (isPiece_truth b))
  | quote text =>
    exact isPiece_tuple (by decide) (List.forall_mem_singleton.mpr (isPiece_quote text))

namespace Typed

theorem Note.isPiece_dump (note : Note) {content : String} (piece : IsPiece content.toList) :
    IsPiece (note.dump content).toList := by
  have position : ∀ text ∈ note.position.map Position.dump, IsPiece text.toList := by
    intro text member
    obtain ⟨position, _, rfl⟩ := Option.map_eq_some_iff.mp member
    exact position.isPiece_dump
  refine isPiece_record (by decide) (.cons (by decide) piece ?_)
  exact .cons (by decide) note.ty.isPiece_dump (.last (by decide) (isPiece_optional position))

theorem isPiece_dumpCall (callee : Job) {args : List String}
    (each : ∀ arg ∈ args, IsPiece arg.toList) : IsPiece (dumpCall callee args).toList := by
  refine isPiece_tuple (by decide) (List.forall_mem_singleton.mpr ?_)
  exact isPiece_record (by decide)
    (.cons (by decide) callee.isPiece_dump (.last (by decide) (isPiece_list each)))

mutual

theorem Expr.isPiece_dump : ∀ e : Expr, IsPiece e.dump.toList
  | .lit value note => note.isPiece_dump value.isPiece_dump
  | .var v note =>
    note.isPiece_dump (isPiece_tuple (by decide) (List.forall_mem_singleton.mpr v.isPiece_dump))
  | .binary op left right note => by
    refine note.isPiece_dump (isPiece_record (by decide) (.cons (by decide) op.isPiece_dump ?_))
    exact .cons (by decide) (Expr.isPiece_dump left)
      (.last (by decide) (Expr.isPiece_dump right))
  | .unary op operand note =>
    note.isPiece_dump (isPiece_record (by decide)
      (.cons (by decide) op.isPiece_dump (.last (by decide) (Expr.isPiece_dump operand))))
  | .call callee args note =>
    note.isPiece_dump (isPiece_dumpCall callee (Expr.isPiece_of_mem_dumpAll args))

theorem Expr.isPiece_of_mem_dumpAll :
    ∀ es : List Expr, ∀ item ∈ Expr.dumpAll es, IsPiece item.toList
  | [] => nofun
  | e :: rest =>
    List.forall_mem_cons.mpr ⟨Expr.isPiece_dump e, Expr.isPiece_of_mem_dumpAll rest⟩

end

mutual

theorem Stmt.isPiece_dump : ∀ s : Stmt, IsPiece s.dump.toList
  | .declare v init =>
    isPiece_record (by decide)
      (.cons (by decide) v.isPiece_dump (.last (by decide) init.isPiece_dump))
  | .job j params body => by
    have each : ∀ item ∈ params.map Variable.dump, IsPiece item.toList := by
      intro item member
      obtain ⟨v, _, rfl⟩ := List.mem_map.mp member
      exact v.isPiece_dump
    refine isPiece_record (by decide) (.cons (by decide) j.isPiece_dump ?_)
    exact .cons (by decide) (isPiece_list each) (.last (by decide) (Stmt.isPiece_chunk body))
  | .assign target source =>
    isPiece_record (by decide)
      (.cons (by decide) target.isPiece_dump (.last (by decide) source.isPiece_dump))
  | .print value | .output value =>
    isPiece_record (by decide) (.last (by decide) value.isPiece_dump)
  | .ifThen test body => by
    refine isPiece_record (by decide) (.cons (by decide) test.isPiece_dump ?_)
    exact .cons (by decide) (Stmt.isPiece_chunk body) (.last (by decide) (isPiece_optional nofun))
  | .ifElse test body alternative => by
    have piece := Stmt.isPiece_chunk alternative
    have other : ∀ text ∈ some (Dump.list (Stmt.dumpAll alternative)), IsPiece text.toList := by
      rintro text ⟨⟩
      exact piece
    refine isPiece_record (by decide) (.cons (by decide) test.isPiece_dump ?_)
    exact .cons (by decide) (Stmt.isPiece_chunk body)
      (.last (by decide) (isPiece_optional other))
  | .whileLoop test body =>
    isPiece_record (by decide)
      (.cons (by decide) test.isPiece_dump (.last (by decide) (Stmt.isPiece_chunk body)))
  | .repeatLoop count body =>
    isPiece_record (by decide)
      (.cons (by decide) count.isPiece_dump (.last (by decide) (Stmt.isPiece_chunk body)))
  | .coil counter low high body => by
    refine isPiece_record (by decide) (.cons (by decide) counter.isPiece_dump ?_)
    refine .cons (by decide) low.isPiece_dump (.cons (by decide) high.isPiece_dump ?_)
    exact .last (by decide) (Stmt.isPiece_chunk body)
  | .increment target | .decrement target =>
    isPiece_record (by decide) (.last (by decide) target.isPiece_dump)
  | .call callee args => isPiece_dumpCall callee (Expr.isPiece_of_mem_dumpAll args)

theorem Stmt.isPiece_of_mem_dumpAll :
    ∀ chunk : List Stmt, ∀ item ∈ Stmt.dumpAll chunk, IsPiece item.toList
  | [] => nofun
  | s :: rest =>
    List.forall_mem_cons.mpr ⟨Stmt.isPiece_dump s, Stmt.isPiece_of_mem_dumpAll rest⟩

theorem Stmt.isPiece_chunk (chunk : List Stmt) : IsPiece (Dump.list (dumpAll chunk)).toList :=
  isPiece_list (Stmt.isPiece_of_mem_dumpAll chunk)

end

/-- The dump of a program is fit for the layout. -/
theorem isPiece_dump (program : List Stmt) : IsPiece (dump program).toList :=
  isPiece_record (by decide) (.last (by decide) (Stmt.isPiece_chunk program))

theorem shaped_dump (program : List Stmt) : Text.Shaped .outside (dump program).toList := by
  have shaped : Text.Shaped .outside ((dump program).toList ++ []) :=
    (isPiece_dump program).shaped trivial
  rwa [List.append_nil] at shaped

theorem tidy_dump (program : List Stmt) : Text.Tidy .outside (dump program).toList := by
  have tidy : Text.Tidy .outside ((dump program).toList ++ []) :=
    (isPiece_dump program).tidy trivial
  rwa [List.append_nil] at tidy

theorem nested_dump (program : List Stmt) : Text.Nested (dump program).toList :=
  ⟨.outside, (isPiece_dump program).closed⟩

/-- Two programs are shown over lines alike only if their dumps on one line are the same. -/
theorem dump_eq_of_pretty_eq {program program' : List Stmt}
    (same : pretty program = pretty program') : dump program = dump program' :=
  Text.eq_of_indent_eq (shaped_dump program) (shaped_dump program') same

/-- Over lines a dump has the same characters as on one line, but for spaces and line feeds outside
of literals, and the same literals. -/
theorem strip_pretty (program : List Stmt) :
    Text.strip .outside (pretty program).toList = Text.strip .outside (dump program).toList ∧
    Text.literals .outside (pretty program).toList =
      Text.literals .outside (dump program).toList :=
  ⟨Text.strip_indent (dump program), Text.literals_indent (dump program)⟩

/-- Every closing bracket outside of literals of a program that is shown over lines belongs to an
opening one. It is the first on its line, and its line is indented like that of the opening one, by
the brackets around the two. -/
theorem lines_of_pretty (program : List Stmt) {front behind : List Char} {closer : Char}
    (split : (pretty program).toList = front ++ closer :: behind)
    (closes : Text.Indent.IsCloser closer)
    (outside : front.foldl Text.Side.next .outside = .outside) :
    ∃ before opener between around, front = before ++ opener :: between ∧
      Text.Paired (pretty program).toList before opener between closer behind around ∧
      Text.lastLine front = List.replicate (2 * around.length) ' ' ∧
      Text.leadingSpaces (Text.lineAround before (opener :: between ++ closer :: behind)) =
        2 * around.length := by
  have layout : (pretty program).toList = Text.Indent.layoutFrom .start (dump program).toList :=
    Text.toList_indent (dump program)
  have nested := Text.Indent.nested_layoutFrom (nested_dump program)
  have single : '\n' ∉ (dump program).toList := (isPiece_dump program).row
  have first : Text.leadingSpaces (dump program).toList = 0 := by
    have visible := (isPiece_dump program).visible []
    rwa [List.append_nil] at visible
  rw [layout] at split ⊢
  obtain ⟨before, opener, between, around, rfl, paired⟩ :=
    Text.exists_paired nested split closes outside
  obtain ⟨last, _, indented⟩ :=
    Text.Indent.lines_of_pair single first (tidy_dump program) paired
  exact ⟨before, opener, between, around, rfl, paired, last, indented⟩

end Typed
end JobLang
