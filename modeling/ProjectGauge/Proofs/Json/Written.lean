import ProjectGauge.Proofs.Json.Parsing

/-!
# Reading what has been written

What is written of an object with a list of texts, each on a line of its own, spells this object in the
grammar, and so it is read back.

* `spells_object` goes along what is written, from the strings outwards.
* `read_object` reads it back, and `isPlain_object` says that it is in ASCII.
-/

namespace ProjectGauge.Json

open Text (IsPlain)

/-! ## Spelling -/

theorem noSpace : IsSpace [] :=
  fun _ inside => nomatch inside

theorem isSpace_lineBreak (depth : Nat) : IsSpace (lineBreak depth) := by
  refine List.forall_mem_cons.mpr ⟨rfl, fun c inside => ?_⟩
  rw [List.eq_of_mem_replicate inside]
  rfl

theorem isString_encodeString (text : String) : IsString text (encodeString text.toList) := by
  obtain ⟨quoted, same, isString⟩ := isString_of_string (@string_encoded 0 [] text)
  rw [List.append_nil] at same
  rwa [← same] at isString

/-- The items of a list of texts, each on a line of its own. -/
theorem spells_indentedItems {behind : List Char} (depth : Nat) (first : String) (others : List String)
    (blank : IsSpace behind) :
    Spells (.items ((first :: others).map .text))
      (lineBreak depth ++
        (encodeString first.toList ++ (indentedItems depth (others.map .text) ++ behind))) := by
  induction others generalizing first with
  | nil => exact .lastItem (.item (isSpace_lineBreak depth) (.string (isString_encodeString first)) blank)
  | cons second others inductionHypothesis =>
    have here : Spells (.item (.text first)) (lineBreak depth ++ (encodeString first.toList ++ [])) :=
      .item (isSpace_lineBreak depth) (.string (isString_encodeString first)) noSpace
    have both := here.moreItems (inductionHypothesis second)
    simpa only [List.map_cons, indentedItems, Value.indented, encodeScalar, List.append_assoc,
      List.append_nil, List.nil_append, List.cons_append] using both

theorem spells_indentedTexts (depth : Nat) (texts : List String) :
    Spells (.value (.array (texts.map .text))) ((Value.array (texts.map .text)).indented depth) := by
  cases texts with
  | nil => exact .emptyArray noSpace
  | cons first others =>
    have items := spells_indentedItems (depth + 1) first others (isSpace_lineBreak depth)
    simpa only [List.map_cons, Value.indented, encodeScalar, List.append_assoc, List.cons_append,
      List.nil_append] using items.array

/-- What is written of an object with a list of texts spells it. -/
theorem spells_object (name : String) (texts : List String) :
    Spells (.item (.object [(name, .array (texts.map .text))]))
      ((Value.object [(name, .array (texts.map .text))]).indented 0) := by
  have list : Spells (.item (.array (texts.map .text)))
      ([' '] ++ ((Value.array (texts.map .text)).indented 1 ++ lineBreak 0)) :=
    .item (List.forall_mem_singleton.mpr rfl) (spells_indentedTexts 1 texts) (isSpace_lineBreak 0)
  have member := Spells.member (isSpace_lineBreak 1) (isString_encodeString name) noSpace list
  have whole := Spells.item noSpace member.lastMember.object noSpace
  simpa only [Value.indented, indentedMembers, List.append_assoc, List.cons_append, List.nil_append,
    List.append_nil] using whole

/-! ## Reading -/

theorem settledItems_texts (texts : List String) : settledItems (texts.map .text) = texts.map .text := by
  induction texts with
  | nil => rfl
  | cons text rest inductionHypothesis =>
    rw [List.map_cons, settledItems, inductionHypothesis]
    rfl

/-- A text that holds an object with a list of texts is read back. -/
theorem read_object (name : String) (texts : List String) :
    Json.read ((Value.object [(name, .array (texts.map .text))]).indented 0) =
      .ok (.object [(name, .array (texts.map .text))]) := by
  refine read_eq_ok_iff.mpr ⟨_, spells_object name texts, ?_⟩
  rw [settled_object, settledMembers, settled_array, settledItems_texts]
  rfl

example : (Value.object [("list", .array [.text "a\x22", .text "😀"])]).indented 0 =
    "\x7b\n  \x22list\x22: [\n    \x22a\\\x22\x22,\n    \x22\\ud83d\\ude00\x22\n  ]\n\x7d".toList := by
  cbv

/-! ## ASCII -/

theorem isPlain_lineBreak (depth : Nat) : IsPlain (lineBreak depth) := by
  refine Text.IsPlain.cons (by decide) fun c inside => ?_
  rw [List.eq_of_mem_replicate inside]
  decide

theorem isPlain_indentedItems (depth : Nat) (texts : List String) :
    IsPlain (indentedItems depth (texts.map .text)) := by
  induction texts with
  | nil => exact fun c inside => by cases inside
  | cons text rest inductionHypothesis =>
    rw [List.map_cons, indentedItems]
    exact ((Text.IsPlain.cons (by decide) (isPlain_lineBreak depth)).append
      (isPlain_encodeString text.toList)).append inductionHypothesis

/-- An object with a list of texts is written in ASCII. -/
theorem isPlain_object (name : String) (texts : List String) :
    IsPlain ((Value.object [(name, .array (texts.map .text))]).indented 0) := by
  have list : IsPlain ((Value.array (texts.map .text)).indented 1) := by
    cases texts with
    | nil => exact (by decide : IsPlain "[]".toList)
    | cons first others =>
      rw [List.map_cons, Value.indented]
      exact ((((Text.IsPlain.cons (by decide) (isPlain_lineBreak 2)).append
        (isPlain_encodeString first.toList)).append (isPlain_indentedItems 2 others)).append
          (isPlain_lineBreak 1)).append (by decide)
  rw [Value.indented]
  exact (((((Text.IsPlain.cons (by decide) (isPlain_lineBreak 1)).append
    (isPlain_encodeString name.toList)).append
      (Text.IsPlain.cons (by decide) (Text.IsPlain.cons (by decide) list))).append
        (fun c inside => by cases inside)).append (isPlain_lineBreak 0)).append (by decide)

end ProjectGauge.Json
