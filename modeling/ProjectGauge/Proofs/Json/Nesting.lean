import ProjectGauge.Json.Nesting
import ProjectGauge.Proofs.Json.Written

/-!
# The depth of JSON texts

The reader looks for a bracket that is too deep character by character.  In a text of the grammar it finds one
if and only if the value that the text spells is deeper than there is room for.

* `Value.depth` counts the lists and objects that stand inside one another.
* `overflow?_of_spells` is the induction over the grammar, `tooDeep?_eq_none_iff` the result for whole texts.
* `tooDeep?_object`: what is written of an object with a list of texts is two deep.
* `tooDeep?_openLists` is about a text that only opens lists, which spells nothing.
-/

namespace ProjectGauge.Json

/-! ## Depth -/

mutual

/-- How many lists and objects stand inside one another at most. -/
def Value.depth : Value → Nat
  | .array items => depthOfItems items + 1
  | .object members => depthOfMembers members + 1
  | _ => 0

def depthOfItems : List Value → Nat
  | [] => 0
  | item :: rest => max item.depth (depthOfItems rest)

def depthOfMembers : List (String × Value) → Nat
  | [] => 0
  | (_, value) :: rest => max value.depth (depthOfMembers rest)

end

def Phrase.depth : Phrase → Nat
  | .value written | .item written | .member _ written => written.depth
  | .items list => depthOfItems list
  | .members list => depthOfMembers list

/-! ## Texts without brackets -/

/-- A character that neither opens nor closes anything. -/
def IsFlat (c : Char) : Prop :=
  c ≠ '\x22' ∧ c ≠ '[' ∧ c ≠ ']' ∧ c ≠ '\x7b' ∧ c ≠ '\x7d'

instance : DecidablePred IsFlat := fun _ => inferInstanceAs (Decidable (_ ∧ _))

/-- A text without brackets and quotation marks. -/
def AllFlat (text : List Char) : Prop :=
  ∀ c ∈ text, IsFlat c

instance (text : List Char) : Decidable (AllFlat text) :=
  List.decidableBAll _ text

variable {room : Nat} {text rest : List Char}

theorem overflow?_cons_flat {c : Char} (flat : IsFlat c) (room : Nat) (rest : List Char) :
    overflow? .outside room (c :: rest) = overflow? .outside room rest := by
  obtain ⟨notQuote, notBracket, notClosing, notBrace, notClosingBrace⟩ := flat
  simp [overflow?, Container.ofBracket?, notQuote, notBracket, notClosing, notBrace, notClosingBrace]

theorem overflow?_flat (flat : AllFlat text) (room : Nat) (rest : List Char) :
    overflow? .outside room (text ++ rest) = overflow? .outside room rest := by
  induction text with
  | nil => rfl
  | cons c text inductionHypothesis =>
    rw [List.cons_append, overflow?_cons_flat (flat c List.mem_cons_self)]
    exact inductionHypothesis fun other inside => flat other (List.mem_cons_of_mem _ inside)

theorem IsSpace.flat {space : List Char} (blank : IsSpace space) : AllFlat space := by
  intro c inside
  have isSpace := blank c inside
  unfold Json.isSpace at isSpace
  simp only [Bool.or_eq_true, beq_iff_eq] at isSpace
  rcases isSpace with ((rfl | rfl) | rfl) | rfl <;> decide

theorem IsWord.flat {value : Value} (isWord : IsWord value text) : AllFlat text := by
  cases isWord <;> decide

theorem flat_of_isDigit {c : Char} (isDigit : c.isDigit = true) : IsFlat c := by
  refine ⟨?_, ?_, ?_, ?_, ?_⟩ <;>
    · rintro rfl
      cases isDigit

theorem flat_minus (negative : Bool) : AllFlat (minus negative) := by
  cases negative <;> decide

theorem IsDigits.flat (isDigits : IsDigits text) : AllFlat text :=
  fun c inside => flat_of_isDigit (isDigits.2 c inside)

theorem IsWhole.flat (isWhole : IsWhole text) : AllFlat text := by
  rcases isWhole with rfl | ⟨isDigits, -⟩
  · decide
  · exact isDigits.flat

theorem IsFraction.flat {fraction : List Char} (isFraction : IsFraction fraction text) :
    AllFlat text := by
  cases isFraction with
  | none => decide
  | some isDigits => exact List.forall_mem_cons.mpr ⟨by decide, isDigits.flat⟩

theorem IsExponent.flat {exponent : Option Int} (isExponent : IsExponent exponent text) :
    AllFlat text := by
  have letterFlat {letter : Char} (isLetter : letter = 'e' ∨ letter = 'E') : IsFlat letter := by
    rcases isLetter with rfl | rfl <;> decide
  cases isExponent with
  | none => decide
  | some negative isLetter isDigits =>
    exact List.forall_mem_cons.mpr
      ⟨letterFlat isLetter, List.forall_mem_append.mpr ⟨flat_minus negative, isDigits.flat⟩⟩
  | plus isLetter isDigits =>
    exact List.forall_mem_cons.mpr
      ⟨letterFlat isLetter, List.forall_mem_cons.mpr ⟨by decide, isDigits.flat⟩⟩

theorem IsNumeral.flat {value : Value} (isNumeral : IsNumeral value text) : AllFlat text := by
  cases isNumeral with
  | integer negative isWhole => exact List.forall_mem_append.mpr ⟨flat_minus negative, isWhole.flat⟩
  | real negative isWhole isFraction isExponent =>
    exact List.forall_mem_append.mpr ⟨flat_minus negative,
      List.forall_mem_append.mpr ⟨isWhole.flat,
        List.forall_mem_append.mpr ⟨isFraction.flat, isExponent.flat⟩⟩⟩

/-! ## Strings -/

theorem overflow?_cons_inString {c : Char} (notQuote : c ≠ '\x22') (notEscape : c ≠ '\\') (room : Nat)
    (rest : List Char) : overflow? .string room (c :: rest) = overflow? .string room rest := by
  simp [overflow?, notQuote, notEscape]

theorem hexDigit_inString {c : Char} {digit : Nat} (isDigit : hexValue? c = some digit) :
    c ≠ '\x22' ∧ c ≠ '\\' := by
  constructor <;>
    · rintro rfl
      cases isDigit

/-- The scanner leaves a string where its closing quotation mark is. -/
theorem overflow?_spellsPoints {points : List Nat} (spells : SpellsPoints points text) (room : Nat)
    (rest : List Char) :
    overflow? .string room (text ++ '\x22' :: rest) = overflow? .outside room rest := by
  induction spells with
  | nil => rfl
  | plain notQuote notEscape notControl spells inductionHypothesis =>
    rw [List.cons_append, overflow?_cons_inString notQuote notEscape]
    exact inductionHypothesis
  | escape isEscape spells inductionHypothesis => exact inductionHypothesis
  | @unit a b c d _ _ _ isUnit spells inductionHypothesis =>
    unfold codeUnit? at isUnit
    obtain ⟨first, isFirst, isUnit⟩ := Option.bind_eq_some_iff.mp isUnit
    obtain ⟨second, isSecond, isUnit⟩ := Option.bind_eq_some_iff.mp isUnit
    obtain ⟨third, isThird, isUnit⟩ := Option.bind_eq_some_iff.mp isUnit
    obtain ⟨fourth, isFourth, -⟩ := Option.bind_eq_some_iff.mp isUnit
    change overflow? .string room (a :: b :: c :: d :: _) = _
    rw [overflow?_cons_inString (hexDigit_inString isFirst).1 (hexDigit_inString isFirst).2,
      overflow?_cons_inString (hexDigit_inString isSecond).1 (hexDigit_inString isSecond).2,
      overflow?_cons_inString (hexDigit_inString isThird).1 (hexDigit_inString isThird).2,
      overflow?_cons_inString (hexDigit_inString isFourth).1 (hexDigit_inString isFourth).2]
    exact inductionHypothesis

theorem overflow?_string {name : String} (isString : IsString name text) (room : Nat) (rest : List Char) :
    overflow? .outside room (text ++ rest) = overflow? .outside room rest := by
  obtain ⟨spells⟩ := isString
  rw [List.cons_append, List.append_assoc]
  exact overflow?_spellsPoints spells room rest

/-! ## Phrases -/

/-- The scanner comes through a text that stands for something of some depth if there is room for it, and
stops in it otherwise. -/
structure Descends (depth : Nat) (text : List Char) : Prop where
  through : ∀ {room}, depth ≤ room → ∀ rest,
    overflow? .outside room (text ++ rest) = overflow? .outside room rest
  stops : ∀ {room}, room < depth → ∀ rest, (overflow? .outside room (text ++ rest)).isSome = true

namespace Descends

theorem of_through (through : ∀ room rest,
    overflow? .outside room (text ++ rest) = overflow? .outside room rest) : Descends 0 text :=
  ⟨fun _ => through _, fun none => absurd none (Nat.not_lt_zero _)⟩

theorem append {first second : Nat} {others : List Char} (here : Descends first text)
    (there : Descends second others) : Descends (max first second) (text ++ others) := by
  constructor
  · intro room enough rest
    rw [List.append_assoc, here.through (by omega), there.through (by omega)]
  · intro room few rest
    rw [List.append_assoc]
    by_cases hereFits : first ≤ room
    · rw [here.through hereFits]
      exact there.stops (by omega) rest
    · exact here.stops (by omega) _

/-- A bracket around a text takes one more level. -/
theorem bracket {depth : Nat} {opening closing : Char} (inside : Descends depth text)
    (opens : opening = '[' ∨ opening = '\x7b') (closes : closing = ']' ∨ closing = '\x7d') :
    Descends (depth + 1) (opening :: (text ++ [closing])) := by
  have enter (room : Nat) (rest : List Char) :
      overflow? .outside (room + 1) (opening :: rest) = overflow? .outside room rest := by
    rcases opens with rfl | rfl <;> rfl
  have leave (room : Nat) (rest : List Char) :
      overflow? .outside room (closing :: rest) = overflow? .outside (room + 1) rest := by
    rcases closes with rfl | rfl <;> rfl
  constructor
  · intro room enough rest
    obtain ⟨room, rfl⟩ : ∃ less, room = less + 1 := ⟨room - 1, by omega⟩
    rw [List.cons_append, List.append_assoc, enter, inside.through (by omega), List.singleton_append, leave]
  · intro room few rest
    rw [List.cons_append, List.append_assoc]
    cases room with
    | zero => rcases opens with rfl | rfl <;> rfl
    | succ room =>
      rw [enter]
      exact inside.stops (by omega) _

end Descends

/-- A text of the grammar takes as much room as the phrase that it spells is deep. -/
theorem overflow?_of_spells {phrase : Phrase} (spells : Spells phrase text) :
    Descends phrase.depth text := by
  have flat {text : List Char} (flat : AllFlat text) : Descends 0 text :=
    .of_through fun room rest => overflow?_flat flat room rest
  induction spells with
  | word isWord =>
    have isFlat := flat isWord.flat
    cases isWord <;> exact isFlat
  | numeral isNumeral =>
    have isFlat := flat isNumeral.flat
    cases isNumeral <;> exact isFlat
  | string isString => exact .of_through fun room rest => overflow?_string isString room rest
  | emptyArray blank => exact (flat blank.flat).bracket (.inl rfl) (.inl rfl)
  | array items inductionHypothesis => exact inductionHypothesis.bracket (.inl rfl) (.inl rfl)
  | emptyObject blank => exact (flat blank.flat).bracket (.inr rfl) (.inr rfl)
  | object members inductionHypothesis => exact inductionHypothesis.bracket (.inr rfl) (.inr rfl)
  | item isBefore spells isBehind inductionHypothesis =>
    have around := (flat isBefore.flat).append (inductionHypothesis.append (flat isBehind.flat))
    simpa [Phrase.depth] using around
  | lastItem item inductionHypothesis => simpa [Phrase.depth, depthOfItems] using inductionHypothesis
  | @moreItems _ _ text rest item items here there =>
    have comma : Descends 0 [','] := flat (by decide)
    have both := here.append (comma.append there)
    simpa [Phrase.depth, depthOfItems] using both
  | @member name value before quoted behind text isBefore isString isBehind item inductionHypothesis =>
    have colon : Descends 0 [':'] := flat (by decide)
    have named : Descends 0 quoted := .of_through fun room rest => overflow?_string isString room rest
    have whole := (flat isBefore.flat).append
      (named.append ((flat isBehind.flat).append (colon.append inductionHypothesis)))
    simpa [Phrase.depth] using whole
  | lastMember member inductionHypothesis => simpa [Phrase.depth, depthOfMembers] using inductionHypothesis
  | @moreMembers _ _ _ text rest member members here there =>
    have comma : Descends 0 [','] := flat (by decide)
    have both := here.append (comma.append there)
    simpa [Phrase.depth, depthOfMembers] using both

/-! ## Whole texts -/

theorem seen_readAll {value : Value} (accepted : read text = .ok value) :
    seen text (readAll text) = text := by
  rw [mapError_eq_ok.mp accepted]
  rfl

/-- A text that spells a value is read if and only if there is room for the depth of the value. -/
theorem tooDeep?_eq_none_iff {value : Value} (spells : Spells (.item value) text) :
    tooDeep? room text = none ↔ value.depth ≤ room := by
  have accepted : read text = .ok value.settled := read_eq_ok_iff.mpr ⟨value, spells, rfl⟩
  have descends := overflow?_of_spells spells
  unfold tooDeep?
  rw [seen_readAll accepted]
  by_cases enough : value.depth ≤ room
  · have through := descends.through enough []
    rw [List.append_nil] at through
    simpa only [enough, iff_true, overflow?] using through
  · have stops := descends.stops (Nat.lt_of_not_le enough) []
    rw [List.append_nil] at stops
    simp only [enough, iff_false, ← Option.isSome_iff_ne_none]
    exact stops

theorem readWithin_eq (shallow : tooDeep? room text = none) :
    readWithin room text = (read text).mapError .malformed := by
  unfold readWithin
  rw [shallow]

/-- What is read with some room is what is read without a limit. -/
theorem read_of_readWithin {value : Value} (accepted : readWithin room text = .ok value) :
    read text = .ok value := by
  unfold readWithin at accepted
  split at accepted
  · cases accepted
  · exact mapError_eq_ok.mp accepted

/-! ## Texts that only open lists -/

def openLists (count : Nat) : List Char :=
  List.replicate count '['

theorem value_openLists {fuel count : Nat} (enough : 2 * count < fuel) :
    value fuel (openLists count) = .error ⟨.expectingValue, 0⟩ := by
  induction count generalizing fuel with
  | zero =>
    obtain ⟨less, rfl⟩ : ∃ less, fuel = less + 1 := ⟨fuel - 1, by omega⟩
    rfl
  | succ count inductionHypothesis =>
    -- One call is for the list, one for its first item.
    obtain ⟨less, rfl⟩ : ∃ less, fuel = less + 2 := ⟨fuel - 2, by omega⟩
    have opened : ∃ next, value (less + 2) (openLists (count + 1)) =
        items (less + 1) (openLists count) >>= next := by
      cases count <;> exact ⟨_, rfl⟩
    obtain ⟨next, opened⟩ := opened
    rw [opened, items, inductionHypothesis (by omega)]
    rfl

theorem readAll_openLists (count : Nat) :
    readAll (openLists count) = .error ⟨.expectingValue, 0⟩ := by
  have noSpaces : skipSpace (openLists count) = openLists count := by cases count <;> rfl
  have enough : 2 * count < 2 * (openLists count).length + 2 := by
    rw [openLists, List.length_replicate]
    omega
  unfold readAll
  split
  · rename_i rest isMark
    cases count <;> cases isMark
  · rw [noSpaces, value_openLists enough]
    rfl

/-- A text that only opens lists is no JSON, but before that is noticed there must be room for all of them. -/
theorem tooDeep?_openLists {count : Nat} (few : room < count) :
    tooDeep? room (openLists count) = some .list := by
  have whole : seen (openLists count) (readAll (openLists count)) = openLists count := by
    rw [readAll_openLists]
    exact List.take_length
  unfold tooDeep?
  rw [whole]
  clear whole
  induction room generalizing count with
  | zero =>
    obtain ⟨less, rfl⟩ : ∃ less, count = less + 1 := ⟨count - 1, by omega⟩
    rfl
  | succ room inductionHypothesis =>
    obtain ⟨less, rfl⟩ : ∃ less, count = less + 1 := ⟨count - 1, by omega⟩
    exact @inductionHypothesis less (by omega)

/-! ## Written texts -/

theorem depthOfItems_texts (texts : List String) : depthOfItems (texts.map .text) = 0 := by
  induction texts with
  | nil => rfl
  | cons text rest inductionHypothesis =>
    rw [List.map_cons, depthOfItems, inductionHypothesis]
    rfl

/-- An object with a list of texts is two deep. -/
theorem tooDeep?_object (enough : 2 ≤ room) (name : String) (texts : List String) :
    tooDeep? room ((Value.object [(name, .array (texts.map .text))]).indented 0) = none := by
  rw [tooDeep?_eq_none_iff (spells_object name texts), Value.depth, depthOfMembers, Value.depth,
    depthOfItems_texts, depthOfMembers]
  exact enough

end ProjectGauge.Json
