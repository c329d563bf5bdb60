import ProjectGauge.Proofs.Json.Tokens

/-!
# Reading what the grammar allows

The reader accepts the texts that spell an item, and gives the value that they spell.

* `Sound` is what holds of all that is read with some fuel, by induction on the fuel.
* `Spells.isRead` reads what is spelt, by induction on how it is spelt.
* `read_eq_ok_iff` puts both together.
-/

namespace ProjectGauge.Json

/-! ## What is read is spelt -/

/-- What is read with this fuel is spelt by the text in front of the rest. -/
structure Sound (fuel : Nat) : Prop where
  value : ∀ {text found after}, Json.value fuel text = .ok (found, after) →
    ∃ written front, text = front ++ after ∧ Spells (.value written) front ∧ written.settled = found
  items : ∀ {text found after}, Json.items fuel (skipSpace text) = .ok (found, after) →
    ∃ list front, text = front ++ ']' :: after ∧ Spells (.items list) front ∧ settledItems list = found
  members : ∀ {known text found after}, Json.members fuel known (skipSpace text) = .ok (found, after) →
    ∃ list front, text = front ++ '\x7d' :: after ∧ Spells (.members list) front ∧
      merge known (settledMembers list) = found

section Sound

variable {fuel : Nat} {text after : List Char}

/-- A value is read with the space around it. -/
theorem Sound.item (sound : Sound fuel) {found : Value}
    (read : Json.value fuel (skipSpace text) = .ok (found, after)) :
    ∃ written front, text = front ++ skipSpace after ∧ Spells (.item written) front ∧
      written.settled = found := by
  obtain ⟨before, isBefore, isText⟩ := exists_skipSpace text
  obtain ⟨behind, isBehind, isAfter⟩ := exists_skipSpace after
  obtain ⟨written, front, isFront, spells, settled⟩ := sound.value read
  refine ⟨written, _, ?_, .item isBefore spells isBehind, settled⟩
  rw [isText, isFront, List.append_assoc, List.append_assoc, ← isAfter]

theorem Sound.value_succ (sound : Sound fuel) {found : Value}
    (read : Json.value (fuel + 1) text = .ok (found, after)) :
    ∃ written front, text = front ++ after ∧ Spells (.value written) front ∧ written.settled = found := by
  -- The reader tries the words first, and then goes by the first character.
  unfold Json.value at read
  split at read
  · cases read
    exact ⟨_, _, rfl, .word .null, rfl⟩
  · cases read
    exact ⟨_, _, rfl, .word .true, rfl⟩
  · cases read
    exact ⟨_, _, rfl, .word .false, rfl⟩
  · cases read
    exact ⟨_, _, rfl, .word .nan, rfl⟩
  · cases read
    exact ⟨_, _, rfl, .word .infinity, rfl⟩
  · cases read
    exact ⟨_, _, rfl, .word .minusInfinity, rfl⟩
  · rename_i c rest _ _ _ _ _ _
    split at read
    · rename_i isQuote
      obtain ⟨⟨name, further⟩, stringRead, read⟩ := bind_eq_ok.mp read
      cases read
      obtain ⟨quoted, isQuoted, isString⟩ := isString_of_string stringRead
      exact ⟨_, quoted, by rw [beq_iff_eq.mp isQuote, isQuoted], .string isString, rfl⟩
    · split at read
      · rename_i isBracket
        rw [beq_iff_eq.mp isBracket]
        split at read
        · rename_i further start
          cases read
          obtain ⟨space, blank, isRest⟩ := exists_skipSpace rest
          exact ⟨_, _, by rw [isRest, start]; simp, .emptyArray blank, rfl⟩
        · obtain ⟨⟨list, further⟩, itemsRead, read⟩ := bind_eq_ok.mp read
          cases read
          obtain ⟨list, front, rfl, spells, rfl⟩ := sound.items itemsRead
          exact ⟨_, _, by simp, .array spells, rfl⟩
      · split at read
        · rename_i isBrace
          rw [beq_iff_eq.mp isBrace]
          split at read
          · rename_i further start
            cases read
            obtain ⟨space, blank, isRest⟩ := exists_skipSpace rest
            exact ⟨_, _, by rw [isRest, start]; simp, .emptyObject blank, rfl⟩
          · obtain ⟨⟨list, further⟩, membersRead, read⟩ := bind_eq_ok.mp read
            cases read
            obtain ⟨list, front, rfl, spells, rfl⟩ := sound.members membersRead
            exact ⟨_, _, by simp, .object spells, rfl⟩
        · obtain ⟨numeral, isText, isNumeral⟩ := isNumeral_of_number read
          exact ⟨_, _, isText, .numeral isNumeral, isNumeral.settled⟩
  · cases read

theorem Sound.items_succ (sound : Sound fuel) {found : List Value}
    (read : Json.items (fuel + 1) (skipSpace text) = .ok (found, after)) :
    ∃ list front, text = front ++ ']' :: after ∧ Spells (.items list) front ∧
      settledItems list = found := by
  unfold Json.items at read
  obtain ⟨⟨item, further⟩, itemRead, read⟩ := bind_eq_ok.mp read
  obtain ⟨written, front, isText, spells, rfl⟩ := sound.item itemRead
  dsimp only at read
  split at read
  · rename_i rest start
    cases read
    exact ⟨[written], front, by rw [isText, start], .lastItem spells, rfl⟩
  · rename_i rest start
    obtain ⟨⟨more, behind⟩, moreRead, read⟩ := bind_eq_ok.mp read
    cases read
    obtain ⟨list, others, rfl, spellsOthers, rfl⟩ := sound.items moreRead
    exact ⟨written :: list, _, by rw [isText, start]; simp, .moreItems spells spellsOthers, rfl⟩
  · cases read

theorem Sound.members_succ (sound : Sound fuel) {known found : List (String × Value)}
    (read : Json.members (fuel + 1) known (skipSpace text) = .ok (found, after)) :
    ∃ list front, text = front ++ '\x7d' :: after ∧ Spells (.members list) front ∧
      merge known (settledMembers list) = found := by
  obtain ⟨before, isBefore, isText⟩ := exists_skipSpace text
  unfold Json.members at read
  split at read
  · rename_i rest start
    obtain ⟨⟨name, further⟩, nameRead, read⟩ := bind_eq_ok.mp read
    obtain ⟨quoted, isQuoted, isString⟩ := isString_of_string nameRead
    obtain ⟨between, isBetween, isFurther⟩ := exists_skipSpace further
    dsimp only at read
    split at read
    · rename_i itemText colon
      obtain ⟨⟨item, behind⟩, itemRead, read⟩ := bind_eq_ok.mp read
      obtain ⟨written, front, isItem, spells, rfl⟩ := sound.item itemRead
      have member := Spells.member isBefore isString isBetween spells
      have whole : text = (before ++ (quoted ++ (between ++ ':' :: front))) ++ skipSpace behind := by
        rw [isText, start, isQuoted, isFurther, colon, isItem]
        simp
      dsimp only at read
      split at read
      · rename_i more close
        cases read
        exact ⟨[(name, written)], _, by rw [whole, close], .lastMember member, rfl⟩
      · rename_i more comma
        obtain ⟨list, others, rfl, spellsOthers, rfl⟩ := sound.members read
        exact ⟨(name, written) :: list, _, by rw [whole, comma]; simp, .moreMembers member spellsOthers,
          rfl⟩
      · cases read
    · cases read
  · cases read

theorem sound (fuel : Nat) : Sound fuel := by
  -- The three readers call each other with less fuel, so they are sound together.
  induction fuel with
  | zero =>
    constructor
    · intro text found after read
      cases read
    · intro text found after read
      cases read
    · intro known text found after read
      cases read
  | succ fuel inductionHypothesis =>
    exact ⟨inductionHypothesis.value_succ, inductionHypothesis.items_succ,
      inductionHypothesis.members_succ⟩

end Sound

/-! ## What is spelt is read -/

section Complete

variable {fuel : Nat} {text rest : List Char}

/-- What the reader makes of a text that stands for a phrase, with any text behind it that may stand there.
Twice as much fuel as there are characters is enough. -/
def Phrase.IsRead : Phrase → List Char → Prop
  | .value written, text => ∀ fuel rest, 2 * text.length ≤ fuel → Stops rest →
      Json.value fuel (text ++ rest) = .ok (written.settled, rest)
  | .item written, text => ∀ fuel rest, 2 * text.length ≤ fuel → Stops rest →
      ∃ after, Json.value fuel (skipSpace (text ++ rest)) = .ok (written.settled, after) ∧
        skipSpace after = skipSpace rest
  | .items list, text => ∀ fuel rest, 2 * text.length < fuel →
      Json.items fuel (skipSpace (text ++ ']' :: rest)) = .ok (settledItems list, rest)
  | .member name written, text => ∀ fuel rest, 2 * text.length ≤ fuel → Stops rest →
      ∃ inside after itemText behind, skipSpace (text ++ rest) = '\x22' :: inside ∧
        (∀ opening, string opening inside = .ok (name, after)) ∧ skipSpace after = ':' :: itemText ∧
        Json.value fuel (skipSpace itemText) = .ok (written.settled, behind) ∧
        skipSpace behind = skipSpace rest
  | .members list, text => ∀ fuel known rest, 2 * text.length < fuel →
      Json.members fuel known (skipSpace (text ++ '\x7d' :: rest)) =
        .ok (merge known (settledMembers list), rest)

theorem value_word {written : Value} (isWord : IsWord written text) :
    value (fuel + 1) (text ++ rest) = .ok (written.settled, rest) := by
  cases isWord <;> rfl

theorem value_numeral {written : Value} (isNumeral : IsNumeral written text) (stops : Stops rest) :
    value (fuel + 1) (text ++ rest) = .ok (written.settled, rest) := by
  have numberRead := isNumeral.read stops
  obtain ⟨negative, c, more, rfl, isDigit⟩ := isNumeral.head
  rw [isNumeral.settled, ← numberRead]
  -- No word and no bracket starts with a digit.
  have others : c ≠ 'n' ∧ c ≠ 't' ∧ c ≠ 'f' ∧ c ≠ 'N' ∧ c ≠ 'I' ∧ c ≠ '\x22' ∧ c ≠ '[' ∧ c ≠ '\x7b' := by
    refine ⟨?_, ?_, ?_, ?_, ?_, ?_, ?_, ?_⟩ <;>
      · rintro rfl
        cases isDigit
  cases negative with
  | false =>
    simp only [minus, Bool.false_eq_true, if_false, List.nil_append, List.cons_append]
    unfold value
    split <;> simp_all
  | true =>
    simp only [minus, if_true, List.cons_append, List.nil_append]
    rw [value, if_neg (by decide), if_neg (by decide), if_neg (by decide)]
    all_goals
      intro behind
      simp [others]

theorem value_string {name : String} (isString : IsString name text) :
    value (fuel + 1) (text ++ rest) = .ok (.text name, rest) := by
  obtain ⟨inside, rfl, read⟩ := isString.read
  rw [List.cons_append, value, if_pos (by decide), read]
  · rfl
  all_goals
    rintro _ ⟨⟩

theorem value_noItems (closes : skipSpace text = ']' :: rest) :
    value (fuel + 1) ('[' :: text) = .ok (.array [], rest) := by
  rw [value, if_neg (by decide), if_pos (by decide), closes]
  · rfl
  all_goals
    rintro _ ⟨⟩

theorem value_noMembers (closes : skipSpace text = '\x7d' :: rest) :
    value (fuel + 1) ('\x7b' :: text) = .ok (.object [], rest) := by
  rw [value, if_neg (by decide), if_neg (by decide), if_pos (by decide), closes]
  · rfl
  all_goals
    rintro _ ⟨⟩

theorem value_items {text start : List Char} {first : Char} {found : List Value}
    (skipped : skipSpace text = first :: start) (notClosed : first ≠ ']')
    (read : items fuel (first :: start) = .ok (found, rest)) :
    value (fuel + 1) ('[' :: text) = .ok (.array found, rest) := by
  rw [value, if_neg (by decide), if_pos (by decide), skipped]
  · split
    · rename_i isClosed
      exact absurd (List.cons.inj isClosed).1 notClosed
    · rw [read]
      rfl
  all_goals
    rintro _ ⟨⟩

theorem value_members {text start : List Char} {first : Char} {found : List (String × Value)}
    (skipped : skipSpace text = first :: start) (notClosed : first ≠ '\x7d')
    (read : members fuel [] (first :: start) = .ok (found, rest)) :
    value (fuel + 1) ('\x7b' :: text) = .ok (.object found, rest) := by
  rw [value, if_neg (by decide), if_neg (by decide), if_pos (by decide), skipped]
  · split
    · rename_i isClosed
      exact absurd (List.cons.inj isClosed).1 notClosed
    · rw [read]
      rfl
  all_goals
    rintro _ ⟨⟩

theorem items_last {text after : List Char} {item : Value}
    (first : value fuel text = .ok (item, after)) (closes : skipSpace after = ']' :: rest) :
    items (fuel + 1) text = .ok ([item], rest) := by
  rw [items, first, ok_bind]
  dsimp only
  rw [closes]
  rfl

theorem items_comma {text after : List Char} (behind : List Char) {item : Value} {others : List Value}
    (first : value fuel text = .ok (item, after)) (goesOn : skipSpace after = ',' :: behind)
    (later : items fuel (skipSpace behind) = .ok (others, rest)) :
    items (fuel + 1) text = .ok (item :: others, rest) := by
  rw [items, first, ok_bind]
  dsimp only
  rw [goesOn]
  change (items fuel (skipSpace behind) >>= fun found => .ok (item :: found.1, found.2)) = _
  rw [later]
  rfl

/-- No value starts with space, with the bracket that ends a list or with the mark of the byte order. -/
structure StartsValue (c : Char) : Prop where
  notSpace : isSpace c = false
  notClosing : c ≠ ']'
  notMark : c ≠ '\uFEFF'

theorem StartsValue.digit {c : Char} (isDigit : c.isDigit = true) : StartsValue c where
  notSpace := by
    unfold isSpace
    simp only [Bool.or_eq_false_iff, beq_eq_false_iff_ne]
    refine ⟨⟨⟨?_, ?_⟩, ?_⟩, ?_⟩ <;>
      · rintro rfl
        cases isDigit
  notClosing := by
    rintro rfl
    cases isDigit
  notMark := by
    rintro rfl
    cases isDigit

theorem Spells.head {written : Value} (spells : Spells (.value written) text) :
    ∃ c more, text = c :: more ∧ StartsValue c := by
  cases spells with
  | word isWord => cases isWord <;> exact ⟨_, _, rfl, by decide, by decide, by decide⟩
  | numeral isNumeral =>
    obtain ⟨negative, c, more, rfl, isDigit⟩ := isNumeral.head
    cases negative with
    | false => exact ⟨c, more, rfl, .digit isDigit⟩
    | true => exact ⟨'-', _, rfl, by decide, by decide, by decide⟩
  | string isString =>
    obtain ⟨spells⟩ := isString
    exact ⟨_, _, rfl, by decide, by decide, by decide⟩
  | emptyArray => exact ⟨_, _, rfl, by decide, by decide, by decide⟩
  | array => exact ⟨_, _, rfl, by decide, by decide, by decide⟩
  | emptyObject => exact ⟨_, _, rfl, by decide, by decide, by decide⟩
  | object => exact ⟨_, _, rfl, by decide, by decide, by decide⟩

theorem skipSpace_value {written : Value} (spells : Spells (.value written) text) :
    skipSpace (text ++ rest) = text ++ rest := by
  obtain ⟨c, more, rfl, starts⟩ := spells.head
  exact skipSpace_cons starts.notSpace _

theorem Spells.item_head {written : Value} (spells : Spells (.item written) text) (rest : List Char) :
    ∃ c more, skipSpace (text ++ rest) = c :: more ∧ StartsValue c := by
  cases spells with
  | item isBefore spells isBehind =>
    rw [List.append_assoc, List.append_assoc, skipSpace_append isBefore, skipSpace_value spells]
    obtain ⟨c, more, rfl, starts⟩ := spells.head
    exact ⟨c, _, rfl, starts⟩

theorem Spells.items_head {list : List Value} (spells : Spells (.items list) text) (rest : List Char) :
    ∃ c more, skipSpace (text ++ rest) = c :: more ∧ StartsValue c := by
  cases spells with
  | lastItem item => exact item.item_head rest
  | moreItems item items =>
    rw [List.append_assoc]
    exact item.item_head _

theorem Spells.member_head {name : String} {written : Value} (spells : Spells (.member name written) text)
    (rest : List Char) : ∃ more, skipSpace (text ++ rest) = '\x22' :: more := by
  cases spells with
  | member isBefore isString isBehind item =>
    obtain ⟨inside, rfl, -⟩ := isString.read
    rw [List.append_assoc, skipSpace_append isBefore]
    exact ⟨_, rfl⟩

theorem Spells.members_head {list : List (String × Value)} (spells : Spells (.members list) text)
    (rest : List Char) : ∃ more, skipSpace (text ++ rest) = '\x22' :: more := by
  cases spells with
  | lastMember member => exact member.member_head rest
  | moreMembers member members =>
    rw [List.append_assoc]
    exact member.member_head _

theorem members_close {name : String} {item : Value} {inside after itemText behind : List Char}
    (known : List (String × Value)) (start : skipSpace text = '\x22' :: inside)
    (nameRead : ∀ opening, string opening inside = .ok (name, after))
    (colon : skipSpace after = ':' :: itemText)
    (read : value fuel (skipSpace itemText) = .ok (item, behind))
    (closes : skipSpace behind = '\x7d' :: rest) :
    members (fuel + 1) known (skipSpace text) = .ok (put name item known, rest) := by
  rw [start, members, nameRead, ok_bind]
  dsimp only
  rw [colon]
  change (value fuel (skipSpace itemText) >>= _) = _
  rw [read, ok_bind]
  dsimp only
  rw [closes]
  rfl

theorem members_comma {name : String} {item : Value} {inside after itemText behind more : List Char}
    (known : List (String × Value)) (start : skipSpace text = '\x22' :: inside)
    (nameRead : ∀ opening, string opening inside = .ok (name, after))
    (colon : skipSpace after = ':' :: itemText)
    (read : value fuel (skipSpace itemText) = .ok (item, behind))
    (comma : skipSpace behind = ',' :: more) :
    members (fuel + 1) known (skipSpace text) = members fuel (put name item known) (skipSpace more) := by
  rw [start, members, nameRead, ok_bind]
  dsimp only
  rw [colon]
  change (value fuel (skipSpace itemText) >>= _) = _
  rw [read, ok_bind]
  dsimp only
  rw [comma]
  rfl

theorem stops_cons {c : Char} (isStop : c = ',' ∨ c = ']' ∨ c = '\x7d') (rest : List Char) :
    Stops (c :: rest) := by
  rintro _ ⟨⟩
  exact .inr isStop

/-- A value has a character, so there is fuel for it. -/
theorem Spells.exists_fuel {written : Value} (spells : Spells (.value written) text)
    (enough : 2 * text.length ≤ fuel) : ∃ fewer, fuel = fewer + 1 := by
  obtain ⟨c, more, rfl, -⟩ := spells.head
  rw [List.length_cons] at enough
  exact Nat.exists_eq_add_one_of_ne_zero (by omega)

/-- A text that spells a phrase is read as this phrase. -/
theorem Spells.isRead {phrase : Phrase} (spells : Spells phrase text) : phrase.IsRead text := by
  -- A list needs fuel for itself and for its items, and has two brackets that stand for no item.
  induction spells with
  | word isWord =>
    intro fuel rest enough stops
    obtain ⟨fuel, rfl⟩ := (Spells.word isWord).exists_fuel enough
    exact value_word isWord
  | numeral isNumeral =>
    intro fuel rest enough stops
    obtain ⟨fuel, rfl⟩ := (Spells.numeral isNumeral).exists_fuel enough
    exact value_numeral isNumeral stops
  | string isString =>
    intro fuel rest enough stops
    obtain ⟨fuel, rfl⟩ := (Spells.string isString).exists_fuel enough
    exact value_string isString
  | emptyArray blank =>
    intro fuel rest enough stops
    obtain ⟨fuel, rfl⟩ := (Spells.emptyArray blank).exists_fuel enough
    rw [List.cons_append, List.append_assoc]
    exact value_noItems (skipSpace_append blank _)
  | array items inductionHypothesis =>
    intro fuel rest enough stops
    obtain ⟨fuel, rfl⟩ := (Spells.array items).exists_fuel enough
    obtain ⟨c, more, start, starts⟩ := items.items_head (']' :: rest)
    have read := inductionHypothesis fuel rest (by simp at enough; omega)
    rw [start] at read
    rw [List.cons_append, List.append_assoc]
    exact value_items start starts.notClosing read
  | emptyObject blank =>
    intro fuel rest enough stops
    obtain ⟨fuel, rfl⟩ := (Spells.emptyObject blank).exists_fuel enough
    rw [List.cons_append, List.append_assoc]
    exact value_noMembers (skipSpace_append blank _)
  | object members inductionHypothesis =>
    intro fuel rest enough stops
    obtain ⟨fuel, rfl⟩ := (Spells.object members).exists_fuel enough
    obtain ⟨more, start⟩ := members.members_head ('\x7d' :: rest)
    have read := inductionHypothesis fuel [] rest (by simp at enough; omega)
    rw [start] at read
    rw [List.cons_append, List.append_assoc]
    exact value_members start (by decide) read
  | item isBefore spells isBehind inductionHypothesis =>
    intro fuel rest enough stops
    have read := inductionHypothesis fuel _ (by simp at enough; omega) (stops.space isBehind)
    refine ⟨_, ?_, skipSpace_append isBehind rest⟩
    rw [List.append_assoc, List.append_assoc, skipSpace_append isBefore, skipSpace_value spells]
    exact read
  | lastItem item inductionHypothesis =>
    intro fuel rest enough
    obtain ⟨fuel, rfl⟩ := Nat.exists_eq_add_one_of_ne_zero (Nat.ne_zero_of_lt enough)
    obtain ⟨after, read, behind⟩ := inductionHypothesis fuel (']' :: rest) (by omega)
      (stops_cons (by decide) rest)
    exact items_last read behind
  | @moreItems _ _ _ others item items itemRead itemsRead =>
    intro fuel rest enough
    obtain ⟨fuel, rfl⟩ := Nat.exists_eq_add_one_of_ne_zero (Nat.ne_zero_of_lt enough)
    simp only [List.length_append, List.length_cons] at enough
    obtain ⟨after, read, behind⟩ := itemRead fuel (',' :: (others ++ ']' :: rest)) (by omega)
      (stops_cons (by decide) _)
    have more := itemsRead fuel rest (by omega)
    rw [List.append_assoc, List.cons_append]
    exact items_comma _ read behind more
  | member isBefore isString isBehind item inductionHypothesis =>
    intro fuel rest enough stops
    simp only [List.length_append, List.length_cons] at enough
    obtain ⟨behind, read, isRest⟩ := inductionHypothesis fuel rest (by omega) stops
    obtain ⟨inside, rfl, nameRead⟩ := isString.read
    refine ⟨_, _, _, behind, ?_, fun opening => nameRead opening _,
      (skipSpace_append isBehind _).trans (skipSpace_cons rfl _), read, isRest⟩
    rw [List.append_assoc, skipSpace_append isBefore, List.append_assoc, List.append_assoc,
      List.cons_append, List.cons_append]
    rfl
  | lastMember member inductionHypothesis =>
    intro fuel known rest enough
    obtain ⟨fuel, rfl⟩ := Nat.exists_eq_add_one_of_ne_zero (Nat.ne_zero_of_lt enough)
    obtain ⟨inside, after, itemText, behind, start, nameRead, colon, read, isRest⟩ :=
      inductionHypothesis fuel ('\x7d' :: rest) (by omega) (stops_cons (by decide) rest)
    exact members_close known start nameRead colon read isRest
  | @moreMembers _ _ _ _ others member members memberRead membersRead =>
    intro fuel known rest enough
    obtain ⟨fuel, rfl⟩ := Nat.exists_eq_add_one_of_ne_zero (Nat.ne_zero_of_lt enough)
    simp only [List.length_append, List.length_cons] at enough
    obtain ⟨inside, after, itemText, behind, start, nameRead, colon, read, isRest⟩ :=
      memberRead fuel (',' :: (others ++ '\x7d' :: rest)) (by omega) (stops_cons (by decide) _)
    rw [List.append_assoc, List.cons_append, members_comma known start nameRead colon read isRest]
    exact membersRead fuel _ rest (by omega)

end Complete

/-! ## Whole texts -/

/-- The reader accepts a text if and only if it spells an item, and gives the value of this item. -/
theorem read_eq_ok_iff {text : List Char} {value : Value} :
    read text = .ok value ↔ ∃ written, Spells (.item written) text ∧ written.settled = value := by
  constructor
  · intro accepted
    have accepted := mapError_eq_ok.mp accepted
    unfold readAll at accepted
    split at accepted
    · cases accepted
    · obtain ⟨⟨found, after⟩, valueRead, accepted⟩ := bind_eq_ok.mp accepted
      obtain ⟨written, front, isText, spells, settled⟩ := (sound _).item valueRead
      dsimp only at accepted
      split at accepted
      · rename_i ends
        cases accepted
        rw [ends, List.append_nil] at isText
        exact ⟨written, isText ▸ spells, settled⟩
      · cases accepted
  · rintro ⟨written, spells, rfl⟩
    obtain ⟨after, valueRead, ends⟩ := spells.isRead (2 * text.length + 2) [] (by omega) nofun
    obtain ⟨c, more, start, starts⟩ := spells.item_head []
    rw [List.append_nil] at valueRead start
    unfold read readAll
    split
    · rw [skipSpace_cons rfl] at start
      exact absurd (List.cons.inj start).1.symm starts.notMark
    · rw [valueRead, ok_bind]
      dsimp only
      rw [ends]
      rfl

end ProjectGauge.Json
