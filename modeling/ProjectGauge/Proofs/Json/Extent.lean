import ProjectGauge.Proofs.Json.Tokens

/-!
# How much is read

Every reader of JSON text gives back a rest of the text that it is given, and every part of a value takes
up characters of its own.  So a value has no more parts than its text has characters.

* `size_read_le` bounds the parts of a value by the characters of its text.
-/

namespace ProjectGauge.Json

/-! ## The parts of a value -/

mutual

/-- The number of the parts of a value: the value itself and all values in it. -/
def Value.size : Value → Nat
  | .array items => 1 + sizeOfItems items
  | .object members => 1 + sizeOfMembers members
  | _ => 1

/-- The number of the parts of some items. -/
def sizeOfItems : List Value → Nat
  | [] => 0
  | item :: rest => item.size + sizeOfItems rest

/-- The number of the parts of some members. -/
def sizeOfMembers : List (String × Value) → Nat
  | [] => 0
  | (_, value) :: rest => value.size + sizeOfMembers rest

end

theorem Value.size_pos (value : Value) : 0 < value.size := by
  cases value <;> simp only [Value.size] <;> omega

theorem length_le_sizeOfItems (items : List Value) : items.length ≤ sizeOfItems items := by
  induction items with
  | nil => exact Nat.le_refl 0
  | cons item rest inductionHypothesis =>
    have positive := item.size_pos
    simp only [List.length_cons, sizeOfItems]
    omega

theorem sizeOfMembers_put_le (name : String) (value : Value) (members : List (String × Value)) :
    sizeOfMembers (put name value members) ≤ sizeOfMembers members + value.size := by
  induction members with
  | nil => simp [put, sizeOfMembers]
  | cons member rest inductionHypothesis =>
    obtain ⟨key, old⟩ := member
    simp only [put]
    split
    · simp only [sizeOfMembers]
      omega
    · simp only [sizeOfMembers]
      omega

theorem size_lookup_le {name : String} {value : Value} {members : List (String × Value)}
    (found : lookup name members = some value) : value.size ≤ sizeOfMembers members := by
  induction members with
  | nil => cases found
  | cons member rest inductionHypothesis =>
    obtain ⟨key, other⟩ := member
    simp only [lookup] at found
    simp only [sizeOfMembers]
    split at found
    · cases found
      omega
    · have inRest := inductionHypothesis found
      omega

/-! ## Tokens -/

theorem length_skipSpace_le (text : List Char) : (skipSpace text).length ≤ text.length :=
  (List.dropWhile_sublist isSpace).length_le

theorem length_string_lt {opening : Nat} {text after : List Char} {found : String}
    (read : string opening text = .ok (found, after)) : after.length < text.length := by
  obtain ⟨⟨points, rest⟩, tail, read⟩ := bind_eq_ok.mp read
  cases read
  -- Behind what a string spells stands its closing quotation mark.
  obtain ⟨body, rfl, -⟩ := spellsPoints_of_stringTail tail
  simp only [List.length_append, List.length_cons]
  omega

theorem size_number_le {text after : List Char} {value : Value}
    (read : number text = .ok (value, after)) : value.size + after.length ≤ text.length := by
  obtain ⟨numeral, rfl, isNumeral⟩ := isNumeral_of_number read
  obtain ⟨negative, c, digits, isCons, -⟩ := isNumeral.head
  have one : value.size = 1 := by
    cases isNumeral <;> rfl
  rw [one, isCons]
  simp only [List.length_append, List.length_cons]
  omega

/-! ## Values -/

/-- With this fuel, what is read has no more parts than there are characters in front of the rest. -/
structure Bounded (fuel : Nat) : Prop where
  value : ∀ {text found after}, Json.value fuel text = .ok (found, after) →
    found.size + after.length ≤ text.length
  items : ∀ {text found after}, Json.items fuel text = .ok (found, after) →
    sizeOfItems found + after.length ≤ text.length
  members : ∀ {known text found after}, Json.members fuel known text = .ok (found, after) →
    sizeOfMembers found + after.length ≤ sizeOfMembers known + text.length

theorem size_array_le {fuel : Nat} (bounded : Bounded fuel) {text after : List Char} {items : List Value}
    (read : Json.items fuel (skipSpace text) = .ok (items, after)) :
    (Value.array items).size + after.length ≤ text.length + 1 := by
  have spaces := length_skipSpace_le text
  have part := bounded.items read
  simp only [Value.size]
  omega

theorem size_members_le {fuel : Nat} (bounded : Bounded fuel) {text after : List Char}
    {members : List (String × Value)}
    (read : Json.members fuel [] (skipSpace text) = .ok (members, after)) :
    (Value.object members).size + after.length ≤ text.length + 1 := by
  have spaces := length_skipSpace_le text
  have part := bounded.members read
  simp only [sizeOfMembers] at part
  simp only [Value.size]
  omega

theorem Bounded.value_succ {fuel : Nat} (bounded : Bounded fuel) {text after : List Char} {found : Value}
    (read : Json.value (fuel + 1) text = .ok (found, after)) :
    found.size + after.length ≤ text.length := by
  unfold Json.value at read
  split at read
  -- the six words have one part each
  iterate 6
    · cases read
      simp only [Value.size, List.length_cons]
      omega
  · rename_i c rest _ _ _ _ _ _
    rw [List.length_cons]
    split at read
    · obtain ⟨⟨text, further⟩, stringRead, read⟩ := bind_eq_ok.mp read
      cases read
      have shorter := length_string_lt stringRead
      simp only [Value.size]
      omega
    · split at read
      · split at read
        · rename_i further start
          cases read
          have spaces := length_skipSpace_le rest
          rw [start, List.length_cons] at spaces
          simp only [Value.size, sizeOfItems]
          omega
        · obtain ⟨⟨list, further⟩, itemsRead, read⟩ := bind_eq_ok.mp read
          cases read
          exact size_array_le bounded itemsRead
      · split at read
        · split at read
          · rename_i further start
            cases read
            have spaces := length_skipSpace_le rest
            rw [start, List.length_cons] at spaces
            simp only [Value.size, sizeOfMembers]
            omega
          · obtain ⟨⟨list, further⟩, membersRead, read⟩ := bind_eq_ok.mp read
            cases read
            exact size_members_le bounded membersRead
        · have part := size_number_le read
          rwa [List.length_cons] at part
  · cases read

theorem Bounded.items_succ {fuel : Nat} (bounded : Bounded fuel) {text after : List Char}
    {found : List Value} (read : Json.items (fuel + 1) text = .ok (found, after)) :
    sizeOfItems found + after.length ≤ text.length := by
  unfold Json.items at read
  obtain ⟨⟨item, further⟩, itemRead, read⟩ := bind_eq_ok.mp read
  have first := bounded.value itemRead
  have spaces := length_skipSpace_le further
  dsimp only at read
  split at read
  · rename_i rest start
    cases read
    rw [start, List.length_cons] at spaces
    simp only [sizeOfItems]
    omega
  · rename_i rest start
    obtain ⟨⟨more, behind⟩, moreRead, read⟩ := bind_eq_ok.mp read
    cases read
    rw [start, List.length_cons] at spaces
    have others := bounded.items moreRead
    have spacesBefore := length_skipSpace_le rest
    simp only [sizeOfItems]
    omega
  · cases read

theorem Bounded.members_succ {fuel : Nat} (bounded : Bounded fuel) {known : List (String × Value)}
    {text after : List Char} {found : List (String × Value)}
    (read : Json.members (fuel + 1) known text = .ok (found, after)) :
    sizeOfMembers found + after.length ≤ sizeOfMembers known + text.length := by
  unfold Json.members at read
  split at read
  · rename_i rest
    obtain ⟨⟨name, further⟩, nameRead, read⟩ := bind_eq_ok.mp read
    have nameLength := length_string_lt nameRead
    have spaces := length_skipSpace_le further
    dsimp only at read
    split at read
    · rename_i valueText start
      obtain ⟨⟨item, behind⟩, itemRead, read⟩ := bind_eq_ok.mp read
      have itemSize := bounded.value itemRead
      have spacesBefore := length_skipSpace_le valueText
      have spacesBehind := length_skipSpace_le behind
      -- a name that occurs twice keeps the last value only, so the parts are at most added up
      have put := sizeOfMembers_put_le name item known
      rw [start, List.length_cons] at spaces
      rw [List.length_cons]
      dsimp only at read
      split at read
      · rename_i more close
        cases read
        rw [close, List.length_cons] at spacesBehind
        omega
      · rename_i more comma
        rw [comma, List.length_cons] at spacesBehind
        have others := bounded.members read
        have spacesInside := length_skipSpace_le more
        omega
      · cases read
    · cases read
  · cases read

theorem bounded (fuel : Nat) : Bounded fuel := by
  induction fuel with
  | zero =>
    constructor
    · intro text found after read
      cases read
    · intro text found after read
      cases read
    · intro known text found after read
      cases read
  | succ fuel inductionHypothesis =>
    exact ⟨inductionHypothesis.value_succ, inductionHypothesis.items_succ,
      inductionHypothesis.members_succ⟩

/-- A value has no more parts than its text has characters. -/
theorem size_read_le {text : List Char} {found : Value} (read : Json.read text = .ok found) :
    found.size ≤ text.length := by
  unfold Json.read at read
  have read := mapError_eq_ok.mp read
  unfold readAll at read
  split at read
  · cases read
  · obtain ⟨⟨result, after⟩, valueRead, read⟩ := bind_eq_ok.mp read
    have part := (bounded _).value valueRead
    have spaces := length_skipSpace_le text
    dsimp only at read
    split at read
    · cases read
      omega
    · cases read

end ProjectGauge.Json
