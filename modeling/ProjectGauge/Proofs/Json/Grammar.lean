import ProjectGauge.Json.Reader
import ProjectGauge.Proofs.Json.Members

/-!
# The grammar of JSON texts

What a JSON text is and which value it spells, without a reader.  A value as it is written may have a name
twice in an object; of these members the last one counts, at the place of the first one.

* `Spells` relates the phrases of the grammar to texts; a whole text spells an item.
* `Value.settled` is a value in which no name is left twice in an object.
* `Spells.hasText`: the integers that a text spells can be written again.
-/

namespace ProjectGauge.Json

/-! ## Values as they are written -/

mutual

/-- A written value with the members of each object laid one over the other. -/
def Value.settled : Value → Value
  | .array items => .array (settledItems items)
  | .object members => .object (merge [] (settledMembers members))
  | value => value

def settledItems : List Value → List Value
  | [] => []
  | item :: rest => item.settled :: settledItems rest

def settledMembers : List (String × Value) → List (String × Value)
  | [] => []
  | (name, value) :: rest => (name, value.settled) :: settledMembers rest

end

@[simp] theorem settled_array (items : List Value) :
    (Value.array items).settled = .array (settledItems items) :=
  rfl

@[simp] theorem settled_object (members : List (String × Value)) :
    (Value.object members).settled = .object (merge [] (settledMembers members)) :=
  rfl

theorem settledMembers_eq (members : List (String × Value)) :
    settledMembers members = members.map fun member => (member.1, member.2.settled) := by
  induction members with
  | nil => rfl
  | cons member rest inductionHypothesis =>
    obtain ⟨name, value⟩ := member
    rw [settledMembers, inductionHypothesis]
    rfl

/-! ## Words and strings -/

/-- All characters of a text may stand between tokens. -/
def IsSpace (text : List Char) : Prop :=
  ∀ c ∈ text, isSpace c = true

/-- The words that stand for values. -/
inductive IsWord : Value → List Char → Prop where
  | null : IsWord .null "null".toList
  | true : IsWord (.bool true) "true".toList
  | false : IsWord (.bool false) "false".toList
  | nan : IsWord (.real .nan) "NaN".toList
  | infinity : IsWord (.real (.infinite false)) "Infinity".toList
  | minusInfinity : IsWord (.real (.infinite true)) "-Infinity".toList

/-- The code points that the text between two quotation marks spells.  Surrogates are among them where they
are written as code units. -/
inductive SpellsPoints : List Nat → List Char → Prop where
  | nil : SpellsPoints [] []
  | plain {c : Char} {points : List Nat} {text : List Char} (notQuote : c ≠ '\x22') (notEscape : c ≠ '\\')
      (notControl : 0x20 ≤ c.toNat) (rest : SpellsPoints points text) :
      SpellsPoints (c.toNat :: points) (c :: text)
  | escape {letter c : Char} {points : List Nat} {text : List Char} (isEscape : simpleEscape? letter = some c)
      (rest : SpellsPoints points text) : SpellsPoints (c.toNat :: points) ('\\' :: letter :: text)
  | unit {a b c d : Char} {unit : Nat} {points : List Nat} {text : List Char}
      (isUnit : codeUnit? a b c d = some unit) (rest : SpellsPoints points text) :
      SpellsPoints (unit :: points) ('\\' :: 'u' :: a :: b :: c :: d :: text)

/-- The string that a text with its quotation marks spells. -/
inductive IsString : String → List Char → Prop where
  | intro {points : List Nat} {body : List Char} (spells : SpellsPoints points body) :
      IsString (String.ofList (Text.joinPairs points)) ('\x22' :: (body ++ ['\x22']))

/-! ## Numbers -/

/-- A run of one or more digits. -/
def IsDigits (text : List Char) : Prop :=
  text ≠ [] ∧ ∀ c ∈ text, c.isDigit = true

/-- The digits in front of the point: a zero alone, or a run that starts with another digit. -/
def IsWhole (text : List Char) : Prop :=
  text = ['0'] ∨ IsDigits text ∧ text.head? ≠ some '0'

/-- The digits behind the point, if there is one. -/
inductive IsFraction : List Char → List Char → Prop where
  | none : IsFraction [] []
  | some {digits : List Char} (isDigits : IsDigits digits) : IsFraction digits ('.' :: digits)

/-- The minus sign of a negative number. -/
def minus (negative : Bool) : List Char :=
  if negative then ['-'] else []

def signed (negative : Bool) (magnitude : Nat) : Int :=
  if negative then -magnitude else magnitude

/-- The exponent, if there is one. -/
inductive IsExponent : Option Int → List Char → Prop where
  | none : IsExponent .none []
  | some {letter : Char} {digits : List Char} (negative : Bool) (isLetter : letter = 'e' ∨ letter = 'E')
      (isDigits : IsDigits digits) :
      IsExponent (.some (signed negative (Text.digitsValue digits))) (letter :: (minus negative ++ digits))
  | plus {letter : Char} {digits : List Char} (isLetter : letter = 'e' ∨ letter = 'E')
      (isDigits : IsDigits digits) :
      IsExponent (.some (Text.digitsValue digits)) (letter :: '+' :: digits)

/-- The number that a numeral spells: an integer of limited length, or a binary64 number where there is a
fraction or an exponent. -/
inductive IsNumeral : Value → List Char → Prop where
  | integer {whole : List Char} (negative : Bool) (isWhole : IsWhole whole)
      (short : whole.length ≤ Text.digitLimit) :
      IsNumeral (.int (signed negative (Text.digitsValue whole))) (minus negative ++ whole)
  | real {whole fraction point power : List Char} {exponent : Option Int} (negative : Bool)
      (isWhole : IsWhole whole) (isFraction : IsFraction fraction point)
      (isExponent : IsExponent exponent power) (inexact : fraction ≠ [] ∨ exponent ≠ .none) :
      IsNumeral
        (.real (.ofDecimal negative (Text.digitsValue (whole ++ fraction))
          (exponent.getD 0 - fraction.length)))
        (minus negative ++ (whole ++ (point ++ power)))

/-! ## Phrases -/

/-- What the rules of the grammar are about: a value, a value with the space around it, the items of a list,
a member of an object, and the members of an object. -/
inductive Phrase where
  | value (value : Value)
  | item (value : Value)
  | items (items : List Value)
  | member (name : String) (value : Value)
  | members (members : List (String × Value))

/-- A text spells a phrase. -/
inductive Spells : Phrase → List Char → Prop where
  | word {value : Value} {text : List Char} (isWord : IsWord value text) : Spells (.value value) text
  | numeral {value : Value} {text : List Char} (isNumeral : IsNumeral value text) :
      Spells (.value value) text
  | string {name : String} {text : List Char} (isString : IsString name text) :
      Spells (.value (.text name)) text
  | emptyArray {space : List Char} (isSpace : IsSpace space) :
      Spells (.value (.array [])) ('[' :: (space ++ [']']))
  | array {list : List Value} {text : List Char} (items : Spells (.items list) text) :
      Spells (.value (.array list)) ('[' :: (text ++ [']']))
  | emptyObject {space : List Char} (isSpace : IsSpace space) :
      Spells (.value (.object [])) ('\x7b' :: (space ++ ['\x7d']))
  | object {list : List (String × Value)} {text : List Char} (members : Spells (.members list) text) :
      Spells (.value (.object list)) ('\x7b' :: (text ++ ['\x7d']))
  | item {value : Value} {before text behind : List Char} (isBefore : IsSpace before)
      (spells : Spells (.value value) text) (isBehind : IsSpace behind) :
      Spells (.item value) (before ++ (text ++ behind))
  | lastItem {value : Value} {text : List Char} (item : Spells (.item value) text) :
      Spells (.items [value]) text
  | moreItems {value : Value} {list : List Value} {text rest : List Char}
      (item : Spells (.item value) text) (items : Spells (.items list) rest) :
      Spells (.items (value :: list)) (text ++ ',' :: rest)
  | member {name : String} {value : Value} {before quoted behind text : List Char}
      (isBefore : IsSpace before) (isString : IsString name quoted) (isBehind : IsSpace behind)
      (item : Spells (.item value) text) :
      Spells (.member name value) (before ++ (quoted ++ (behind ++ ':' :: text)))
  | lastMember {name : String} {value : Value} {text : List Char}
      (member : Spells (.member name value) text) : Spells (.members [(name, value)]) text
  | moreMembers {name : String} {value : Value} {list : List (String × Value)} {text rest : List Char}
      (member : Spells (.member name value) text) (members : Spells (.members list) rest) :
      Spells (.members ((name, value) :: list)) (text ++ ',' :: rest)

/-! ## Integers -/

mutual

/-- All integers in a value have so few digits that they can be written. -/
def Value.HasText : Value → Prop
  | .int n => n.natAbs < Nat.pow 10 Text.digitLimit
  | .array items => ItemsHaveText items
  | .object members => MembersHaveText members
  | _ => True

def ItemsHaveText : List Value → Prop
  | [] => True
  | item :: rest => item.HasText ∧ ItemsHaveText rest

def MembersHaveText : List (String × Value) → Prop
  | [] => True
  | (_, value) :: rest => value.HasText ∧ MembersHaveText rest

end

theorem membersHaveText_iff {members : List (String × Value)} :
    MembersHaveText members ↔ ∀ member ∈ members, member.2.HasText := by
  induction members with
  | nil => simp [MembersHaveText]
  | cons member rest inductionHypothesis =>
    obtain ⟨name, value⟩ := member
    simp [MembersHaveText, inductionHypothesis]

theorem membersHaveText_merge {base later : List (String × Value)} (first : MembersHaveText base)
    (second : MembersHaveText later) : MembersHaveText (merge base later) := by
  unfold merge
  induction later generalizing base with
  | nil => exact first
  | cons member rest inductionHypothesis =>
    refine inductionHypothesis ?_ second.2
    rw [membersHaveText_iff] at first ⊢
    intro entry inside
    rcases mem_put inside with rfl | old
    · exact second.1
    · exact first entry old

/-- Digits of a limited number stand for less than that power of ten. -/
theorem digitsValue_lt {digits : List Char} {limit : Nat} (isDigits : ∀ c ∈ digits, c.isDigit = true)
    (short : digits.length ≤ limit) : Text.digitsValue digits < Nat.pow 10 limit := by
  have digit (c : Char) (isDigit : c.isDigit = true) : c.toNat - '0'.toNat ≤ 9 := by
    simp only [Char.isDigit, Bool.and_eq_true, decide_eq_true_eq, UInt32.le_iff_toNat_le,
      ge_iff_le] at isDigit
    exact Nat.sub_le_of_le_add isDigit.2
  have all : ∀ value, digits.foldl (fun value c => 10 * value + (c.toNat - '0'.toNat)) value <
      (value + 1) * 10 ^ digits.length := by
    clear short
    induction digits with
    | nil => simp
    | cons c rest inductionHypothesis =>
      intro value
      have here := digit c (isDigits c List.mem_cons_self)
      have others := inductionHypothesis (fun other inside => isDigits other (List.mem_cons_of_mem _ inside))
        (10 * value + (c.toNat - '0'.toNat))
      rw [List.foldl_cons, List.length_cons, Nat.pow_succ']
      refine Nat.lt_of_lt_of_le others ?_
      rw [← Nat.mul_assoc]
      exact Nat.mul_le_mul_right _ (by omega)
  have fromZero := all 0
  rw [Nat.zero_add, Nat.one_mul] at fromZero
  exact Nat.lt_of_lt_of_le fromZero (Nat.pow_le_pow_right (by decide) short)

theorem IsNumeral.hasText {value : Value} {text : List Char} (isNumeral : IsNumeral value text) :
    value.HasText := by
  cases isNumeral with
  | @integer whole negative isWhole short =>
    have isDigits : ∀ c ∈ whole, c.isDigit = true := by
      rcases isWhole with rfl | ⟨isDigits, -⟩
      · intro c inside
        rw [List.mem_singleton.mp inside]
        rfl
      · exact isDigits.2
    have magnitude : (signed negative (Text.digitsValue whole)).natAbs = Text.digitsValue whole := by
      cases negative <;> simp [signed]
    unfold Value.HasText
    rw [magnitude]
    exact digitsValue_lt isDigits short
  | real => trivial

/-- What holds of the values of a phrase. -/
def Phrase.HasText : Phrase → Prop
  | .value written | .item written | .member _ written => written.settled.HasText
  | .items list => ItemsHaveText (settledItems list)
  | .members list => MembersHaveText (settledMembers list)

/-- No text spells an integer that cannot be written. -/
theorem Spells.hasText {phrase : Phrase} {text : List Char} (spells : Spells phrase text) :
    phrase.HasText := by
  induction spells with
  | word isWord => cases isWord <;> trivial
  | numeral isNumeral =>
    have hasText := isNumeral.hasText
    cases isNumeral <;> exact hasText
  | string => trivial
  | emptyArray => trivial
  | array _ inductionHypothesis => exact inductionHypothesis
  | emptyObject => trivial
  | object _ inductionHypothesis => exact membersHaveText_merge trivial inductionHypothesis
  | item _ _ _ inductionHypothesis => exact inductionHypothesis
  | lastItem _ inductionHypothesis => exact ⟨inductionHypothesis, trivial⟩
  | moreItems _ _ first others => exact ⟨first, others⟩
  | member _ _ _ _ inductionHypothesis => exact inductionHypothesis
  | lastMember _ inductionHypothesis => exact ⟨inductionHypothesis, trivial⟩
  | moreMembers _ _ first others => exact ⟨first, others⟩

end ProjectGauge.Json
