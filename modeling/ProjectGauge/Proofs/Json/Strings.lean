import ProjectGauge.Json.Reader
import ProjectGauge.Json.Writer
import ProjectGauge.Proofs.Result
import ProjectGauge.Proofs.Text.Surrogate
import ProjectGauge.Proofs.Text.Utf8

/-!
# Reading strings that have been written

A text that is written as a JSON string is read back character by character, whatever characters it has:
each one is written as a character that stands for itself, as a short escape, or by its code units.

* `string_encoded` reads a string back.
* `isPlain_encodeString`: a string is written in ASCII.
-/

namespace ProjectGauge.Json

open Text (IsPlain units units_short units_long units_small joinPairs joinPairs_units)

/-! ## Code units -/

theorem hexDigits_succ (width n : Nat) :
    Text.hexDigits (width + 2) n = Text.hexDigits (width + 1) (n / 16) ++ [(n % 16).digitChar] := by
  unfold Text.hexDigits
  rw [Nat.toDigits_eq_if (b := 16) (n := n) (by decide)]
  split
  · rename_i small
    have isZero : n / 16 = 0 := Nat.div_eq_of_lt small
    rw [isZero, Nat.mod_eq_of_lt small, Nat.toDigits_zero]
    simp [List.replicate_succ']
  · have shorter : width + 2 - ((Nat.toDigits 16 (n / 16)).length + 1) =
        width + 1 - (Nat.toDigits 16 (n / 16)).length := by omega
    dsimp only
    rw [List.length_append, List.length_singleton, shorter, List.append_assoc]

theorem hexDigits_one {n : Nat} (small : n < 16) : Text.hexDigits 1 n = [n.digitChar] := by
  unfold Text.hexDigits
  rw [Nat.toDigits_of_lt_base small]
  rfl

/-- A code unit has four hexadecimal digits. -/
theorem hexDigits_unit {unit : Nat} (small : unit < 0x10000) :
    Text.hexDigits 4 unit = [(unit / 16 / 16 / 16).digitChar, (unit / 16 / 16 % 16).digitChar,
      (unit / 16 % 16).digitChar, (unit % 16).digitChar] := by
  rw [hexDigits_succ, hexDigits_succ, hexDigits_succ, hexDigits_one (by omega)]
  rfl

theorem hexValue?_digitChar : ∀ digit < 16, hexValue? digit.digitChar = some digit := by
  decide

theorem codeUnit?_digits {unit : Nat} (small : unit < 0x10000) :
    codeUnit? (unit / 16 / 16 / 16).digitChar (unit / 16 / 16 % 16).digitChar
      (unit / 16 % 16).digitChar (unit % 16).digitChar = some unit := by
  unfold codeUnit?
  rw [hexValue?_digitChar _ (by omega), hexValue?_digitChar _ (by omega),
    hexValue?_digitChar _ (by omega), hexValue?_digitChar _ (by omega)]
  have whole : (unit / 16 / 16 / 16 * 16 + unit / 16 / 16 % 16) * 256 + unit / 16 % 16 * 16 +
      unit % 16 = unit := by omega
  exact congrArg some whole

/-! ## Characters -/

theorem ascii_of_simpleEscape? {letter escaped : Char} (isEscape : simpleEscape? letter = some escaped) :
    (letter.toNat < 0x80 ∧ letter ≠ '\r') ∧ escaped.toNat < 0x80 := by
  unfold simpleEscape? at isEscape
  simp only [Bool.or_eq_true, beq_iff_eq] at isEscape
  split at isEscape
  · rename_i same
    cases isEscape
    rcases same with (rfl | rfl) | rfl <;> decide
  iterate 5
    split at isEscape
    · rename_i same
      cases isEscape
      rw [same]
      decide
  cases isEscape

/-- The ways in which a character is written: a backslash and a letter, the character itself, or its code
units. -/
inductive Encodes (c : Char) : List Char → Prop where
  | escape {letter : Char} (isEscape : simpleEscape? letter = some c) : Encodes c ['\\', letter]
  | plain (printable : 0x20 ≤ c.toNat ∧ c.toNat ≤ 0x7E) (notQuote : c ≠ '\x22') (notEscape : c ≠ '\\') :
    Encodes c [c]
  | units : Encodes c ((units c).flatMap unitEscape)

theorem encodes_encodeChar (c : Char) : Encodes c (encodeChar c) := by
  unfold encodeChar
  simp only [beq_iff_eq]
  iterate 7
    split
    · rename_i same
      rw [same]
      exact .escape rfl
  split
  · rename_i notQuote notEscape _ _ _ _ _ printable
    rw [Bool.and_eq_true, decide_eq_true_eq, decide_eq_true_eq] at printable
    exact .plain printable notQuote notEscape
  have written := Encodes.units (c := c)
  split
  · rename_i short
    rwa [units_short short, List.flatMap_singleton] at written
  · rename_i long
    rwa [units_long long, List.flatMap_cons, List.flatMap_singleton] at written

/-! ## Strings -/

section Strings

variable {opening : Nat} {rest after : List Char} {points : List Nat}

theorem stringTail_escape {c escaped : Char} (isEscape : simpleEscape? c = some escaped)
    (read : stringTail opening rest = .ok (points, after)) :
    stringTail opening ('\\' :: c :: rest) = .ok (escaped.toNat :: points, after) := by
  have notUnit : c ≠ 'u' := by
    rintro rfl
    cases isEscape
  -- The backslash starts an escape, and its letter is not the one of a code unit.
  unfold stringTail
  split
  · rename_i isEmpty
    cases isEmpty
  · rename_i alone
    cases alone
  · rename_i isUnit
    cases isUnit
    exact absurd rfl notUnit
  · rename_i isUnit
    cases isUnit
    exact absurd rfl notUnit
  · rename_i other _ _ _ same
    cases same
    rw [isEscape]
    dsimp only
    rw [read]
    rfl
  · rename_i isOther same
    cases same
    exact (isOther c rest rfl rfl).elim

theorem stringTail_codeUnit {a b c d : Char} {unit : Nat} (isUnit : codeUnit? a b c d = some unit)
    (more : rest ≠ []) (read : stringTail opening rest = .ok (points, after)) :
    stringTail opening ('\\' :: 'u' :: a :: b :: c :: d :: rest) = .ok (unit :: points, after) := by
  rw [stringTail, if_neg (by simpa using more), isUnit]
  dsimp only
  rw [read]
  rfl

theorem stringTail_unit (unit : Nat) (small : unit < 0x10000) (more : rest ≠ [])
    (read : stringTail opening rest = .ok (points, after)) :
    stringTail opening (unitEscape unit ++ rest) = .ok (unit :: points, after) := by
  unfold unitEscape
  rw [hexDigits_unit small]
  exact stringTail_codeUnit (codeUnit?_digits small) more read

theorem stringTail_plain {c : Char} (notQuote : c ≠ '\x22') (notEscape : c ≠ '\\')
    (notControl : ¬ c.toNat < 0x20) (read : stringTail opening rest = .ok (points, after)) :
    stringTail opening (c :: rest) = .ok (c.toNat :: points, after) := by
  unfold stringTail
  split
  · rename_i isEmpty
    cases isEmpty
  · rename_i alone
    cases alone
    exact absurd rfl notEscape
  · rename_i isUnit
    cases isUnit
    exact absurd rfl notEscape
  · rename_i isUnit
    cases isUnit
    exact absurd rfl notEscape
  · rename_i isEscape
    cases isEscape
    exact absurd rfl notEscape
  · rename_i same
    cases same
    rw [if_neg (by simpa using notQuote), if_neg notControl, read]
    rfl

theorem stringTail_units {units : List Nat} (small : ∀ unit ∈ units, unit < 0x10000) (more : rest ≠ [])
    (read : stringTail opening rest = .ok (points, after)) :
    stringTail opening (units.flatMap unitEscape ++ rest) = .ok (units ++ points, after) := by
  induction units with
  | nil => exact read
  | cons unit units inductionHypothesis =>
    have others := inductionHypothesis fun other inside => small other (List.mem_cons_of_mem _ inside)
    rw [List.flatMap_cons, List.append_assoc]
    exact stringTail_unit unit (small unit List.mem_cons_self)
      (List.append_ne_nil_of_right_ne_nil _ more) others

/-- However a character is written, its code units are read. -/
theorem stringTail_encodeChar (c : Char) (more : rest ≠ [])
    (read : stringTail opening rest = .ok (points, after)) :
    stringTail opening (encodeChar c ++ rest) = .ok (units c ++ points, after) := by
  have encodes := encodes_encodeChar c
  generalize encodeChar c = written at encodes ⊢
  cases encodes with
  | escape isEscape =>
    have ascii := (ascii_of_simpleEscape? isEscape).2
    rw [units_short (by omega)]
    exact stringTail_escape isEscape read
  | plain printable notQuote notEscape =>
    rw [units_short (by omega)]
    exact stringTail_plain notQuote notEscape (by omega) read
  | units => exact stringTail_units units_small more read

theorem stringTail_encoded (text : List Char) :
    stringTail opening (text.flatMap encodeChar ++ '\x22' :: rest) = .ok (text.flatMap units, rest) := by
  induction text with
  | nil => simp [stringTail]
  | cons c text inductionHypothesis =>
    rw [List.flatMap_cons, List.flatMap_cons, List.append_assoc]
    exact stringTail_encodeChar c (by simp) inductionHypothesis

/-- A text that is written as a string is read back. -/
theorem string_encoded (text : String) :
    string opening (text.toList.flatMap encodeChar ++ '\x22' :: rest) = .ok (text, rest) := by
  unfold string
  rw [stringTail_encoded, ok_bind]
  dsimp only
  rw [joinPairs_units, String.ofList_toList]
  rfl

end Strings

/-! ## ASCII -/

theorem isPlain_unitEscape {unit : Nat} (small : unit < 0x10000) : IsPlain (unitEscape unit) := by
  have digits : ∀ digit < 16, digit.digitChar.toNat < 0x80 ∧ digit.digitChar ≠ '\r' := by decide
  unfold unitEscape
  rw [hexDigits_unit small]
  intro c inside
  simp only [List.mem_cons, List.not_mem_nil, or_false] at inside
  rcases inside with rfl | rfl | rfl | rfl | rfl | rfl
  · decide
  · decide
  · exact digits _ (by omega)
  · exact digits _ (by omega)
  · exact digits _ (by omega)
  · exact digits _ (by omega)

theorem isPlain_encodeChar (c : Char) : IsPlain (encodeChar c) := by
  have encodes := encodes_encodeChar c
  generalize encodeChar c = written at encodes ⊢
  cases encodes with
  | escape isEscape =>
    exact .cons (by decide) (.cons (ascii_of_simpleEscape? isEscape).1 fun _ inside => by cases inside)
  | plain printable notQuote notEscape =>
    have notReturn : c ≠ '\r' := by
      rintro rfl
      exact absurd printable.1 (by decide)
    exact .cons ⟨by omega, notReturn⟩ fun _ inside => by cases inside
  | units =>
    intro d inside
    obtain ⟨unit, isUnit, inUnit⟩ := List.mem_flatMap.mp inside
    exact isPlain_unitEscape (units_small unit isUnit) d inUnit

theorem isPlain_encodeString (text : List Char) : IsPlain (encodeString text) := by
  have inside : IsPlain (text.flatMap encodeChar) := by
    intro d inText
    obtain ⟨c, -, inChar⟩ := List.mem_flatMap.mp inText
    exact isPlain_encodeChar c d inChar
  unfold encodeString
  exact ((Text.IsPlain.cons (by decide) inside)).append (by decide)

end ProjectGauge.Json
