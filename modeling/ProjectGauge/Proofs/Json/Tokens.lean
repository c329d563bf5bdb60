import ProjectGauge.Proofs.Json.Grammar
import ProjectGauge.Proofs.Json.Strings
import Mathlib.Data.List.TakeWhile

/-!
# Reading tokens

The readers of strings and numbers take what the grammar calls a string or a numeral.  A numeral is read as
far as it goes, so something has to stand behind it that ends it.

* `isString_of_string` and `IsString.read` are about strings.
* `isNumeral_of_number` and `IsNumeral.read` are about numbers; `Stops` is what ends them.
-/

namespace ProjectGauge.Json

/-! ## Space -/

theorem skipSpace_append {space : List Char} (blank : IsSpace space) (rest : List Char) :
    skipSpace (space ++ rest) = skipSpace rest :=
  List.dropWhile_append_of_pos blank

theorem skipSpace_cons {c : Char} (notSpace : isSpace c = false) (rest : List Char) :
    skipSpace (c :: rest) = c :: rest :=
  List.dropWhile_cons_of_neg (by simp [notSpace])

theorem exists_skipSpace (text : List Char) : ∃ space, IsSpace space ∧ text = space ++ skipSpace text :=
  ⟨text.takeWhile isSpace, fun _ inside => List.mem_takeWhile_imp inside,
    List.takeWhile_append_dropWhile.symm⟩

/-! ## Strings -/

section Strings

variable {opening : Nat} {text after body rest : List Char} {points : List Nat} {name : String}

theorem spellsPoints_of_stringTail (read : stringTail opening text = .ok (points, after)) :
    ∃ body, text = body ++ '\x22' :: after ∧ SpellsPoints points body := by
  fun_induction stringTail opening text generalizing points with
  | case1 => cases read
  | case2 => cases read
  | case3 => cases read
  | case4 => cases read
  | case5 a b c d rest notEmpty unit isUnit inductionHypothesis =>
    obtain ⟨⟨others, further⟩, tail, read⟩ := bind_eq_ok.mp read
    cases read
    obtain ⟨body, rfl, spells⟩ := inductionHypothesis tail
    exact ⟨'\\' :: 'u' :: a :: b :: c :: d :: body, rfl, .unit isUnit spells⟩
  | case6 => cases read
  | case7 => cases read
  | case8 letter rest notUnit notUnitStart escaped isEscape inductionHypothesis =>
    obtain ⟨⟨others, further⟩, tail, read⟩ := bind_eq_ok.mp read
    cases read
    obtain ⟨body, rfl, spells⟩ := inductionHypothesis tail
    exact ⟨'\\' :: letter :: body, rfl, .escape isEscape spells⟩
  | case9 c rest _ _ _ _ isQuote =>
    cases read
    rw [beq_iff_eq] at isQuote
    exact ⟨[], by rw [isQuote]; rfl, .nil⟩
  | case10 => cases read
  | case11 c rest notLast notUnit notUnitStart notEscape notQuote notControl inductionHypothesis =>
    obtain ⟨⟨others, further⟩, tail, read⟩ := bind_eq_ok.mp read
    cases read
    obtain ⟨body, rfl, spells⟩ := inductionHypothesis tail
    have noBackslash : c ≠ '\\' := by
      rintro rfl
      cases body with
      | nil => exact notEscape _ _ rfl rfl
      | cons letter body => exact notEscape _ _ rfl rfl
    exact ⟨c :: body, rfl, .plain (by simpa using notQuote) noBackslash (Nat.le_of_not_lt notControl) spells⟩

theorem SpellsPoints.read (spells : SpellsPoints points body) :
    stringTail opening (body ++ '\x22' :: rest) = .ok (points, rest) := by
  induction spells with
  | nil => simp [stringTail]
  | plain notQuote notEscape notControl spells inductionHypothesis =>
    exact stringTail_plain notQuote notEscape (Nat.not_lt.mpr notControl) inductionHypothesis
  | escape isEscape spells inductionHypothesis => exact stringTail_escape isEscape inductionHypothesis
  | unit isUnit spells inductionHypothesis =>
    exact stringTail_codeUnit isUnit (by simp) inductionHypothesis

theorem isString_of_string (read : string opening text = .ok (name, after)) :
    ∃ quoted, '\x22' :: text = quoted ++ after ∧ IsString name quoted := by
  obtain ⟨⟨points, rest⟩, tail, read⟩ := bind_eq_ok.mp read
  cases read
  obtain ⟨body, rfl, spells⟩ := spellsPoints_of_stringTail tail
  exact ⟨_, by simp, .intro spells⟩

/-- What stands behind the opening quotation mark of a string is read. -/
theorem IsString.read {quoted : List Char} (isString : IsString name quoted) :
    ∃ inside, quoted = '\x22' :: inside ∧
      ∀ opening rest, string opening (inside ++ rest) = .ok (name, rest) := by
  obtain ⟨spells⟩ := isString
  refine ⟨_, rfl, fun opening rest => ?_⟩
  unfold string
  rw [List.append_assoc, List.singleton_append, spells.read]
  rfl

end Strings

/-! ## What ends a value -/

/-- A text goes on with what may stand behind a value, or ends. -/
def Stops (text : List Char) : Prop :=
  ∀ c ∈ text.head?, isSpace c = true ∨ c = ',' ∨ c = ']' ∨ c = '\x7d'

/-- A text does not go on with a digit. -/
def EndsDigits (text : List Char) : Prop :=
  ∀ c ∈ text.head?, c.isDigit = false

theorem Stops.space {space rest : List Char} (stops : Stops rest) (blank : IsSpace space) :
    Stops (space ++ rest) := by
  cases space with
  | nil => exact stops
  | cons c space =>
    rintro _ ⟨⟩
    exact .inl (blank c List.mem_cons_self)

theorem Stops.not_mem {rest : List Char} (stops : Stops rest) {c : Char} (isHead : c ∈ rest.head?) :
    c.isDigit = false ∧ c ≠ '.' ∧ c ≠ 'e' ∧ c ≠ 'E' := by
  rcases stops c isHead with blank | rfl | rfl | rfl
  · simp only [isSpace, Bool.or_eq_true, beq_iff_eq] at blank
    rcases blank with ((rfl | rfl) | rfl) | rfl <;> decide
  all_goals decide

theorem Stops.endsDigits {rest : List Char} (stops : Stops rest) : EndsDigits rest :=
  fun _ isHead => (stops.not_mem isHead).1

/-! ## Numbers -/

section Numbers

variable {text after rest whole fraction point power : List Char} {exponent : Option Int} {value : Value}

theorem isDigits_takeWhile (some : ¬ (text.takeWhile Char.isDigit).isEmpty) :
    IsDigits (text.takeWhile Char.isDigit) :=
  ⟨by simpa using some, fun _ inside => List.mem_takeWhile_imp inside⟩

theorem IsDigits.read {digits : List Char} (isDigits : IsDigits digits) (ends : EndsDigits rest) :
    (digits ++ rest).takeWhile Char.isDigit = digits ∧ (digits ++ rest).dropWhile Char.isDigit = rest := by
  rw [List.takeWhile_append_of_pos isDigits.2, List.dropWhile_append_of_pos isDigits.2]
  cases rest with
  | nil => simp
  | cons c rest => simp [ends c rfl]

theorem isWhole_of_wholePart (read : wholePart text = (whole, after)) (some : whole ≠ []) :
    text = whole ++ after ∧ IsWhole whole := by
  unfold wholePart at read
  split at read
  · cases read
    exact ⟨rfl, .inl rfl⟩
  · rename_i notZero
    cases read
    refine ⟨List.takeWhile_append_dropWhile.symm, .inr ⟨⟨some, fun _ inside =>
      List.mem_takeWhile_imp inside⟩, ?_⟩⟩
    cases text with
    | nil => exact absurd rfl some
    | cons c text =>
      intro isZero
      rw [List.takeWhile_cons] at isZero
      split at isZero
      · exact notZero text (by rw [Option.some.inj isZero])
      · cases isZero

theorem IsWhole.read (isWhole : IsWhole whole) (ends : EndsDigits rest) :
    wholePart (whole ++ rest) = (whole, rest) := by
  rcases isWhole with rfl | ⟨isDigits, notZero⟩
  · rfl
  · obtain ⟨taken, left⟩ := isDigits.read ends
    unfold wholePart
    split
    · rename_i behind same
      obtain ⟨c, digits, rfl⟩ := List.exists_cons_of_ne_nil isDigits.1
      cases same
      exact absurd rfl notZero
    · rw [taken, left]

theorem isFraction_of_fractionPart (read : fractionPart text = (fraction, after)) :
    ∃ point, text = point ++ after ∧ IsFraction fraction point := by
  unfold fractionPart at read
  split at read
  · split at read
    · cases read
      exact ⟨[], rfl, .none⟩
    · rename_i behind some
      cases read
      exact ⟨'.' :: behind.takeWhile Char.isDigit, by simp, .some (isDigits_takeWhile some)⟩
  · cases read
    exact ⟨[], rfl, .none⟩

theorem IsFraction.read (isFraction : IsFraction fraction point) (ends : EndsDigits rest)
    (noPoint : rest.head? ≠ .some '.') : fractionPart (point ++ rest) = (fraction, rest) := by
  cases isFraction with
  | none =>
    unfold fractionPart
    split
    · rename_i same
      exact absurd (congrArg List.head? same) noPoint
    · rfl
  | some isDigits =>
    obtain ⟨taken, left⟩ := isDigits.read ends
    simp [fractionPart, taken, left, isDigits.1]

theorem isExponent_of_exponentPart (read : exponentPart text = (exponent, after)) :
    ∃ power, text = power ++ after ∧ IsExponent exponent power := by
  unfold exponentPart at read
  split at read
  · rename_i letter rest
    split at read
    · rename_i isLetter
      simp only [Bool.or_eq_true, beq_iff_eq] at isLetter
      split at read
      rename_i negative digits isSigned
      split at read
      · cases read
        exact ⟨[], rfl, .none⟩
      · rename_i some
        cases read
        have isDigits := isDigits_takeWhile some
        have whole := (List.takeWhile_append_dropWhile (p := Char.isDigit) (l := digits)).symm
        split at isSigned
        · cases isSigned
          exact ⟨letter :: (minus true ++ digits.takeWhile Char.isDigit), by simp [minus],
            .some true isLetter isDigits⟩
        · cases isSigned
          exact ⟨letter :: '+' :: digits.takeWhile Char.isDigit, by simp, .plus isLetter isDigits⟩
        · cases isSigned
          exact ⟨letter :: (minus false ++ rest.takeWhile Char.isDigit), by simp [minus],
            .some false isLetter isDigits⟩
    · cases read
      exact ⟨[], rfl, .none⟩
  · cases read
    exact ⟨[], rfl, .none⟩

theorem IsExponent.read (isExponent : IsExponent exponent power) (stops : Stops rest) :
    exponentPart (power ++ rest) = (exponent, rest) := by
  cases isExponent with
  | none =>
    cases rest with
    | nil => rfl
    | cons c rest =>
      obtain ⟨-, -, noLetter, noCapital⟩ := stops.not_mem (c := c) rfl
      simp [exponentPart, noLetter, noCapital]
  | @some letter digits negative isLetter isDigits =>
    obtain ⟨taken, left⟩ := isDigits.read stops.endsDigits
    obtain ⟨c, others, rfl⟩ := List.exists_cons_of_ne_nil isDigits.1
    have isDigit := isDigits.2 c List.mem_cons_self
    have noSign : c ≠ '-' ∧ c ≠ '+' := by
      constructor <;> rintro rfl <;> cases isDigit
    cases negative <;> rcases isLetter with rfl | rfl <;>
      simp_all [exponentPart, minus, signed]
  | plus isLetter isDigits =>
    obtain ⟨taken, left⟩ := isDigits.read stops.endsDigits
    rcases isLetter with rfl | rfl <;> simp [exponentPart, taken, left, isDigits.1]

/-- What is read as a number is a numeral. -/
theorem isNumeral_of_number (read : number text = .ok (value, after)) :
    ∃ numeral, text = numeral ++ after ∧ IsNumeral value numeral := by
  unfold number at read
  split at read
  rename_i negative unsigned isSigned
  have sign : text = minus negative ++ unsigned := by
    split at isSigned <;> cases isSigned <;> rfl
  split at read
  rename_i whole afterWhole wholeRead
  split at read
  · cases read
  · rename_i some
    obtain ⟨isSplit, isWhole⟩ := isWhole_of_wholePart wholeRead (by simpa using some)
    split at read
    rename_i fraction afterFraction fractionRead
    obtain ⟨point, isPoint, isFraction⟩ := isFraction_of_fractionPart fractionRead
    split at read
    rename_i exponent rest exponentRead
    obtain ⟨power, isPower, isExponent⟩ := isExponent_of_exponentPart exponentRead
    obtain ⟨known, valueRead, read⟩ := bind_eq_ok.mp read
    cases read
    rw [sign, isSplit, isPoint, isPower]
    unfold Numeral.value at valueRead
    split at valueRead
    · rename_i isWholeOnly
      simp only [Bool.and_eq_true, List.isEmpty_iff, Option.isNone_iff_eq_none] at isWholeOnly
      obtain ⟨rfl, rfl⟩ := isWholeOnly
      -- Nothing stands between the whole part and the rest.
      have noPoint : point = [] := by
        cases isFraction with
        | none => rfl
        | some isDigits => exact absurd rfl isDigits.1
      subst noPoint
      cases isExponent
      split at valueRead
      · cases valueRead
      · rename_i short
        cases valueRead
        exact ⟨_, by simp, .integer negative isWhole (Nat.not_lt.mp short)⟩
    · rename_i inexact
      cases valueRead
      refine ⟨_, by simp, .real negative isWhole isFraction isExponent ?_⟩
      simpa [List.isEmpty_iff, Option.isNone_iff_eq_none, imp_iff_not_or] using inexact

theorem IsNumeral.settled {numeral : List Char} (isNumeral : IsNumeral value numeral) :
    value.settled = value := by
  cases isNumeral <;> rfl

theorem IsWhole.head (isWhole : IsWhole whole) : ∃ c digits, whole = c :: digits ∧ c.isDigit = true := by
  rcases isWhole with rfl | ⟨⟨some, all⟩, -⟩
  · exact ⟨'0', [], rfl, rfl⟩
  · obtain ⟨c, digits, rfl⟩ := List.exists_cons_of_ne_nil some
    exact ⟨c, digits, rfl, all c List.mem_cons_self⟩

/-- A numeral starts with a digit or with a minus sign in front of one. -/
theorem IsNumeral.head {numeral : List Char} (isNumeral : IsNumeral value numeral) :
    ∃ negative c more, numeral = minus negative ++ c :: more ∧ c.isDigit = true := by
  cases isNumeral with
  | integer negative isWhole short =>
    obtain ⟨c, digits, rfl, isDigit⟩ := isWhole.head
    exact ⟨negative, c, _, rfl, isDigit⟩
  | real negative isWhole isFraction isExponent inexact =>
    obtain ⟨c, digits, rfl, isDigit⟩ := isWhole.head
    exact ⟨negative, c, _, rfl, isDigit⟩

theorem number_parts (negative : Bool) (isWhole : IsWhole whole) (isFraction : IsFraction fraction point)
    (isExponent : IsExponent exponent power) (stops : Stops rest) :
    number (minus negative ++ (whole ++ (point ++ (power ++ rest)))) =
      (Numeral.value ⟨negative, whole, fraction, exponent⟩ rest).map fun value => (value, rest) := by
  have behindPoint : ∀ c ∈ (power ++ rest).head?, c.isDigit = false ∧ c ≠ '.' := by
    intro c isHead
    cases isExponent with
    | none => exact ⟨(stops.not_mem isHead).1, (stops.not_mem isHead).2.1⟩
    | some negative isLetter isDigits =>
      cases isHead
      rcases isLetter with rfl | rfl <;> decide
    | plus isLetter isDigits =>
      cases isHead
      rcases isLetter with rfl | rfl <;> decide
  have behindWhole : EndsDigits (point ++ (power ++ rest)) := by
    intro c isHead
    cases isFraction with
    | none => exact (behindPoint c isHead).1
    | some isDigits =>
      cases isHead
      rfl
  have wholeRead := isWhole.read behindWhole
  have fractionRead : fractionPart (point ++ (power ++ rest)) = (fraction, power ++ rest) :=
    isFraction.read (fun c isHead => (behindPoint c isHead).1) (fun same => (behindPoint '.' same).2 rfl)
  have exponentRead := isExponent.read stops
  obtain ⟨c, digits, isCons, isDigit⟩ := isWhole.head
  have unsigned : c ≠ '-' := by
    rintro rfl
    cases isDigit
  subst isCons
  unfold number
  split
  rename_i isNegative unsignedText isSigned
  obtain ⟨rfl, rfl⟩ : isNegative = negative ∧
      unsignedText = c :: digits ++ (point ++ (power ++ rest)) := by
    cases negative with
    | false =>
      split at isSigned
      · rename_i same
        exact absurd (List.cons.inj same).1 unsigned
      · cases isSigned
        exact ⟨rfl, rfl⟩
    | true =>
      cases isSigned
      exact ⟨rfl, rfl⟩
  simp only [wholeRead, fractionRead, exponentRead, List.isEmpty_cons, Bool.false_eq_true, if_false]
  cases Numeral.value ⟨isNegative, c :: digits, fraction, exponent⟩ rest <;> rfl

/-- A numeral in front of something that ends it is read. -/
theorem IsNumeral.read {numeral : List Char} (isNumeral : IsNumeral value numeral) (stops : Stops rest) :
    number (numeral ++ rest) = .ok (value, rest) := by
  cases isNumeral with
  | integer negative isWhole short =>
    have parts := number_parts negative isWhole .none .none stops
    rw [List.nil_append, List.nil_append, ← List.append_assoc] at parts
    rw [parts, Numeral.value, if_pos (by rfl), if_neg (Nat.not_lt.mpr short)]
    rfl
  | real negative isWhole isFraction isExponent inexact =>
    have parts := number_parts negative isWhole isFraction isExponent stops
    simp only [← List.append_assoc] at parts ⊢
    rw [parts, Numeral.value, if_neg]
    · rfl
    · simpa [List.isEmpty_iff, Option.isNone_iff_eq_none, imp_iff_not_or] using inexact

end Numbers

end ProjectGauge.Json
