import ProjectGauge.Json.Field
import ProjectGauge.Proofs.Result
import Mathlib.Algebra.Order.Ring.Rat
import Mathlib.Data.Rat.Lemmas

/-!
# What fields are read as

The checks of fields accept exactly the values that stand for what they look for, wherever these are in a
record.

* `StandsForInteger`, `StandsForTruth` and `FieldStandsFor` say what that is.
* `toInteger_eq_ok`, `toTruth_eq_ok`, `optionalField_eq_ok` and `listOf_eq_ok` say so of the checks.
-/

namespace ProjectGauge.Json

variable {α β : Type}

/-! ## Values without parts -/

/-- A value that an integer field takes. -/
inductive StandsForInteger : Value → Int → Prop where
  | integer (n : Int) : StandsForInteger (.int n) n
  | truth (b : Bool) : StandsForInteger (.bool b) (if b then 1 else 0)
  | real {x : Binary64} {n : Int} (equal : x.toRat? = some (n : Rat)) (fits : n.natAbs < 2 ^ 63) :
      StandsForInteger (.real x) n
  | numeral {s : String} {n : Int} (read : Text.readInteger s.toList = .ok n) :
      StandsForInteger (.text s) n

/-- A value that a truth field takes. -/
inductive StandsForTruth : Value → Bool → Prop where
  | truth (b : Bool) : StandsForTruth (.bool b) b
  | integer (b : Bool) : StandsForTruth (.int (if b then 1 else 0)) b
  | real {x : Binary64} {b : Bool} (equal : x.toRat? = some (if b then 1 else 0)) :
      StandsForTruth (.real x) b
  | word {s : String} {b : Bool} (read : readTruth s = some b) : StandsForTruth (.text s) b

theorem eq_intCast_iff {q : Rat} {n : Int} : q = n ↔ q.den = 1 ∧ q.num = n := by
  constructor
  · rintro rfl
    exact ⟨Rat.den_intCast n, Rat.num_intCast n⟩
  · rintro ⟨whole, rfl⟩
    exact (Rat.coe_int_num_of_den_eq_one whole).symm

theorem integer?_eq_some {x : Binary64} {n : Int} :
    x.integer? = some n ↔ x.toRat? = some (n : Rat) := by
  unfold Binary64.integer?
  cases x.toRat? with
  | none => simp
  | some q =>
    rw [Option.some_inj, eq_intCast_iff]
    by_cases whole : q.den = 1 <;> simp [whole]

theorem integerOfReal_eq_ok {x : Binary64} {n : Int} :
    integerOfReal x = .ok n ↔ x.toRat? = some (n : Rat) ∧ n.natAbs < 2 ^ 63 := by
  rw [← integer?_eq_some]
  have bound : integerBound = 2 ^ 63 := rfl
  cases x with
  | infinite negative => simp [integerOfReal, Binary64.integer?, Binary64.toRat?]
  | nan => simp [integerOfReal, Binary64.integer?, Binary64.toRat?]
  | finite negative q =>
    simp only [integerOfReal]
    cases Binary64.integer? (.finite negative q) with
    | none => simp
    | some m =>
      -- Neither bound is reached, so that they are one bound on the absolute value.
      have inside : (-integerBound < m && m < integerBound) = decide (m.natAbs < 2 ^ 63) := by
        rw [Bool.eq_iff_iff, Bool.and_eq_true, decide_eq_true_eq, decide_eq_true_eq, decide_eq_true_eq,
          bound]
        omega
      simp only [inside, decide_eq_true_eq, Option.some_inj]
      by_cases fits : m.natAbs < 2 ^ 63
      · simp only [fits, if_true, Except.ok.injEq]
        exact ⟨fun same => ⟨same, same ▸ fits⟩, And.left⟩
      · simp only [fits, if_false, reduceCtorEq, false_iff]
        rintro ⟨rfl, small⟩
        exact fits small

theorem toInteger_eq_ok {value : Value} {n : Int} :
    value.toInteger = .ok n ↔ StandsForInteger value n := by
  constructor
  · intro read
    cases value with
    | int m =>
      cases read
      exact .integer n
    | bool b =>
      cases read
      exact .truth b
    | real x => exact .real (integerOfReal_eq_ok.mp read).1 (integerOfReal_eq_ok.mp read).2
    | text s => exact .numeral (mapError_eq_ok.mp read)
    | null => cases read
    | array items => cases read
    | object members => cases read
  · intro stands
    cases stands with
    | integer => rfl
    | truth => rfl
    | real equal fits => exact integerOfReal_eq_ok.mpr ⟨equal, fits⟩
    | numeral read => exact mapError_eq_ok.mpr read

theorem truthOfInteger_eq_ok {n : Int} {b : Bool} :
    truthOfInteger n = .ok b ↔ n = if b then 1 else 0 := by
  unfold truthOfInteger
  by_cases zero : n = 0
  · subst zero
    cases b <;> simp
  by_cases one : n = 1
  · subst one
    cases b <;> simp
  rw [if_neg zero, if_neg one]
  have other : n ≠ if b then 1 else 0 := by cases b <;> assumption
  simp only [other, iff_false]
  split <;> simp

theorem toTruth_eq_ok {value : Value} {b : Bool} : value.toTruth = .ok b ↔ StandsForTruth value b := by
  constructor
  · intro read
    cases value with
    | bool c =>
      cases read
      exact .truth b
    | int n =>
      rw [truthOfInteger_eq_ok.mp read]
      exact .integer b
    | real x =>
      unfold Value.toTruth at read
      dsimp only at read
      split at read
      · rename_i n isInteger
        rw [truthOfInteger_eq_ok] at read
        subst read
        refine .real ((integerOfReal_eq_ok.mp isInteger).1.trans ?_)
        cases b <;> rfl
      · cases read
    | text s =>
      unfold Value.toTruth at read
      dsimp only at read
      split at read
      · rename_i c isWord
        cases read
        exact .word isWord
      · cases read
    | null => cases read
    | array items => cases read
    | object members => cases read
  · intro stands
    cases stands with
    | truth => rfl
    | integer => exact truthOfInteger_eq_ok.mpr rfl
    | @real x b equal =>
      have isInteger : integerOfReal x = .ok (if b then 1 else 0) := by
        rw [integerOfReal_eq_ok, equal]
        cases b <;> decide
      simp only [Value.toTruth, isInteger]
      exact truthOfInteger_eq_ok.mpr rfl
    | word read => simp only [Value.toTruth, read]

theorem toText_eq_ok {value : Value} {s : String} : value.toText = .ok s ↔ value = .text s := by
  cases value <;> simp [Value.toText]

theorem scalar_eq_ok {read : Value → Except Problem α} {value : Value} {result : α} :
    scalar read value = .ok result ↔ read value = .ok result :=
  mapError_eq_ok

/-! ## Fields and items -/

/-- The checks of two values together pass if and only if both pass. -/
theorem both_eq_ok {first : Checked α} {second : Checked β} {pair : α × β} :
    both first second = .ok pair ↔ first = .ok pair.1 ∧ second = .ok pair.2 := by
  obtain ⟨a, b⟩ := pair
  cases first <;> cases second <;> simp [both]

theorem under_eq_ok {step : Step} {check : Checked α} {result : α} :
    under step check = .ok result ↔ check = .ok result :=
  mapError_eq_ok

theorem map_eq_ok {change : α → β} {check : Checked α} {result : β} :
    check.map change = .ok result ↔ ∃ value, check = .ok value ∧ change value = result := by
  cases check <;> simp [Except.map]

/-- What a field of a record stands for: what its value does, or the default if there is none. -/
inductive FieldStandsFor (stands : Value → α → Prop) (members : List (String × Value)) (name : String)
    (default : α) : α → Prop where
  | given {value : Value} {result : α} (found : lookup name members = some value)
      (reads : stands value result) : FieldStandsFor stands members name default result
  | absent (missing : lookup name members = none) : FieldStandsFor stands members name default default

theorem optionalField_eq_ok {members : List (String × Value)} {name : String} {default result : α}
    {check : Value → Checked α} {stands : Value → α → Prop}
    (accepts : ∀ value result, check value = .ok result ↔ stands value result) :
    optionalField members name default check = .ok result ↔
      FieldStandsFor stands members name default result := by
  unfold optionalField
  constructor
  · intro read
    split at read
    · rename_i value found
      exact .given found ((accepts _ _).mp (under_eq_ok.mp read))
    · rename_i missing
      cases read
      exact .absent missing
  · intro field
    cases field with
    | given found reads =>
      rw [found]
      exact under_eq_ok.mpr ((accepts _ _).mpr reads)
    | absent missing => rw [missing]

theorem requiredField_eq_ok {members : List (String × Value)} {name : String} {check : Value → Checked α}
    {result : α} :
    requiredField members name check = .ok result ↔
      ∃ value, lookup name members = some value ∧ check value = .ok result := by
  unfold requiredField
  cases lookup name members with
  | none => simp [under, problem]
  | some value => simp [under_eq_ok]

theorem checkItems_eq_ok {check : Value → Checked α} {position : Nat} {items : List Value}
    {results : List α} :
    checkItems check position items = .ok results ↔
      List.Forall₂ (fun item result => check item = .ok result) items results := by
  induction items generalizing position results with
  | nil => cases results <;> simp [checkItems]
  | cons item rest inductionHypothesis =>
    rw [checkItems, map_eq_ok, List.forall₂_cons_left_iff]
    constructor
    · rintro ⟨⟨first, others⟩, passed, rfl⟩
      obtain ⟨here, behind⟩ := both_eq_ok.mp passed
      exact ⟨first, others, under_eq_ok.mp here, inductionHypothesis.mp behind, rfl⟩
    · rintro ⟨first, others, here, behind, rfl⟩
      exact ⟨(first, others), both_eq_ok.mpr ⟨under_eq_ok.mpr here, inductionHypothesis.mpr behind⟩, rfl⟩

theorem listOf_eq_ok {check : Value → Checked α} {value : Value} {results : List α} :
    listOf check value = .ok results ↔ ∃ items, value = .array items ∧
      List.Forall₂ (fun item result => check item = .ok result) items results := by
  cases value <;> simp [listOf, problem, checkItems_eq_ok]

end ProjectGauge.Json
