import ProjectGauge.Usage.Reference
import ProjectGauge.Proofs.Text.Scan

/-!
# What refers to a package

References are found by patterns.  What these find is described here without patterns: a call of `require`
or the word `from`, with a quoted specifier that is the name of the package or goes on behind it with a slash
and a path.  The name stands for itself, whatever its characters are.

* `IsRequireCall` and `IsFromClause` are the texts that refer to a package.
* `describes_requireCall` and `describes_fromClause`: these are what the patterns describe.
-/

namespace ProjectGauge.Usage

open Text

/-! ## Texts that refer to a package -/

/-- What may stand behind the name of a package: nothing, or a slash with at least one further character,
none of which is a quotation mark. -/
inductive IsTail : List Char → Prop where
  | nothing : IsTail []
  | path {rest : List Char} (nonempty : rest ≠ []) (unquoted : ∀ c ∈ rest, isQuote c = false) :
    IsTail ('/' :: rest)

/-- The name of a package with a tail, between two quotation marks of either kind. -/
inductive IsQuoted (package : List Char) : List Char → Prop where
  | intro {opening closing : Char} {tail : List Char} (opens : isQuote opening = true)
    (isTail : IsTail tail) (closes : isQuote closing = true) :
    IsQuoted package (opening :: (package ++ (tail ++ [closing])))

/-- A call of `require` that refers to a package. -/
inductive IsRequireCall (package : List Char) : List Char → Prop where
  | intro {quoted : List Char} (isQuoted : IsQuoted package quoted) :
    IsRequireCall package ("require(".toList ++ (quoted ++ [')']))

/-- The word `from` with blanks behind it and a specifier that refers to a package. -/
inductive IsFromClause (package : List Char) : List Char → Prop where
  | intro {blanks quoted : List Char} (nonempty : blanks ≠ []) (allBlank : ∀ c ∈ blanks, isBlank c = true)
    (isQuoted : IsQuoted package quoted) : IsFromClause package ("from".toList ++ (blanks ++ quoted))

theorem isQuote_iff {c : Char} : isQuote c = true ↔ c = '\x27' ∨ c = '\x22' := by
  rw [isQuote, Bool.or_eq_true, beq_iff_eq, beq_iff_eq]

theorem IsTail.unquoted {tail : List Char} (isTail : IsTail tail) : ∀ c ∈ tail, isQuote c = false := by
  intro c inside
  cases isTail with
  | nothing => cases inside
  | path nonempty unquoted =>
    rcases List.mem_cons.mp inside with rfl | inside
    · decide
    · exact unquoted c inside

theorem not_isBlank_of_isQuote {c : Char} (quoted : isQuote c = true) : isBlank c = false := by
  rcases isQuote_iff.mp quoted with rfl | rfl <;> decide

/-! ## One text at each place -/

variable {package text run other : List Char}

theorem IsQuoted.starts (isQuoted : IsQuoted package run) :
    ∃ opening inside, run = opening :: inside ∧ isQuote opening = true := by
  obtain ⟨opens, -, -⟩ := isQuoted
  exact ⟨_, _, rfl, opens⟩

/-- Behind its first quotation mark, a specifier goes on to the next one behind the name. -/
theorem IsQuoted.unique {rest otherRest : List Char} (isQuoted : IsQuoted package run)
    (otherQuoted : IsQuoted package other) (same : run ++ rest = other ++ otherRest) :
    run = other ∧ rest = otherRest := by
  obtain @⟨opening, closing, tail, opens, isTail, closes⟩ := isQuoted
  obtain @⟨otherOpening, otherClosing, otherTail, -, otherIsTail, otherCloses⟩ := otherQuoted
  simp only [List.cons_append, List.append_assoc, List.nil_append] at same
  obtain ⟨rfl, behind⟩ := List.cons.inj same
  obtain ⟨rfl, rfl, rfl⟩ := run_unique (fun c => !isQuote c)
    (fun c inside => by simp [isTail.unquoted c inside]) (by simp [closes])
    (fun c inside => by simp [otherIsTail.unquoted c inside]) (by simp [otherCloses])
    (List.append_cancel_left behind)
  exact ⟨rfl, rfl⟩

theorem IsRequireCall.unique (isCall : IsRequireCall package run) (otherCall : IsRequireCall package other)
    (stands : run <+: text) (otherStands : other <+: text) : run = other := by
  obtain ⟨isQuoted⟩ := isCall
  obtain ⟨otherQuoted⟩ := otherCall
  obtain ⟨rest, rfl⟩ := stands
  obtain ⟨otherRest, same⟩ := otherStands
  simp only [List.append_assoc] at same
  obtain ⟨rfl, -⟩ := otherQuoted.unique isQuoted (List.append_cancel_left same)
  rfl

/-- The blanks of a clause are all that stand there, as the quotation mark behind them is none. -/
theorem IsFromClause.unique (isClause : IsFromClause package run)
    (otherClause : IsFromClause package other) (stands : run <+: text) (otherStands : other <+: text) :
    run = other := by
  obtain @⟨blanks, quoted, -, allBlank, isQuoted⟩ := isClause
  obtain @⟨otherBlanks, otherQuoted, -, otherAllBlank, otherIsQuoted⟩ := otherClause
  obtain ⟨rest, rfl⟩ := stands
  obtain ⟨otherRest, same⟩ := otherStands
  simp only [List.append_assoc] at same
  have behindWord := List.append_cancel_left same
  obtain ⟨opening, inside, rfl, opens⟩ := isQuoted.starts
  obtain ⟨otherOpening, otherInside, rfl, otherOpens⟩ := otherIsQuoted.starts
  obtain ⟨rfl, -, -⟩ := run_unique isBlank otherAllBlank (not_isBlank_of_isQuote otherOpens) allBlank
    (not_isBlank_of_isQuote opens) behindWord
  obtain ⟨sameQuoted, -⟩ := isQuoted.unique otherIsQuoted (List.append_cancel_left behindWord).symm
  rw [sameQuoted]

/-! ## Readings of the patterns -/

theorem reads_specifier {fresh : Bool} {kept : Option (List Char)} :
    (specifier package).Reads fresh run kept ↔ IsQuoted package run ∧ kept = none := by
  simp only [specifier, Pattern.Reads, Pattern.IsRun, Bool.not_eq_true']
  constructor
  · rintro ⟨_, _, _, _, ⟨opening, opens, rfl, rfl⟩, ⟨_, _, _, _, ⟨rfl, rfl⟩, ⟨tail, _, _, _, readTail,
      ⟨closing, closes, rfl, rfl⟩, rfl, rfl⟩, rfl, rfl⟩, rfl, rfl⟩
    rcases readTail with ⟨_, _, path, _, ⟨rfl, rfl⟩, ⟨nonempty, unquoted, rfl⟩, rfl, rfl⟩ | ⟨rfl, rfl⟩
    · exact ⟨.intro opens (.path nonempty unquoted) closes, rfl⟩
    · exact ⟨.intro opens .nothing closes, rfl⟩
  · rintro ⟨@⟨opening, closing, tail, opens, isTail, closes⟩, rfl⟩
    refine ⟨[opening], none, _, none, ⟨opening, opens, rfl, rfl⟩, ⟨package, none, _, none, ⟨rfl, rfl⟩,
      ⟨tail, none, [closing], none, ?_, ⟨closing, closes, rfl, rfl⟩, rfl, rfl⟩, rfl, rfl⟩, rfl, rfl⟩
    cases isTail with
    | nothing => exact .inr ⟨rfl, rfl⟩
    | path nonempty unquoted =>
      exact .inl ⟨['/'], none, _, none, ⟨rfl, rfl⟩, ⟨nonempty, unquoted, rfl⟩, rfl, rfl⟩

/-- The pattern of `require` calls describes them. -/
theorem describes_requireCall (package : List Char) :
    (requireCall package).Describes (IsRequireCall package) where
  reads fresh run kept := by
    simp only [requireCall, Pattern.Reads]
    constructor
    · rintro ⟨_, _, _, _, ⟨rfl, rfl⟩, ⟨quoted, _, _, _, readQuoted, ⟨rfl, rfl⟩, rfl, rfl⟩, rfl, rfl⟩
      obtain ⟨isQuoted, rfl⟩ := reads_specifier.mp readQuoted
      exact ⟨.intro isQuoted, rfl⟩
    · rintro ⟨⟨isQuoted⟩, rfl⟩
      exact ⟨_, none, _, none, ⟨rfl, rfl⟩, ⟨_, none, [')'], none, reads_specifier.mpr ⟨isQuoted, rfl⟩,
        ⟨rfl, rfl⟩, rfl, rfl⟩, rfl, rfl⟩
  unique := IsRequireCall.unique
  nonempty := nofun

/-- The pattern of `from` clauses describes them. -/
theorem describes_fromClause (package : List Char) :
    (fromClause package).Describes (IsFromClause package) where
  reads fresh run kept := by
    simp only [fromClause, Pattern.Reads, Pattern.IsRun]
    constructor
    · rintro ⟨_, _, _, _, ⟨rfl, rfl⟩, ⟨blanks, _, quoted, _, ⟨nonempty, allBlank, rfl⟩, readQuoted, rfl,
        rfl⟩, rfl, rfl⟩
      obtain ⟨isQuoted, rfl⟩ := reads_specifier.mp readQuoted
      exact ⟨.intro nonempty allBlank isQuoted, rfl⟩
    · rintro ⟨⟨nonempty, allBlank, isQuoted⟩, rfl⟩
      exact ⟨_, none, _, none, ⟨rfl, rfl⟩, ⟨_, none, _, none, ⟨nonempty, allBlank, rfl⟩,
        reads_specifier.mpr ⟨isQuoted, rfl⟩, rfl, rfl⟩, rfl, rfl⟩
  unique := IsFromClause.unique
  nonempty := nofun

end ProjectGauge.Usage
