import ProjectGauge.Imports.Source
import ProjectGauge.Proofs.Text.Pattern
import Mathlib.Data.List.DropRight

/-!
# Declarations without backtracking

Whether a line starts with an import declaration is settled by the text between the word `import` and the
first quotation mark: neither quotation marks in front of it nor the parts of the clause leave a choice
that matters.

* `IsGap` says which texts may stand between `import` and the specifier.
* `specifiersByForm_eq_visit`: the scan for declarations visits the line starts one by one, and so does
  `specifiers_typed_eq_visit` for a source in TypeScript.
-/

namespace ProjectGauge.Imports

open Text Usage

/-! ## Gaps -/

/-- At least one blank and nothing else. -/
def IsBlankRun (run : List Char) : Prop :=
  run ≠ [] ∧ ∀ c ∈ run, isBlank c = true

/-- The text between the word `import` and the first quotation mark of a declaration: blanks, or the word
`type` between blanks, or a clause between two blanks with the word `from` and blanks behind it. -/
inductive IsGap : List Char → Prop where
  | blank {run : List Char} (isRun : IsBlankRun run) : IsGap run
  | typed {front back : List Char} (isFront : IsBlankRun front) (isBack : IsBlankRun back) :
    IsGap (front ++ "type".toList ++ back)
  | clause {first last : Char} {names back : List Char} (isFirst : isBlank first = true)
    (nonempty : names ≠ []) (allClause : ∀ c ∈ names, isClauseChar c = true)
    (isLast : isBlank last = true) (isBack : IsBlankRun back) :
    IsGap (first :: names ++ last :: "from".toList ++ back)

instance (run : List Char) : Decidable (IsBlankRun run) :=
  @instDecidableAnd _ _ _ (List.decidableBAll _ run)

/-- The gap is the word `type` between blanks. -/
def isTypedGap (gap : List Char) : Bool :=
  match "type".toList.isPrefixOf? (gap.dropWhile isBlank) with
  | some back => decide (IsBlankRun (gap.takeWhile isBlank)) && decide (IsBlankRun back)
  | none => false

/-- The gap is a clause between blanks with the word `from` and blanks behind it. -/
def isClauseGap (gap : List Char) : Bool :=
  match "from".toList.isSuffixOf? (gap.rdropWhile isBlank) with
  | some (first :: rest) =>
    isBlank first && !rest.dropLast.isEmpty && rest.dropLast.all isClauseChar &&
      rest.getLast?.any isBlank && decide (IsBlankRun (gap.rtakeWhile isBlank))
  | _ => false

theorem isTypedGap_iff (gap : List Char) :
    isTypedGap gap = true ↔
      ∃ front back, IsBlankRun front ∧ IsBlankRun back ∧ gap = front ++ "type".toList ++ back := by
  constructor
  · intro typed
    unfold isTypedGap at typed
    split at typed
    · rename_i back isWord
      rw [Bool.and_eq_true, decide_eq_true_eq, decide_eq_true_eq] at typed
      rw [List.isPrefixOf?_eq_some_iff_append_eq] at isWord
      refine ⟨gap.takeWhile isBlank, back, typed.1, typed.2, ?_⟩
      rw [List.append_assoc, isWord, List.takeWhile_append_dropWhile]
    · cases typed
  · rintro ⟨front, back, isFront, isBack, rfl⟩
    have notBlank : isBlank 't' = false := by decide
    have word : "type".toList ++ back = 't' :: ('y' :: 'p' :: 'e' :: back) := rfl
    unfold isTypedGap
    rw [List.append_assoc, word, List.takeWhile_append_of_pos isFront.2,
      List.dropWhile_append_of_pos isFront.2, List.takeWhile_cons_of_neg (by simp [notBlank]),
      List.dropWhile_cons_of_neg (by simp [notBlank]), List.append_nil, ← word]
    have isWord : "type".toList.isPrefixOf? ("type".toList ++ back) = some back :=
      List.isPrefixOf?_eq_some_iff_append_eq.mpr rfl
    rw [isWord]
    simp [isFront, isBack]

theorem rdropWhile_behind (keep : Char → Bool) (front : List Char) (last : Char) {back : List Char}
    (stops : keep last = false) (all : ∀ c ∈ back, keep c = true) :
    (front ++ [last] ++ back).rdropWhile keep = front ++ [last] ∧
      (front ++ [last] ++ back).rtakeWhile keep = back := by
  have dropped : (front ++ [last] ++ back).rdropWhile keep = front ++ [last] := by
    unfold List.rdropWhile
    rw [List.reverse_append, List.dropWhile_append_of_pos (by simpa using all), List.reverse_append,
      List.reverse_singleton, List.singleton_append, List.dropWhile_cons_of_neg (by simp [stops])]
    simp
  refine ⟨dropped, ?_⟩
  have whole := List.rdropWhile_append_rtakeWhile (p := keep) (l := front ++ [last] ++ back)
  rw [dropped] at whole
  exact List.append_cancel_left whole

theorem isClauseGap_iff (gap : List Char) :
    isClauseGap gap = true ↔
      ∃ first names last back, isBlank first = true ∧ names ≠ [] ∧
        (∀ c ∈ names, isClauseChar c = true) ∧ isBlank last = true ∧ IsBlankRun back ∧
        gap = first :: names ++ last :: "from".toList ++ back := by
  constructor
  · intro isClause
    unfold isClauseGap at isClause
    split at isClause
    · rename_i first rest isWord
      simp only [Bool.and_eq_true, Bool.not_eq_true', List.all_eq_true, decide_eq_true_eq] at isClause
      obtain ⟨⟨⟨⟨isFirst, nonempty⟩, allClause⟩, isLast⟩, isBack⟩ := isClause
      rw [Option.any_eq_true] at isLast
      obtain ⟨last, lastIs, isLast⟩ := isLast
      obtain ⟨names, rfl⟩ := List.getLast?_eq_some_iff.mp lastIs
      rw [List.dropLast_concat] at nonempty allClause
      refine ⟨first, names, last, gap.rtakeWhile isBlank, isFirst, ?_, allClause, isLast, isBack, ?_⟩
      · rintro rfl
        cases nonempty
      · have front := List.append_eq_of_isSuffixOf?_eq_some isWord
        have whole := List.rdropWhile_append_rtakeWhile (p := isBlank) (l := gap)
        rw [← front] at whole
        exact whole.symm.trans (by simp)
    · cases isClause
  · rintro ⟨first, names, last, back, isFirst, nonempty, allClause, isLast, isBack, rfl⟩
    have split : first :: names ++ last :: "from".toList ++ back =
        (first :: (names ++ [last]) ++ ['f', 'r', 'o']) ++ ['m'] ++ back := by simp
    obtain ⟨dropped, taken⟩ := rdropWhile_behind isBlank
      (first :: (names ++ [last]) ++ ['f', 'r', 'o']) 'm' (by decide) isBack.2
    have isWord : "from".toList.isSuffixOf?
        ((first :: (names ++ [last]) ++ ['f', 'r', 'o']) ++ ['m']) = some (first :: (names ++ [last])) :=
      List.isSuffixOf?_eq_some_iff_append_eq.mpr (by simp)
    unfold isClauseGap
    rw [split, dropped, taken, isWord]
    simpa [isFirst, nonempty, isLast, isBack] using allClause

theorem isGap_iff (gap : List Char) :
    (decide (IsBlankRun gap) || isTypedGap gap || isClauseGap gap) = true ↔ IsGap gap := by
  rw [Bool.or_eq_true, Bool.or_eq_true, decide_eq_true_eq, isTypedGap_iff, isClauseGap_iff]
  constructor
  · rintro ((isRun | ⟨front, back, isFront, isBack, rfl⟩) |
      ⟨first, names, last, back, isFirst, nonempty, allClause, isLast, isBack, rfl⟩)
    · exact .blank isRun
    · exact .typed isFront isBack
    · exact .clause isFirst nonempty allClause isLast isBack
  · intro isGap
    cases isGap with
    | blank isRun => exact .inl (.inl isRun)
    | typed isFront isBack => exact .inl (.inr ⟨_, _, isFront, isBack, rfl⟩)
    | clause isFirst nonempty allClause isLast isBack =>
      exact .inr ⟨_, _, _, _, isFirst, nonempty, allClause, isLast, isBack, rfl⟩

instance (gap : List Char) : Decidable (IsGap gap) :=
  decidable_of_iff _ (isGap_iff gap)

/-! ## Candidates -/

/-- What a line may import: the text between the word `import` and the first quotation mark, the text from
there to the next one, and the number of characters up to the end of that. -/
structure Candidate where
  gap : List Char
  specifier : List Char
  length : Nat

/-- The candidate that a line starts with, if it starts with the word `import` and two quotation marks
follow. -/
def candidate? (text : List Char) : Option Candidate :=
  match "import".toList.isPrefixOf? (text.dropWhile isIndent) with
  | some behindImport =>
    match behindImport.dropWhile fun c => !isQuote c with
    | _ :: behindQuote =>
      match behindQuote.dropWhile fun c => !isQuote c with
      | _ :: rest =>
        some ⟨behindImport.takeWhile fun c => !isQuote c, behindQuote.takeWhile fun c => !isQuote c,
          text.length - rest.length⟩
      | [] => none
    | [] => none
  | none => none

/-- The declaration that a line starts with: a candidate with a gap that is in order and a specifier that
is not empty. -/
def accepted? (text : List Char) : Option Candidate :=
  (candidate? text).filter fun candidate =>
    decide (candidate.specifier ≠ [] ∧ IsGap candidate.gap)

/-- A declaration written out, with the rest behind it. -/
structure Declares (text indent gap : List Char) (opening : Char) (specifier : List Char)
    (closing : Char) (rest : List Char) : Prop where
  split : text = indent ++ "import".toList ++ gap ++ opening :: specifier ++ closing :: rest
  indented : ∀ c ∈ indent, isIndent c = true
  unquotedGap : ∀ c ∈ gap, isQuote c = false
  opens : isQuote opening = true
  unquotedSpecifier : ∀ c ∈ specifier, isQuote c = false
  closes : isQuote closing = true

theorem span_stop (keep : Char → Bool) {front : List Char} (stop : Char) (rest : List Char)
    (all : ∀ c ∈ front, keep c = true) (stops : keep stop = false) :
    (front ++ stop :: rest).takeWhile keep = front ∧
      (front ++ stop :: rest).dropWhile keep = stop :: rest := by
  have isStop : ¬ keep stop = true := by simp [stops]
  constructor
  · rw [List.takeWhile_append_of_pos all, List.takeWhile_cons_of_neg isStop, List.append_nil]
  · rw [List.dropWhile_append_of_pos all, List.dropWhile_cons_of_neg isStop]

theorem span_of_dropWhile {keep : Char → Bool} {text rest : List Char} {stop : Char}
    (dropped : text.dropWhile keep = stop :: rest) :
    text = text.takeWhile keep ++ stop :: rest ∧ keep stop = false := by
  constructor
  · rw [← dropped, List.takeWhile_append_dropWhile]
  · have stops := List.head?_dropWhile_not keep text
    rw [dropped] at stops
    simpa using stops

theorem candidate?_of_declares {text indent gap specifier rest : List Char} {opening closing : Char}
    (declares : Declares text indent gap opening specifier closing rest) :
    candidate? text = some ⟨gap, specifier, text.length - rest.length⟩ := by
  obtain ⟨split, indented, unquotedGap, opens, unquotedSpecifier, closes⟩ := declares
  have word : text = indent ++ 'i' :: ("mport".toList ++ gap ++ opening :: specifier ++ closing :: rest) := by
    rw [split]
    simp
  have dropped : text.dropWhile isIndent =
      "import".toList ++ (gap ++ opening :: (specifier ++ closing :: rest)) := by
    rw [word, (span_stop isIndent 'i' _ indented (by decide : isIndent 'i' = false)).2]
    simp
  have prefixed : "import".toList.isPrefixOf? (text.dropWhile isIndent) =
      some (gap ++ opening :: (specifier ++ closing :: rest)) :=
    List.isPrefixOf?_eq_some_iff_append_eq.mpr dropped.symm
  obtain ⟨gapTaken, gapDropped⟩ := span_stop (fun c => !isQuote c) opening
    (specifier ++ closing :: rest) (by simpa using unquotedGap) (by simp [opens])
  obtain ⟨specifierTaken, specifierDropped⟩ := span_stop (fun c => !isQuote c)
    closing rest (by simpa using unquotedSpecifier) (by simp [closes])
  unfold candidate?
  rw [prefixed]
  dsimp only
  rw [gapDropped]
  dsimp only
  rw [specifierDropped, gapTaken, specifierTaken]

theorem declares_of_candidate? {text : List Char} {candidate : Candidate}
    (found : candidate? text = some candidate) :
    ∃ indent opening closing rest,
      Declares text indent candidate.gap opening candidate.specifier closing rest ∧
        candidate.length = text.length - rest.length := by
  unfold candidate? at found
  split at found
  · rename_i behindImport isWord
    split at found
    · rename_i opening behindQuote isOpening
      split at found
      · rename_i closing rest isClosing
        cases found
        obtain ⟨gapSplit, opens⟩ := span_of_dropWhile isOpening
        obtain ⟨specifierSplit, closes⟩ := span_of_dropWhile isClosing
        rw [List.isPrefixOf?_eq_some_iff_append_eq] at isWord
        refine ⟨text.takeWhile isIndent, opening, closing, rest, ⟨?_, ?_, ?_, ?_, ?_, ?_⟩, rfl⟩
        · have whole := (List.takeWhile_append_dropWhile (p := isIndent) (l := text)).symm
          rw [← isWord, gapSplit, specifierSplit] at whole
          refine whole.trans ?_
          simp
        · exact fun c inside => List.mem_takeWhile_imp inside
        · intro c inside
          simpa using List.mem_takeWhile_imp inside
        · simpa using opens
        · intro c inside
          simpa using List.mem_takeWhile_imp inside
        · simpa using closes
      · cases found
    · cases found
  · cases found

/-! ## Readings of the pattern -/

theorem reads_quotedSpecifier {fresh : Bool} {run : List Char} {kept : Option (List Char)} :
    quotedSpecifier.Reads fresh run kept ↔
      ∃ opening specifier closing, isQuote opening = true ∧ specifier ≠ [] ∧
        (∀ c ∈ specifier, isQuote c = false) ∧ isQuote closing = true ∧
        run = opening :: specifier ++ [closing] ∧ kept = some specifier := by
  simp only [quotedSpecifier, Pattern.Reads, Pattern.IsRun, Bool.not_eq_true']
  constructor
  · rintro ⟨_, _, _, _, ⟨opening, opens, rfl, rfl⟩, ⟨specifier, _, _, _,
      ⟨⟨_, nonempty, unquoted, rfl⟩, rfl⟩, ⟨closing, closes, rfl, rfl⟩, rfl, rfl⟩, rfl, rfl⟩
    exact ⟨opening, specifier, closing, opens, nonempty, unquoted, closes, rfl, rfl⟩
  · rintro ⟨opening, specifier, closing, opens, nonempty, unquoted, closes, rfl, rfl⟩
    exact ⟨[opening], none, specifier ++ [closing], some specifier, ⟨opening, opens, rfl, rfl⟩,
      ⟨specifier, some specifier, [closing], none, ⟨⟨none, nonempty, unquoted, rfl⟩, rfl⟩,
        ⟨closing, closes, rfl, rfl⟩, rfl, rfl⟩, rfl, rfl⟩

/-- The word `type` with blanks behind it, or nothing. -/
def IsMarker (run : List Char) : Prop :=
  run = [] ∨ ∃ back, IsBlankRun back ∧ run = "type".toList ++ back

/-- A clause with the word `from` and blanks behind it, or nothing. -/
def IsClause (run : List Char) : Prop :=
  run = [] ∨ ∃ names between back, names ≠ [] ∧ (∀ c ∈ names, isClauseChar c = true) ∧
    IsBlankRun between ∧ IsBlankRun back ∧ run = names ++ between ++ "from".toList ++ back

theorem reads_optional_typeMarker {fresh : Bool} {run : List Char} {kept : Option (List Char)} :
    (Pattern.optional typeMarker).Reads fresh run kept ↔ IsMarker run ∧ kept = none := by
  simp only [typeMarker, Pattern.Reads, Pattern.IsRun, IsMarker, IsBlankRun]
  constructor
  · rintro (⟨_, _, back, _, ⟨rfl, rfl⟩, ⟨nonempty, all, rfl⟩, rfl, rfl⟩ | ⟨rfl, rfl⟩)
    · exact ⟨.inr ⟨back, ⟨nonempty, all⟩, rfl⟩, rfl⟩
    · exact ⟨.inl rfl, rfl⟩
  · rintro ⟨rfl | ⟨back, ⟨nonempty, all⟩, rfl⟩, rfl⟩
    · exact .inr ⟨rfl, rfl⟩
    · exact .inl ⟨_, none, back, none, ⟨rfl, rfl⟩, ⟨nonempty, all, rfl⟩, rfl, rfl⟩

theorem reads_optional_clause {fresh : Bool} {run : List Char} {kept : Option (List Char)} :
    (Pattern.optional clause).Reads fresh run kept ↔ IsClause run ∧ kept = none := by
  simp only [clause, Pattern.Reads, Pattern.IsRun, IsClause, IsBlankRun]
  constructor
  · rintro (⟨names, _, _, _, ⟨nonempty, allClause, rfl⟩, ⟨between, _, _, _, ⟨someBetween, allBetween, rfl⟩,
      ⟨_, _, back, _, ⟨rfl, rfl⟩, ⟨someBack, allBack, rfl⟩, rfl, rfl⟩, rfl, rfl⟩, rfl, rfl⟩ | ⟨rfl, rfl⟩)
    · exact ⟨.inr ⟨names, between, back, nonempty, allClause, ⟨someBetween, allBetween⟩,
        ⟨someBack, allBack⟩, by simp⟩, rfl⟩
    · exact ⟨.inl rfl, rfl⟩
  · rintro ⟨rfl | ⟨names, between, back, nonempty, allClause, ⟨someBetween, allBetween⟩,
      ⟨someBack, allBack⟩, rfl⟩, rfl⟩
    · exact .inr ⟨rfl, rfl⟩
    · exact .inl ⟨names, none, between ++ ("from".toList ++ back), none,
        ⟨nonempty, allClause, rfl⟩, ⟨between, none, "from".toList ++ back, none,
          ⟨someBetween, allBetween, rfl⟩, ⟨_, none, back, none, ⟨rfl, rfl⟩, ⟨someBack, allBack, rfl⟩,
            rfl, rfl⟩, rfl, rfl⟩, by simp, rfl⟩

theorem isClauseChar_of_isBlank {c : Char} (blank : isBlank c = true) : isClauseChar c = true := by
  simp [isClauseChar, blank]

/-- A clause may have the letters of the words around it. -/
theorem isClauseChar_of_mem_word {c : Char} (inside : c ∈ "type".toList ∨ c ∈ "from".toList) :
    isClauseChar c = true := by
  rcases inside with inType | inFrom
  · exact List.all_eq_true.mp (by decide : "type".toList.all isClauseChar = true) c inType
  · exact List.all_eq_true.mp (by decide : "from".toList.all isClauseChar = true) c inFrom

/-- A marker in front of a clause is itself made of characters that a clause may have. -/
theorem isClauseChar_of_isMarker {marker : List Char} (isMarker : IsMarker marker) :
    ∀ c ∈ marker, isClauseChar c = true := by
  intro c inside
  rcases isMarker with rfl | ⟨back, ⟨-, all⟩, rfl⟩
  · cases inside
  · rcases List.mem_append.mp inside with inWord | inBack
    · exact isClauseChar_of_mem_word (.inl inWord)
    · exact isClauseChar_of_isBlank (all c inBack)

/-- However its parts are told apart, what stands in front of a specifier is a gap, and every gap has such
parts. -/
theorem isGap_iff_parts (gap : List Char) :
    IsGap gap ↔ ∃ front marker clause, IsBlankRun front ∧ IsMarker marker ∧ IsClause clause ∧
      gap = front ++ (marker ++ clause) := by
  constructor
  · intro isGap
    cases isGap with
    | blank isRun => exact ⟨gap, [], [], isRun, .inl rfl, .inl rfl, by simp⟩
    | @typed front back isFront isBack =>
      exact ⟨front, "type".toList ++ back, [], isFront, .inr ⟨back, isBack, rfl⟩, .inl rfl, by simp⟩
    | @clause first last names back isFirst nonempty allClause isLast isBack =>
      refine ⟨[first], [], names ++ [last] ++ "from".toList ++ back, ⟨by simp, by simpa using isFirst⟩,
        .inl rfl, .inr ⟨names, [last], back, nonempty, allClause, ⟨by simp, by simpa using isLast⟩,
          isBack, rfl⟩, by simp⟩
  · rintro ⟨front, marker, clause, isFront, isMarker, isClause, rfl⟩
    rcases isClause with rfl | ⟨names, between, back, nonempty, allClause, isBetween, isBack, rfl⟩
    · rcases isMarker with rfl | ⟨back, isBack, rfl⟩
      · rw [List.append_nil, List.append_nil]
        exact .blank isFront
      · rw [List.append_nil, ← List.append_assoc]
        exact .typed isFront isBack
    · -- All between the first blank and the last one in front of `from` is one clause.
      obtain ⟨someFront, allFront⟩ := isFront
      obtain ⟨someBetween, allBetween⟩ := isBetween
      obtain ⟨first, frontRest, rfl⟩ := List.exists_cons_of_ne_nil someFront
      have lastBetween := List.dropLast_append_getLast someBetween
      have regrouped : first :: frontRest ++ (marker ++ (names ++ between ++ "from".toList ++ back)) =
          first :: (frontRest ++ marker ++ names ++ between.dropLast) ++
            between.getLast someBetween :: "from".toList ++ back := by
        conv => lhs; rw [← lastBetween]
        simp
      rw [regrouped]
      refine .clause (allFront first List.mem_cons_self) (by simp [nonempty]) ?_
        (allBetween _ (List.getLast_mem someBetween)) isBack
      intro c inside
      simp only [List.mem_append] at inside
      rcases inside with ((inFront | inMarker) | inNames) | inBetween
      · exact isClauseChar_of_isBlank (allFront c (List.mem_cons_of_mem _ inFront))
      · exact isClauseChar_of_isMarker isMarker c inMarker
      · exact allClause c inNames
      · exact isClauseChar_of_isBlank (allBetween c ((List.dropLast_sublist between).mem inBetween))

theorem not_isQuote_of_isClauseChar {c : Char} (inClause : isClauseChar c = true) : isQuote c = false := by
  by_contra quoted
  have isQuoted : isQuote c = true := by simpa using quoted
  unfold isQuote at isQuoted
  rw [Bool.or_eq_true, beq_iff_eq, beq_iff_eq] at isQuoted
  have apostrophe : isClauseChar '\x27' = false := by decide
  have quotationMark : isClauseChar '\x22' = false := by decide
  rcases isQuoted with rfl | rfl
  · rw [apostrophe] at inClause
    cases inClause
  · rw [quotationMark] at inClause
    cases inClause

/-- No quotation mark stands in a gap. -/
theorem IsGap.unquoted {gap : List Char} (isGap : IsGap gap) : ∀ c ∈ gap, isQuote c = false := by
  have blanks : ∀ {run}, IsBlankRun run → ∀ c ∈ run, isQuote c = false := fun isRun c inside =>
    not_isQuote_of_isClauseChar (isClauseChar_of_isBlank (isRun.2 c inside))
  intro c inside
  cases isGap with
  | blank isRun => exact blanks isRun c inside
  | typed isFront isBack =>
    rcases List.mem_append.mp inside with inFront | inBack
    · rcases List.mem_append.mp inFront with inFront | inWord
      · exact blanks isFront c inFront
      · exact not_isQuote_of_isClauseChar (isClauseChar_of_mem_word (.inl inWord))
    · exact blanks isBack c inBack
  | clause isFirst nonempty allClause isLast isBack =>
    rcases List.mem_append.mp inside with inFront | inBack
    · rcases List.mem_append.mp inFront with inNames | inWord
      · rcases List.mem_cons.mp inNames with rfl | inNames
        · exact not_isQuote_of_isClauseChar (isClauseChar_of_isBlank isFirst)
        · exact not_isQuote_of_isClauseChar (allClause c inNames)
      · rcases List.mem_cons.mp inWord with rfl | inWord
        · exact not_isQuote_of_isClauseChar (isClauseChar_of_isBlank isLast)
        · exact not_isQuote_of_isClauseChar (isClauseChar_of_mem_word (.inr inWord))
    · exact blanks isBack c inBack

/-- The pattern reads the declarations with a gap that is in order and a specifier that is not empty. -/
theorem reads_declaration {run : List Char} {kept : Option (List Char)} :
    declaration.Reads true run kept ↔
      ∃ indent gap opening specifier closing, Declares run indent gap opening specifier closing [] ∧
        IsGap gap ∧ specifier ≠ [] ∧ kept = some specifier := by
  unfold declaration
  simp only [Pattern.Reads, Pattern.IsRun]
  constructor
  · -- The parts that the pattern has read are put together: a gap has no quotation marks, so the first
    -- one opens the specifier.
    rintro ⟨_, _, _, _, ⟨-, rfl, rfl⟩, ⟨indent, _, _, _, ⟨indented, rfl⟩, ⟨_, _, _, _, ⟨rfl, rfl⟩,
      ⟨front, _, _, _, ⟨someFront, allFront, rfl⟩, ⟨marker, _, _, _, readMarker,
        ⟨clause, _, _, _, readClause, readQuoted, rfl, rfl⟩, rfl, rfl⟩, rfl, rfl⟩, rfl, rfl⟩,
      rfl, rfl⟩, rfl, rfl⟩
    obtain ⟨isMarker, rfl⟩ := reads_optional_typeMarker.mp readMarker
    obtain ⟨isClause, rfl⟩ := reads_optional_clause.mp readClause
    obtain ⟨opening, specifier, closing, opens, nonempty, unquoted, closes, rfl, rfl⟩ :=
      reads_quotedSpecifier.mp readQuoted
    have isGap : IsGap (front ++ (marker ++ clause)) :=
      (isGap_iff_parts _).mpr ⟨front, marker, clause, ⟨someFront, allFront⟩, isMarker, isClause, rfl⟩
    exact ⟨indent, front ++ (marker ++ clause), opening, specifier, closing,
      ⟨by simp, indented, isGap.unquoted, opens, unquoted, closes⟩, isGap, nonempty, rfl⟩
  · -- The gap is told apart into parts that the pattern can read.
    rintro ⟨indent, gap, opening, specifier, closing,
      ⟨rfl, indented, -, opens, unquoted, closes⟩, isGap, nonempty, rfl⟩
    obtain ⟨front, marker, clause, isFront, isMarker, isClause, rfl⟩ := (isGap_iff_parts _).mp isGap
    refine ⟨[], none, indent ++ ("import".toList ++ (front ++ (marker ++ (clause ++
      (opening :: specifier ++ [closing]))))), some specifier, ⟨trivial, rfl, rfl⟩, ⟨indent, none, _,
        some specifier, ⟨indented, rfl⟩, ⟨_, none, _, some specifier, ⟨rfl, rfl⟩,
          ⟨front, none, _, some specifier, ⟨isFront.1, isFront.2, rfl⟩,
            ⟨marker, none, _, some specifier, reads_optional_typeMarker.mpr ⟨isMarker, rfl⟩,
              ⟨clause, none, _, some specifier, reads_optional_clause.mpr ⟨isClause, rfl⟩,
                reads_quotedSpecifier.mpr ⟨opening, specifier, closing, opens, nonempty, unquoted,
                  closes, rfl, rfl⟩, rfl, rfl⟩, rfl, rfl⟩, rfl, rfl⟩, rfl, rfl⟩, rfl, rfl⟩,
      by simp, rfl⟩

/-- A reading that is followed by more text is a declaration in front of that. -/
theorem Declares.append {run indent gap specifier : List Char} {opening closing : Char}
    (declares : Declares run indent gap opening specifier closing []) (rest : List Char) :
    Declares (run ++ rest) indent gap opening specifier closing rest := by
  obtain ⟨split, indented, unquotedGap, opens, unquotedSpecifier, closes⟩ := declares
  exact ⟨by rw [split]; simp, indented, unquotedGap, opens, unquotedSpecifier, closes⟩

theorem Declares.exists_run {text indent gap specifier rest : List Char} {opening closing : Char}
    (declares : Declares text indent gap opening specifier closing rest) :
    ∃ run, text = run ++ rest ∧ Declares run indent gap opening specifier closing [] := by
  obtain ⟨split, indented, unquotedGap, opens, unquotedSpecifier, closes⟩ := declares
  exact ⟨indent ++ "import".toList ++ gap ++ opening :: specifier ++ [closing], by rw [split]; simp,
    ⟨rfl, indented, unquotedGap, opens, unquotedSpecifier, closes⟩⟩

/-- At the start of a line the pattern matches the accepted declaration and nothing else. -/
theorem matchAt?_declaration (text : List Char) :
    declaration.matchAt? true text =
      (accepted? text).map fun found => ⟨text.take found.length, found.specifier⟩ := by
  cases matched : declaration.matchAt? true text with
  | some found =>
    obtain ⟨run, kept, rest, rfl, read, rfl⟩ := Pattern.reads_of_matchAt? matched
    obtain ⟨indent, gap, opening, specifier, closing, declares, isGap, nonempty, rfl⟩ :=
      reads_declaration.mp read
    have candidate := candidate?_of_declares (declares.append rest)
    unfold accepted?
    rw [candidate]
    simp [nonempty, isGap, Option.filter]
  | none =>
    -- An accepted declaration could be read, and then the pattern would match.
    cases accepted : accepted? text with
    | none => rfl
    | some found =>
      unfold accepted? at accepted
      rw [Option.filter_eq_some_iff, decide_eq_true_eq] at accepted
      obtain ⟨candidate, nonempty, isGap⟩ := accepted
      obtain ⟨indent, opening, closing, rest, declares, -⟩ := declares_of_candidate? candidate
      obtain ⟨run, rfl, declaresRun⟩ := declares.exists_run
      have read : declaration.Reads true run (some found.specifier) :=
        reads_declaration.mpr ⟨indent, found.gap, opening, found.specifier, closing, declaresRun, isGap,
          nonempty, rfl⟩
      exact absurd matched (Pattern.matchAt?_ne_none read)

theorem matchAt?_declaration_inside (text : List Char) : declaration.matchAt? false text = none := by
  cases matched : declaration.matchAt? false text with
  | none => rfl
  | some found =>
    obtain ⟨run, kept, rest, -, read, -⟩ := Pattern.reads_of_matchAt? matched
    obtain ⟨_, _, _, _, ⟨isFresh, -⟩, -⟩ := read
    cases isFresh

/-! ## The scan over line starts -/

/-- A line starts at an offset: at the start of a text, and behind each line feed. -/
def startsLine (source : List Char) (offset : Nat) : Bool :=
  offset == 0 || source[offset - 1]? == some '\n'

/-- The offsets at which lines start, in their order. -/
def lineStarts (source : List Char) : List Nat :=
  (List.range (source.length + 1)).filter (startsLine source)

/-- The specifiers of the declarations that are accepted at some line starts, one after the other.  Those in
front of the end of the declaration before are passed over. -/
def visit (source : List Char) : Nat → List Nat → List (List Char)
  | _, [] => []
  | stop, start :: starts =>
    if start < stop then visit source stop starts
    else
      match accepted? (source.drop start) with
      | some found => found.specifier :: visit source (start + found.length) starts
      | none => visit source stop starts

theorem length_accepted? {text : List Char} {found : Candidate} (accepted : accepted? text = some found) :
    0 < found.length ∧ found.length ≤ text.length := by
  unfold accepted? at accepted
  rw [Option.filter_eq_some_iff] at accepted
  obtain ⟨indent, opening, closing, rest, declares, length⟩ := declares_of_candidate? accepted.1
  have longer : rest.length < text.length := by
    rw [declares.split]
    simp only [List.length_append, List.length_cons]
    omega
  omega

theorem startsLine_behind (before : List Char) (c : Char) (rest : List Char) :
    startsLine (before ++ c :: rest) (before.length + 1) = (c == '\n') := by
  unfold startsLine
  simp

/-- No declaration starts behind the last character. -/
theorem visit_end (source : List Char) (stop : Nat) :
    visit source stop ([source.length].filter (startsLine source)) = [] := by
  have atEnd : accepted? (source.drop source.length) = none := by
    rw [List.drop_length]
    rfl
  rw [List.filter_cons, List.filter_nil]
  split
  · unfold visit
    rw [atEnd]
    split <;> rfl
  · rfl

/-- From each offset on, the scan of the pattern and the visit of the line starts find the same. -/
theorem scan_eq_visit (before text : List Char) (stop : Nat) :
    (declaration.scan (stop - before.length) (startsLine (before ++ text) before.length) text).map
        (·.captured) =
      visit (before ++ text) stop
        ((List.range' before.length (text.length + 1)).filter (startsLine (before ++ text))) := by
  -- The text in front grows while the induction goes on, and the end of the last declaration is any
  -- offset: it may lie in front of the text that is left or in it.
  induction text generalizing before stop with
  | nil =>
    have scanned : declaration.scan (stop - before.length)
        (startsLine (before ++ []) before.length) [] = [] := by
      unfold Pattern.scan
      rfl
    have alone : List.range' before.length (([] : List Char).length + 1) = [before.length] := rfl
    rw [scanned, alone, List.append_nil, visit_end, List.map_nil]
  | cons c rest inductionHypothesis =>
    have regrouped : before ++ [c] ++ rest = before ++ c :: rest := by simp
    have behind : (before ++ [c]).length = before.length + 1 := by simp
    -- Behind the character both agree, wherever the last declaration has ended.
    have later : ∀ stop, (declaration.scan (stop - (before.length + 1)) (c == '\n') rest).map
        (·.captured) = visit (before ++ c :: rest) stop
          ((List.range' (before.length + 1) (rest.length + 1)).filter
            (startsLine (before ++ c :: rest))) := by
      intro stop
      have agree := inductionHypothesis (before ++ [c]) stop
      rwa [regrouped, behind, startsLine_behind] at agree
    have atText : (before ++ c :: rest).drop before.length = c :: rest := List.drop_left
    rw [List.length_cons, List.range'_succ, List.filter_cons]
    by_cases passed : before.length < stop
    · -- The offset lies in the last declaration.
      have skip : stop - before.length = stop - (before.length + 1) + 1 := by omega
      rw [skip, Pattern.scan, later]
      split
      · rw [visit, if_pos passed]
      · rfl
    · have noSkip : stop - before.length = 0 := by omega
      have noSkipLater : stop - (before.length + 1) = 0 := by omega
      have nothing := later stop
      rw [noSkipLater] at nothing
      rw [noSkip, Pattern.scan]
      cases fresh : startsLine (before ++ c :: rest) before.length with
      | false =>
        rw [matchAt?_declaration_inside]
        exact nothing
      | true =>
        rw [matchAt?_declaration, if_pos rfl, visit, if_neg passed, atText]
        cases accepted : accepted? (c :: rest) with
        | none => exact nothing
        | some found =>
          obtain ⟨positive, inText⟩ := length_accepted? accepted
          have skip : before.length + found.length - (before.length + 1) =
              ((c :: rest).take found.length).length - 1 := by
            rw [List.length_take, Nat.min_eq_left inText]
            omega
          have further := later (before.length + found.length)
          rw [skip] at further
          exact congrArg (found.specifier :: ·) further

/-- The scan for declarations visits the line starts from left to right. -/
theorem specifiersByForm_eq_visit (source : List Char) :
    specifiersByForm source = visit source 0 (lineStarts source) := by
  have whole := scan_eq_visit [] source 0
  rw [lineStarts, List.range_eq_range']
  exact whole

/-- A source in TypeScript imports what the visit of its line starts finds. -/
theorem specifiers_typed_eq_visit (source : List Char) :
    specifiers ".ts" source = .ok (visit source 0 (lineStarts source)) := by
  rw [← specifiersByForm_eq_visit]
  rfl

example : visit "import type\nfrom 'x'; import 'y'\nimport a-b from 'z'".toList 0
    (lineStarts "import type\nfrom 'x'; import 'y'\nimport a-b from 'z'".toList) = [['x']] := by
  decide +kernel

end ProjectGauge.Imports
