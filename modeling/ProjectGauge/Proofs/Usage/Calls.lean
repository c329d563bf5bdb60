import Mathlib.Algebra.BigOperators.Group.Finset.Basic
import Mathlib.Data.Set.Card.Arithmetic
import ProjectGauge.Proofs.Imports.References

/-!
# Calls without loss

A scan goes on behind each match, so that it misses what starts inside one.  Calls of `require` never
overlap, and two names never share a call unless one of them is a path inside the other.  So the calls that
are found for some names are as many as the places at which a call with one of them stands.

* `offsets` are the places of a text at which a text of a kind stands.
* `Scans.encard_offsets`: a scan finds all of them if none stands inside another.
* `sum_requireReferences`: each call counts once, for one of the names.
-/

namespace ProjectGauge

open Text

/-! ## Places of texts that do not overlap -/

namespace Text

/-- A text of a kind stands at the start of a text. -/
def Starts (isKind : List Char → Prop) (text : List Char) : Prop :=
  ∃ run, isKind run ∧ run <+: text

/-- The offsets of a text at which a text of a kind stands. -/
def offsets (isKind : List Char → Prop) (text : List Char) : Set Nat :=
  {offset | Starts isKind (text.drop offset)}

/-- Nothing of a kind stands at a place inside a text of the kind. -/
def NeverOverlaps (isKind : List Char → Prop) : Prop :=
  ∀ {run passed left rest}, isKind run → run = passed ++ left → passed ≠ [] → left ≠ [] →
    ¬ Starts isKind (left ++ rest)

variable {isKind : List Char → Prop} {text rest front : List Char} {c : Char}

theorem offsets_nil (nonempty : ¬ isKind []) : offsets isKind [] = ∅ := by
  rw [Set.eq_empty_iff_forall_notMem]
  rintro offset ⟨run, isRun, stands⟩
  rw [List.drop_nil, List.prefix_nil] at stands
  exact nonempty (stands ▸ isRun)

theorem offsets_cons_of_not (nothing : ¬ Starts isKind (c :: rest)) :
    offsets isKind (c :: rest) = Nat.succ '' offsets isKind rest := by
  ext offset
  cases offset with
  | zero => simp [offsets, nothing]
  | succ offset => simp [offsets]

theorem offsets_cons_of_starts (starts : Starts isKind (c :: rest)) :
    offsets isKind (c :: rest) = insert 0 (Nat.succ '' offsets isKind rest) := by
  ext offset
  cases offset with
  | zero => simp [offsets, starts]
  | succ offset => simp [offsets]

theorem encard_offsets_cons_of_not (nothing : ¬ Starts isKind (c :: rest)) :
    (offsets isKind (c :: rest)).encard = (offsets isKind rest).encard := by
  rw [offsets_cons_of_not nothing, Nat.succ_injective.encard_image]

theorem encard_offsets_cons_of_starts (starts : Starts isKind (c :: rest)) :
    (offsets isKind (c :: rest)).encard = (offsets isKind rest).encard + 1 := by
  rw [offsets_cons_of_starts starts, Set.encard_insert_of_notMem (by simp),
    Nat.succ_injective.encard_image]

/-- Characters at which nothing of the kind stands add no places. -/
theorem encard_offsets_pass
    (nothing : ∀ passed left, front = passed ++ left → left ≠ [] → ¬ Starts isKind (left ++ rest)) :
    (offsets isKind (front ++ rest)).encard = (offsets isKind rest).encard := by
  induction front with
  | nil => rfl
  | cons c front inductionHypothesis =>
    have here : ¬ Starts isKind (c :: (front ++ rest)) := nothing [] _ rfl (List.cons_ne_nil c front)
    rw [List.cons_append, encard_offsets_cons_of_not here]
    exact inductionHypothesis fun passed left split => nothing (c :: passed) left (congrArg (c :: ·) split)

/-- A scan for texts that do not overlap takes one at each place at which one stands. -/
theorem Scans.encard_offsets {found : List (List Char)} (scans : Scans isKind text found)
    (nonempty : ¬ isKind []) (apart : NeverOverlaps isKind) :
    (offsets isKind text).encard = found.length := by
  induction scans with
  | done => rw [offsets_nil nonempty, Set.encard_empty]; rfl
  | @hit run rest found isRun behind inductionHypothesis =>
    cases run with
    | nil => exact absurd isRun nonempty
    | cons c run =>
      have inside : (offsets isKind (run ++ rest)).encard = (offsets isKind rest).encard :=
        encard_offsets_pass fun passed left split more =>
          apart isRun (congrArg (c :: ·) split) (List.cons_ne_nil c passed) more
      have here : Starts isKind (c :: (run ++ rest)) := ⟨c :: run, isRun, rest, rfl⟩
      rw [List.cons_append, encard_offsets_cons_of_starts here, inside, inductionHypothesis,
        List.length_cons]
      rfl
  | miss nothing behind inductionHypothesis =>
    rw [encard_offsets_cons_of_not fun ⟨run, isRun, stands⟩ => nothing run isRun stands,
      inductionHypothesis]

end Text

namespace Usage

open Imports (Names names_iff_isTail)

variable {name other text : List Char} {names : Finset (List Char)}

/-! ## Calls of packages -/

/-- No character of a text is a quotation mark. -/
def Unquoted (text : List Char) : Prop :=
  ∀ c ∈ text, isQuote c = false

instance (text : List Char) : Decidable (Unquoted text) :=
  List.decidableBAll _ text

/-- At the start of a text stands a call of `require` with a specifier in quotation marks, none of which is
inside it, that names one of some packages. -/
inductive CallsOneOf (names : Finset (List Char)) : List Char → Prop where
  | intro {opening closing : Char} {specifier name rest : List Char} (opens : isQuote opening = true)
    (unquoted : Unquoted specifier) (closes : isQuote closing = true) (isOne : name ∈ names)
    (isNamed : Names name specifier) :
    CallsOneOf names ("require(".toList ++ opening :: (specifier ++ closing :: ')' :: rest))

theorem unquoted_word : Unquoted "require(".toList := by
  decide

/-- Where the name of a package has no quotation mark, a call of it has two, around its specifier. -/
theorem isRequireCall_iff (unquoted : Unquoted name) {run : List Char} :
    IsRequireCall name run ↔
      ∃ opening specifier closing, isQuote opening = true ∧ Unquoted specifier ∧ isQuote closing = true ∧
        Names name specifier ∧ run = "require(".toList ++ opening :: (specifier ++ [closing, ')']) := by
  constructor
  · rintro ⟨@⟨opening, closing, tail, opens, isTail, closes⟩⟩
    have plain : Unquoted (name ++ tail) := fun c inside =>
      (List.mem_append.mp inside).elim (unquoted c) (isTail.unquoted c)
    exact ⟨opening, name ++ tail, closing, opens, plain, closes,
      (names_iff_isTail plain).mpr ⟨tail, isTail, rfl⟩,
      by simp⟩
  · rintro ⟨opening, specifier, closing, opens, plain, closes, isNamed, rfl⟩
    obtain ⟨tail, isTail, rfl⟩ := (names_iff_isTail plain).mp isNamed
    have isCall := IsRequireCall.intro (.intro opens isTail closes : IsQuoted name _)
    simpa using isCall

theorem callsOneOf_iff (unquoted : ∀ name ∈ names, Unquoted name) :
    CallsOneOf names text ↔ ∃ name ∈ names, Starts (IsRequireCall name) text := by
  constructor
  · rintro @⟨opening, closing, specifier, name, rest, opens, plain, closes, isOne, isNamed⟩
    exact ⟨name, isOne, _, (isRequireCall_iff (unquoted name isOne)).mpr
      ⟨opening, specifier, closing, opens, plain, closes, isNamed, rfl⟩, rest, by simp⟩
  · rintro ⟨name, isOne, run, isCall, rest, rfl⟩
    obtain ⟨opening, specifier, closing, opens, plain, closes, isNamed, rfl⟩ :=
      (isRequireCall_iff (unquoted name isOne)).mp isCall
    have calls : CallsOneOf names ("require(".toList ++ opening :: (specifier ++ closing :: ')' :: rest)) :=
      .intro opens plain closes isOne isNamed
    simpa using calls

/-! ## Calls do not overlap -/

/-- A call starts with its word up to the first quotation mark, behind which its specifier stands. -/
theorem word_of_starts {front behind : List Char} {quote : Char} (unquoted : Unquoted name)
    (plain : Unquoted front) (isMark : isQuote quote = true)
    (starts : Starts (IsRequireCall name) (front ++ quote :: behind)) :
    front = "require(".toList ∧ ∃ specifier closing rest, Unquoted specifier ∧ isQuote closing = true ∧
      Names name specifier ∧ behind = specifier ++ closing :: ')' :: rest := by
  obtain ⟨run, isCall, rest, whole⟩ := starts
  obtain ⟨opening, specifier, closing, opens, plainSpecifier, closes, isNamed, rfl⟩ :=
    (isRequireCall_iff unquoted).mp isCall
  rw [List.append_assoc, List.cons_append] at whole
  obtain ⟨isWord, -, rfl⟩ := run_unique (fun c => !isQuote c)
    (fun c inside => by simp [unquoted_word c inside]) (by simp [opens])
    (fun c inside => by simp [plain c inside]) (by simp [isMark]) whole
  exact ⟨isWord.symm, specifier, closing, rest, plainSpecifier, closes, isNamed, by simp⟩

theorem head?_of_names {specifier behind : List Char} {quote : Char} (isNamed : Names name specifier)
    (isMark : isQuote quote = true) (notClosing : name.head? ≠ some ')') :
    (specifier ++ quote :: behind).head? ≠ some ')' := by
  have noMark : quote ≠ ')' := by
    rintro rfl
    cases isMark
  rcases isNamed with rfl | ⟨path, -, rfl⟩
  · cases specifier with
    | nil => simpa using noMark
    | cons c rest => exact notClosing
  · cases name with
    | nil => exact fun same => by cases same
    | cons c rest => exact notClosing

/-- A call does not start inside another one.  It would have to start inside the specifier, whose closing
quotation mark would be its opening one; but what stands behind that mark is `)`. -/
theorem neverOverlaps_requireCall (unquoted : Unquoted name) (notClosing : name.head? ≠ some ')') :
    NeverOverlaps (IsRequireCall name) := by
  intro run passed left rest isCall split some more starts
  obtain ⟨opening, specifier, closing, opens, plain, closes, -, rfl⟩ := (isRequireCall_iff unquoted).mp isCall
  -- No call starts at a quotation mark, nor at a bracket.
  have notAtMark {quote : Char} {behind : List Char} (isMark : isQuote quote = true) :
      ¬ Starts (IsRequireCall name) (quote :: behind) := fun starts =>
    absurd (@word_of_starts name [] behind quote unquoted nofun isMark starts).1 (by decide)
  have notAtBracket {behind : List Char} : ¬ Starts (IsRequireCall name) (')' :: behind) := by
    rintro ⟨_, ⟨_⟩, _, whole⟩
    cases whole
  rcases List.append_eq_append_iff.mp split with ⟨inside, rfl, isBehind⟩ | ⟨front, isWord, rfl⟩
  · cases inside with
    | nil =>
      rw [List.nil_append] at isBehind
      subst isBehind
      exact notAtMark opens starts
    | cons _ inside =>
      obtain ⟨-, isInside⟩ := List.cons.inj isBehind
      rcases List.append_eq_append_iff.mp isInside with ⟨marks, rfl, isMarks⟩ | ⟨front, rfl, rfl⟩
      · -- Only the closing mark and the bracket are left.
        match marks, isMarks with
        | [], isMarks =>
          rw [List.nil_append] at isMarks
          subst isMarks
          exact notAtMark closes starts
        | [_], isMarks =>
          obtain ⟨-, rfl⟩ := List.cons.inj isMarks
          exact notAtBracket starts
        | _ :: _ :: others, isMarks =>
          obtain ⟨-, isMarks⟩ := List.cons.inj isMarks
          obtain ⟨-, isMarks⟩ := List.cons.inj isMarks
          exact more (List.append_eq_nil_iff.mp isMarks.symm).2
      · have plainFront : Unquoted front := fun c inside => plain c (List.mem_append_right _ inside)
        rw [List.append_assoc] at starts
        obtain ⟨-, specifier, quote, rest, -, isMark, isNamed, same⟩ :=
          word_of_starts unquoted plainFront closes starts
        exact head?_of_names isNamed isMark notClosing (congrArg List.head? same.symm)
  · have plainFront : Unquoted front := fun c inside =>
      unquoted_word c (isWord ▸ List.mem_append_right _ inside)
    rw [List.append_assoc] at starts
    obtain ⟨rfl, -⟩ := word_of_starts unquoted plainFront opens starts
    exact some (List.append_left_eq_self.mp isWord.symm)

/-! ## One name for each call -/

/-- A name that is the start of another one is continued by what a specifier has behind it. -/
theorem slash_of_names {specifier : List Char} (isNamed : Names name specifier) (isPrefix : name <+: other)
    (different : name ≠ other) (within : other <+: specifier) : name ++ ['/'] <+: other := by
  obtain ⟨behind, rfl⟩ := isPrefix
  obtain ⟨rest, rfl⟩ := within
  cases behind with
  | nil => exact absurd (List.append_nil name).symm different
  | cons c behind =>
    rcases isNamed with same | ⟨path, -, same⟩
    · have length := congrArg List.length same
      simp only [List.length_append, List.length_cons] at length
      omega
    · rw [List.append_assoc] at same
      obtain ⟨rfl, -⟩ := List.cons.inj (List.append_cancel_left same)
      exact ⟨behind, by simp⟩

theorem prefix_of_names {specifier : List Char} (isNamed : Names name specifier) : name <+: specifier := by
  rcases isNamed with rfl | ⟨path, -, rfl⟩
  · exact List.prefix_refl specifier
  · exact List.prefix_append name _

/-- A specifier names one of two packages only, unless one is a path inside the other. -/
theorem eq_of_names {specifier : List Char} (isNamed : Names name specifier) (isOther : Names other specifier)
    (apart : ¬ name ++ ['/'] <+: other) (otherApart : ¬ other ++ ['/'] <+: name) : name = other := by
  by_contra different
  rcases List.prefix_or_prefix_of_prefix (prefix_of_names isNamed) (prefix_of_names isOther) with
    isPrefix | isPrefix
  · exact apart (slash_of_names isNamed isPrefix different (prefix_of_names isOther))
  · exact otherApart (slash_of_names isOther isPrefix (Ne.symm different) (prefix_of_names isNamed))

/-- A call refers to one of two packages only, unless one is a path inside the other. -/
theorem eq_of_starts (unquoted : Unquoted name) (otherUnquoted : Unquoted other)
    (apart : ¬ name ++ ['/'] <+: other) (otherApart : ¬ other ++ ['/'] <+: name)
    (starts : Starts (IsRequireCall name) text) (otherStarts : Starts (IsRequireCall other) text) :
    name = other := by
  obtain ⟨run, isCall, rest, rfl⟩ := starts
  obtain ⟨opening, specifier, closing, opens, plain, closes, isNamed, rfl⟩ :=
    (isRequireCall_iff unquoted).mp isCall
  rw [List.append_assoc, List.cons_append] at otherStarts
  obtain ⟨-, otherSpecifier, mark, after, otherPlain, isMark, isOther, same⟩ :=
    word_of_starts otherUnquoted unquoted_word opens otherStarts
  rw [List.append_assoc] at same
  obtain ⟨rfl, -⟩ := run_unique (fun c => !isQuote c) (fun c inside => by simp [plain c inside])
    (by simp [closes]) (fun c inside => by simp [otherPlain c inside]) (by simp [isMark]) same
  exact eq_of_names isNamed isOther apart otherApart

/-- No call is lost, and none counts for two names: over some names without quotation marks that do not start
with `)`, none of which is a path inside another one, as many references by calls are found as there are
places at which a call with one of the names stands. -/
theorem sum_requireReferences (unquoted : ∀ name ∈ names, Unquoted name)
    (notClosing : ∀ name ∈ names, name.head? ≠ some ')')
    (apart : ∀ name ∈ names, ∀ other ∈ names, ¬ name ++ ['/'] <+: other) (source : List Char) :
    ((∑ name ∈ names, (requireReferences name source).length : Nat) : ℕ∞) =
      {offset | CallsOneOf names (source.drop offset)}.encard := by
  have places : {offset | CallsOneOf names (source.drop offset)} =
      ⋃ name ∈ (names : Set (List Char)), offsets (IsRequireCall name) source := by
    ext offset
    simp [callsOneOf_iff unquoted, offsets]
  have each (name : List Char) (isOne : name ∈ names) :
      (offsets (IsRequireCall name) source).encard = (requireReferences name source).length :=
    ((describes_requireCall name).scans true source).encard_offsets (describes_requireCall name).nonempty
      (neverOverlaps_requireCall (unquoted name isOne) (notClosing name isOne))
  have disjoint : (names : Set (List Char)).PairwiseDisjoint fun name =>
      offsets (IsRequireCall name) source := by
    intro name isOne other isOther different
    refine Set.disjoint_left.mpr fun offset starts otherStarts => different ?_
    exact eq_of_starts (unquoted name isOne) (unquoted other isOther) (apart name isOne other isOther)
      (apart other isOther name isOne) starts otherStarts
  rw [places, names.finite_toSet.encard_biUnion disjoint, finsum_mem_coe_finset, Nat.cast_sum]
  exact Finset.sum_congr rfl fun name isOne => (each name isOne).symm

def sampleNames : Finset (List Char) :=
  {['x'], "x-y".toList}

/-- In the specifier of the first call there is the start of another one, the second call has a name that
starts like the first one, and the third call is one of another name. -/
def sampleCalls : List Char :=
  "require('x/require(')require(\x22x-y\x22);require('xy')".toList

/-- Two of the three calls are calls of the names. -/
theorem sum_requireReferences_sample :
    (∀ name ∈ sampleNames, Unquoted name) ∧ (∀ name ∈ sampleNames, name.head? ≠ some ')') ∧
      (∀ name ∈ sampleNames, ∀ other ∈ sampleNames, ¬ name ++ ['/'] <+: other) ∧
      {offset | CallsOneOf sampleNames (sampleCalls.drop offset)}.encard = 2 := by
  have unquoted : ∀ name ∈ sampleNames, Unquoted name := by decide
  have notClosing : ∀ name ∈ sampleNames, name.head? ≠ some ')' := by decide
  have apart : ∀ name ∈ sampleNames, ∀ other ∈ sampleNames, ¬ name ++ ['/'] <+: other := by decide
  have calls := sum_requireReferences unquoted notClosing apart sampleCalls
  have two : (∑ name ∈ sampleNames, (requireReferences name sampleCalls).length) = 2 := by decide +kernel
  rw [two] at calls
  exact ⟨unquoted, notClosing, apart, calls.symm⟩

end Usage
end ProjectGauge
