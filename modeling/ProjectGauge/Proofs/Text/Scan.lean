import ProjectGauge.Proofs.Text.Pattern

/-!
# Scans for texts of one kind

Some patterns leave no choice: at each place of a text there is at most one run that they read.  What such
a pattern finds is settled by the texts that it describes, and greedy runs and optional parts do not show.

* `Scans` is a scan from left to right for texts of one kind.
* `Pattern.Describes` says that a pattern reads the texts of a kind, of which no two start at one place.
* `Pattern.Describes.finds`: such a pattern matches where such a text stands, and finds what the scan does.
-/

namespace ProjectGauge.Text

/-! ## Runs up to a stop -/

/-- A run of characters of a class ends at the first character that is none of them. -/
theorem run_unique (member : Char → Bool) :
    ∀ {run other rest otherRest : List Char} {stop otherStop : Char},
      (∀ c ∈ run, member c = true) → member stop = false →
      (∀ c ∈ other, member c = true) → member otherStop = false →
      run ++ stop :: rest = other ++ otherStop :: otherRest →
      run = other ∧ stop = otherStop ∧ rest = otherRest
  | [], [], _, _, _, _, _, _, _, _, same => ⟨rfl, List.cons.inj same⟩
  | [], c :: _, _, _, _, _, _, stops, inOther, _, same => by
    have isMember := inOther c List.mem_cons_self
    rw [← (List.cons.inj same).1, stops] at isMember
    cases isMember
  | c :: _, [], _, _, _, _, inRun, _, _, stops, same => by
    have isMember := inRun c List.mem_cons_self
    rw [(List.cons.inj same).1, stops] at isMember
    cases isMember
  | c :: run, d :: other, _, _, _, _, inRun, stops, inOther, otherStops, same => by
    obtain ⟨rfl, behind⟩ := List.cons.inj same
    obtain ⟨rfl, sameStop⟩ := run_unique member (fun e inside => inRun e (List.mem_cons_of_mem _ inside)) stops
      (fun e inside => inOther e (List.mem_cons_of_mem _ inside)) otherStops behind
    exact ⟨rfl, sameStop⟩

/-! ## Scans -/

/-- The texts of a kind that a scan meets on its way from left to right.  Where one stands it is taken, and
the scan goes on behind it; where none does, the scan goes on at the next character. -/
inductive Scans (isKind : List Char → Prop) : List Char → List (List Char) → Prop where
  | done : Scans isKind [] []
  | hit {run rest : List Char} {found : List (List Char)} (isRun : isKind run)
    (behind : Scans isKind rest found) : Scans isKind (run ++ rest) (run :: found)
  | miss {c : Char} {rest : List Char} {found : List (List Char)}
    (nothing : ∀ run, isKind run → ¬ run <+: c :: rest) (behind : Scans isKind rest found) :
    Scans isKind (c :: rest) found

section Scans

variable {isKind : List Char → Prop}

/-- A scan goes over characters at which no text of the kind starts. -/
theorem Scans.pass {front rest : List Char} {found : List (List Char)}
    (nothing : ∀ passed left, front = passed ++ left → left ≠ [] →
      ∀ run, isKind run → ¬ run <+: left ++ rest)
    (behind : Scans isKind rest found) : Scans isKind (front ++ rest) found := by
  induction front with
  | nil => exact behind
  | cons c front inductionHypothesis =>
    refine .miss (nothing [] (c :: front) rfl (List.cons_ne_nil c front))
      (inductionHypothesis fun passed left split => ?_)
    exact nothing (c :: passed) left (congrArg (c :: ·) split)

end Scans

namespace Pattern

/-- A pattern reads the texts of a kind, and keeps nothing of them.  No text starts with two of them, and
none of them is empty. -/
structure Describes (pattern : Pattern) (isKind : List Char → Prop) : Prop where
  reads : ∀ fresh run kept, pattern.Reads fresh run kept ↔ isKind run ∧ kept = none
  unique : ∀ {text run other}, isKind run → isKind other → run <+: text → other <+: text → run = other
  nonempty : ¬ isKind []

variable {pattern : Pattern} {isKind : List Char → Prop}

/-- What a pattern finds in a text is what there is of a kind: the match at an offset is the one text of
the kind that stands there, if there is one, and all matches are those of the scan for the kind. -/
structure FindsExactly (pattern : Pattern) (isKind : List Char → Prop) (text : List Char)
    (found : List (List Char)) : Prop where
  matches_ : ∀ offset fresh run, (pattern.matchAt? fresh (text.drop offset)).map (·.text) = .some run ↔
    isKind run ∧ run <+: text.drop offset
  unique : ∀ offset run other, isKind run → isKind other →
    run <+: text.drop offset → other <+: text.drop offset → run = other
  scanned : ∀ texts, Scans isKind text texts ↔ texts = found

namespace Describes

theorem matchAt?_eq (describes : pattern.Describes isKind) {run text : List Char} (isRun : isKind run)
    (stands : run <+: text) (fresh : Bool) : pattern.matchAt? fresh text = .some ⟨run, []⟩ := by
  obtain ⟨rest, rfl⟩ := stands
  cases matched : pattern.matchAt? fresh (run ++ rest) with
  | none => exact absurd matched (matchAt?_ne_none ((describes.reads fresh run none).mpr ⟨isRun, rfl⟩))
  | some found =>
    obtain ⟨other, kept, otherRest, split, read, rfl⟩ := reads_of_matchAt? matched
    obtain ⟨isOther, rfl⟩ := (describes.reads fresh other kept).mp read
    rw [describes.unique isOther isRun ⟨otherRest, split.symm⟩ ⟨rest, rfl⟩]
    rfl

theorem matchAt?_eq_some (describes : pattern.Describes isKind) {fresh : Bool} {text : List Char}
    {found : Match} : pattern.matchAt? fresh text = .some found ↔
      isKind found.text ∧ found.text <+: text ∧ found.captured = [] := by
  constructor
  · intro matched
    obtain ⟨run, kept, rest, split, read, rfl⟩ := reads_of_matchAt? matched
    obtain ⟨isRun, rfl⟩ := (describes.reads fresh run kept).mp read
    exact ⟨isRun, ⟨rest, split.symm⟩, rfl⟩
  · rintro ⟨isRun, stands, nothingKept⟩
    rw [describes.matchAt?_eq isRun stands fresh, ← nothingKept]

/-- A scan of the pattern is a scan for the kind. -/
theorem scans (describes : pattern.Describes isKind) (fresh : Bool) (text : List Char) :
    Scans isKind text ((pattern.scan 0 fresh text).map (·.text)) := by
  -- By induction on the length: behind a match, the scan goes on with a much shorter text.
  induction length : text.length using Nat.strongRecOn generalizing fresh text with
  | ind n inductionHypothesis =>
    cases text with
    | nil => exact .done
    | cons c rest =>
      rw [scan]
      cases matched : pattern.matchAt? fresh (c :: rest) with
      | none =>
        refine .miss (fun run isRun stands => ?_) (inductionHypothesis _ ?_ _ rest rfl)
        · rw [describes.matchAt?_eq isRun stands fresh] at matched
          cases matched
        · rw [← length, List.length_cons]
          exact Nat.lt_succ_self _
      | some found =>
        obtain ⟨isRun, ⟨behind, split⟩, -⟩ := describes.matchAt?_eq_some.mp matched
        obtain ⟨run, captured⟩ := found
        cases run with
        | nil => exact absurd isRun describes.nonempty
        | cons d run =>
          have whole : d :: (run ++ behind) = c :: rest := split
          obtain ⟨rfl, rfl⟩ := List.cons.inj whole
          dsimp only
          rw [List.length_cons, Nat.add_sub_cancel, scan_past, List.map_cons]
          refine .hit isRun (inductionHypothesis _ ?_ _ behind rfl)
          rw [← length, List.length_cons, List.length_append]
          omega

/-- There is one scan only. -/
theorem scans_unique (describes : pattern.Describes isKind) {text : List Char}
    {found others : List (List Char)} (scans : Scans isKind text found)
    (otherScans : Scans isKind text others) : found = others := by
  induction scans generalizing others with
  | done =>
    generalize noText : ([] : List Char) = text at otherScans
    cases otherScans with
    | done => rfl
    | hit isRun behind =>
      obtain ⟨rfl, -⟩ := List.append_eq_nil_iff.mp noText.symm
      exact absurd isRun describes.nonempty
    | miss nothing behind => cases noText
  | @hit run rest found isRun behind inductionHypothesis =>
    generalize whole : run ++ rest = text at otherScans
    cases otherScans with
    | done =>
      obtain ⟨rfl, -⟩ := List.append_eq_nil_iff.mp whole
      exact absurd isRun describes.nonempty
    | @hit other otherRest _ isOther otherBehind =>
      obtain rfl := describes.unique isRun isOther ⟨rest, whole⟩ ⟨otherRest, rfl⟩
      obtain rfl := List.append_cancel_left whole
      rw [inductionHypothesis otherBehind]
    | miss nothing otherBehind => exact absurd ⟨rest, whole⟩ (nothing run isRun)
  | @miss c rest found nothing behind inductionHypothesis =>
    generalize whole : c :: rest = text at otherScans
    cases otherScans with
    | done => cases whole
    | @hit other otherRest _ isOther otherBehind =>
      exact absurd ⟨otherRest, whole.symm⟩ (nothing other isOther)
    | miss otherNothing otherBehind =>
      obtain ⟨rfl, rfl⟩ := List.cons.inj whole
      exact inductionHypothesis otherBehind

theorem finds (describes : pattern.Describes isKind) (text : List Char) :
    pattern.FindsExactly isKind text ((pattern.findAll text).map (·.text)) where
  matches_ offset fresh run := by
    constructor
    · intro matched
      obtain ⟨found, isFound, rfl⟩ := Option.map_eq_some_iff.mp matched
      obtain ⟨isRun, stands, -⟩ := describes.matchAt?_eq_some.mp isFound
      exact ⟨isRun, stands⟩
    · rintro ⟨isRun, stands⟩
      rw [describes.matchAt?_eq isRun stands fresh]
      rfl
  unique _ _ _ isRun isOther stands otherStands := describes.unique isRun isOther stands otherStands
  scanned texts := by
    constructor
    · intro scanned
      exact describes.scans_unique scanned (describes.scans true text)
    · rintro rfl
      exact describes.scans true text

end Describes
end Pattern
end ProjectGauge.Text
