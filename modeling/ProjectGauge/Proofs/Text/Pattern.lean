import ProjectGauge.Text.Pattern

/-!
# Matches of a pattern

What a pattern reads is a matter of the pattern and the characters alone; in which order the alternatives
are tried decides only which of several readings is taken.

* `Reads` says what a pattern reads, and `attempt_decides` that an attempt finds a reading that is accepted
  if and only if there is one.
* `length_findAll_le`: a text has no more matches than characters.
-/

namespace ProjectGauge.Text

/-! ## Readings -/

/-- A line starts behind some characters. -/
def freshBehind (fresh : Bool) : List Char → Bool
  | [] => fresh
  | c :: run => freshBehind (c == '\n') run

theorem freshBehind_append (fresh : Bool) (first second : List Char) :
    freshBehind fresh (first ++ second) = freshBehind (freshBehind fresh first) second := by
  induction first generalizing fresh with
  | nil => rfl
  | cons c run inductionHypothesis => exact inductionHypothesis (c == '\n')

/-- The place behind characters of which a text is kept, in front of the given rest. -/
def Place.behind (place : Place) (run : List Char) (kept : Option (List Char)) (rest : List Char) :
    Place :=
  ⟨freshBehind place.lineStart run, place.taken + run.length, rest, kept.getD place.captured⟩

theorem Place.advance_eq_behind (place : Place) (c : Char) (rest : List Char) :
    place.advance c rest = place.behind [c] none rest :=
  rfl

theorem Place.behind_behind (place : Place) (first second : List Char)
    (kept keptNext : Option (List Char)) (between rest : List Char) :
    (place.behind first kept between).behind second keptNext rest =
      place.behind (first ++ second) (keptNext.or kept) rest := by
  unfold behind
  rw [freshBehind_append, List.length_append, Nat.add_assoc]
  cases keptNext <;> rfl

namespace Pattern

/-- A run of characters of a class, of which nothing is kept. -/
def IsRun (member : Char → Bool) (run : List Char) (kept : Option (List Char)) : Prop :=
  (∀ c ∈ run, member c = true) ∧ kept = none

/-- What a pattern reads from a place where a line starts or does not: some characters, with the text that
is kept of them. -/
def Reads : Pattern → Bool → List Char → Option (List Char) → Prop
  | lineStart, fresh, run, kept => fresh = true ∧ run = [] ∧ kept = none
  | one member, _, run, kept => ∃ c, member c = true ∧ run = [c] ∧ kept = none
  | literal text, _, run, kept => run = text ∧ kept = none
  | any member, _, run, kept => IsRun member run kept
  | some member, _, run, kept => run ≠ [] ∧ IsRun member run kept
  | few member, _, run, kept => run ≠ [] ∧ IsRun member run kept
  | optional part, fresh, run, kept => part.Reads fresh run kept ∨ run = [] ∧ kept = none
  | capture part, fresh, run, kept => (∃ inner, part.Reads fresh run inner) ∧ kept = .some run
  | seq first second, fresh, run, kept => ∃ front keptFront back keptBack,
    first.Reads fresh front keptFront ∧ second.Reads (freshBehind fresh front) back keptBack ∧
      run = front ++ back ∧ kept = keptBack.or keptFront

/-! ## Decisions -/

section Decisions

variable {β : Type} {next : Place → Option β} {place : Place} {member : Char → Bool}
variable {reading readingNext : List Char → Option (List Char) → Prop} {result resultNext : Option β}

/-- A result decides whether the continuation accepts the place behind some reading: it comes from a
reading, and there is none only where no reading is accepted. -/
structure Decides (reading : List Char → Option (List Char) → Prop) (next : Place → Option β)
    (place : Place) (result : Option β) : Prop where
  sound : ∀ {found}, result = .some found → ∃ run kept rest, place.rest = run ++ rest ∧
    reading run kept ∧ next (place.behind run kept rest) = .some found
  complete : result = none → ∀ {run kept rest}, place.rest = run ++ rest → reading run kept →
    next (place.behind run kept rest) = none

theorem Decides.congr (decides : Decides reading next place result)
    (same : ∀ run kept rest, place.rest = run ++ rest → (reading run kept ↔ readingNext run kept)) :
    Decides readingNext next place result where
  sound isFound := by
    obtain ⟨run, kept, rest, isRest, read, accepted⟩ := decides.sound isFound
    exact ⟨run, kept, rest, isRest, (same run kept rest isRest).mp read, accepted⟩
  complete isNone run kept rest isRest read :=
    decides.complete isNone isRest ((same run kept rest isRest).mpr read)

theorem Decides.never (impossible : ∀ run kept rest, place.rest = run ++ rest → ¬ reading run kept) :
    Decides reading next place none where
  sound isFound := by cases isFound
  complete _ run kept rest isRest read := absurd read (impossible run kept rest isRest)

theorem Decides.nothing (next : Place → Option β) (place : Place) :
    Decides (fun run kept => run = [] ∧ kept = none) next place (next place) where
  sound isFound := ⟨[], none, place.rest, rfl, ⟨rfl, rfl⟩, isFound⟩
  complete isNone run kept rest isRest read := by
    obtain ⟨rfl, rfl⟩ := read
    rw [List.nil_append] at isRest
    rw [← isRest]
    exact isNone

/-- Of two ways to read, each may be tried first. -/
theorem Decides.or (first : Decides reading next place result)
    (second : Decides readingNext next place resultNext) :
    Decides (fun run kept => reading run kept ∨ readingNext run kept) next place
      (result.or resultNext) where
  sound isFound := by
    cases result with
    | some found =>
      obtain ⟨run, kept, rest, isRest, read, accepted⟩ := first.sound isFound
      exact ⟨run, kept, rest, isRest, .inl read, accepted⟩
    | none =>
      obtain ⟨run, kept, rest, isRest, read, accepted⟩ := second.sound isFound
      exact ⟨run, kept, rest, isRest, .inr read, accepted⟩
  complete isNone run kept rest isRest read := by
    obtain ⟨firstNone, secondNone⟩ := Option.or_eq_none_iff.mp isNone
    rcases read with read | read
    · exact first.complete firstNone isRest read
    · exact second.complete secondNone isRest read

theorem Decides.advance {c : Char} {rest : List Char} (isRest : place.rest = c :: rest)
    (decides : Decides reading next (place.advance c rest) result) :
    Decides (fun run kept => ∃ tail, run = c :: tail ∧ reading tail kept) next place result where
  sound isFound := by
    obtain ⟨tail, kept, behind, isTail, read, accepted⟩ := decides.sound isFound
    refine ⟨c :: tail, kept, behind, ?_, ⟨tail, rfl, read⟩, ?_⟩
    · rw [isRest]
      exact congrArg (c :: ·) isTail
    · rwa [Place.advance_eq_behind, Place.behind_behind, Option.or_none] at accepted
  complete isNone run kept behind isTail read := by
    obtain ⟨tail, rfl, read⟩ := read
    rw [isRest, List.cons_append] at isTail
    have rejected := decides.complete isNone (List.cons.inj isTail).2 read
    rwa [Place.advance_eq_behind, Place.behind_behind, Option.or_none] at rejected

/-! ## Runs -/

theorem attemptLiteral_decides (text : List Char) (place : Place) :
    Decides (fun run kept => run = text ∧ kept = none) next place (attemptLiteral next text place) := by
  induction text generalizing place with
  | nil => exact Decides.nothing next place
  | cons c text inductionHypothesis =>
    unfold attemptLiteral
    split
    · rename_i d rest isRest
      split
      · rename_i same
        rw [beq_iff_eq] at same
        subst same
        refine (Decides.advance isRest (inductionHypothesis _)).congr fun run kept _ _ => ?_
        exact ⟨fun ⟨tail, isRun, isTail, isNone⟩ => ⟨isTail ▸ isRun, isNone⟩,
          fun ⟨isRun, isNone⟩ => ⟨text, isRun, rfl, isNone⟩⟩
      · rename_i different
        refine Decides.never fun run kept behind isRun read => different ?_
        rw [isRest, read.1] at isRun
        exact beq_iff_eq.mpr (List.cons.inj isRun).1.symm
    · rename_i isEmpty
      refine Decides.never fun run kept behind isRun read => ?_
      rw [isEmpty, read.1] at isRun
      cases isRun

theorem isRun_iff (member : Char → Bool) {c : Char} (isMember : member c = true) {text : List Char}
    (isText : place.rest = c :: text) (run : List Char) (kept : Option (List Char)) (rest : List Char)
    (isRest : place.rest = run ++ rest) :
    ((∃ tail, run = c :: tail ∧ IsRun member tail kept) ∨ (run = [] ∧ kept = none)) ↔
      IsRun member run kept := by
  cases run with
  | nil => simp [IsRun]
  | cons d tail =>
    rw [isText, List.cons_append] at isRest
    have same : c = d := (List.cons.inj isRest).1
    subst same
    simp [IsRun, isMember]

theorem isRun_iff_nil (member : Char → Bool) {text : List Char} (isText : place.rest = text)
    (stops : ∀ c ∈ text.head?, member c = false) (run : List Char) (kept : Option (List Char))
    (rest : List Char) (isRest : place.rest = run ++ rest) :
    (run = [] ∧ kept = none) ↔ IsRun member run kept := by
  cases run with
  | nil => simp [IsRun]
  | cons d tail =>
    rw [isRest] at isText
    subst isText
    have stopped : member d = false := stops d rfl
    simp [IsRun, stopped]

theorem attemptAny_decides (text : List Char) (place : Place) (isRest : place.rest = text) :
    Decides (IsRun member) next place (attemptAny member next text place) := by
  induction text generalizing place with
  | nil =>
    exact (Decides.nothing next place).congr
      (isRun_iff_nil member isRest fun _ inside => by cases inside)
  | cons c text inductionHypothesis =>
    unfold attemptAny
    split
    · rename_i isMember
      -- First as many characters as there are, then none.
      have longer := inductionHypothesis (place.advance c text) rfl
      have decides := ((Decides.advance isRest longer).or (Decides.nothing next place)).congr
        (isRun_iff member isMember isRest)
      cases further : attemptAny member next text (place.advance c text) <;>
        rwa [further] at decides
    · rename_i notMember
      refine (Decides.nothing next place).congr (isRun_iff_nil member isRest fun d inside => ?_)
      cases inside
      simpa using notMember

theorem attemptFew_decides (text : List Char) (place : Place) (isRest : place.rest = text) :
    Decides (IsRun member) next place (attemptFew member next text place) := by
  induction text generalizing place with
  | nil =>
    exact (Decides.nothing next place).congr
      (isRun_iff_nil member isRest fun _ inside => by cases inside)
  | cons c text inductionHypothesis =>
    unfold attemptFew
    by_cases isMember : member c = true
    · -- The other way round: first no character, then more of them.
      have longer := inductionHypothesis (place.advance c text) rfl
      have decides := ((Decides.nothing next place).or (Decides.advance isRest longer)).congr
        fun run kept rest isText => or_comm.trans (isRun_iff member isMember isRest run kept rest isText)
      rw [if_pos isMember]
      cases shortest : next place <;> rwa [shortest] at decides
    · have decides := (Decides.nothing next place).congr
        (isRun_iff_nil member isRest fun d inside => by cases inside; simpa using isMember)
      rw [if_neg isMember]
      cases shortest : next place <;> rwa [shortest] at decides

/-- A class of which at least one character is read. -/
theorem nonempty_decides (attemptRun : List Char → Place → Option β)
    (decides : ∀ text place, place.rest = text →
      Decides (IsRun member) next place (attemptRun text place)) (place : Place) :
    Decides (fun run kept => run ≠ [] ∧ IsRun member run kept) next place
      (match place.rest with
        | c :: rest => if member c then attemptRun rest (place.advance c rest) else none
        | [] => none) := by
  split
  · rename_i c rest isRest
    split
    · rename_i isMember
      refine (Decides.advance isRest (decides rest _ rfl)).congr fun run kept behind isRun => ?_
      cases run with
      | nil => simp
      | cons d tail =>
        rw [isRest, List.cons_append] at isRun
        have same : c = d := (List.cons.inj isRun).1
        subst same
        simp [IsRun, isMember]
    · rename_i notMember
      refine Decides.never fun run kept behind isRun read => ?_
      obtain ⟨nonempty, all, -⟩ := read
      obtain ⟨d, tail, rfl⟩ := List.exists_cons_of_ne_nil nonempty
      rw [isRest, List.cons_append] at isRun
      exact notMember ((List.cons.inj isRun).1 ▸ all d List.mem_cons_self)
  · rename_i isEmpty
    refine Decides.never fun run kept behind isRun read => read.1 ?_
    rw [isEmpty] at isRun
    exact (List.append_eq_nil_iff.mp isRun.symm).1

/-! ## Parts -/

theorem Decides.capture (decides : Decides reading
    (fun stop => next { stop with captured := place.rest.take (stop.taken - place.taken) })
    place result) :
    Decides (fun run kept => (∃ inner, reading run inner) ∧ kept = .some run) next place result where
  sound isFound := by
    obtain ⟨run, inner, rest, isRest, read, accepted⟩ := decides.sound isFound
    refine ⟨run, .some run, rest, isRest, ⟨⟨inner, read⟩, rfl⟩, ?_⟩
    rw [isRest] at accepted
    simpa [Place.behind] using accepted
  complete isNone run kept rest isRest read := by
    obtain ⟨⟨inner, read⟩, rfl⟩ := read
    have rejected := decides.complete isNone isRest read
    rw [isRest] at rejected
    simpa [Place.behind] using rejected

theorem Decides.seq {further : Place → Option β} (first : Decides reading further place result)
    {readingAt : Bool → List Char → Option (List Char) → Prop}
    (second : ∀ between, Decides (readingAt between.lineStart) next between (further between)) :
    Decides (fun run kept => ∃ front keptFront back keptBack, reading front keptFront ∧
      readingAt (freshBehind place.lineStart front) back keptBack ∧ run = front ++ back ∧
      kept = keptBack.or keptFront) next place result where
  sound isFound := by
    obtain ⟨front, keptFront, between, isBetween, read, accepted⟩ := first.sound isFound
    obtain ⟨back, keptBack, rest, isRest, readNext, accepted⟩ := (second _).sound accepted
    have isRest : between = back ++ rest := isRest
    refine ⟨front ++ back, keptBack.or keptFront, rest, ?_,
      ⟨front, keptFront, back, keptBack, read, readNext, rfl, rfl⟩, ?_⟩
    · rw [isBetween, isRest, List.append_assoc]
    · rwa [Place.behind_behind] at accepted
  complete isNone run kept rest isRest read := by
    -- The second part is rejected behind every reading of the first one, hence behind this one.
    obtain ⟨front, keptFront, back, keptBack, read, readNext, rfl, rfl⟩ := read
    rw [List.append_assoc] at isRest
    have rejected := (second _).complete (first.complete isNone isRest read) rfl readNext
    rwa [Place.behind_behind] at rejected

/-! ## Attempts -/

/-- An attempt decides whether some reading of the pattern is accepted. -/
theorem attempt_decides (pattern : Pattern) (next : Place → Option β) (place : Place) :
    Decides (pattern.Reads place.lineStart) next place (pattern.attempt next place) := by
  -- The continuation is general, as the parts of a sequence are attempted with one that attempts the rest.
  induction pattern generalizing next place with
  | lineStart =>
    unfold attempt
    split
    · rename_i fresh
      exact (Decides.nothing next place).congr fun run kept _ _ => by simp [Reads, fresh]
    · rename_i stale
      exact Decides.never fun run kept _ _ read => stale read.1
  | one member =>
    unfold attempt
    split
    · rename_i c rest isRest
      split
      · rename_i isMember
        refine (Decides.advance isRest (Decides.nothing next _)).congr fun run kept behind isRun => ?_
        constructor
        · rintro ⟨tail, isTail, rfl, isNone⟩
          exact ⟨c, isMember, isTail, isNone⟩
        · rintro ⟨d, -, rfl, isNone⟩
          rw [isRest] at isRun
          exact ⟨[], by rw [(List.cons.inj isRun).1], rfl, isNone⟩
      · rename_i notMember
        refine Decides.never fun run kept behind isRun read => notMember ?_
        obtain ⟨d, isMember, rfl, -⟩ := read
        rw [isRest] at isRun
        exact (List.cons.inj isRun).1 ▸ isMember
    · rename_i isEmpty
      refine Decides.never fun run kept behind isRun read => ?_
      obtain ⟨d, -, rfl, -⟩ := read
      rw [isEmpty] at isRun
      cases isRun
  | literal text => exact attemptLiteral_decides text place
  | any member => exact attemptAny_decides place.rest place rfl
  | some member => exact nonempty_decides _ (fun text place => attemptAny_decides text place) place
  | few member => exact nonempty_decides _ (fun text place => attemptFew_decides text place) place
  | optional part partDecides =>
    -- The part is tried before nothing is.
    have decides := (partDecides next place).or (Decides.nothing next place)
    unfold attempt
    cases tried : part.attempt next place <;> rwa [tried] at decides
  | capture part partDecides => exact (partDecides _ place).capture
  | seq first second firstDecides secondDecides =>
    exact (firstDecides _ place).seq (secondDecides next)

end Decisions

/-! ## Scans -/

/-- A match at the start of a text is a reading of the pattern. -/
theorem reads_of_matchAt? {pattern : Pattern} {fresh : Bool} {text : List Char} {found : Match}
    (isFound : pattern.matchAt? fresh text = .some found) :
    ∃ run kept rest, text = run ++ rest ∧ pattern.Reads fresh run kept ∧
      found = ⟨run, kept.getD []⟩ := by
  obtain ⟨run, kept, rest, isText, read, accepted⟩ := (attempt_decides pattern _ _).sound isFound
  refine ⟨run, kept, rest, isText, read, ?_⟩
  have isText : text = run ++ rest := isText
  have same := Option.some.inj accepted
  rw [← same, isText]
  simp [Place.behind]

/-- A text that starts with a reading of the pattern has a match at its start. -/
theorem matchAt?_ne_none {pattern : Pattern} {fresh : Bool} {run rest : List Char}
    {kept : Option (List Char)} (read : pattern.Reads fresh run kept) :
    pattern.matchAt? fresh (run ++ rest) ≠ none := by
  intro isNone
  have rejected := (attempt_decides pattern _ _).complete isNone
    (rfl : (⟨fresh, 0, run ++ rest, []⟩ : Place).rest = run ++ rest) read
  cases rejected

/-- A scan passes over characters that are matched already, and sees behind them where a line starts. -/
theorem scan_past (pattern : Pattern) (fresh : Bool) (run rest : List Char) :
    pattern.scan run.length fresh (run ++ rest) = pattern.scan 0 (freshBehind fresh run) rest := by
  induction run generalizing fresh with
  | nil => rfl
  | cons c run inductionHypothesis => exact inductionHypothesis (c == '\n')

theorem length_scan_le (pattern : Pattern) (skip : Nat) (fresh : Bool) (text : List Char) :
    (scan pattern skip fresh text).length ≤ text.length := by
  fun_induction scan pattern skip fresh text with
  | case1 skip fresh => exact Nat.le_refl 0
  | case2 fresh skip c rest inductionHypothesis =>
    rw [List.length_cons]
    omega
  | case3 fresh c rest found isMatch inductionHypothesis =>
    rw [List.length_cons, List.length_cons]
    omega
  | case4 fresh c rest noMatch inductionHypothesis =>
    rw [List.length_cons]
    omega

/-- A text has no more matches than characters. -/
theorem length_findAll_le (pattern : Pattern) (text : List Char) :
    (pattern.findAll text).length ≤ text.length :=
  length_scan_le pattern 0 true text

end Pattern
end ProjectGauge.Text
