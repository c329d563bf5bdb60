import ProjectGauge.Report.Ranking
import ProjectGauge.Proofs.Report.Bar
import ProjectGauge.Proofs.Sorting

/-!
# The lines of a ranking

The first package of a ranking has the greatest count, so the bars and percentages of the others are shares of
it and can be computed however large the counts are.  What can keep a ranking from being written is a count of
too many digits, and nothing else but the average.

* `fixed_one` is the text of a number with one decimal place, and `percentage_eq` that of a percentage.
* `entriesFrom_eq` gives the two lines of each place, and `entriesFrom_tooManyDigits` when there are none.
* `rows_ok`: a tally has rows, and `ranking_eq`: its ranking depends on nothing else but the average.
-/

namespace ProjectGauge

open Binary64

/-! ## Tenths -/

/-- A number of tenths with its decimal point. -/
def Text.tenthsText (tenths : Nat) : List Char :=
  natDigits (tenths / 10) ++ ['.', Nat.digitChar (tenths % 10)]

theorem padZeros_two (n : Nat) :
    padZeros 2 (Text.natDigits n) = Text.natDigits (n / 10) ++ [Nat.digitChar (n % 10)] := by
  unfold Text.natDigits padZeros
  by_cases single : n < 10
  · rw [Nat.div_eq_of_lt single, Nat.mod_eq_of_lt single, Nat.toDigits_of_lt_base single]
    rfl
  · have split := Nat.toDigits_of_base_le (b := 10) (by decide) (not_lt.mp single)
    have front := Nat.length_toDigits_pos (b := 10) (n := n / 10)
    have long : 2 - (Nat.toDigits 10 n).length = 0 := by
      rw [split, List.length_append, List.length_singleton]
      omega
    rw [long, List.replicate_zero, List.nil_append, split]

/-- With one decimal place, a number is written as the nearest number of tenths. -/
theorem Binary64.fixed_one (q : Rat) :
    (finite false q).fixed 1 = Text.tenthsText (roundHalfEven (q * 10)).toNat := by
  have ten : tenPow ((1 : Nat) : Int) = 10 := by norm_num [tenPow]
  unfold fixed
  dsimp only
  rw [ten, padZeros_two, List.length_append, List.length_singleton, Nat.add_sub_cancel, List.take_left,
    List.drop_left, if_neg (by decide)]
  simp [withSign, Text.tenthsText]

namespace Report

variable {count greatest : Int}

/-! ## Percentages -/

/-- The tenths of a percentage. -/
def percentTenths (count greatest : Int) : Nat :=
  (roundHalfEven (multiple 100 count greatest * 10)).toNat

theorem percentTenths_mono {more : Int} (ordered : count ≤ more) (nonneg : 0 ≤ greatest) :
    percentTenths count greatest ≤ percentTenths more greatest := by
  have multiples := multiple_mono 100 ordered nonneg
  exact Int.toNat_le_toNat (roundHalfEven_mono (by linarith))

theorem percentTenths_self (positive : 0 < greatest) : percentTenths greatest greatest = 1000 := by
  have thousand : ((100 : Nat) : Rat) * 10 = (1000 : Int) := by norm_num
  rw [percentTenths, multiple_self (by norm_num) positive, thousand, roundHalfEven_intCast]
  rfl

theorem percentTenths_none (count : Int) : percentTenths count 0 = 0 := by
  rw [percentTenths, multiple_none]
  decide +kernel

theorem percentTenths_le (atMost : count ≤ greatest) (nonneg : 0 ≤ greatest) :
    percentTenths count greatest ≤ 1000 := by
  rcases nonneg.eq_or_lt with rfl | positive
  · rw [percentTenths_none]
    exact Nat.zero_le _
  · exact (percentTenths_mono atMost nonneg).trans_eq (percentTenths_self positive)

theorem quotient_ok (nonneg : 0 ≤ count) (atMost : count ≤ greatest) (positive : 0 < greatest) :
    ∃ x, ofQuotient count greatest = .ok x ∧ AtMost 3 x := by
  have bounded : (count : Rat) ≤ 1 * greatest := by
    rw [one_mul]
    exact_mod_cast atMost
  obtain ⟨x, divided, small⟩ :=
    ofQuotient_atMost _ nonneg positive bounded (roomy_of_small (by norm_num))
  exact ⟨x, divided, small.mono (by norm_num)⟩

theorem ofInt_hundred : ofInt 100 = .ok (.finite false (100 : Nat)) := by
  decide +kernel

theorem percentage_eq (nonneg : 0 ≤ count) (atMost : count ≤ greatest) :
    ∃ part, percentage count greatest = .ok part ∧
      part.fixed 1 = Text.tenthsText (percentTenths count greatest) := by
  unfold percentage percentTenths
  rcases (nonneg.trans atMost).eq_or_lt with rfl | positive
  · refine ⟨.zero, by rw [if_pos rfl]; rfl, ?_⟩
    rw [multiple_none]
    exact fixed_one 0
  · obtain ⟨quotient, divided, quotientSmall⟩ := quotient_ok nonneg atMost positive
    have hundredValue : (finite false (100 : Nat)).HasValue (100 : Nat) := natCast_hasValue (by norm_num)
    have hundredSmall : AtMost 100 (finite false (100 : Nat)) := ⟨_, rfl, by norm_num, by norm_num⟩
    have product := mul_atMost quotientSmall hundredSmall (roomy_of_small (by norm_num))
    have productValue := (hasValue_of_ofQuotient divided positive).mul hundredValue
      (abs_multiple_lt (by norm_num) nonneg atMost)
    refine ⟨_, by rw [if_neg positive.ne', divided, ok_bind, ofInt_hundred, ok_bind]; rfl, ?_⟩
    rw [productValue.eq_finite product]
    exact fixed_one _

/-! ## Places -/

theorem countText_eq (short : count.natAbs < 10 ^ Text.digitLimit) :
    countText count = .ok (Text.intText count) := by
  unfold countText
  have few : (Text.natDigits count.natAbs).length ≤ Text.digitLimit :=
    (Nat.length_toDigits_le_iff (by decide) (by decide)).mpr short
  rw [if_neg (Nat.not_lt.mpr few)]

theorem countText_tooManyDigits (long : 10 ^ Text.digitLimit ≤ count.natAbs) :
    countText count = .error .tooManyDigits := by
  unfold countText
  have many : Text.digitLimit < (Text.natDigits count.natAbs).length := by
    by_contra few
    exact Nat.not_lt.mpr long ((Nat.length_toDigits_le_iff (by decide) (by decide)).mp (not_lt.mp few))
  rw [if_pos many]

/-- A package with its place in the ranking: its bar is filled so far, and its percentage has so many tenths. -/
structure Place where
  name : String
  entry : TallyEntry
  filled : Nat
  tenths : Nat

/-- The two lines of a place, which the name and the number head. -/
def Place.lines (place : Place) (number : Nat) : List (List Char) :=
  [Text.padLeft 2 (Text.natDigits number) ++ ". ".toList ++ Text.padRight 15 place.name.toList ++
      ' ' :: (List.replicate place.filled '█' ++ List.replicate (30 - place.filled) '░') ++
      ' ' :: Text.intText place.entry.count ++ " (".toList ++ Text.tenthsText place.tenths ++ "%)".toList,
    "    v".toList ++ (", ".intercalate place.entry.versions).toList ++ " | ".toList ++
      Text.natDigits place.entry.directories.length ++ " dirs".toList]

/-- The lines of places that are numbered from a number on. -/
def placeLines (start : Nat) (places : List Place) : List (List Char) :=
  (places.zipIdx start).flatMap fun (place, number) => place.lines number

def placeOf (greatest : Int) (entry : String × TallyEntry) : Place where
  name := entry.1
  entry := entry.2
  filled := filledCells entry.2.count greatest
  tenths := percentTenths entry.2.count greatest

theorem length_placeLines (start : Nat) (places : List Place) :
    (placeLines start places).length = 2 * places.length := by
  induction places generalizing start with
  | nil => rfl
  | cons place rest inductionHypothesis =>
    have others := inductionHypothesis (start + 1)
    simp only [placeLines, List.zipIdx_cons, List.flatMap_cons, List.length_append, List.length_cons] at others ⊢
    rw [others, Place.lines]
    simp only [List.length_cons, List.length_nil]
    omega

theorem entryLines_eq {entry : String × TallyEntry} (number : Nat) (nonneg : 0 ≤ entry.2.count)
    (atMost : entry.2.count ≤ greatest) (short : entry.2.count.natAbs < 10 ^ Text.digitLimit) :
    entryLines greatest number entry.1 entry.2 = .ok ((placeOf greatest entry).lines number) := by
  obtain ⟨part, percent, written⟩ := percentage_eq nonneg atMost
  unfold entryLines
  rw [percent, ok_bind, rankingBar_eq nonneg atMost, ok_bind, countText_eq short, ok_bind, written]
  rfl

theorem entryLines_tooManyDigits {entry : String × TallyEntry} (number : Nat) (nonneg : 0 ≤ entry.2.count)
    (atMost : entry.2.count ≤ greatest) (long : 10 ^ Text.digitLimit ≤ entry.2.count.natAbs) :
    entryLines greatest number entry.1 entry.2 = .error .tooManyDigits := by
  obtain ⟨part, percent, -⟩ := percentage_eq nonneg atMost
  unfold entryLines
  rw [percent, ok_bind, rankingBar_eq nonneg atMost, ok_bind, countText_tooManyDigits long]
  rfl

theorem entriesFrom_eq (start : Nat) {entries : List (String × TallyEntry)}
    (counted : ∀ entry ∈ entries, 0 ≤ entry.2.count ∧ entry.2.count ≤ greatest)
    (short : ∀ entry ∈ entries, entry.2.count.natAbs < 10 ^ Text.digitLimit) :
    entriesFrom greatest start entries = .ok (placeLines start (entries.map (placeOf greatest))) := by
  induction entries generalizing start with
  | nil => rfl
  | cons entry rest inductionHypothesis =>
    obtain ⟨nonneg, atMost⟩ := counted entry List.mem_cons_self
    have first := entryLines_eq start nonneg atMost (short entry List.mem_cons_self)
    have others := inductionHypothesis (start + 1)
      (fun other member => counted other (List.mem_cons_of_mem _ member))
      (fun other member => short other (List.mem_cons_of_mem _ member))
    rw [entriesFrom, first, ok_bind, others]
    rfl

/-- One count of too many digits is enough, wherever it stands. -/
theorem entriesFrom_tooManyDigits (start : Nat) {entries : List (String × TallyEntry)}
    (counted : ∀ entry ∈ entries, 0 ≤ entry.2.count ∧ entry.2.count ≤ greatest)
    (long : ∃ entry ∈ entries, 10 ^ Text.digitLimit ≤ entry.2.count.natAbs) :
    entriesFrom greatest start entries = .error .tooManyDigits := by
  induction entries generalizing start with
  | nil =>
    obtain ⟨entry, member, -⟩ := long
    cases member
  | cons entry rest inductionHypothesis =>
    obtain ⟨nonneg, atMost⟩ := counted entry List.mem_cons_self
    unfold entriesFrom
    -- The lines are written in order, so the first such count is the one that is noticed.
    rcases lt_or_ge entry.2.count.natAbs (10 ^ Text.digitLimit) with short | tooLong
    · have behind : ∃ other ∈ rest, 10 ^ Text.digitLimit ≤ other.2.count.natAbs := by
        obtain ⟨other, member, otherLong⟩ := long
        rcases List.mem_cons.mp member with rfl | inRest
        · exact absurd otherLong (Nat.not_le.mpr short)
        · exact ⟨other, inRest, otherLong⟩
      have others := inductionHypothesis (start + 1)
        (fun other member => counted other (List.mem_cons_of_mem _ member)) behind
      rw [entryLines_eq start nonneg atMost short, ok_bind, others]
      rfl
    · rw [entryLines_tooManyDigits start nonneg atMost tooLong]
      rfl

/-! ## Rankings -/

theorem ranked_perm (tally : Tally) : tally.ranked.Perm tally :=
  List.mergeSort_perm tally _

/-- No package of a ranking has a higher count than the first one. -/
theorem count_le_leadingCount {tally : Tally} {entry : String × TallyEntry} (member : entry ∈ tally) :
    entry.2.count ≤ leadingCount tally.ranked := by
  have ordered : tally.ranked.Pairwise fun a b => b.2.count ≤ a.2.count := by
    exact pairwise_mergeSort_key (fun entry : String × TallyEntry => entry.2.count) tally
  have ranked : entry ∈ tally.ranked := (ranked_perm tally).mem_iff.mpr member
  -- The order is falling, so the first count is the greatest.
  cases sorted : tally.ranked with
  | nil =>
    rw [sorted] at ranked
    cases ranked
  | cons first rest =>
    rw [sorted] at ranked ordered
    rw [List.mem_cons] at ranked
    rcases ranked with same | inRest
    · rw [same]
      exact Int.le_refl _
    · exact (List.pairwise_cons.mp ordered).1 entry inRest

/-- The counts of a ranking are shares of the first one. -/
theorem ranged {tally : Tally} (nonneg : ∀ entry ∈ tally, 0 ≤ entry.2.count) :
    ∀ entry ∈ tally.ranked, 0 ≤ entry.2.count ∧ entry.2.count ≤ leadingCount tally.ranked := by
  intro entry member
  have inTally := (ranked_perm tally).mem_iff.mp member
  exact ⟨nonneg entry inTally, count_le_leadingCount inTally⟩

/-- The rows of the packages of a tally, the most used first. -/
def rows (tally : Tally) : Except NumberError (List (List Char)) :=
  entriesFrom (leadingCount tally.ranked) 1 tally.ranked

/-- The lines of a ranking around its rows. -/
def linesAround (rows : List (List Char)) (packages : Nat) (average : Binary64) : List (List Char) :=
  [[], "=== DEPENDENCY USAGE RANKING ===".toList, rule] ++ rows ++ [rule, [],
    "Total Dependencies: ".toList ++ Text.natDigits packages ++ " | Import Score: ".toList ++
      average.fixed 2]

theorem rows_ok {tally : Tally} (counted : ∀ entry ∈ tally, 0 ≤ entry.2.count ∧
    entry.2.count.natAbs < 10 ^ Text.digitLimit) : ∃ lines, rows tally = .ok lines := by
  refine ⟨_, entriesFrom_eq 1 (ranged fun entry member => (counted entry member).1) fun entry member => ?_⟩
  exact (counted entry ((ranked_perm tally).mem_iff.mp member)).2

theorem averageScore_ok {total directories : Int} (bound : Rat) (nonneg : 0 ≤ total)
    (positive : 0 < directories) (bounded : (total : Rat) ≤ bound * directories) (roomy : Roomy bound) :
    ∃ average, averageScore total directories = .ok average := by
  obtain ⟨average, divided, -⟩ := ofQuotient_atMost bound nonneg positive bounded roomy
  exact ⟨average, by unfold averageScore; rw [if_neg (by omega), divided]⟩

/-- A ranking is its rows, which come from the tally alone, and a summary with the average. -/
theorem ranking_eq {tally : Tally} {total directories : Int} {lines : List (List Char)}
    {average : Binary64} (written : rows tally = .ok lines)
    (averaged : averageScore total directories = .ok average) :
    ranking tally total directories = .ok (linesAround lines tally.length average) := by
  unfold ranking
  unfold rows at written
  dsimp only
  rw [written, ok_bind, averaged]
  rfl

theorem averageScore_of_converts {total directories : Int} {x : Binary64} (converted : ofInt total = .ok x)
    (nonneg : 0 ≤ total) (directoriesNonneg : 0 ≤ directories) :
    ∃ average, averageScore total directories = .ok average := by
  unfold averageScore
  split
  · exact ⟨_, rfl⟩
  rename_i nonzero
  have divisor : (1 : Rat) ≤ directories := by
    have positive : 1 ≤ directories := by omega
    exact_mod_cast positive
  have totalNonneg : (0 : Rat) ≤ total := by exact_mod_cast nonneg
  have finite : |rounded total| < overflowBound := by
    unfold ofInt at converted
    split at converted
    · rename_i sign magnitude computed
      exact abs_rounded_lt_of_finite computed
    · cases converted
  -- The quotient is not larger than the total, which did not overflow.
  have smaller : |(total / directories : Rat)| ≤ |(total : Rat)| := by
    rw [abs_div, abs_of_pos (by linarith : (0 : Rat) < directories)]
    exact div_le_self (abs_nonneg _) divisor
  obtain ⟨average, divided, -⟩ := ofQuotient_of_finite (by omega : 0 < directories)
    ((abs_rounded_mono smaller).trans_lt finite)
  exact ⟨average, divided⟩

end Report
end ProjectGauge
