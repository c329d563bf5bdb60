import ProjectGauge.Proofs.Report.Ranking
import ProjectGauge.Proofs.Tally.Order

/-!
# Places in the ranking

A tally that additions have come to is ranked by count.  Since a share grows with its count, roundings or not,
the percentages fall with the counts, and the first package has all of its bar.

* `Placing` says which places the packages have, and `placing_ranked` that the ranking gives them these.
* `ranking_placed` says what the ranking of any additions without negative counts is.
-/

namespace ProjectGauge.Report

open Binary64
open Tally (NamedAddition ofNamed)

/-- The places of all packages that something has been added for, by count, and of those with the same count
the one first that something was added for first. -/
structure Placing (additions : List NamedAddition) (places : List Place) : Prop where
  entries : (places.map fun place => (place.name, place.entry)).Perm (ofNamed additions)
  distinct : (places.map Place.name).Nodup
  falling : places.Pairwise fun before behind => behind.entry.count ≤ before.entry.count
  stable : places.Pairwise fun before behind => behind.entry.count = before.entry.count →
    (additions.map NamedAddition.name).idxOf before.name < (additions.map NamedAddition.name).idxOf behind.name
  bars : ∀ place ∈ places, place.filled ≤ 30
  percentages : ∀ place ∈ places, place.tenths ≤ 1000
  percentagesFall : places.Pairwise fun before behind => behind.tenths ≤ before.tenths
  first : ∀ place ∈ places.head?, 0 < place.entry.count → place.filled = 30 ∧ place.tenths = 1000

variable {additions : List NamedAddition}

theorem nodup_names_ofNamed (additions : List NamedAddition) : ((ofNamed additions).map Prod.fst).Nodup := by
  rw [Tally.names_ofNamed]
  exact Json.nodup_eraseDups _

theorem count_nonneg_of_mem (counted : ∀ named ∈ additions, 0 ≤ named.dependency.count)
    {entry : String × TallyEntry} (member : entry ∈ ofNamed additions) : 0 ≤ entry.2.count := by
  have known := Json.lookup_of_mem (nodup_names_ofNamed additions) member
  rw [Tally.lookup_ofNamed] at known
  split at known
  · cases known
  · rw [← Option.some.inj known]
    apply List.sum_nonneg
    intro count isCount
    obtain ⟨named, isNamed, rfl⟩ := List.mem_map.mp isCount
    exact counted named (List.mem_of_mem_filter isNamed)

theorem leadingCount_nonneg (counted : ∀ named ∈ additions, 0 ≤ named.dependency.count) :
    0 ≤ leadingCount (ofNamed additions).ranked := by
  unfold leadingCount
  split
  · exact Int.le_refl 0
  · rename_i name entry rest sorted
    have first : (name, entry) ∈ (ofNamed additions).ranked := sorted ▸ List.mem_cons_self
    exact count_nonneg_of_mem counted ((ranked_perm _).mem_iff.mp first)

theorem pairwise_idxOf_ofNamed (additions : List NamedAddition) :
    (ofNamed additions).Pairwise fun before behind =>
      (additions.map NamedAddition.name).idxOf before.1 < (additions.map NamedAddition.name).idxOf behind.1 := by
  have order := Json.pairwise_eraseDups (additions.map NamedAddition.name)
  rwa [← Tally.names_ofNamed, List.pairwise_map] at order

theorem placing_ranked (counted : ∀ named ∈ additions, 0 ≤ named.dependency.count) :
    Placing additions
      ((ofNamed additions).ranked.map (placeOf (leadingCount (ofNamed additions).ranked))) := by
  have leading := leadingCount_nonneg counted
  have falling : (ofNamed additions).ranked.Pairwise fun before behind => behind.2.count ≤ before.2.count :=
    pairwise_mergeSort_key (fun entry : String × TallyEntry => entry.2.count) _
  have atMost : ∀ entry ∈ (ofNamed additions).ranked,
      entry.2.count ≤ leadingCount (ofNamed additions).ranked := fun entry member =>
    count_le_leadingCount ((ranked_perm _).mem_iff.mp member)
  -- Each place has the name and the entry that it was made of, so the order is that of the sort.
  exact {
    entries := by
      rw [List.map_map]
      exact (List.map_id _).symm ▸ ranked_perm _
    distinct := by
      rw [List.map_map]
      exact ((ranked_perm _).map Prod.fst).nodup_iff.mpr (nodup_names_ofNamed additions)
    falling := List.pairwise_map.mpr falling
    stable := by
      rw [List.pairwise_map, List.pairwise_iff_forall_sublist]
      intro before behind inside same
      exact List.pairwise_iff_forall_sublist.mp (pairwise_idxOf_ofNamed additions)
        (pair_sublist_of_mergeSort (fun entry : String × TallyEntry => entry.2.count) inside same)
    bars := by
      intro place member
      obtain ⟨entry, isEntry, rfl⟩ := List.mem_map.mp member
      exact filledCells_le (atMost entry isEntry) leading
    percentages := by
      intro place member
      obtain ⟨entry, isEntry, rfl⟩ := List.mem_map.mp member
      exact percentTenths_le (atMost entry isEntry) leading
    percentagesFall := List.pairwise_map.mpr (falling.imp fun ordered => percentTenths_mono ordered leading)
    first := by
      cases sorted : (ofNamed additions).ranked with
      | nil => simp
      | cons entry rest =>
        rintro place ⟨⟩ positive
        exact ⟨filledCells_self positive, percentTenths_self positive⟩ }

theorem ranking_tooManyDigits (counted : ∀ named ∈ additions, 0 ≤ named.dependency.count)
    (long : ∃ entry ∈ ofNamed additions, 10 ^ Text.digitLimit ≤ entry.2.count.natAbs) (total directories : Int) :
    ranking (ofNamed additions) total directories = .error .tooManyDigits := by
  obtain ⟨entry, member, tooLong⟩ := long
  have failed := entriesFrom_tooManyDigits 1 (ranged fun _ member => count_nonneg_of_mem counted member)
    ⟨entry, (ranked_perm _).mem_iff.mpr member, tooLong⟩
  rw [ranking]
  dsimp only
  rw [failed]
  rfl

/-- The ranking of additions without negative counts has two lines for each package, which has its place by
count, and six lines around them.  There is no ranking if and only if a package has come to a count of too many
digits. -/
theorem ranking_placed {total directories : Int}
    (counted : ∀ named ∈ additions, 0 ≤ named.dependency.count) (nonneg : 0 ≤ total)
    (converts : ∃ x, ofInt total = .ok x) (directoriesNonneg : 0 ≤ directories) :
    ((∀ entry ∈ ofNamed additions, entry.2.count.natAbs < 10 ^ Text.digitLimit) →
      ∃ places average lines, Placing additions places ∧ averageScore total directories = .ok average ∧
        ranking (ofNamed additions) total directories = .ok lines ∧
        lines = linesAround (placeLines 1 places) (ofNamed additions).length average ∧
        lines.length = 2 * (ofNamed additions).length + 6) ∧
    ((∃ entry ∈ ofNamed additions, 10 ^ Text.digitLimit ≤ entry.2.count.natAbs) →
      ranking (ofNamed additions) total directories = .error .tooManyDigits) := by
  refine ⟨fun short => ?_, fun long => ranking_tooManyDigits counted long total directories⟩
  obtain ⟨x, converted⟩ := converts
  obtain ⟨average, averaged⟩ := averageScore_of_converts converted nonneg directoriesNonneg
  have written := entriesFrom_eq 1 (ranged fun _ member => count_nonneg_of_mem counted member)
    fun entry member => short entry ((ranked_perm _).mem_iff.mp member)
  refine ⟨_, average, _, placing_ranked counted, averaged, ranking_eq written averaged, rfl, ?_⟩
  have places := length_placeLines 1
    ((ofNamed additions).ranked.map (placeOf (leadingCount (ofNamed additions).ranked)))
  rw [List.length_map, (ranked_perm _).length_eq] at places
  simp only [linesAround, List.length_append, places, List.length_cons, List.length_nil]
  omega

theorem ranking_placed_sample :
    ∃ places average lines, Placing Tally.sampleAdditions places ∧ averageScore 7 2 = .ok average ∧
      ranking (ofNamed Tally.sampleAdditions) 7 2 = .ok lines ∧
      lines = linesAround (placeLines 1 places) (ofNamed Tally.sampleAdditions).length average ∧
      lines.length = 10 :=
  (ranking_placed (by decide) (by decide) ⟨.finite false 7, by decide +kernel⟩ (by decide)).1 (by decide +kernel)

/-- Two additions under one name that come to one more than the greatest count that can be written. -/
def longAdditions : List NamedAddition :=
  [⟨"a", ⟨"a", "1", 10 ^ Text.digitLimit - 1⟩, "/p"⟩, ⟨"a", ⟨"a", "1", 1⟩, "/p"⟩]

theorem ranking_of_too_many_digits :
    (∀ named ∈ longAdditions, 0 ≤ named.dependency.count) ∧ ofInt 0 = .ok .zero ∧
      ranking (ofNamed longAdditions) 0 1 = .error .tooManyDigits := by
  have counted : ∀ named ∈ longAdditions, 0 ≤ named.dependency.count := by decide +kernel
  have long : ∃ entry ∈ ofNamed longAdditions, 10 ^ Text.digitLimit ≤ entry.2.count.natAbs := by decide +kernel
  exact ⟨counted, by decide +kernel, ranking_tooManyDigits counted long 0 1⟩

end ProjectGauge.Report
