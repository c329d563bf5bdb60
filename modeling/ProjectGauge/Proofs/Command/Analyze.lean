import ProjectGauge.Command.Run
import ProjectGauge.Proofs.Report.Survey
import ProjectGauge.Proofs.Store.Record

/-!
# Analyses of stored directories

An analysis goes through the stored directories and reports what it finds in each.  Nothing that is wrong
with one of them keeps the others from being reported, or the run from ending well.

* `analyze_reports_all`: a readable store is always reported in full, and a stored path that leads to no
  directory changes the average and its own block only.
-/

namespace ProjectGauge

open Files Console
open Json (usualRoom)

/-- The content of a text. -/
def contentOf (text : String) : Content :=
  .ofBytes (Text.Utf8.encode text.toList)

/-! ## What directories come to -/

/-- The surveys of some directories. -/
def surveys (world : World) (directories : List String) : List Survey :=
  directories.map fun directory =>
    (Project.survey world.system (world.clock directory) directory).value

/-- The dependencies that are found in some directories, each with the directory it is found in. -/
def dependenciesFound (system : System) (directories : List String) : List Tally.Addition :=
  directories.flatMap fun directory =>
    (Project.dependencies system (Path.parse directory.toList)).value.map fun dependency =>
      (dependency, directory)

/-- The number of all imports that are found in some directories. -/
def importsFound (system : System) (directories : List String) : Int :=
  (directories.map fun directory =>
    (Project.importsOrNone system (Path.parse directory.toList)).value.score).sum

theorem additions_surveys (world : World) (directories : List String) :
    (surveys world directories).flatMap Survey.additions =
      dependenciesFound world.system directories := by
  unfold surveys dependenciesFound
  rw [List.flatMap_map]
  rfl

theorem tally_surveys (world : World) (directories : List String) :
    Survey.tally (surveys world directories) =
      Tally.ofAdditions (dependenciesFound world.system directories) := by
  rw [Survey.tally_eq_ofAdditions, additions_surveys]

theorem importTotal_surveys (world : World) (directories : List String) :
    Survey.importTotal (surveys world directories) = importsFound world.system directories := by
  rw [Survey.importTotal_eq_sum, surveys, List.map_map]
  rfl

theorem importsFound_bounded (system : System) (directories : List String) :
    0 ≤ importsFound system directories ∧
      importsFound system directories ≤ system.root.volume * directories.length := by
  induction directories with
  | nil => exact ⟨Int.le_refl 0, Int.le_of_eq (by simp [importsFound])⟩
  | cons directory rest inductionHypothesis =>
    obtain ⟨sound, bounded⟩ := Project.imports_bounded system (Path.parse directory.toList)
    have nonneg := ImportMap.score_nonneg sound.counted
    have split : importsFound system (directory :: rest) =
        (Project.importsOrNone system (Path.parse directory.toList)).value.score +
          importsFound system rest := by
      simp [importsFound]
    rw [split, List.length_cons]
    push_cast
    rw [Int.mul_add, Int.mul_one]
    omega

/-! ## Reports -/

/-- What is reported of one directory. -/
def block (world : World) (top : Nat) (directory : String) : List Char :=
  Report.textOf (Report.surveyParts top
    (Project.survey world.system (world.clock directory) directory).value)

/-- The text of a report: a heading, a block for each directory, and the ranking. -/
def reportText (world : World) (top : Nat) (directories : List String) (rows : List (List Char))
    (packages : Nat) (average : Binary64) : List Char :=
  printedString "\nAnalyzing stored directories:\n" ++ directories.flatMap (block world top) ++
    '\n' :: (Report.linesAround rows packages average).flatMap printed

theorem product_lt_pow {exponent digits : Nat} (fewer : exponent + (1 + exponent) < digits) :
    2 ^ exponent * (2 * 2 ^ exponent) < 10 ^ digits := by
  calc 2 ^ exponent * (2 * 2 ^ exponent)
      = 2 ^ (exponent + (1 + exponent)) := by rw [Nat.pow_add, Nat.pow_add, Nat.pow_one]
    _ < 2 ^ digits := Nat.pow_lt_pow_right (by decide) fewer
    _ ≤ 10 ^ digits := Nat.pow_le_pow_left (by decide) _

/-- The counts of a tally have fewer digits than can be written. -/
theorem rows_of_surveys_ok {world : World} (small : world.system.root.volume < volumeLimit)
    {directories : List String} (few : directories.length ≤ world.system.root.volume) :
    ∃ rows, Report.rows (Survey.tally (surveys world directories)) = .ok rows := by
  apply Report.rows_ok
  have used : ∀ survey ∈ surveys world directories,
      Project.Used (2 * world.system.root.volume) survey.dependencies := by
    intro survey member
    obtain ⟨directory, -, same⟩ := List.mem_map.mp member
    rw [← same]
    exact Project.dependencies_used world.system (Path.parse directory.toList)
  intro entry member
  -- Each survey adds at most two references for a byte, and there are no more surveys than bytes.
  obtain ⟨nonneg, bounded⟩ := counts_of_tally used entry member
  refine ⟨nonneg, ?_⟩
  have surveysFew : (surveys world directories).length ≤ world.system.root.volume := by
    rw [surveys, List.length_map]
    exact few
  have product : (surveys world directories).length * (2 * world.system.root.volume) ≤
      2 ^ 1000 * (2 * 2 ^ 1000) :=
    Nat.mul_le_mul (Nat.le_trans surveysFew (Nat.le_of_lt small))
      (Nat.mul_le_mul_left 2 (Nat.le_of_lt small))
  have magnitude : entry.2.count.natAbs ≤
      (surveys world directories).length * (2 * world.system.root.volume) := by
    zify
    rw [abs_of_nonneg nonneg]
    exact_mod_cast bounded
  exact Nat.lt_of_le_of_lt (Nat.le_trans magnitude product)
    (product_lt_pow (by decide))

theorem roomy_of_volume {system : System} (small : system.root.volume < volumeLimit) :
    Binary64.Roomy ((2 * system.root.volume : Nat) : Rat) := by
  apply Binary64.roomy_of_le_twoPow
  have bounded : ((system.root.volume : Nat) : Rat) ≤ 2 ^ 1000 := by
    exact_mod_cast (show system.root.volume ≤ 2 ^ 1000 from Nat.le_of_lt small)
  calc ((2 * system.root.volume : Nat) : Rat)
      = 2 * (system.root.volume : Rat) := by push_cast; rfl
    _ ≤ 2 * 2 ^ 1000 := mul_le_mul_of_nonneg_left bounded (by norm_num)
    _ = 2 ^ 1001 := (pow_succ' 2 1000).symm
    _ ≤ 2 ^ 1022 := pow_le_pow_right₀ (by norm_num) (by norm_num)

theorem average_of_imports_ok {world : World} (small : world.system.root.volume < volumeLimit)
    {directories : List String} (some : directories ≠ []) :
    ∃ average, Report.averageScore (Survey.importTotal (surveys world directories))
      (surveys world directories).length = .ok average := by
  obtain ⟨nonneg, bounded⟩ := importsFound_bounded world.system directories
  rw [importTotal_surveys, surveys, List.length_map]
  refine Report.averageScore_ok ((2 * world.system.root.volume : Nat) : Rat) nonneg ?_ ?_
    (roomy_of_volume small)
  · exact Int.natCast_pos.mpr (List.length_pos_iff.mpr some)
  · have twice : importsFound world.system directories ≤
        ((2 * world.system.root.volume : Nat) : Int) * directories.length := by
      push_cast
      rw [Int.mul_assoc]
      have product : (0 : Int) ≤ world.system.root.volume * directories.length :=
        Int.mul_nonneg (Int.natCast_nonneg _) (Int.natCast_nonneg _)
      omega
    exact_mod_cast twice

theorem ofReport_of_computed (world : World) {parts : List Report.Part} {text : List Char}
    (computed : Report.untilFailure parts = (text, none)) :
    ofReport world parts = .success world text := by
  unfold ofReport
  rw [computed]

theorem analyzeAll_unfold (world : World) (top : Nat) (directories : List String) :
    analyzeAll world top directories = Outcome.after
      ((directories.map fun directory => Project.survey world.system (world.clock directory)
        directory).flatMap Noted.notes)
      (ofReport world (Report.analysisParts top (surveys world directories))) := by
  unfold analyzeAll surveys
  dsimp only
  rw [List.map_map]
  rfl

theorem surveys_whole {world : World} (small : world.system.root.volume < volumeLimit) (top : Nat)
    (directories : List String) :
    ∀ survey ∈ surveys world directories, Report.Whole (Report.surveyParts top survey) := by
  intro survey member
  obtain ⟨directory, -, same⟩ := List.mem_map.mp member
  rw [← same]
  exact Report.surveyParts_whole small top (world.clock directory) directory

theorem rankingPart_eq {surveys : List Survey} {rows : List (List Char)} {average : Binary64}
    (written : Report.rows (Survey.tally surveys) = .ok rows)
    (averaged : Report.averageScore (Survey.importTotal surveys) surveys.length = .ok average) :
    Report.rankingPart surveys =
      .ok ((Report.linesAround rows (Survey.tally surveys).length average).flatMap printed) := by
  unfold Report.rankingPart
  rw [Report.ranking_eq written averaged]
  rfl

/-- No part of a report fails once the rows and the average are there. -/
theorem untilFailure_analysisParts {world : World} (small : world.system.root.volume < volumeLimit)
    (top : Nat) {directories : List String} {rows : List (List Char)} {average : Binary64}
    (written : Report.rows (Survey.tally (surveys world directories)) = .ok rows)
    (averaged : Report.averageScore (Survey.importTotal (surveys world directories))
      (surveys world directories).length = .ok average) :
    Report.untilFailure (Report.analysisParts top (surveys world directories)) =
      (reportText world top directories rows (Survey.tally (surveys world directories)).length average,
        none) := by
  have each := surveys_whole small top directories
  have ranked := rankingPart_eq written averaged
  have split : Report.analysisParts top (surveys world directories) =
      [Report.linePart "\nAnalyzing stored directories:\n"] ++
        ((surveys world directories).flatMap (Report.surveyParts top) ++
          [.ok ['\n'], Report.rankingPart (surveys world directories)]) := rfl
  have headingWhole : Report.Whole [Report.linePart "\nAnalyzing stored directories:\n"] := by
    intro part member
    rw [List.mem_singleton] at member
    exact ⟨_, member⟩
  have surveysWhole := Report.Whole.flatMap each
  have endWhole : Report.Whole [.ok ['\n'], Report.rankingPart (surveys world directories)] := by
    intro part member
    simp only [List.mem_cons, List.not_mem_nil, or_false] at member
    rcases member with same | same
    · exact ⟨_, same⟩
    · exact ⟨_, same.trans ranked⟩
  have blocks : Report.textOf ((surveys world directories).flatMap (Report.surveyParts top)) =
      directories.flatMap (block world top) := by
    rw [Report.textOf_flatMap each, surveys, List.flatMap_map]
    rfl
  rw [Report.untilFailure_of_whole]
  · rw [split, Report.textOf_append headingWhole, Report.textOf_append surveysWhole, blocks, ranked,
      reportText, List.append_assoc]
    simp only [Report.linePart, Report.textOf, Report.untilFailure, List.append_nil,
      List.singleton_append]
  · rw [split]
    exact headingWhole.append (surveysWhole.append endWhole)

/-- Directories are reported in full if there are some and the tree is small enough. -/
theorem analyzeAll_eq {world : World} (small : world.system.root.volume < volumeLimit) (top : Nat)
    {directories : List String} (some : directories ≠ [])
    (few : directories.length ≤ world.system.root.volume) :
    ∃ rows average,
      Report.rows (Survey.tally (surveys world directories)) = .ok rows ∧
      Report.averageScore (Survey.importTotal (surveys world directories)) directories.length =
        .ok average ∧
      (analyzeAll world top directories).ending = .exit successCode ∧
      (analyzeAll world top directories).output = reportText world top directories rows
        (Survey.tally (surveys world directories)).length average := by
  obtain ⟨rows, written⟩ := rows_of_surveys_ok small few
  obtain ⟨average, averaged⟩ := average_of_imports_ok small some
  have analyzed := untilFailure_analysisParts small top written averaged
  refine ⟨rows, average, written, ?_, ?_, ?_⟩
  · rwa [surveys, List.length_map] at averaged
  · rw [analyzeAll_unfold, ofReport_of_computed world analyzed]
    rfl
  · rw [analyzeAll_unfold, ofReport_of_computed world analyzed]
    rfl

/-! ## Stored directories -/

/-- What holds of the outcome of an analysis: it ends well, its tally knows of each package what the
dependencies of all directories come to, its total is the sum of their imports, and it prints a block for
each directory and the ranking of the tally. -/
structure Analyzed (world : World) (top : Nat) (directories : List String) (outcome : Outcome) :
    Prop where
  succeeds : outcome.ending = .exit successCode
  tally : ∀ name, Json.lookup name (Survey.tally (surveys world directories)) =
    if Tally.additionsOf name (dependenciesFound world.system directories) = [] then none
    else some (Tally.gathered (Tally.additionsOf name (dependenciesFound world.system directories)))
  total : Survey.importTotal (surveys world directories) = importsFound world.system directories
  report : directories ≠ [] → ∃ rows average,
    Report.rows (Survey.tally (surveys world directories)) = .ok rows ∧
    Report.averageScore (Survey.importTotal (surveys world directories)) directories.length =
      .ok average ∧
    outcome.output = reportText world top directories rows
      (Survey.tally (surveys world directories)).length average

theorem perform_analyze {world : World} {file : Path} {stored : Noted Record} (top : Nat)
    (readable : Store.read usualRoom world.system file = .ok stored) (some : stored.value ≠ []) :
    perform world file (.analyze top) =
      Outcome.after stored.notes (analyzeAll world top stored.value) := by
  unfold perform analyzeDirectories
  rw [readable]
  dsimp only
  rw [if_neg (by simpa using some)]

theorem perform_analyzed {world : World} {file : Path} {stored : Noted Record} (top : Nat)
    (readable : Store.read usualRoom world.system file = .ok stored)
    (small : world.system.root.volume < volumeLimit) :
    Analyzed world top stored.value (perform world file (.analyze top)) := by
  have few := Store.length_read_le readable
  refine ⟨?_, ?_, importTotal_surveys world stored.value, ?_⟩
  · by_cases none : stored.value = []
    · -- Without directories there is a notice, and the run ends as well.
      unfold perform analyzeDirectories
      rw [readable]
      dsimp only
      rw [if_pos (by simpa using none)]
      rfl
    · obtain ⟨-, -, -, -, succeeds, -⟩ := analyzeAll_eq small top none few
      rw [perform_analyze top readable none]
      exact succeeds
  · intro name
    rw [tally_surveys]
    exact Tally.lookup_ofAdditions name (dependenciesFound world.system stored.value)
  · intro some
    obtain ⟨rows, average, written, averaged, -, printed⟩ := analyzeAll_eq small top some few
    refine ⟨rows, average, written, averaged, ?_⟩
    rw [perform_analyze top readable some]
    exact printed

theorem dependenciesFound_insert {system : System} {path : String}
    (absent : ¬ Project.Present system (Path.parse path.toList)) (before after : List String) :
    dependenciesFound system (before ++ path :: after) =
      dependenciesFound system (before ++ after) := by
  unfold dependenciesFound
  rw [List.flatMap_append, List.flatMap_cons, Project.dependencies_of_absent absent,
    List.flatMap_append]
  rfl

theorem importsFound_insert {system : System} {path : String}
    (absent : ¬ Project.Present system (Path.parse path.toList)) (before after : List String) :
    importsFound system (before ++ path :: after) = importsFound system (before ++ after) := by
  unfold importsFound
  rw [List.map_append, List.map_cons, List.sum_append, List.sum_cons,
    Project.imports_of_absent absent, ImportMap.score_nil, Int.zero_add, List.map_append,
    List.sum_append]

/-- What a stored path that leads to no directory changes of an analysis: its own block, and the number of
directories that the average is over.  The tally, its rows and the total of the imports are the same with
and without it. -/
structure Inserted (world : World) (top : Nat) (before : List String) (path : String)
    (after : List String) (without within : Outcome) : Prop where
  tally : Survey.tally (surveys world (before ++ path :: after)) =
    Survey.tally (surveys world (before ++ after))
  total : Survey.importTotal (surveys world (before ++ path :: after)) =
    Survey.importTotal (surveys world (before ++ after))
  report : ∃ rows average averageWithin,
    Report.averageScore (Survey.importTotal (surveys world (before ++ after)))
      (before ++ after).length = .ok average ∧
    Report.averageScore (Survey.importTotal (surveys world (before ++ after)))
      ((before ++ after).length + 1 : Nat) = .ok averageWithin ∧
    without.output = reportText world top (before ++ after) rows
      (Survey.tally (surveys world (before ++ after))).length average ∧
    within.output = reportText world top (before ++ path :: after) rows
      (Survey.tally (surveys world (before ++ after))).length averageWithin

/-- The analysis of a readable store always ends well, and reports all stored directories whatever they
look like.  A store that has one more path, which leads to no directory, has the same tally, the same
ranking and the same total of imports. -/
theorem analyze_reports_all {world : World} {file : Path} {stored : Noted Record} (top : Nat)
    (readable : Store.read usualRoom world.system file = .ok stored)
    (small : world.system.root.volume < volumeLimit) :
    Analyzed world top stored.value (perform world file (.analyze top)) ∧
    ∀ {other : Path} {longer : Noted Record} (before after : List String) (path : String),
      Store.read usualRoom world.system other = .ok longer →
      stored.value = before ++ after → stored.value ≠ [] → longer.value = before ++ path :: after →
      ¬ Project.Present world.system (Path.parse path.toList) →
      Inserted world top before path after (perform world file (.analyze top))
        (perform world other (.analyze top)) := by
  have analyzed := perform_analyzed top readable small
  refine ⟨analyzed, ?_⟩
  -- Both runs are analyzed alone; what they have in common is found by comparing the lists.
  intro other longer before after path otherReadable split some longerSplit absent
  have otherAnalyzed := perform_analyzed top otherReadable small
  rw [split] at analyzed some
  rw [longerSplit] at otherAnalyzed
  have tally : Survey.tally (surveys world (before ++ path :: after)) =
      Survey.tally (surveys world (before ++ after)) := by
    rw [tally_surveys, tally_surveys, dependenciesFound_insert absent]
  have total : Survey.importTotal (surveys world (before ++ path :: after)) =
      Survey.importTotal (surveys world (before ++ after)) := by
    rw [importTotal_surveys, importTotal_surveys, importsFound_insert absent]
  have longerByOne : (before ++ path :: after).length = (before ++ after).length + 1 := by
    simp only [List.length_append, List.length_cons]
    omega
  obtain ⟨rows, average, written, averaged, printed⟩ := analyzed.report some
  obtain ⟨otherRows, averageWithin, otherWritten, otherAveraged, otherPrinted⟩ :=
    otherAnalyzed.report (by simp)
  rw [tally] at otherWritten otherPrinted
  rw [total, longerByOne] at otherAveraged
  have sameRows : otherRows = rows := Except.ok.inj (otherWritten.symm.trans written)
  rw [sameRows] at otherPrinted
  exact ⟨tally, total, rows, average, averageWithin, averaged, otherAveraged, printed, otherPrinted⟩

/-! ## A sample -/

/-- A tree with a project in `/p`, a store `/s` that names it, and a store `/t` that also names `/x`. -/
def sampleTree : Listing :=
  .directory ['p']
    (.file "package.json".toList
      (contentOf "\x7b\x22dependencies\x22:\x7b\x22a\x22:\x22^1\x22\x7d\x7d")
      (.file "index.js".toList (contentOf "import 'a';\nrequire('a');\n") .nil))
    (.file ['s'] (contentOf "\x7b\x22directories\x22:[\x22/p\x22]\x7d")
      (.file ['t'] (contentOf "\x7b\x22directories\x22:[\x22/x\x22,\x22/p\x22]\x7d") .nil))

/-- A world with the sample tree, in which no time passes. -/
def sampleWorld : World :=
  ⟨⟨sampleTree, []⟩, ⟨[], [], ""⟩, fun _ => ⟨.whole 0, .whole 0⟩⟩

theorem sample_small : sampleWorld.system.root.volume < volumeLimit := by
  have volume : sampleWorld.system.root.volume = 102 := by decide +kernel
  have exponential : ∀ n, n < 2 ^ n := fun _ => Nat.lt_two_pow_self
  rw [volume]
  exact Nat.lt_trans (by decide : 102 < 1000) (exponential 1000)

theorem sample_absent : ¬ Project.Present sampleWorld.system (Path.parse "/x".toList) := by
  rintro ⟨base, resolved, isDirectory⟩
  have place : sampleWorld.system.resolve (Path.parse "/x".toList) = .ok ⟨.root, [['x']]⟩ := by decide +kernel
  have nothing : sampleWorld.system.isDirectory? ⟨.root, [['x']]⟩ = .ok false := by decide +kernel
  rw [place] at resolved
  cases resolved
  rw [nothing] at isDirectory
  cases isDirectory

/-- The sample store is reported in full, and the path that leads nowhere changes as little as it may. -/
theorem analyze_reports_all_sample :
    Analyzed sampleWorld 10 ["/p"] (perform sampleWorld ⟨.root, [['s']]⟩ (.analyze 10)) ∧
      Inserted sampleWorld 10 [] "/x" ["/p"] (perform sampleWorld ⟨.root, [['s']]⟩ (.analyze 10))
        (perform sampleWorld ⟨.root, [['t']]⟩ (.analyze 10)) := by
  have readable : Store.read usualRoom sampleWorld.system ⟨.root, [['s']]⟩ = .ok (.plain ["/p"]) :=
    Store.read_of_record (by decide +kernel)
  have otherReadable : Store.read usualRoom sampleWorld.system ⟨.root, [['t']]⟩ = .ok (.plain ["/x", "/p"]) :=
    Store.read_of_record (by decide +kernel)
  obtain ⟨analyzed, inserted⟩ := analyze_reports_all 10 readable sample_small
  exact ⟨analyzed, inserted [] ["/p"] "/x" otherReadable rfl (by decide) rfl sample_absent⟩

end ProjectGauge
