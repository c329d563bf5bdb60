import ProjectGauge.Proofs.Score.Exact
import ProjectGauge.Proofs.Score.Range

/-!
# Which values have scores

Two JSON values have scores if and only if they hold signals, and all others are refused as inputs: as long
as their numbers and lists are of a size that can be met with, no sum overflows.

* `Json.Value.parts` looks into a value; `IsModerate` and `CountIsModerate` bound what is inside.
* `absoluteScore_le` bounds what moderate signals add up to.
* `ofValues_decides` says which values have scores.
-/

namespace ProjectGauge

/-! ## The parts of a value -/

namespace Json

mutual

/-- A value and all values inside it. -/
def Value.parts : Value → List Value
  | .array items => .array items :: partsOfItems items
  | .object members => .object members :: partsOfMembers members
  | value => [value]

def partsOfItems : List Value → List Value
  | [] => []
  | item :: rest => item.parts ++ partsOfItems rest

def partsOfMembers : List (String × Value) → List Value
  | [] => []
  | (_, value) :: rest => value.parts ++ partsOfMembers rest

end

theorem Value.self_mem_parts (value : Value) : value ∈ value.parts := by
  cases value <;> simp [parts]

theorem mem_parts_array {items : List Value} {item part : Value} (member : item ∈ items)
    (inside : part ∈ item.parts) : part ∈ (Value.array items).parts := by
  rw [Value.parts]
  apply List.mem_cons_of_mem
  induction items with
  | nil => cases member
  | cons first rest inductionHypothesis =>
    rw [partsOfItems, List.mem_append]
    rcases List.mem_cons.mp member with rfl | later
    · exact .inl inside
    · exact .inr (inductionHypothesis later)

theorem mem_parts_object {members : List (String × Value)} {name : String} {value part : Value}
    (found : lookup name members = some value) (inside : part ∈ value.parts) :
    part ∈ (Value.object members).parts := by
  rw [Value.parts]
  apply List.mem_cons_of_mem
  induction members with
  | nil => cases found
  | cons first rest inductionHypothesis =>
    obtain ⟨key, other⟩ := first
    rw [partsOfMembers, List.mem_append]
    rw [lookup] at found
    split at found
    · cases found
      exact .inl inside
    · exact .inr (inductionHypothesis found)

/-! ## Sizes that can be met with -/

/-- An integer, or a list, that is not beyond all measure. -/
def Value.IsModerate : Value → Prop
  | .int n => n.natAbs < 2 ^ 900
  | .array items => items.length < 2 ^ 60
  | _ => True

/-- The same of the integer that a count of imports stands for. -/
def Value.CountIsModerate : Value → Prop
  | .object members =>
    ∀ n ∈ (lookup "usage_count" members).bind fun value => value.toInteger.toOption, n.natAbs < 2 ^ 900
  | _ => True

instance : DecidablePred Value.IsModerate
  | .int n => inferInstanceAs (Decidable (n.natAbs < 2 ^ 900))
  | .array items => inferInstanceAs (Decidable (items.length < 2 ^ 60))
  | .null | .bool _ | .real _ | .text _ | .object _ => inferInstanceAs (Decidable True)

instance : DecidablePred Value.CountIsModerate
  | .object members => inferInstanceAs (Decidable (∀ n ∈ (lookup "usage_count" members).bind _, _))
  | .null | .bool _ | .int _ | .real _ | .text _ | .array _ => inferInstanceAs (Decidable True)

end Json

namespace PackageScore

/-! ## Moderate signals -/

theorem sum_map_le {counts : List Int} {size bound : Nat} (few : counts.length ≤ size)
    (worth : Int → Nat) (each : ∀ count ∈ counts, worth count ≤ bound) :
    (counts.map worth).sum ≤ size * bound := by
  have bounded : ∀ points ∈ counts.map worth, points ≤ bound := by simpa using each
  calc (counts.map worth).sum
      ≤ (counts.map worth).length * bound := by
        simpa using List.sum_le_card_nsmul (counts.map worth) bound bounded
    _ ≤ size * bound := by
        rw [List.length_map]
        exact Nat.mul_le_mul_right bound few

/-- Few signals with small counts do not add up to much. -/
theorem absoluteScore_le {usages : List (String × Int)} {imports : ImportSignals} {size bound : Nat}
    (fewUsages : usages.length ≤ size) (fewDirect : imports.direct.length ≤ size)
    (fewEntries : imports.entries.length ≤ size) (references : ∀ usage ∈ usages, usage.2.natAbs ≤ bound)
    (counts : ∀ entry ∈ imports.entries, entry.usageCount.natAbs ≤ bound) (package : String) :
    absoluteScore usages imports package ≤ size * (7 * bound + 55) := by
  have ofUsages : ((countsOf package usages).map fun count => (2 * count).natAbs).sum ≤
      size * (2 * bound) := by
    apply sum_map_le
    · rw [countsOf, List.length_map]
      exact (List.length_filter_le _ _).trans fewUsages
    · intro count member
      obtain ⟨usage, isUsage, rfl⟩ := List.mem_map.mp member
      have small := references usage (List.mem_of_mem_filter isUsage)
      omega
  have ofDirect : imports.direct.count package ≤ size := List.count_le_length.trans fewDirect
  have ofEntries : ((importCountsOf package imports.entries).map fun count => (5 * count).natAbs).sum ≤
      size * (5 * bound) := by
    apply sum_map_le
    · rw [importCountsOf, List.length_map]
      exact (List.length_filter_le _ _).trans fewEntries
    · intro count member
      obtain ⟨entry, isEntry, rfl⟩ := List.mem_map.mp member
      have small := counts entry (List.mem_of_mem_filter isEntry)
      omega
  have flags : flagsOf package imports.entries ≤ size := List.countP_le_length.trans fewEntries
  calc absoluteScore usages imports package
      ≤ size * (2 * bound) + 30 * size + size * (5 * bound) + 25 * size := by
        unfold absoluteScore
        omega
    _ = size * (7 * bound + 55) := by ring

theorem moderate_lt_pointsLimit : 2 ^ 60 * (7 * 2 ^ 900 + 55) < pointsLimit := by
  have split : pointsLimit = 2 ^ 60 * (2 ^ 60 * 2 ^ 900) := by
    rw [pointsLimit, ← pow_add, ← pow_add]
  have one : 0 < 2 ^ 900 := by positivity
  rw [split]
  -- The power is too large to be computed with, so it gets a name.
  generalize 2 ^ 900 = limit at one ⊢
  omega

/-! ## Moderate values -/

variable {usages imports : Json.Value}

theorem IsUsages.moderate {pairs : List (String × Int)} (isUsages : IsUsages usages pairs)
    (moderate : ∀ part ∈ usages.parts, part.IsModerate) :
    pairs.length ≤ 2 ^ 60 ∧ ∀ usage ∈ pairs, usage.2.natAbs ≤ 2 ^ 900 := by
  obtain ⟨each⟩ := isUsages
  have few := moderate _ (Json.Value.self_mem_parts _)
  refine ⟨each.length_eq ▸ Nat.le_of_lt few, fun usage member => ?_⟩
  have items : List.Forall₂ (fun usage item => IsUsage item usage) pairs _ := each.flip
  obtain ⟨_, isItem, ⟨package, count⟩⟩ := exists_mem_of_forall₂ items usage member
  have inside : .int count ∈ (Json.Value.array [package, .int count]).parts :=
    Json.mem_parts_array (by simp) (Json.Value.self_mem_parts _)
  exact Nat.le_of_lt (moderate _ (Json.mem_parts_array isItem inside))

theorem IsEntry.moderate {item : Json.Value} {entry : ImportEntry} (isEntry : IsEntry item entry)
    (counted : item.CountIsModerate) : entry.usageCount.natAbs ≤ 2 ^ 900 := by
  obtain ⟨-, usageCount, -⟩ := isEntry
  -- The count is a variable for the case analysis, in which an absent one is zero.
  generalize entry.usageCount = count at usageCount
  cases usageCount with
  | given found stands =>
    apply Nat.le_of_lt
    apply counted
    rw [found, Option.mem_def, Option.bind_some, Json.toInteger_eq_ok.mpr stands]
    rfl
  | absent => exact Nat.zero_le _

theorem IsImports.moderate {signals : ImportSignals} (isImports : IsImports imports signals)
    (moderate : ∀ part ∈ imports.parts, part.IsModerate)
    (counted : ∀ part ∈ imports.parts, part.CountIsModerate) :
    signals.direct.length ≤ 2 ^ 60 ∧ signals.entries.length ≤ 2 ^ 60 ∧
      ∀ entry ∈ signals.entries, entry.usageCount.natAbs ≤ 2 ^ 900 := by
  obtain ⟨direct, entries, each⟩ := isImports
  have fewDirect : (signals.direct.map Json.Value.text).length < 2 ^ 60 :=
    moderate _ (Json.mem_parts_object direct (Json.Value.self_mem_parts _))
  have fewEntries := moderate _ (Json.mem_parts_object entries (Json.Value.self_mem_parts _))
  rw [List.length_map] at fewDirect
  refine ⟨Nat.le_of_lt fewDirect, each.length_eq ▸ Nat.le_of_lt fewEntries, fun entry member => ?_⟩
  have items : List.Forall₂ (fun entry item => IsEntry item entry) signals.entries _ := each.flip
  obtain ⟨item, isItem, isEntry⟩ := exists_mem_of_forall₂ items entry member
  apply isEntry.moderate
  apply counted
  exact Json.mem_parts_object entries (Json.mem_parts_array isItem (Json.Value.self_mem_parts _))

/-- Where there is room for the items of the usages, scores come of values if and only if these hold signals;
other values are refused, and there is no other error. -/
theorem ofValues_decides {room : Nat} (roomy : usages.height ≤ room + 1)
    (usagesModerate : ∀ part ∈ usages.parts, part.IsModerate)
    (importsModerate : ∀ part ∈ imports.parts, part.IsModerate)
    (counted : ∀ part ∈ imports.parts, part.CountIsModerate) :
    ((∃ scores, ofValues room usages imports = .ok scores) ↔
      (∃ pairs, IsUsages usages pairs) ∧ ∃ signals, IsImports imports signals) ∧
    (¬ ((∃ pairs, IsUsages usages pairs) ∧ ∃ signals, IsImports imports signals) →
      ∃ error, ofValues room usages imports = .error (.input error)) := by
  refine ⟨⟨?_, ?_⟩, ofValues_refuses roomy⟩
  · rintro ⟨scores, scored⟩
    have ofValue : ofSource room usages (.value imports) = .ok scores := scored
    obtain ⟨pairs, signals, isUsages, ⟨isImports⟩, -⟩ := exists_of_ofSource ofValue
    exact ⟨⟨pairs, isUsages⟩, signals, isImports⟩
  · rintro ⟨⟨pairs, isUsages⟩, signals, isImports⟩
    obtain ⟨fewUsages, references⟩ := isUsages.moderate usagesModerate
    obtain ⟨fewDirect, fewEntries, counts⟩ := isImports.moderate importsModerate counted
    have scored : ∀ package, ∃ n, scoreOf pairs signals package = .ok n := by
      intro package
      apply scoreOf_ok
      rw [weight_additions]
      exact (absoluteScore_le fewUsages fewDirect fewEntries references counts package).trans_lt
        moderate_lt_pointsLimit
    obtain ⟨scores, ranked⟩ := rank_ok scored
    exact ⟨scores, (ofSource_eq (packagesFit_of_height roomy) isUsages (.value isImports)).trans
      (mapError_eq_ok.mpr ranked)⟩

/-- The sample is moderate, so that it has scores. -/
theorem ofValues_decides_sample : ∃ scores, ofValues 2 sampleUsages sampleImports = .ok scores := by
  have roomy : sampleUsages.height ≤ 2 + 1 := by decide +kernel
  have usagesModerate : ∀ part ∈ sampleUsages.parts, part.IsModerate := by decide +kernel
  have importsModerate : ∀ part ∈ sampleImports.parts, part.IsModerate := by decide +kernel
  have counted : ∀ part ∈ sampleImports.parts, part.CountIsModerate := by decide +kernel
  exact (ofValues_decides roomy usagesModerate importsModerate counted).1.mpr
    ⟨⟨_, isUsages_sample.2⟩, _, isImports_sample⟩

/-- A list in a list, and so on. -/
def nested : Nat → Json.Value
  | 0 => .int 1
  | depth + 1 => .array [nested depth]

theorem height_nested (depth : Nat) : (nested depth).height = depth + 1 := by
  induction depth with
  | zero => rfl
  | succ depth inductionHypothesis =>
    rw [nested, Json.Value.height, Json.heightOfItems, inductionHypothesis, Json.heightOfItems]
    omega

/-- What has no room to be written out is not refused as an input, although it is no pair. -/
theorem ofValues_nested (room : Nat) (imports : Json.Value) :
    ofValues room (.array [nested room]) imports = .error .tooDeep := by
  have noRoom : ¬ (nested room).height ≤ room := by
    rw [height_nested]
    omega
  have fails : readUsage room (nested room) = .error .tooDeep := by
    cases room with
    | zero => rfl
    | succ room => exact congrArg Except.error (if_neg noRoom)
  rw [ofValues, readUsages, List.mapM_cons, fails]
  rfl

/-- The imports of a package with a count. -/
def importsWith (count : Json.Value) : Json.Value :=
  .object [("direct_deps", .array [.text "a"]),
    ("import_analysis", .array [.object [("package", .text "a"), ("usage_count", count)]])]

theorem ofValues_importsWith {room : Nat} {count : Json.Value} {problem : Json.Problem}
    (refused : count.toInteger = .error problem) :
    ofValues room (.array [.array [.text "a", .int 1]]) (importsWith count) =
      .error (.input (.invalidImports
        [⟨[.field "import_analysis", .item 0, .field "usage_count"], problem⟩])) := by
  have signals : readImports (importsWith count) =
      .error (.invalidImports [⟨[.field "import_analysis", .item 0, .field "usage_count"], problem⟩]) := by
    simp [readImports, importsWith, requireList, readSignals, readEntry, Json.lookup, Json.optionalField,
      Json.requiredField, Json.listOf, Json.checkItems, Json.scalar, Json.both, Json.under, Json.issuesOf,
      Json.Value.toText, refused, Except.map]
  have read : readUsages room (.array [.array [.text "a", .int 1]]) = .ok [("a", 1)] := by
    rw [readUsages_eq_ok]
    exact ⟨by simp [PackagesFit, PackageFits, Json.Value.plainHeight], .list (.cons (.pair _ _) .nil)⟩
  rw [ofValues, read, ok_bind, signals]
  rfl

/-- A number without a fraction is an integer, but not as a count if it needs more than a machine word: this
one is refused.  And a list that is no pair leads to another failure if it is too deep to be shown. -/
theorem ofValues_large_or_deep :
    (Binary64.ofDecimal false 1 19).integer? = some (10 ^ 19) ∧
      ofValues 1000 (.array [.array [.text "a", .int 1]]) (importsWith (.real (.ofDecimal false 1 19))) =
        .error (.input (.invalidImports
          [⟨[.field "import_analysis", .item 0, .field "usage_count"], .integerTooLong⟩])) ∧
      ∀ room, ofValues room (.array [nested room]) sampleImports = .error .tooDeep := by
  refine ⟨by decide +kernel, ofValues_importsWith (by decide +kernel), fun room => ?_⟩
  exact ofValues_nested room sampleImports

end PackageScore
end ProjectGauge
