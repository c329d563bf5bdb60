import ProjectGauge.Report.Bar
import ProjectGauge.Tally

/-!
# The dependency ranking

The report over all directories: two lines for each package of the tally, the most used first, and
a summary with the average import score. A package has a bar and a percentage of the count of the
first one.
-/

namespace ProjectGauge.Report

/-- The rule above and below the entries. -/
def rule : List Char := List.replicate 65 '─'

/-- The text of a count, which must not have too many digits. -/
def countText (count : Int) : Except NumberError (List Char) :=
  if Text.digitLimit < (Text.natDigits count.natAbs).length then .error .tooManyDigits
  else .ok (Text.intText count)

/-- A count as a percentage of the greatest count, with one decimal place. -/
def percentage (count greatest : Int) : Except NumberError Binary64 := do
  if greatest = 0 then return .zero
  return (← Binary64.ofQuotient count greatest).mul (← Binary64.ofInt 100)

/-- The two lines of a package with its place in the ranking. -/
def entryLines (greatest : Int) (place : Nat) (name : String) (entry : TallyEntry) :
    Except NumberError (List (List Char)) := do
  let part ← percentage entry.count greatest
  let bar ← rankingBar entry.count greatest barCells
  let count ← countText entry.count
  let head := Text.padLeft 2 (Text.natDigits place) ++ ". ".toList ++
    Text.padRight 15 name.toList ++ ' ' :: bar ++ ' ' :: count ++
    " (".toList ++ part.fixed 1 ++ "%)".toList
  let versions := ", ".intercalate entry.versions
  let tail := "    v".toList ++ versions.toList ++ " | ".toList ++
    Text.natDigits entry.directories.length ++ " dirs".toList
  return [head, tail]

/-- The lines of all packages, numbered from a place on. -/
def entriesFrom (greatest : Int) (place : Nat) : List (String × TallyEntry) →
    Except NumberError (List (List Char))
  | [] => .ok []
  | (name, entry) :: rest => do
    let lines ← entryLines greatest place name entry
    return lines ++ (← entriesFrom greatest (place + 1) rest)

def averageScore (total directories : Int) : Except NumberError Binary64 :=
  if directories = 0 then .ok .zero else Binary64.ofQuotient total directories

/-- The count of the first entry of a ranking. -/
def leadingCount : List (String × TallyEntry) → Int
  | [] => 0
  | (_, entry) :: _ => entry.count

/-- The lines of the ranking. -/
def ranking (tally : Tally) (totalImportScore directories : Int) :
    Except NumberError (List (List Char)) := do
  let ranked := tally.ranked
  let entries ← entriesFrom (leadingCount ranked) 1 ranked
  let average ← averageScore totalImportScore directories
  let summary := "Total Dependencies: ".toList ++ Text.natDigits tally.length ++
    " | Import Score: ".toList ++ average.fixed 2
  return [[], "=== DEPENDENCY USAGE RANKING ===".toList, rule] ++ entries ++ [rule, [], summary]

end ProjectGauge.Report
