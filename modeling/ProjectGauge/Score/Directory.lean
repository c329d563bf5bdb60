import ProjectGauge.Number.Measure

/-!
# Directory scores

The score of a directory starts from ten points and adds points for its top-level entries, its
size, its age, its used dependencies and its imports, each up to a limit of its own; the whole is
limited to a hundred. Age costs one point for every thirty days.
-/

namespace ProjectGauge.DirectoryScore

/-- The points of every directory. -/
def basePoints : Int := 10

/-- The most points for top-level entries. -/
def maxFilePoints : Int := 30

/-- The most points for the size in megabytes. -/
def maxSizePoints : Int := 30

/-- The points of a new directory. -/
def maxAgePoints : Int := 30

def daysPerAgePoint : Nat := 30

def pointsPerDependency : Int := 3

/-- The most points for used dependencies. -/
def maxDependencyPoints : Int := 15

def maxImportPoints : Int := 15

/-- The highest score. -/
def maxScore : Int := 100

def bytesPerMegabyte : Nat := 1048576

def secondsPerDay : Nat := 86400

/-- The points for a number of top-level entries. -/
def filePoints (fileCount : Int) : Int :=
  min fileCount maxFilePoints

def sizePoints (megabytes : Measure) : Except NumberError Int := do
  return min (← megabytes.floor) maxSizePoints

def agePoints (days : Measure) : Except NumberError Int := do
  let spent ← (← days.dividedBy daysPerAgePoint).floor
  return max (maxAgePoints - spent) 0

/-- The points for a number of used dependencies. -/
def dependencyPoints (dependencyCount : Int) : Int :=
  min (dependencyCount * pointsPerDependency) maxDependencyPoints

def importPoints (imports : Int) : Int :=
  min imports maxImportPoints

/-- The score of a directory. -/
def compute (fileCount : Int) (megabytes days : Measure) (dependencyCount imports : Int) :
    Except NumberError Int := do
  let size ← sizePoints megabytes
  let age ← agePoints days
  return min
    (basePoints + filePoints fileCount + size + age + dependencyPoints dependencyCount +
      importPoints imports) maxScore

end ProjectGauge.DirectoryScore
