import ProjectGauge.Dependency

/-!
# Tallies

A tally gathers the dependencies of several directories by package name: the sum of the reference
counts, the distinct versions and the distinct directories, each in the order in which they were
first seen. Names stand in the order of their first addition.
-/

namespace ProjectGauge

/-- What a tally knows of one package. -/
structure TallyEntry where
  count : Int
  versions : List String
  directories : List String
  deriving DecidableEq

/-- A list with an item at its end unless it is there already. -/
def insertNew [DecidableEq α] (item : α) (items : List α) : List α :=
  if item ∈ items then items else items ++ [item]

namespace TallyEntry

/-- The entry of a package that nothing has been added for. -/
def empty : TallyEntry := ⟨0, [], []⟩

def add (entry : TallyEntry) (dependency : Dependency) (directory : String) : TallyEntry :=
  { count := entry.count + dependency.count
    versions := insertNew dependency.version entry.versions
    directories := insertNew directory entry.directories }

end TallyEntry

/-- Entries by package name. -/
abbrev Tally := List (String × TallyEntry)

namespace Tally

/-- The entry of a package; one without additions has the empty entry. -/
def entry (tally : Tally) (name : String) : TallyEntry :=
  (Json.lookup name tally).getD .empty

def add (tally : Tally) (dependency : Dependency) (directory : String) : Tally :=
  Json.put dependency.name ((tally.entry dependency.name).add dependency directory) tally

/-- The entries by count, the highest first and equal ones in the order of the tally. -/
def ranked (tally : Tally) : List (String × TallyEntry) :=
  tally.mergeSort fun a b => b.2.count ≤ a.2.count

end Tally
end ProjectGauge
