import ProjectGauge.Number.Shortest
import ProjectGauge.Dependency
import ProjectGauge.Text.Pad

/-!
# Bars

A bar shows a count as a share of the greatest count: the share times the width in cells, rounded
half up. The bars of a ranking have a fixed width and show their empty cells; those of a usage chart
have filled cells only, with the count behind them.
-/

namespace ProjectGauge.Report

def barCells : Int := 30

/-- The rounded number of cells for a count; without a greatest count there are none. -/
def share (count greatest width : Int) : Except NumberError Int := do
  if greatest = 0 then return 0
  let quotient ← Binary64.ofQuotient count greatest
  (quotient.mul (← Binary64.ofInt width)).roundHalfUp

/-- A run of equal cells; none for a negative number. -/
def cellRun (n : Int) (cell : Char) : List Char :=
  List.replicate n.toNat cell

/-- The bar of a ranking: filled and empty cells that make up the width. -/
def rankingBar (count greatest width : Int) : Except NumberError (List Char) := do
  let filled := max 0 (min (← share count greatest width) width)
  return cellRun filled '█' ++ cellRun (width - filled) '░'

def greatestCount : List Dependency → Int
  | [] => 0
  | first :: rest => rest.foldl (fun greatest dependency => max greatest dependency.count) first.count

def usageLine (nameWidth : Nat) (greatest : Int) (dependency : Dependency) :
    Except NumberError (List Char) := do
  let filled ← share dependency.count greatest barCells
  return Text.padRight nameWidth dependency.name.toList ++ ' ' :: '|' :: cellRun filled '─' ++
    Text.intText dependency.count

def usageChart (dependencies : List Dependency) : Except NumberError (List (List Char)) :=
  if dependencies.isEmpty then .ok ["No dependencies found".toList]
  else
    let nameWidth := Text.widest (dependencies.map fun dependency => dependency.name.toList)
    dependencies.mapM (usageLine nameWidth (greatestCount dependencies))

def usageChartText (dependencies : List Dependency) : Except NumberError String := do
  return "\n".intercalate ((← usageChart dependencies).map String.ofList)

end ProjectGauge.Report
