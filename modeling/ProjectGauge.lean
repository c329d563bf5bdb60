import ProjectGauge.Imports.Source
import ProjectGauge.Usage.Reference
import ProjectGauge.Project.Analysis
import ProjectGauge.Project.Survey
import ProjectGauge.Report.Survey
import ProjectGauge.Store.Access
import ProjectGauge.Environment.Settings
import ProjectGauge.Command.Run
import ProjectGauge.Main
import ProjectGauge.Proofs.Script.Run
import ProjectGauge.Proofs.Command.Analyze
import ProjectGauge.Proofs.Imports.Declaration
import ProjectGauge.Proofs.Imports.Agreement
import ProjectGauge.Proofs.Store.Refinement
import ProjectGauge.Proofs.Project.Ranking
import ProjectGauge.Proofs.Project.Scan
import ProjectGauge.Proofs.Command.Undo
import ProjectGauge.Proofs.Text.Scan
import ProjectGauge.Proofs.Usage.Reference
import ProjectGauge.Proofs.Imports.References
import ProjectGauge.Proofs.Command.Frame
import ProjectGauge.Proofs.Project.Skipped
import ProjectGauge.Proofs.Usage.Expression
import ProjectGauge.Proofs.Usage.Calls
import ProjectGauge.Proofs.Project.ImportMap
import ProjectGauge.Proofs.Project.Failures
import ProjectGauge.Proofs.Score.Acceptance
import ProjectGauge.Proofs.Project.Analysis
import ProjectGauge.Proofs.Project.LineEnds
import ProjectGauge.Proofs.Report.Placing
