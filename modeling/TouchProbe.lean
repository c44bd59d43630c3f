import TouchProbe.Journal.Template
import TouchProbe.Main
import TouchProbe.Proofs.AtomicWrites
import TouchProbe.Proofs.CommandLoop
import TouchProbe.Proofs.ExitStatuses
import TouchProbe.Proofs.Exponents
import TouchProbe.Proofs.MaximalRuns
import TouchProbe.Proofs.PaddedLines
import TouchProbe.Proofs.PlannedMotions
import TouchProbe.Proofs.PlannedTargets
import TouchProbe.Proofs.Problems
import TouchProbe.Proofs.Retreats
import TouchProbe.Proofs.SetupBanner
import TouchProbe.Proofs.ToolSizes
import TouchProbe.Proofs.UndoneEdits
import TouchProbe.Proofs.WordLines
