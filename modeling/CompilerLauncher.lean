import CompilerLauncher.CommandLine.Spill
import CompilerLauncher.CommandLine.Split
import CompilerLauncher.Launch.Job
import CompilerLauncher.Main
import CompilerLauncher.ScriptShell
import CompilerLauncher.Text.Shown
import CompilerLauncher.Proofs.LineSplitting
import CompilerLauncher.Proofs.ResponseSplitting
import CompilerLauncher.Proofs.UnescapedLead
import CompilerLauncher.Proofs.ApplicationPath
import CompilerLauncher.Proofs.FileMaking
import CompilerLauncher.Proofs.ResponseFileMaking
import CompilerLauncher.Proofs.Overflow
import CompilerLauncher.Proofs.SinkPlacement
import CompilerLauncher.Proofs.SignalDelivery
import CompilerLauncher.Proofs.SelfExclusion
import CompilerLauncher.Proofs.CallerState
import CompilerLauncher.Proofs.FirstFailure
import CompilerLauncher.Proofs.ResourceLedger
import CompilerLauncher.Proofs.SpilledFile
import CompilerLauncher.Proofs.HandleRelease
import CompilerLauncher.Proofs.ChildFate
import CompilerLauncher.Proofs.Forwarding
import CompilerLauncher.Proofs.ExitStatus
import CompilerLauncher.Proofs.Replacement
import CompilerLauncher.Proofs.CutArguments
import CompilerLauncher.Proofs.StrictReading
import CompilerLauncher.Proofs.SignalDeath
import CompilerLauncher.Proofs.SearchSources
import CompilerLauncher.Proofs.DirectoryCandidates
import CompilerLauncher.Proofs.SearchComposition
import CompilerLauncher.Proofs.GuardNesting
import CompilerLauncher.Proofs.UncarriedVectors
import CompilerLauncher.Proofs.ScriptDetection
import CompilerLauncher.Proofs.ShellChoice
import CompilerLauncher.Proofs.SuspendedWait
import CompilerLauncher.Proofs.OptionGrammar
import CompilerLauncher.Proofs.SettingsLayers
import CompilerLauncher.Proofs.ApplicationSuffix
import CompilerLauncher.Proofs.SettingsDocument
import CompilerLauncher.Proofs.SettingsWriting
import CompilerLauncher.Proofs.LineGrowth
import CompilerLauncher.Proofs.DecisiveAnswer
