import KernelManager.Library.Machine
import KernelManager.Library.Scan
import KernelManager.Library.Utf8
import KernelManager.Library.Keyed
import KernelManager.Library.Choices
import KernelManager.Library.FirstOccurrences
import KernelManager.Library.Dispatcher
import KernelManager.Library.StableSort
import KernelManager.Library.Comparators
import KernelManager.Library.ShellQuotes
import KernelManager.Library.ShellScripts
import KernelManager.Library.Lines
import KernelManager.Library.FileTree
import KernelManager.Library.Volume
import KernelManager.Library.Paths
import KernelManager.Library.Json
import KernelManager.Library.Markup
import KernelManager.Core.Options
import KernelManager.Core.Kernel
import KernelManager.Core.Text
import KernelManager.Core.HeadersNeedle
import KernelManager.Core.Discovery
import KernelManager.Core.Selection
import KernelManager.Core.State
import KernelManager.Plan.Transaction
import KernelManager.Plan.Availability
import KernelManager.Plan.Commands
import KernelManager.Plan.RawIdentity
import KernelManager.Plan.Cli
import KernelManager.Plan.ChangeCheck
import KernelManager.Scx
import KernelManager.Scx.Apply
import KernelManager.Scx.Trace
import KernelManager.Scx.Window
import KernelManager.Build.SourceArray
import KernelManager.Build.Pkgbuild
import KernelManager.Build.Insertion
import KernelManager.Build.SpliceOrder
import KernelManager.Build.ArtifactGlobs
import KernelManager.Build.Environment
import KernelManager.Build.GitCache
import KernelManager.Alpm.PacmanConf
import KernelManager.Alpm.Vercmp
import KernelManager.Plan.AurDiscovery
import KernelManager.Plan.HeaderNames
import KernelManager.Exec.Terminal
import KernelManager.Ui.MainWindow
import KernelManager.Ui.ConfigureWindow
import KernelManager.Ui.Message
import KernelManager.Ui.App
import KernelManager.Ui.Controls
import KernelManager.Ui.CheckedRows
import KernelManager.Ui.Control
import KernelManager.Ui.Frame
import KernelManager.Ui.Captured
import KernelManager.Ui.Outstanding
import KernelManager.Ui.PackagePipeline
import KernelManager.Ui.PackageThreads
import KernelManager.Ui.BuildWorkers
import KernelManager.Ui.DialogSlot
import KernelManager.Ui.InstalledBuild
import KernelManager.Ui.PatchList
import KernelManager.Ui.CancelledBuild
import KernelManager.Ui.ProcessSlot
import KernelManager.Ui.Combos
import KernelManager.Ui.RemovalTargets
import KernelManager.Ui.CatalogView
import KernelManager.Ui.Sorting
import KernelManager.Ui.ChangeList
import KernelManager.Ui.PlannerEquivalence
import KernelManager.Ui.PatchEpoch
import KernelManager.Ui.PrepareFlow
import KernelManager.Ui.OptionsMirror
import KernelManager.Ui.ConfigureView
import KernelManager.Ui.Translations
import KernelManager.Ui.BuiltinZfs
import KernelManager.Ui.ConfigProfile
import KernelManager.Ui.PatchProbes
import KernelManager.Ui.SchedExt
import KernelManager.Ui.ScxPlans
import KernelManager.Ui.UnmodifiedApply
import KernelManager.Ui.ScxDisplay
import KernelManager.Build.DoneStatus
import KernelManager.Court.Case
import KernelManager.Court.Run
import KernelManager.Court.Evidence
import KernelManager.Court.Receipt
import KernelManager.Court.TreeHash
import KernelManager.Court.Release
import KernelManager.Court.VmFiles
import KernelManager.Court.Observation
import KernelManager.Court.Accessibility
import KernelManager.Court.FlatLayout
import KernelManager.Court.Normalize
import KernelManager.Court.TempPaths
import KernelManager.Court.VmEvidence
import KernelManager.Court.ChainDocuments
import KernelManager.Court.InterfaceDocuments
import KernelManager.Court.ClosedComparators
import KernelManager.Court.ResidualDigest
import KernelManager.Court.VmComparators
import KernelManager.Court.VmRun
import KernelManager.Court.VmCommand
import KernelManager.Core.Shutdown
import KernelManager.Config.Save
import KernelManager.Ui.ScxExecution
import KernelManager.Ui.ProbeCapture
import KernelManager.Ui.RunDiscovery
import KernelManager.Ui.CourtedBuild
import KernelManager.Platform.SingleInstance
import KernelManager.Platform.LockFile
import KernelManager.Witness.Aur
import KernelManager.Witness.MainWindow
import KernelManager.Witness.ConfigureWindow
import KernelManager.Witness.BuildEnv
import KernelManager.Witness.Lifecycle
import KernelManager.Witness.Translations
import KernelManager.Build.Checkout
import KernelManager.Ui.SharedCheckout
import KernelManager.Ui.CheckoutRuns
