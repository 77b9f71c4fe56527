import KernelManager.Core.Options
import KernelManager.Core.Selection

/-! The orthogonal application state and its pure transition function. -/

namespace KernelManager

inductive LifecycleState
  | startup | kernelDiscovery | ready | shutdown
  deriving DecidableEq, Repr

inductive CatalogState
  | unloaded | loaded | refreshPending
  deriving DecidableEq, Repr

inductive TransactionState
  | idle | planning | authenticating | running | complete (changed : Bool) | failed
  deriving DecidableEq, Repr

inductive ConfigurationState
  | closed | preparing | editing
  deriving DecidableEq, Repr

inductive BuildState
  | idle | running | failed | awaitingInstallDecision | installing
  deriving DecidableEq, Repr

def BuildState.inFlight : BuildState → Bool
  | .running | .awaitingInstallDecision | .installing => true
  | .idle | .failed => false

inductive ScxState
  | hidden | visible
  deriving DecidableEq, Repr

inductive DialogsState
  | none
  | progress (message : String)
  | error (message : String)
  | confirm (message : String)
  deriving DecidableEq, Repr

namespace DialogsState

def isProgress : DialogsState → Bool
  | .progress _ => true
  | _ => false

def isError : DialogsState → Bool
  | .error _ => true
  | _ => false

def isConfirm : DialogsState → Bool
  | .confirm _ => true
  | _ => false

end DialogsState

inductive Effect
  | refreshKernels
  | runTransaction
  | runBuild (variantDir : String)
  | installArtifacts
  | authenticate
  | prepareConfiguration
  | showScxWindow
  | close
  | showError (message : String)
  | showProgress (message : String)
  | hideProgress
  deriving DecidableEq, Repr

inductive AppEvent
  | started
  | discoveryFinished
  | kernelToggled (row : Nat)
  | executeRequested
  | transactionStarted
  | transactionFinished (changed : Bool)
  | transactionFailed (message : String)
  | transactionErrorAcknowledged
  | configureRequested
  | configurePrepared
  | buildRequested
  | buildFinished (success : Bool)
  | installArtifactsRequested
  | installDeclined
  | artifactsInstalled
  | scxShowRequested
  | closeRequested
  | configurationCancelRequested
  | configurationCloseRequested
  | scxWindowClosed
  deriving DecidableEq, Repr

structure AppState where
  lifecycle : LifecycleState := .startup
  catalog : CatalogState := .unloaded
  selection : SelectionState := {}
  transaction : TransactionState := .idle
  configuration : ConfigurationState := .closed
  build : BuildState := .idle
  scx : ScxState := .hidden
  dialogs : DialogsState := .none
  buildOptions : BuildOptions := {}
  deriving DecidableEq, Repr

namespace AppState

def executeEnabled (state : AppState) : Bool :=
  state.transaction = .idle ∧ ¬state.selection.changeList.isEmpty ∧
    state.catalog ≠ .refreshPending

def transactionInProgress (state : AppState) : Bool :=
  match state.transaction with
  | .planning | .authenticating | .running => true
  | _ => false

end AppState

def initializingKernels : String := "Please wait...\nInitializing kernels.."

def preparingConfiguration : String :=
  "Please wait...\nWe are preparing configuration window for you\ncloning PKGBUILDs.."

def transition (state : AppState) : AppEvent → AppState × List Effect
  | .started =>
      ({ state with lifecycle := .kernelDiscovery },
        [.showProgress initializingKernels, .refreshKernels])
  | .discoveryFinished =>
      ({ state with
          lifecycle := .ready
          catalog := .loaded
          transaction :=
            if state.catalog = .refreshPending then .idle else state.transaction },
        [.hideProgress])
  | .kernelToggled row =>
      ({ state with selection := toggleRow state.selection row }, [])
  | .executeRequested =>
      if state.transactionInProgress then (state, [])
      else ({ state with transaction := .planning }, [.authenticate, .runTransaction])
  | .transactionStarted => ({ state with transaction := .running }, [])
  | .transactionFinished changed =>
      if changed then
        ({ state with transaction := .complete changed, catalog := .refreshPending },
          [.refreshKernels, .showProgress initializingKernels])
      else ({ state with transaction := .idle, catalog := .loaded }, [.hideProgress])
  | .transactionFailed message =>
      ({ state with transaction := .failed }, [.showError message])
  | .transactionErrorAcknowledged => ({ state with transaction := .idle }, [])
  | .configureRequested =>
      ({ state with configuration := .preparing },
        [.prepareConfiguration, .showProgress preparingConfiguration])
  | .configurePrepared => ({ state with configuration := .editing }, [.hideProgress])
  | .buildRequested =>
      if state.build.inFlight then (state, [])
      else
        ({ state with build := .running },
          [.runBuild state.buildOptions.variant.dirName])
  | .installArtifactsRequested => ({ state with build := .installing }, [.installArtifacts])
  | .buildFinished success =>
      ({ state with build := if success then .awaitingInstallDecision else .failed }, [])
  | .installDeclined => ({ state with build := .idle }, [])
  | .artifactsInstalled => ({ state with build := .idle }, [])
  | .scxShowRequested => ({ state with scx := .visible }, [.showScxWindow])
  | .closeRequested => ({ state with lifecycle := .shutdown }, [.close])
  | .scxWindowClosed => ({ state with scx := .hidden }, [])
  | .configurationCancelRequested => ({ state with configuration := .closed }, [.hideProgress])
  | .configurationCloseRequested => ({ state with configuration := .closed }, [.hideProgress])

end KernelManager
