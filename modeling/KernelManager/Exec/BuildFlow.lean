import KernelManager.Exec.Terminal

/-!
The decisions of the Configure window: what the completion of its process leads to, and what
becomes of the window's actions.
-/

namespace KernelManager

def artifactInstallCommand (globs : List String) : String :=
  "sudo pacman -U " ++ joinWords globs

structure FinishEvent where
  doneStatusExists : Bool
  exitCode : Int
  userChoice : Option Bool
  globs : List String
  deriving DecidableEq, Repr

structure FinishOutcome where
  stdout : List String := []
  stderr : List String := []
  nextCommand : Option String := none
  removesDoneStatus : Bool := false
  runningAfter : Bool := false
  deriving DecidableEq, Repr

def finishedProc (event : FinishEvent) : FinishOutcome :=
  if event.doneStatusExists then
    if event.userChoice = some true then
      let command := artifactInstallCommand event.globs
      { stdout := ["success", "pressed yes", "pacman_cmd := " ++ command]
        nextCommand := some command
        removesDoneStatus := true
        runningAfter := true }
    else { stdout := ["success"], removesDoneStatus := true }
  else { stderr := ["process failed with exit code: " ++ toString event.exitCode ++ "\n"] }

inductive ConfigureAction
  | execute | cancel | close
  deriving DecidableEq, Repr

structure ConfigureTraceEvent where
  action : ConfigureAction
  outcome : String
  deriving DecidableEq, Repr

/-- The loop of `configure_trace`; the hidden window receives no more actions. -/
def configureTraceFrom : Bool → List ConfigureAction → List ConfigureTraceEvent × Bool
  | running, [] => ([], running)
  | running, .execute :: actions =>
      let (trace, last) := configureTraceFrom true actions
      ({ action := .execute, outcome := if running then "ignored" else "start" } :: trace, last)
  | running, .cancel :: _ => ([{ action := .cancel, outcome := "closed" }], running)
  | running, .close :: _ => ([{ action := .close, outcome := "closed" }], running)

def configureTrace (actions : List ConfigureAction) : List ConfigureTraceEvent × Bool :=
  configureTraceFrom false actions

end KernelManager
