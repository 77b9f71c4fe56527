import KernelManager.Build.GitCache
import Mathlib.Logic.Function.Basic

/-! The checkout that builds and prepares share, as the PKGBUILDs in it, and its refresh step by
step. What git makes of the PKGBUILDs is git's. -/

namespace KernelManager

abbrev Pkgbuilds := String → Option String

/-- What the next call of a refresh meets: the directories as they are looked up, or whether a step
succeeds and the PKGBUILDs that it leaves. -/
inductive RefreshEvent
  | looks (state : GitCacheState)
  | performs (ok : Bool) (left : Pkgbuilds)

namespace GitCacheStep

def goesOn (ok : Bool) : GitCacheStep → Bool
  | .createDirectories | .removeNonGitRepo | .gitPull => true
  | .enterParentDir | .gitClone _ _ | .enterRepoDir | .gitCheckoutForceMaster | .gitCleanFd => ok

/-- Only the removal of the checkout and git touch the PKGBUILDs. -/
def leaves (files left : Pkgbuilds) : GitCacheStep → Pkgbuilds
  | .createDirectories | .enterParentDir | .enterRepoDir => files
  | .removeNonGitRepo | .gitClone _ _ | .gitCheckoutForceMaster | .gitCleanFd | .gitPull => left

end GitCacheStep

inductive RefreshStage
  | look
  | steps (step : GitCacheStep) (rest : List GitCacheStep)
  | finished
  deriving DecidableEq

namespace RefreshStage

def enter : List GitCacheStep → RefreshStage
  | [] => .finished
  | step :: rest => .steps step rest

/-- The directories are looked up once; each step may succeed or fail. An event that does not fit
is none of the refresh's. -/
def advance (files : Pkgbuilds) : RefreshStage → RefreshEvent → Pkgbuilds × RefreshStage
  | .look, .looks state =>
      (files, .enter (gitCachePlan state pkgbuildsName linuxCachyosGitUrl))
  | .steps step rest, .performs ok left =>
      (step.leaves files left, if step.goesOn ok then .enter rest else .finished)
  | stage, _ => (files, stage)

def refreshes (files : Pkgbuilds) (stage : RefreshStage) (events : List RefreshEvent) :
    Pkgbuilds × RefreshStage :=
  events.foldl (fun reached event => reached.2.advance reached.1 event) (files, stage)

end RefreshStage

end KernelManager
