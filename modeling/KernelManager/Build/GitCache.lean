import Mathlib.Data.List.Basic

/-! The refresh of the PKGBUILD checkout, and when it clears what an earlier build left in it. -/

namespace KernelManager

structure GitCacheState where
  parentDirExists : Bool
  repoExists : Bool
  repoIsGit : Bool
  deriving DecidableEq, Repr

inductive GitCacheStep
  | createDirectories
  | enterParentDir
  | removeNonGitRepo
  | gitClone (url name : String)
  | enterRepoDir
  | gitCheckoutForceMaster
  | gitCleanFd
  | gitPull
  deriving DecidableEq, Repr

namespace GitCacheState

def removed (state : GitCacheState) : Bool := state.repoExists && !state.repoIsGit

def cloned (state : GitCacheState) : Bool := !state.repoExists || state.removed

end GitCacheState

def gitCachePlan (state : GitCacheState) (repoName cloneUrl : String) : List GitCacheStep :=
  [.createDirectories, .enterParentDir] ++
    (if state.removed then [.removeNonGitRepo] else []) ++
    (if state.cloned then [.gitClone cloneUrl repoName] else []) ++
    [.enterRepoDir, .gitCheckoutForceMaster, .gitCleanFd, .gitPull]

def pkgbuildsName : String := "pkgbuilds"

def linuxCachyosGitUrl : String := "https://github.com/cachyos/linux-cachyos.git"

structure GitWorld where
  state : GitCacheState
  cacheIsDir : Bool
  repoIsDir : Bool
  removesRepo : Bool
  git : List String → Bool

abbrev Markers := String → Bool

def noMarkers : Markers := fun _ => false

namespace GitWorld

def clones (world : GitWorld) (url name : String) : Bool := world.git ["clone", url, name]

def checksOut (world : GitWorld) : Bool := world.git ["checkout", "--force", "master"]

def cleans (world : GitWorld) : Bool := world.git ["clean", "-fd"]

end GitWorld

/-- The markers that the plan leaves. A failure to enter a directory or to clone ends it, and so
does a failing checkout or clean. -/
def executeGitCachePlan (world : GitWorld) : List GitCacheStep → Markers → Markers
  | [], markers => markers
  | .createDirectories :: steps, markers => executeGitCachePlan world steps markers
  | .enterParentDir :: steps, markers =>
      if world.cacheIsDir then executeGitCachePlan world steps markers else markers
  | .removeNonGitRepo :: steps, markers =>
      executeGitCachePlan world steps (if world.removesRepo then noMarkers else markers)
  | .gitClone url name :: steps, markers =>
      -- A fresh checkout has no markers.
      if world.clones url name then executeGitCachePlan world steps noMarkers else markers
  | .enterRepoDir :: steps, markers =>
      if world.repoIsDir then executeGitCachePlan world steps markers else markers
  | .gitCheckoutForceMaster :: steps, markers =>
      if world.checksOut then executeGitCachePlan world steps markers else markers
  | .gitCleanFd :: steps, markers =>
      if world.cleans then executeGitCachePlan world steps noMarkers else markers
  | .gitPull :: steps, markers => executeGitCachePlan world steps markers

def prepareGitRepo (world : GitWorld) : Markers → Markers :=
  executeGitCachePlan world (gitCachePlan world.state pkgbuildsName linuxCachyosGitUrl)

def GitWorld.clears (world : GitWorld) : Bool :=
  let clones := world.clones linuxCachyosGitUrl pkgbuildsName
  world.cacheIsDir &&
    (world.state.removed && world.removesRepo || world.state.cloned && clones ||
      (!world.state.cloned || clones) && world.repoIsDir && world.checksOut && world.cleans)

theorem refresh_markers (world : GitWorld) (markers : Markers) :
    executeGitCachePlan world
        [.enterRepoDir, .gitCheckoutForceMaster, .gitCleanFd, .gitPull] markers =
      if world.repoIsDir && world.checksOut && world.cleans then noMarkers else markers := by
  simp only [executeGitCachePlan]
  cases world.repoIsDir <;> cases world.checksOut <;> cases world.cleans <;> rfl

theorem clone_markers (world : GitWorld) (markers : Markers) :
    executeGitCachePlan world
        ((if world.state.cloned then [.gitClone linuxCachyosGitUrl pkgbuildsName] else []) ++
          [.enterRepoDir, .gitCheckoutForceMaster, .gitCleanFd, .gitPull]) markers =
      if world.state.cloned && world.clones linuxCachyosGitUrl pkgbuildsName ||
          (!world.state.cloned || world.clones linuxCachyosGitUrl pkgbuildsName) &&
            world.repoIsDir && world.checksOut && world.cleans then noMarkers
      else markers := by
  cases world.state.cloned with
  | false => simpa using refresh_markers world markers
  | true =>
      change (if world.clones linuxCachyosGitUrl pkgbuildsName then
        executeGitCachePlan world
          [.enterRepoDir, .gitCheckoutForceMaster, .gitCleanFd, .gitPull] noMarkers
        else markers) = _
      rw [refresh_markers]
      cases world.clones linuxCachyosGitUrl pkgbuildsName <;> simp

theorem prepareGitRepo_eq (world : GitWorld) (markers : Markers) :
    prepareGitRepo world markers = if world.clears then noMarkers else markers := by
  simp only [prepareGitRepo, gitCachePlan, GitWorld.clears, List.cons_append, List.nil_append,
    List.append_assoc, executeGitCachePlan]
  by_cases entered : world.cacheIsDir = true
  · by_cases removed : world.state.removed = true
    · simp only [entered, removed, ↓reduceIte, List.cons_append, List.nil_append,
        executeGitCachePlan, clone_markers]
      by_cases removes : world.removesRepo = true <;> simp [removes]
    · simpa [entered, removed] using clone_markers world markers
  · simp [entered]

end KernelManager
