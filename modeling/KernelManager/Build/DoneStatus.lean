import KernelManager.Build.GitCache
import KernelManager.Build.Pkgbuild
import KernelManager.Library.Machine
import KernelManager.Ui.Message

/-! The success marker of a build: whether a build reports the success of an earlier one. -/

namespace KernelManager

/-- What the world around one build task answers: the file system, the generation of the build
when the task compares it, the terminal helper, and the makepkg it runs. -/
structure BuildWorld where
  git : GitWorld
  writesSourceArray : Bool
  writesCustomName : Bool
  epochBeforeSpawn : Nat
  spawns : Bool
  marks : Bool
  epochAfterSpawn : Nat
  removesMarker : Bool
  epochAtEnd : Nat

def BuildJob.workingPath (job : BuildJob) : String := job.variant.dirName

def setMarker (markers : Markers) (directory : String) (present : Bool) : Markers :=
  fun other => if other = directory then present else markers other

def buildTask (job : BuildJob) (world : BuildWorld) (markers : Markers) : Bool × Markers :=
  let markers := prepareGitRepo world.git markers
  if !spliceSafeCustomName job.customName then (false, markers)
  else if job.patches.any fun patch => (spliceUnsafeIndex patch).isSome then (false, markers)
  else if !world.writesSourceArray then (false, markers)
  else if !world.writesCustomName then (false, markers)
  else if job.epoch ≠ world.epochBeforeSpawn then (false, markers)
  else if !world.spawns then (false, markers)
  else
    -- makepkg touches the marker when it succeeds, and nothing removes one it has not touched.
    let markers := if world.marks then setMarker markers job.workingPath true else markers
    if job.epoch ≠ world.epochAfterSpawn then (false, markers)
    else
      let done := markers job.workingPath
      let markers :=
        if world.removesMarker then setMarker markers job.workingPath false else markers
      (done && job.epoch == world.epochAtEnd, markers)

structure BuildRun where
  job : BuildJob
  world : BuildWorld

def markersAfter (markers : Markers) (build : BuildRun) : Markers :=
  (buildTask build.job build.world markers).2

namespace BuildRun

def reportsSuccess (build : BuildRun) (markers : Markers) : Bool :=
  (buildTask build.job build.world markers).1

structure RunsToEnd (build : BuildRun) : Prop where
  customName : spliceSafeCustomName build.job.customName = true
  patches : ∀ patch ∈ build.job.patches, spliceUnsafeIndex patch = none
  writesSourceArray : build.world.writesSourceArray = true
  writesCustomName : build.world.writesCustomName = true
  spawns : build.world.spawns = true
  beforeSpawn : build.job.epoch = build.world.epochBeforeSpawn
  afterSpawn : build.job.epoch = build.world.epochAfterSpawn
  atEnd : build.job.epoch = build.world.epochAtEnd

end BuildRun

def OwnSuccess (markers : Markers) (build : BuildRun) : Prop :=
  build.reportsSuccess markers = true → build.world.marks = true

def FailsUnmarked (markers : Markers) (build : BuildRun) : Prop :=
  build.RunsToEnd → build.world.marks = false → build.world.git.clears = false →
    markers build.job.workingPath = false

def BuildRun.starts (build : BuildRun) : Bool :=
  spliceSafeCustomName build.job.customName &&
    !(build.job.patches.any fun patch => (spliceUnsafeIndex patch).isSome) &&
    build.world.writesSourceArray && build.world.writesCustomName &&
    decide (build.job.epoch = build.world.epochBeforeSpawn) && build.world.spawns

def BuildRun.finish (build : BuildRun) (markers : Markers) : Bool × Markers :=
  let markers := if build.world.marks then setMarker markers build.job.workingPath true else markers
  if build.job.epoch ≠ build.world.epochAfterSpawn then (false, markers)
  else
    (markers build.job.workingPath && build.job.epoch == build.world.epochAtEnd,
      if build.world.removesMarker then setMarker markers build.job.workingPath false else markers)

theorem starts_iff (build : BuildRun) :
    build.starts = true ↔
      spliceSafeCustomName build.job.customName = true ∧
        (∀ patch ∈ build.job.patches, spliceUnsafeIndex patch = none) ∧
        build.world.writesSourceArray = true ∧ build.world.writesCustomName = true ∧
        build.job.epoch = build.world.epochBeforeSpawn ∧ build.world.spawns = true := by
  simp [BuildRun.starts, and_assoc]

theorem buildTask_eq (build : BuildRun) (markers : Markers) :
    buildTask build.job build.world markers =
      if build.starts then build.finish (prepareGitRepo build.world.git markers)
      else (false, prepareGitRepo build.world.git markers) := by
  unfold buildTask
  cases starts : build.starts with
  | true =>
      obtain ⟨customName, patches, sourceArray, name, beforeSpawn, spawns⟩ :=
        (starts_iff build).mp starts
      have safe :
          (build.job.patches.any fun patch => (spliceUnsafeIndex patch).isSome) = false := by
        simpa using patches
      simp only [customName, safe, sourceArray, name, beforeSpawn, spawns]
      simp [BuildRun.finish, beforeSpawn]
  | false =>
      rw [← Bool.not_eq_true, starts_iff] at starts
      simp only [← ite_or]
      rw [if_pos]
      · rfl
      · by_contra passed
        exact starts (by simpa [and_assoc] using passed)

theorem runsToEnd_iff (build : BuildRun) :
    build.RunsToEnd ↔
      build.starts = true ∧ build.job.epoch = build.world.epochAfterSpawn ∧
        build.job.epoch = build.world.epochAtEnd := by
  rw [starts_iff]
  constructor
  · intro runs
    exact ⟨⟨runs.customName, runs.patches, runs.writesSourceArray, runs.writesCustomName,
      runs.beforeSpawn, runs.spawns⟩, runs.afterSpawn, runs.atEnd⟩
  · rintro ⟨⟨customName, patches, sourceArray, name, beforeSpawn, spawns⟩, afterSpawn, atEnd⟩
    exact ⟨customName, patches, sourceArray, name, spawns, beforeSpawn, afterSpawn, atEnd⟩

theorem finish_success (build : BuildRun) (markers : Markers) :
    (build.finish markers).1 = true ↔
      (build.job.epoch = build.world.epochAfterSpawn ∧
        build.job.epoch = build.world.epochAtEnd) ∧
          (build.world.marks = true ∨ markers build.job.workingPath = true) := by
  unfold BuildRun.finish
  by_cases afterSpawn : build.job.epoch = build.world.epochAfterSpawn
  · cases build.world.marks <;> simp [afterSpawn, setMarker, and_comm]
  · simp [afterSpawn]

theorem reportsSuccess_iff (build : BuildRun) (markers : Markers) :
    build.reportsSuccess markers = true ↔
      build.RunsToEnd ∧
        (build.world.marks = true ∨
          build.world.git.clears = false ∧ markers build.job.workingPath = true) := by
  have cleared : prepareGitRepo build.world.git markers build.job.workingPath = true ↔
      build.world.git.clears = false ∧ markers build.job.workingPath = true := by
    rw [prepareGitRepo_eq]
    cases build.world.git.clears <;> simp [noMarkers]
  rw [BuildRun.reportsSuccess, buildTask_eq, runsToEnd_iff]
  cases build.starts with
  | false => simp
  | true => simp only [↓reduceIte, finish_success, cleared, true_and]

theorem ownSuccess_iff (markers : Markers) (build : BuildRun) :
    OwnSuccess markers build ↔ FailsUnmarked markers build := by
  unfold OwnSuccess FailsUnmarked
  rw [reportsSuccess_iff]
  cases build.world.marks <;> cases build.world.git.clears <;>
    cases markers build.job.workingPath <;> simp

/-- A build whose makepkg succeeds is not cancelled right after its start, and can remove the
marker. -/
def RemovesOwnMarker (_markers : Markers) (build : BuildRun) : Prop :=
  build.world.marks = true →
    build.job.epoch = build.world.epochAfterSpawn ∧ build.world.removesMarker = true

theorem setMarker_none (directory : String) (present : Bool) :
    setMarker (setMarker noMarkers directory present) directory false = noMarkers := by
  funext other
  by_cases same : other = directory <;> simp [setMarker, noMarkers, same]

theorem markersAfter_none (build : BuildRun) (removes : RemovesOwnMarker noMarkers build) :
    markersAfter noMarkers build = noMarkers := by
  have prepared : prepareGitRepo build.world.git noMarkers = noMarkers := by
    rw [prepareGitRepo_eq]
    split <;> rfl
  have unset : setMarker noMarkers build.job.workingPath false = noMarkers := by
    funext other
    simp [setMarker, noMarkers]
  rw [markersAfter, buildTask_eq, prepared]
  cases build.starts with
  | false => rfl
  | true =>
      simp only [↓reduceIte, BuildRun.finish]
      cases marks : build.world.marks with
      | true =>
          obtain ⟨afterSpawn, removed⟩ := removes marks
          simp [← afterSpawn, removed, setMarker_none]
      | false => split <;> simp [unset]

/-- From a checkout without markers, no build reports the success of another unless one is
cancelled right after its start and its makepkg succeeds all the same. -/
theorem unmarked_ownSuccess (builds : List BuildRun)
    (removes : Machine.Admissible markersAfter RemovesOwnMarker noMarkers builds) :
    Machine.Admissible markersAfter OwnSuccess noMarkers builds := by
  refine Machine.admissible_of_invariant (· = noMarkers) ?_ ?_ rfl removes
  · rintro _ build rfl removed
    exact markersAfter_none build removed
  · rintro _ build rfl _
    exact (ownSuccess_iff noMarkers build).mpr fun _ _ _ => rfl

/-- No build of a sequence reports the success of another exactly if none runs to its end, with
a failing makepkg, over a marker that was left behind and not cleared. -/
theorem doneStatus_own_iff (start : Markers) (builds : List BuildRun) :
    Machine.Admissible markersAfter OwnSuccess start builds ↔
      Machine.Admissible markersAfter FailsUnmarked start builds :=
  Machine.admissible_congr ownSuccess_iff start builds

namespace Sample

def failedBuild : BuildRun where
  job :=
    { epoch := 1
      home := "/home/user"
      options := {}
      variant := .cachyos
      patches := []
      customName := "$pkgbase-custom" }
  world :=
    { git :=
        { state := { parentDirExists := true, repoExists := true, repoIsGit := true }
          cacheIsDir := true
          repoIsDir := true
          removesRepo := true
          git := fun arguments => arguments ≠ ["checkout", "--force", "master"] }
      writesSourceArray := true
      writesCustomName := true
      epochBeforeSpawn := 1
      spawns := true
      marks := false
      epochAfterSpawn := 1
      removesMarker := true
      epochAtEnd := 1 }

end Sample

theorem doneStatus_stale :
    ¬∀ (start : Markers) (builds : List BuildRun),
      Machine.Admissible markersAfter OwnSuccess start builds := by
  intro own
  have reported := (own (fun _ => true) [Sample.failedBuild]).1 (by decide)
  cases reported

end KernelManager
