import KernelManager.Build.SourceArray
import KernelManager.Library.Dispatcher
import KernelManager.Ui.Captured
import KernelManager.Ui.Controls

/-! Whether a build drops patches of the source array. -/

namespace KernelManager

structure PatchSettings where
  variant : KernelVariant
  lto : LtoMode
  nvidiaOpen : Bool
  deriving DecidableEq, Repr

abbrev SourceArrays := PatchSettings → List String

def ProbeJob.settings (job : ProbeJob) : PatchSettings where
  variant := job.variant
  lto := job.options.lto
  nvidiaOpen := job.options.builtinNvidiaOpen

def BuildJob.settings (job : BuildJob) : PatchSettings where
  variant := job.variant
  lto := job.options.lto
  nvidiaOpen := job.options.builtinNvidiaOpen

inductive Probe
  | prepare (job : ProbeJob)
  | refresh (job : ProbeJob)

def Task.probe : Task → Option Probe
  | .configure job => some (.prepare job)
  | .refreshPatches job => some (.refresh job)
  | _ => none

def Probe.job : Probe → ProbeJob
  | .prepare job | .refresh job => job

def probePatchEntries (source : SourceArrays) (job : ProbeJob) : List String :=
  (source job.settings).filter isPatch

def Probe.result (source : SourceArrays) : Probe → UiMessage
  | .prepare job => .configurePrepared job.generation (probePatchEntries source job)
  | .refresh job => .patchesRefreshed job.generation (probePatchEntries source job)

inductive PatchMessage
  | other (message : UiMessage)
  | probed (probe : Probe)

def PatchMessage.received (source : SourceArrays) : PatchMessage → UiMessage
  | .other message => message
  | .probed probe => probe.result source

def UiMessage.switchesVariant : UiMessage → Bool
  | .semantic (.variantChanged _) | .variantPicked _ => true
  | _ => false

def UiMessage.removedPatch (app : App) : UiMessage → Option String
  | .semantic (.patchRemoved index) | .patchOp (.remove index) => app.configure.patches[index]?
  | _ => none

/-- The application with the history of its patch list: the settings of the probe that filled
it last, if a variant switch has not cleared it since, and what the user removed since. -/
structure PatchHistory where
  app : App
  loaded : Option PatchSettings := none
  removed : List String := []

namespace PatchHistory

def fill (history : PatchHistory) (app : App) (probe : Probe) : PatchHistory :=
  if probe.job.generation = history.app.patchEpoch then
    { app := app, loaded := some probe.job.settings, removed := [] }
  else { history with app := app }

-- A switch of the variant clears the list at once; its probe fills it later.
def edit (history : PatchHistory) (app : App) (message : UiMessage) : PatchHistory :=
  if message.switchesVariant then { app := app }
  else
    { app := app
      loaded := history.loaded
      removed := history.removed ++ (message.removedPatch history.app).toList }

def after (history : PatchHistory) (app : App) : PatchMessage → PatchHistory
  | .other message => history.edit app message
  | .probed probe => history.fill app probe

end PatchHistory

def patchDispatcher (vercmp : String → String → Ordering) (source : SourceArrays) :
    Machine.Dispatcher PatchHistory PatchMessage Probe Unit where
  update history message :=
    let (app, tasks) := update vercmp history.app (message.received source)
    (history.after app message, tasks.filterMap Task.probe)
  notice _ _ probe := probe
  work _ probe _ := (some (.probed probe), none)

abbrev PatchSession := Machine.Session PatchHistory Probe
abbrev PatchInput := Machine.Input PatchMessage Unit

def PatchSession.initial (flags : Flags) (locale : ResolvedLocale) : PatchSession where
  state := { app := App.initial flags locale }

def UiMessage.probeResult : UiMessage → Bool
  | .configurePrepared _ _ | .patchesRefreshed _ _ => true
  | _ => false

def UiMessage.pressesBuild : UiMessage → Bool
  | .semantic .buildRequested => true
  | _ => false

def PatchPermitted (session : PatchSession) : PatchInput → Prop
  | .message (.other message) =>
      message.probeResult = false ∧
        (message.pressesBuild = true →
          session.state.app.state.configuration = .editing ∧
            session.state.app.state.dialogs = .none)
  | .message (.probed _) => False
  | .work _ _ => True

instance (session : PatchSession) : ∀ input, Decidable (PatchPermitted session input)
  | .message (.other _) => inferInstanceAs (Decidable (_ ∧ (_ → _)))
  | .message (.probed _) => instDecidableFalse
  | .work _ _ => instDecidableTrue

/-- A press of Build that starts a build finds the list as a probe of the captured settings
filled it. -/
def ListCurrent (session : PatchSession) : PatchInput → Prop
  | .message (.other message) =>
      message.pressesBuild = true → session.state.app.state.build.inFlight = false →
        session.state.loaded =
          some (session.state.app.buildJob session.state.app.buildEpoch).settings
  | _ => True

instance (session : PatchSession) : ∀ input, Decidable (ListCurrent session input)
  | .message (.other _) => inferInstanceAs (Decidable (_ → _ → _))
  | .message (.probed _) => instDecidableTrue
  | .work _ _ => instDecidableTrue

def dispatched (vercmp : String → String → Ordering) (source : SourceArrays)
    (session : PatchSession) : PatchInput → List Task
  | .message message => (update vercmp session.state.app (message.received source)).2
  | .work index _ =>
      match session.workers[index]? with
      | some probe => (update vercmp session.state.app (probe.result source)).2
      | none => []

/-- The build keeps every patch of its settings' source array that the user has not removed,
and without removals every entry of the array, in the list and in the text it writes. -/
structure KeepsPatches (source : SourceArrays) (removed : List String) (job : BuildJob) :
    Prop where
  patches : ∀ entry ∈ source job.settings, isPatch entry = true →
    entry ∈ job.patches ∨ entry ∈ removed
  entries : removed = [] → ∀ entry ∈ source job.settings,
    entry ∈ sourceEntries (source job.settings) job.patches ∧
      (quoted entry).toList <:+:
        (buildSourceArray (source job.settings) job.patches).toList

def BuildsKeepPatches (vercmp : String → String → Ordering) (source : SourceArrays)
    (session : PatchSession) (input : PatchInput) : Prop :=
  ∀ job, Task.build job ∈ dispatched vercmp source session input →
    KeepsPatches source session.state.removed job

def PatchesListed (source : SourceArrays) (history : PatchHistory) : Prop :=
  ∀ settings, history.loaded = some settings →
    ∀ entry ∈ source settings, isPatch entry = true →
      entry ∈ history.app.configure.patches ∨ entry ∈ history.removed

theorem mem_swapPatches (window : ConfigureWindowModel) (left right : Nat) (entry : String) :
    entry ∈ (window.swapPatches left right).patches ↔ entry ∈ window.patches := by
  unfold ConfigureWindowModel.swapPatches
  split
  · rename_i first second atLeft atRight
    obtain ⟨leftBound, rfl⟩ := List.getElem?_eq_some_iff.mp atLeft
    obtain ⟨rightBound, rfl⟩ := List.getElem?_eq_some_iff.mp atRight
    exact (List.set_set_perm leftBound rightBound).mem_iff
  · rfl

theorem mem_eraseIdx_or (entries : List String) (index : Nat) (entry : String)
    (member : entry ∈ entries) :
    entry ∈ entries.eraseIdx index ∨ entries[index]? = some entry := by
  obtain ⟨position, found⟩ := List.mem_iff_getElem?.mp member
  by_cases same : position = index
  · exact Or.inr (same ▸ found)
  · exact Or.inl (List.mem_eraseIdx_iff_getElem?.mpr ⟨position, same, found⟩)

theorem applyPatchOp_patches (app : App) (op : ConfPatchOp) (entry : String)
    (member : entry ∈ app.configure.patches) :
    entry ∈ (app.configure.applyPatchOp op).patches ∨
      (UiMessage.patchOp op).removedPatch app = some entry := by
  cases op with
  | moveUp index =>
      simp only [ConfigureWindowModel.applyPatchOp, ConfigureWindowModel.moveUp]
      split
      · exact Or.inl ((mem_swapPatches _ _ _ _).mpr member)
      · exact Or.inl member
  | moveDown index =>
      simp only [ConfigureWindowModel.applyPatchOp, ConfigureWindowModel.moveDown]
      split
      · exact Or.inl ((mem_swapPatches _ _ _ _).mpr member)
      · exact Or.inl member
  | remove index => exact mem_eraseIdx_or _ index entry member

theorem reconfigure_patches (app : App) (message : UiMessage)
    (noProbe : message.probeResult = false) (sameVariant : message.switchesVariant = false)
    (entry : String) (member : entry ∈ app.configure.patches) :
    entry ∈ (message.reconfigure app).patches ∨ message.removedPatch app = some entry := by
  cases message with
  | semantic message =>
      cases message with
      | patchAdded added => exact Or.inl (List.mem_append_left _ member)
      | patchRemoved index => exact mem_eraseIdx_or _ index entry member
      | variantChanged variant => cases sameVariant
      | _ => exact Or.inl member
  | configurePrepared generation patches => cases noProbe
  | patchesRefreshed generation patches => cases noProbe
  | variantPicked variant => cases sameVariant
  | checkToggled check => cases check <;> exact Or.inl member
  | patchOp op => exact applyPatchOp_patches app op entry member
  | pathDialogSubmitted =>
      simp only [UiMessage.reconfigure]
      split
      · exact Or.inl (List.mem_append_left _ member)
      · exact Or.inl member
  | _ => exact Or.inl member

theorem edit_patchesListed (vercmp : String → String → Ordering) (source : SourceArrays)
    (history : PatchHistory) (message : UiMessage) (noProbe : message.probeResult = false)
    (listed : PatchesListed source history) :
    PatchesListed source (history.edit (update vercmp history.app message).1 message) := by
  unfold PatchHistory.edit
  split
  · intro settings loaded
    cases loaded
  · rename_i sameVariant
    intro settings loaded entry member patch
    rw [update_configure]
    rcases listed settings loaded entry member patch with shown | gone
    · rcases reconfigure_patches history.app message noProbe (by simpa using sameVariant) entry
        shown with kept | removed
      · exact Or.inl kept
      · exact Or.inr (List.mem_append_right _ (by simp [removed]))
    · exact Or.inr (List.mem_append_left _ gone)

theorem fill_patchesListed (vercmp : String → String → Ordering) (source : SourceArrays)
    (history : PatchHistory) (probe : Probe) (listed : PatchesListed source history) :
    PatchesListed source
      (history.fill (update vercmp history.app (probe.result source)).1 probe) := by
  have configured : (update vercmp history.app (probe.result source)).1.configure =
      if probe.job.generation ≠ history.app.patchEpoch then history.app.configure
      else history.app.configure.resetPatches (probePatchEntries source probe.job) := by
    rw [update_configure]
    cases probe <;> rfl
  unfold PatchHistory.fill
  split
  · rename_i current
    intro settings loaded entry member patch
    obtain rfl := Option.some.inj loaded
    left
    rw [configured, if_neg (not_not.mpr current)]
    simp [ConfigureWindowModel.resetPatches, probePatchEntries, member, patch]
  · rename_i stale
    intro settings loaded entry member patch
    have kept : (update vercmp history.app (probe.result source)).1.configure =
        history.app.configure := by rw [configured, if_pos stale]
    simpa only [kept] using listed settings loaded entry member patch

theorem step_patchesListed (vercmp : String → String → Ordering) (source : SourceArrays)
    (session : PatchSession) (input : PatchInput)
    (listed : PatchesListed source session.state) (permitted : PatchPermitted session input) :
    PatchesListed source ((patchDispatcher vercmp source).step session input).state := by
  rcases input with (message | probe) | ⟨index, progress⟩
  · exact edit_patchesListed vercmp source session.state message permitted.1 listed
  · exact permitted.elim
  · cases found : session.workers[index]? with
    | none =>
        rw [Machine.Dispatcher.step_work_absent _ session index progress found]
        exact listed
    | some probe =>
        rw [Machine.Dispatcher.step_work _ session index progress probe found]
        exact fill_patchesListed vercmp source session.state probe listed

theorem build_captured (vercmp : String → String → Ordering) (source : SourceArrays)
    (session : PatchSession) (input : PatchInput)
    (permitted : PatchPermitted session input) (current : ListCurrent session input)
    (job : BuildJob) (spawned : Task.build job ∈ dispatched vercmp source session input) :
    session.state.loaded = some job.settings ∧
      job.patches = session.state.app.configure.patches := by
  rcases input with (message | probe) | ⟨index, progress⟩
  · obtain ⟨rfl, idle, rfl⟩ := update_build vercmp session.state.app message job spawned
    exact ⟨current rfl idle, rfl⟩
  · exact permitted.elim
  · simp only [dispatched] at spawned
    split at spawned
    · rename_i probe found
      have pressed := (update_build vercmp session.state.app _ job spawned).1
      cases probe <;> cases pressed
    · cases spawned

/-- In a run in which every Build press that starts a build finds the list as a probe of the
captured settings filled it, no build drops a patch. -/
theorem build_keepsPatches (vercmp : String → String → Ordering) (source : SourceArrays)
    (flags : Flags) (locale : ResolvedLocale) (inputs : List PatchInput)
    (permitted : Machine.Admissible (patchDispatcher vercmp source).step PatchPermitted
      (PatchSession.initial flags locale) inputs)
    (current : Machine.Admissible (patchDispatcher vercmp source).step ListCurrent
      (PatchSession.initial flags locale) inputs) :
    Machine.Admissible (patchDispatcher vercmp source).step (BuildsKeepPatches vercmp source)
      (PatchSession.initial flags locale) inputs := by
  refine Machine.admissible_of_invariant (fun session => PatchesListed source session.state)
    (fun session input listed allowed =>
      step_patchesListed vercmp source session input listed allowed.1) ?_ ?_
    (permitted.and current)
  · intro session input listed allowed job spawned
    obtain ⟨loaded, captured⟩ :=
      build_captured vercmp source session input allowed.1 allowed.2 job spawned
    have patches : ∀ entry ∈ source job.settings, isPatch entry = true →
        entry ∈ job.patches ∨ entry ∈ session.state.removed := by
      rw [captured]
      exact listed job.settings loaded
    refine ⟨patches, fun untouched entry member => ?_⟩
    have kept : entry ∈ sourceEntries (source job.settings) job.patches := by
      apply mem_sourceEntries _ _ entry member
      intro patch
      simpa [untouched] using patches entry member patch
    exact ⟨kept, quoted_infix _ _ entry kept⟩
  · intro settings loaded
    cases loaded

namespace Sample

def sourceArray (_settings : PatchSettings) : List String := ["linux.tar.xz", "0001-base.patch"]

def patchSession : PatchSession := PatchSession.initial flags locale

def currentBuild : List PatchInput :=
  [.message (.other (.semantic .configureRequested)), .work 0 (),
    .message (.other (.semantic .buildRequested))]

def hastyBuild : List PatchInput :=
  [.message (.other (.semantic .configureRequested)), .work 0 (),
    .message (.other (.variantPicked .bore)), .message (.other (.semantic .buildRequested))]

def hastyApp : App :=
  (Machine.run (patchDispatcher vercmp sourceArray).step patchSession
    (hastyBuild.take 3)).state.app

end Sample

theorem build_keepsPatches_current :
    Machine.Admissible (patchDispatcher Sample.vercmp Sample.sourceArray).step
      (BuildsKeepPatches Sample.vercmp Sample.sourceArray) Sample.patchSession
      Sample.currentBuild :=
  build_keepsPatches Sample.vercmp Sample.sourceArray Sample.flags Sample.locale
    Sample.currentBuild (by decide) (by decide)

theorem build_dropsPatches :
    ¬∀ (vercmp : String → String → Ordering) (source : SourceArrays) (flags : Flags)
      (locale : ResolvedLocale) (inputs : List PatchInput),
      Machine.Admissible (patchDispatcher vercmp source).step PatchPermitted
        (PatchSession.initial flags locale) inputs →
      Machine.Admissible (patchDispatcher vercmp source).step (BuildsKeepPatches vercmp source)
        (PatchSession.initial flags locale) inputs := by
  intro keeps
  obtain ⟨_, _, _, atPress, _⟩ := keeps Sample.vercmp Sample.sourceArray Sample.flags
    Sample.locale Sample.hastyBuild (by decide)
  have kept := (atPress (Sample.hastyApp.buildJob 1) (List.mem_singleton.mpr rfl)).patches
    "0001-base.patch" (by decide) (by decide)
  revert kept
  decide

end KernelManager
