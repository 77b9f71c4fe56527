import KernelManager.Scx.Window
import KernelManager.Ui.SchedExt

/-! What the sched-ext window shows, and what it acts on. -/

namespace KernelManager

def displayedItem (items : List String) (selected : String) : Option String :=
  items[(items.findIdx? (· = selected)).getD 0]?

/-- The application with the scheduler picked last, or else the default of the config, and
whether the user has edited the flags since they were rendered. -/
structure ScxView where
  app : App
  selected : Option String
  edited : Bool := false

namespace ScxView

def initial (vercmp : String → String → Ordering) (app : App) (items : List String)
    (config : SchedConfig) (label configPath : String) : ScxView where
  app :=
    step vercmp app
      (.scxInit
        (ScxWindowModel.fromInitSteps
          (windowInit
            { configInitFailed := false
              supportedScheds := .ok items
              config := config
              currentSchedulerLabel := label }) configPath "Auto" config))
  selected := config.defaultSched.map SupportedSched.name

def select (view : ScxView) : UiMessage → Option String
  | .scxSchedulerPicked scheduler => some scheduler
  | _ => view.selected

def edit (view : ScxView) : UiMessage → Bool
  | .scxFlagsChanged _ => true
  | .scxSchedulerPicked _ | .scxProfilePicked _ => false
  | _ => view.edited

end ScxView

def viewStep (vercmp : String → String → Ordering) (view : ScxView) (message : UiMessage) :
    ScxView where
  app := step vercmp view.app message
  selected := view.select message
  edited := view.edit message

/-- The window is not initialised again, and its combos send their own items. -/
def ItemsOffered (view : ScxView) : UiMessage → Prop
  | .scxInit _ | .semantic (.schedulerChanged _ _) => False
  | .scxSchedulerPicked scheduler =>
      ∀ scx, view.app.scx = some scx → scheduler ∈ scx.schedulers
  | .scxProfilePicked profile => profile ∈ scxProfile
  | _ => True

/-- The window acts on what it shows: an apply takes the displayed scheduler, the flags are
those of this scheduler and the displayed profile unless the user edited them, and the profile
row is visible if the scheduler has profiles. -/
structure ActsOnShown (view : ScxView) (scx : ScxWindowModel) (sched : SupportedSched)
    (job : ScxApplyJob) : Prop where
  applied : view.app.scxApply.2 = [.scxApply job]
  scheduler : job.scheduler = sched.name
  displayed : displayedItem scx.schedulers scx.scheduler = some sched.name
  flags : view.edited = false → ∃ profile, displayedItem scxProfile scx.profile = some profile ∧
    scx.flags = String.intercalate " " (flagsForMode scx.config sched (modeFromLabel profile))
  visible : scx.profileVisible = profileUiVisible sched.name

def ScxShown (view : ScxView) : Prop :=
  ∃ scx, view.app.scx = some scx ∧ ∃ sched job, ActsOnShown view scx sched job

def ScxRendered (items : List String) (view : ScxView) : Prop :=
  ∃ scx, view.app.scx = some scx ∧ scx.schedulers = items ∧
    scx.scheduler = view.selected.getD "" ∧ scx.profile ∈ scxProfile ∧
    scx.profileVisible = profileUiVisible scx.scheduler ∧
    (view.edited = false → scx.flags = flagsText scx.config scx.scheduler scx.profile)

theorem displayedItem_mem (items : List String) (selected : String)
    (member : selected ∈ items) : displayedItem items selected = some selected := by
  unfold displayedItem
  cases found : items.findIdx? (· = selected) with
  | none =>
      have missing := List.findIdx?_eq_none_iff.mp found selected member
      simp at missing
  | some index =>
      obtain ⟨bound, same, _⟩ := List.findIdx?_eq_some_iff_getElem.mp found
      rw [Option.getD_some, List.getElem?_eq_getElem bound]
      simpa using same

theorem mem_of_displayedItem (items : List String) (selected shown : String)
    (displayed : displayedItem items selected = some shown) : shown ∈ items :=
  List.mem_of_getElem? displayed

theorem initial_rendered (vercmp : String → String → Ordering) (app : App)
    (items : List String) (config : SchedConfig) (label configPath : String) :
    ScxRendered items (ScxView.initial vercmp app items config label configPath) := by
  have shown : (ScxView.initial vercmp app items config label configPath).app.scx =
      some
        { ScxWindowModel.fromInitSteps
            (windowInit
              { configInitFailed := false
                supportedScheds := .ok items
                config := config
                currentSchedulerLabel := label }) configPath "Auto" config with
          critical := none } := rfl
  rw [windowInit_loaded] at shown
  exact ⟨_, shown, rfl, rfl, label_mem_scxProfile _, rfl, fun _ => rfl⟩

theorem viewStep_rendered (vercmp : String → String → Ordering) (items : List String)
    (view : ScxView) (message : UiMessage) (rendered : ScxRendered items view)
    (offered : ItemsOffered view message) :
    ScxRendered items (viewStep vercmp view message) := by
  obtain ⟨scx, shown, listed, selected, profile, visible, flags⟩ := rendered
  have updated : (viewStep vercmp view message).app.scx = message.reschedule view.app :=
    update_scx vercmp view.app message
  unfold ScxRendered
  rw [updated]
  cases message with
  | semantic message =>
      cases message with
      | schedulerChanged scheduler mode => exact offered.elim
      | _ => exact ⟨scx, shown, listed, selected, profile, visible, flags⟩
  | scxInit model => exact offered.elim
  | scxFlagsChanged value =>
      simp only [UiMessage.reschedule, shown, Option.map_some]
      refine ⟨_, rfl, listed, selected, profile, visible, ?_⟩
      intro unedited
      cases unedited
  | scxSchedulerPicked scheduler =>
      simp only [UiMessage.reschedule, shown, Option.map_some]
      exact ⟨_, rfl, listed, rfl, profile, rfl, fun _ => rfl⟩
  | scxProfilePicked picked =>
      simp only [UiMessage.reschedule, shown, Option.map_some]
      exact ⟨_, rfl, listed, selected, offered, visible, fun _ => rfl⟩
  | _ => exact ⟨scx, shown, listed, selected, profile, visible, flags⟩

theorem scxApply_scheduler (app : App) (scx : ScxWindowModel) (job : ScxApplyJob)
    (shown : app.scx = some scx) (applied : app.scxApply.2 = [.scxApply job]) :
    job.scheduler = scx.scheduler := by
  simp only [App.scxApply, shown] at applied
  split at applied
  · cases applied
  · simp only [List.cons.injEq, Task.scxApply.injEq, and_true] at applied
    rw [← applied]

theorem rendered_shown (items : List String) (view : ScxView)
    (rendered : ScxRendered items view) :
    ScxShown view ↔
      ∃ sched : SupportedSched, view.selected = some sched.name ∧ sched.name ∈ items := by
  obtain ⟨scx, window, listed, selected, profile, visible, flags⟩ := rendered
  constructor
  · rintro ⟨other, shown, sched, job, acts⟩
    obtain rfl := Option.some.inj (window.symm.trans shown)
    have applied := scxApply_scheduler view.app scx job window acts.applied
    refine ⟨sched, ?_, ?_⟩
    · have named : view.selected.getD "" = sched.name := by
        rw [← selected, ← applied, acts.scheduler]
      cases picked : view.selected with
      | none =>
          rw [picked] at named
          exact absurd named.symm (name_ne_empty sched)
      | some name =>
          rw [picked] at named
          exact congrArg some named
    · rw [← listed]
      exact mem_of_displayedItem _ _ _ acts.displayed
  · rintro ⟨sched, picked, member⟩
    have named : scx.scheduler = sched.name := by rw [selected, picked, Option.getD_some]
    have applied : view.app.scxApply.2 =
        [.scxApply
          { scheduler := sched.name
            mode := scx.scxMode
            flags := trim scx.flags
            config := scx.config
            configPath := scx.configPath }] := by
      simp only [App.scxApply, window, named, fromStr_name]
    refine ⟨scx, window, sched, _, applied, rfl, ?_, ?_, ?_⟩
    · rw [named, listed]
      exact displayedItem_mem items sched.name member
    · intro unedited
      refine ⟨scx.profile, displayedItem_mem scxProfile scx.profile profile, ?_⟩
      rw [flags unedited, named, flagsText_schedOrBpfland, schedOrBpfland, fromStr_name]
    · rw [visible, named]

/-- After any picks from the offered items the window acts on what it shows exactly if the
scheduler picked last, or else the default of the config, is listed and supported. -/
theorem scxShown_iff (vercmp : String → String → Ordering) (app : App) (items : List String)
    (config : SchedConfig) (label configPath : String) (messages : List UiMessage)
    (offered : Machine.Admissible (viewStep vercmp) ItemsOffered
      (ScxView.initial vercmp app items config label configPath) messages) :
    let view := Machine.run (viewStep vercmp)
      (ScxView.initial vercmp app items config label configPath) messages
    ScxShown view ↔
      ∃ sched : SupportedSched, view.selected = some sched.name ∧ sched.name ∈ items := by
  intro view
  have rendered : ScxRendered items view :=
    Machine.run_invariant (ScxRendered items) (viewStep_rendered vercmp items)
      (initial_rendered vercmp app items config label configPath) offered
  exact rendered_shown items view rendered

namespace Sample

def scxView : ScxView :=
  ScxView.initial vercmp app (SupportedSched.all.map SupportedSched.name) defaultConfig
    "unknown" flags.configPath

end Sample

theorem scxShown_iff_picked :
    let view := Machine.run (viewStep Sample.vercmp) Sample.scxView
      [.scxProfilePicked "Gaming", .scxSchedulerPicked "scx_lavd", .scxFlagsChanged "-v"]
    ScxShown view ↔
      ∃ sched : SupportedSched, view.selected = some sched.name ∧
        sched.name ∈ SupportedSched.all.map SupportedSched.name :=
  scxShown_iff Sample.vercmp Sample.app (SupportedSched.all.map SupportedSched.name)
    defaultConfig "unknown" Sample.flags.configPath _
    ⟨show "Gaming" ∈ scxProfile by decide,
      fun scx shown => by obtain rfl := Option.some.inj shown; decide, trivial, trivial⟩

/-- Without a configured default the window shows the first scheduler and can apply none. -/
theorem defaultConfig_showsFirst :
    ¬ScxShown Sample.scxView ∧
      ∃ scx, Sample.scxView.app.scx = some scx ∧
        displayedItem scx.schedulers scx.scheduler = some "scx_bpfland" ∧
        scx.profileVisible = false ∧ Sample.scxView.app.scxApply.2.length = 0 := by
  constructor
  · rintro ⟨scx, shown, sched, job, acts⟩
    have applied := scxApply_scheduler _ scx job shown acts.applied
    obtain rfl := Option.some.inj shown
    rw [acts.scheduler] at applied
    exact name_ne_empty sched applied
  · exact ⟨_, rfl, by decide, by decide, by decide⟩

end KernelManager
