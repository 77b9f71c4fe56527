import KernelManager.Scx.Apply
import KernelManager.Ui.SchedExt

/-! What the plans of the sched-ext window persist, one after the other. -/

namespace KernelManager

structure ServiceStates where
  scxEnabled : Bool := false
  scxActive : Bool := false
  scxLoaderEnabled : Bool := true
  deriving DecidableEq, Repr

def ScxApplyJob.input (job : ScxApplyJob) (services : ServiceStates) : ApplyInput where
  scxName := job.scheduler
  scxMode := job.mode
  extraFlags := job.flags
  config := job.config
  scxServiceEnabled := services.scxEnabled
  scxServiceActive := services.scxActive
  scxLoaderServiceEnabled := services.scxLoaderEnabled
  configPath := job.configPath

structure ScxRequest where
  message : UiMessage
  services : ServiceStates := {}

/-- The application with what its plans have done since the window was initialised: the config
that was loaded, the one that was persisted last, all mutations applied in turn to the loaded
one, and the mode of the last apply. -/
structure ScxHistory where
  app : App
  loaded : SchedConfig
  persisted : Option SchedConfig := none
  folded : SchedConfig := loaded
  appliedMode : Option SchedMode := none

namespace ScxHistory

def execute (services : ServiceStates) (history : ScxHistory) : Task → ScxHistory
  | .scxApply job =>
      match applyPlan (job.input services) with
      | none => history
      | some plan =>
          { history with
            persisted := some plan.config
            folded := applyConfigMutation history.folded job.scheduler job.mode
            appliedMode := some job.mode }
  | .scxDisable config configPath =>
      { history with
        persisted := some (disablePlan config configPath).config
        folded := disableConfigMutation history.folded }
  | _ => history

def initial (vercmp : String → String → Ordering) (app : App) (model : ScxWindowModel) :
    ScxHistory where
  app := step vercmp app (.scxInit model)
  loaded := model.config

end ScxHistory

def scxStep (vercmp : String → String → Ordering) (history : ScxHistory)
    (request : ScxRequest) : ScxHistory :=
  let (app, tasks) := update vercmp history.app request.message
  tasks.foldl (ScxHistory.execute request.services) { history with app := app }

def UiMessage.initialisesScx : UiMessage → Bool
  | .scxInit _ => true
  | _ => false

def NotReinitialised (_history : ScxHistory) (request : ScxRequest) : Prop :=
  request.message.initialisesScx = false

instance (history : ScxHistory) (request : ScxRequest) :
    Decidable (NotReinitialised history request) := inferInstanceAs (Decidable (_ = _))

def PersistsFold (history : ScxHistory) : Prop :=
  ∀ config, history.persisted = some config → config = history.folded

def DisablesLoadedMode (history : ScxHistory) (request : ScxRequest) : Prop :=
  match request.message with
  | .scxDisable => ∀ mode, history.appliedMode = some mode → history.loaded.defaultMode = some mode
  | _ => True

/-- The window carries the loaded config, and the mutations have touched its defaults only. -/
structure PlansLoaded (history : ScxHistory) : Prop where
  window : ∃ scx, history.app.scx = some scx ∧ scx.config = history.loaded
  scheds : history.folded.scheds = history.loaded.scheds
  mode : history.folded.defaultMode = history.appliedMode.or history.loaded.defaultMode

theorem execute_other (services : ServiceStates) (history : ScxHistory) (task : Task)
    (other : task.executesPlan = false) : history.execute services task = history := by
  cases task with
  | scxApply job => cases other
  | scxDisable config configPath => cases other
  | _ => rfl

theorem scxStep_plans (vercmp : String → String → Ordering) (history : ScxHistory)
    (request : ScxRequest) :
    scxStep vercmp history request =
      (request.message.plans history.app).foldl (ScxHistory.execute request.services)
        { history with app := (update vercmp history.app request.message).1 } := by
  have skipped : ScxHistory.execute request.services = fun history task =>
      if task.executesPlan then history.execute request.services task else history := by
    funext history task
    cases plan : task.executesPlan with
    | true => rfl
    | false => exact execute_other request.services history task plan
  rw [← update_plans vercmp, List.foldl_filter, ← skipped]
  rfl

theorem reschedule_config (app : App) (message : UiMessage) (scx : ScxWindowModel)
    (shown : app.scx = some scx) (kept : message.initialisesScx = false) :
    ∃ after, message.reschedule app = some after ∧ after.config = scx.config := by
  cases message with
  | semantic message =>
      cases message with
      | schedulerChanged scheduler mode =>
          simp only [UiMessage.reschedule, Message.reschedule, shown, Option.map_some]
          exact ⟨_, rfl, rfl⟩
      | _ => exact ⟨scx, shown, rfl⟩
  | scxInit model => cases kept
  | scxFlagsChanged value =>
      simp only [UiMessage.reschedule, shown, Option.map_some]
      exact ⟨_, rfl, rfl⟩
  | scxSchedulerPicked scheduler =>
      simp only [UiMessage.reschedule, shown, Option.map_some]
      exact ⟨_, rfl, rfl⟩
  | scxProfilePicked profile =>
      simp only [UiMessage.reschedule, shown, Option.map_some]
      exact ⟨_, rfl, rfl⟩
  | _ => exact ⟨scx, shown, rfl⟩

/-- What one request does: an apply and a disable mutate the loaded config and the fold, and
nothing else touches either. -/
theorem scxStep_cases (vercmp : String → String → Ordering) (history : ScxHistory)
    (request : ScxRequest) (loaded : PlansLoaded history) :
    (∃ scheduler mode, request.message = .scxApply ∧
        scxStep vercmp history request =
          { app := (update vercmp history.app request.message).1
            loaded := history.loaded
            persisted := some (applyConfigMutation history.loaded scheduler mode)
            folded := applyConfigMutation history.folded scheduler mode
            appliedMode := some mode }) ∨
      (request.message = .scxDisable ∧
        scxStep vercmp history request =
          { history with
            app := (update vercmp history.app request.message).1
            persisted := some (disableConfigMutation history.loaded)
            folded := disableConfigMutation history.folded }) ∨
      request.message ≠ .scxDisable ∧
        scxStep vercmp history request =
          { history with app := (update vercmp history.app request.message).1 } := by
  obtain ⟨scx, shown, config⟩ := loaded.window
  rw [scxStep_plans]
  cases pressed : request.message with
  | scxApply =>
      cases parsed : SupportedSched.fromStr scx.scheduler with
      | error message =>
          refine Or.inr (Or.inr ⟨by simp, ?_⟩)
          simp [UiMessage.plans, App.scxApply, shown, parsed]
      | ok sched =>
          refine Or.inl ⟨scx.scheduler, scx.scxMode, rfl, ?_⟩
          simp [UiMessage.plans, App.scxApply, shown, parsed, ScxHistory.execute, applyPlan,
            ScxApplyJob.input, config]
  | scxDisable =>
      refine Or.inr (Or.inl ⟨rfl, ?_⟩)
      simp [UiMessage.plans, shown, ScxHistory.execute, disablePlan, config]
  | _ => exact Or.inr (Or.inr ⟨by simp, rfl⟩)

theorem scxStep_plansLoaded (vercmp : String → String → Ordering) (history : ScxHistory)
    (request : ScxRequest) (before : PlansLoaded history)
    (kept : NotReinitialised history request) : PlansLoaded (scxStep vercmp history request) := by
  obtain ⟨scx, shown, config⟩ := before.window
  have window : ∃ after, (update vercmp history.app request.message).1.scx = some after ∧
      after.config = history.loaded := by
    rw [update_scx, ← config]
    exact reschedule_config history.app request.message scx shown kept
  rcases scxStep_cases vercmp history request before with
    ⟨scheduler, mode, _, stepped⟩ | ⟨_, stepped⟩ | ⟨_, stepped⟩
  · rw [stepped]
    exact ⟨window, before.scheds, rfl⟩
  · rw [stepped]
    exact ⟨window, before.scheds, before.mode⟩
  · rw [stepped]
    exact ⟨window, before.scheds, before.mode⟩

theorem applyConfigMutation_congr (first second : SchedConfig) (scheduler : String)
    (mode : SchedMode) (scheds : first.scheds = second.scheds) :
    applyConfigMutation first scheduler mode = applyConfigMutation second scheduler mode := by
  simp only [applyConfigMutation, scheds]

theorem disableConfigMutation_iff (first second : SchedConfig)
    (scheds : first.scheds = second.scheds) :
    disableConfigMutation first = disableConfigMutation second ↔
      first.defaultMode = second.defaultMode := by
  simp [disableConfigMutation, scheds]

theorem scxStep_persistsFold (vercmp : String → String → Ordering) (history : ScxHistory)
    (request : ScxRequest) (loaded : PlansLoaded history) (before : PersistsFold history) :
    PersistsFold (scxStep vercmp history request) ↔ DisablesLoadedMode history request := by
  rcases scxStep_cases vercmp history request loaded with
    ⟨scheduler, mode, pressed, stepped⟩ | ⟨pressed, stepped⟩ | ⟨other, stepped⟩
  · rw [stepped]
    refine iff_of_true ?_ (by simp [DisablesLoadedMode, pressed])
    intro config persisted
    obtain rfl := Option.some.inj persisted
    exact applyConfigMutation_congr _ _ scheduler mode loaded.scheds.symm
  · have same := disableConfigMutation_iff history.loaded history.folded loaded.scheds.symm
    simp only [stepped, PersistsFold, Option.some.injEq, forall_eq', same, loaded.mode,
      DisablesLoadedMode, pressed]
    cases history.appliedMode with
    | none => simp
    | some mode => simp
  · rw [stepped]
    refine iff_of_true before ?_
    unfold DisablesLoadedMode
    split
    · exact absurd ‹_› other
    · trivial

/-- In a window that is not initialised again every plan persists what all mutations in turn
give exactly if no disable follows an apply of another mode than the loaded one. -/
theorem persistsFold_iff (vercmp : String → String → Ordering) (app : App)
    (model : ScxWindowModel) (requests : List ScxRequest)
    (kept : Machine.Admissible (scxStep vercmp) NotReinitialised
      (ScxHistory.initial vercmp app model) requests) :
    Machine.Always (scxStep vercmp) PersistsFold (ScxHistory.initial vercmp app model)
        requests ↔
      Machine.Admissible (scxStep vercmp) DisablesLoadedMode
        (ScxHistory.initial vercmp app model) requests := by
  refine Machine.always_iff_admissible PlansLoaded (scxStep_plansLoaded vercmp)
    (fun history request loaded before _ =>
      scxStep_persistsFold vercmp history request loaded before) ?_ ?_ kept
  · exact ⟨⟨{ model with critical := none }, rfl, rfl⟩, rfl, rfl⟩
  · intro config persisted
    cases persisted

namespace Sample

def scxModel : ScxWindowModel where
  schedulers := SupportedSched.all.map SupportedSched.name
  scheduler := "scx_bpfland"
  runningScheduler := "scx_bpfland"
  enabled := true
  profileVisible := true
  profile := "Auto"
  flags := ""
  critical := none
  configPath := "/etc/scx_loader.toml"
  config := { defaultConfig with defaultSched := some .bpfland }

def scxSession : List ScxRequest :=
  [⟨.scxDisable, {}⟩, ⟨.scxSchedulerPicked "scx_lavd", {}⟩, ⟨.scxApply, {}⟩,
    ⟨.scxApplied true, {}⟩, ⟨.scxDisable, { scxActive := true }⟩,
    ⟨.scxProfilePicked "Gaming", {}⟩, ⟨.scxApply, {}⟩]

def disableAfterGaming : List ScxRequest :=
  [⟨.scxProfilePicked "Gaming", {}⟩, ⟨.scxApply, {}⟩, ⟨.scxApplied true, {}⟩, ⟨.scxDisable, {}⟩]

end Sample

theorem persistsFold_iff_scxSession :
    Machine.Always (scxStep Sample.vercmp) PersistsFold
        (ScxHistory.initial Sample.vercmp Sample.app Sample.scxModel) Sample.scxSession ↔
      Machine.Admissible (scxStep Sample.vercmp) DisablesLoadedMode
        (ScxHistory.initial Sample.vercmp Sample.app Sample.scxModel) Sample.scxSession :=
  persistsFold_iff Sample.vercmp Sample.app Sample.scxModel Sample.scxSession (by decide)

theorem disable_losesMode :
    Machine.Admissible (scxStep Sample.vercmp) NotReinitialised
        (ScxHistory.initial Sample.vercmp Sample.app Sample.scxModel)
        Sample.disableAfterGaming ∧
      ¬PersistsFold
        (Machine.run (scxStep Sample.vercmp)
          (ScxHistory.initial Sample.vercmp Sample.app Sample.scxModel)
          Sample.disableAfterGaming) := by
  refine ⟨by decide, ?_⟩
  intro persists
  have modes := congrArg SchedConfig.defaultMode (persists _ rfl)
  cases modes

end KernelManager
