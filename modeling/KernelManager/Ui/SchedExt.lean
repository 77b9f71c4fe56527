import KernelManager.Ui.Captured
import KernelManager.Ui.Controls

/-! What a message does to the sched-ext window, and the plans it starts. -/

namespace KernelManager

def Message.reschedule (app : App) : Message → Option ScxWindowModel
  | .schedulerChanged scheduler _ => app.scx.map (·.onSchedChanged scheduler defaultConfig)
  | _ => app.scx

def UiMessage.reschedule (app : App) : UiMessage → Option ScxWindowModel
  | .semantic message => message.reschedule app
  | .scxInit model => some { model with critical := none }
  | .scxFlagsChanged value => app.scx.map fun scx => { scx with flags := value }
  | .scxSchedulerPicked scheduler =>
      app.scx.map fun scx => scx.onSchedChanged scheduler scx.config
  | .scxProfilePicked profile => app.scx.map fun scx => scx.onProfileChanged profile scx.config
  | _ => app.scx

def Task.executesPlan : Task → Bool
  | .scxApply _ | .scxDisable _ _ => true
  | _ => false

def UiMessage.plans (app : App) : UiMessage → List Task
  | .scxApply => app.scxApply.2
  | .scxDisable =>
      match app.scx with
      | some scx => [.scxDisable scx.config scx.configPath]
      | none => []
  | _ => []

theorem runEffect_scx (app : App) (effect : Effect) :
    (app.runEffect effect).1.scx = app.scx := by
  cases effect with
  | hideProgress =>
      simp only [App.runEffect]
      split <;> rfl
  | _ => rfl

theorem onEvent_scx (app : App) (event : AppEvent) : (app.onEvent event).1.scx = app.scx :=
  runEffects_field App.scx runEffect_scx _ _

theorem reschedule_unwritten (app : App) (message : UiMessage)
    (unwritten : message.writes .scx = false) : message.reschedule app = app.scx := by
  cases message with
  | semantic message =>
      cases message with
      | schedulerChanged scheduler mode => cases unwritten
      | _ => rfl
  | scxInit model => cases unwritten
  | scxFlagsChanged value => cases unwritten
  | scxSchedulerPicked scheduler => cases unwritten
  | scxProfilePicked profile => cases unwritten
  | _ => rfl

theorem update_scx (vercmp : String → String → Ordering) (app : App) (message : UiMessage) :
    (update vercmp app message).1.scx = message.reschedule app := by
  cases written : message.writes .scx with
  | false =>
      rw [reschedule_unwritten app message written]
      refine update_field vercmp App.scx app message ?_ rfl onEvent_scx
      intro part own
      cases part with
      | scx =>
          rw [written] at own
          cases own
      | options | patchEpoch | sorted => exact fun _ same => same
      | variant | checked | sorting => exact fun _ _ _ same => same
      | catalog => exact ⟨fun _ _ same => same, fun _ _ same => same⟩
      | _ => exact fun _ _ same => same
  | true =>
      cases message with
      | semantic message =>
          cases message with
          | schedulerChanged scheduler mode => rfl
          | _ => cases written
      | scxInit model => rfl
      | scxFlagsChanged value => rfl
      | scxSchedulerPicked scheduler => rfl
      | scxProfilePicked profile => rfl
      | _ => cases written

theorem onEvent_plans (app : App) (event : AppEvent) :
    (app.onEvent event).2.filter Task.executesPlan = [] := by
  cases event with
  | executeRequested =>
      simp only [App.onEvent, transition]
      split <;> rfl
  | transactionFinished changed => cases changed <;> rfl
  | buildRequested =>
      simp only [App.onEvent, transition]
      split <;> rfl
  | _ => rfl

theorem ownTasks_plans (app : App) (message : UiMessage) :
    (message.ownTasks app).filter Task.executesPlan = message.plans app := by
  cases message with
  | scxApply =>
      simp only [UiMessage.ownTasks, UiMessage.plans, App.scxApply]
      split
      · rfl
      · split <;> rfl
  | scxDisable =>
      simp only [UiMessage.ownTasks, UiMessage.plans]
      cases app.scx <;> rfl
  | pathDialogSubmitted =>
      apply List.filter_eq_nil_iff.mpr
      intro task started
      rcases pathDialogSubmitted_tasks app task started with ⟨_, rfl⟩ | ⟨_, _, rfl⟩ <;>
        simp [Task.executesPlan]
  | _ => rfl

theorem update_plans (vercmp : String → String → Ordering) (app : App) (message : UiMessage) :
    (update vercmp app message).2.filter Task.executesPlan = message.plans app := by
  have started := update_tasks vercmp app message
  generalize (update vercmp app message).2 = tasks at started ⊢
  cases started with
  | event base event raised transaction build patchEpoch quiet =>
      rw [onEvent_plans]
      cases impact_raises app message event raised <;> rfl
  | refresh base silent refreshes =>
      cases message with
      | scxApply => cases refreshes
      | scxDisable => cases refreshes
      | _ => rfl
  | own silent quiet => exact ownTasks_plans app message

end KernelManager
