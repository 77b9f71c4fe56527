import KernelManager.Ui.Captured
import KernelManager.Ui.Controls

/-! The core build options as the mirror of the Configure window. -/

namespace KernelManager

def Message.wired : Message → Bool
  | .executeRequested | .configureRequested | .cancelRequested | .schedextRequested
  | .kernelToggled _ | .buildRequested | .configurationCancelRequested
  | .configurationCloseRequested | .scxCloseRequested => true
  | _ => false

def UiMessage.wired : UiMessage → Bool
  | .semantic message => message.wired
  | _ => true

def Wired (_app : App) (message : UiMessage) : Prop := message.wired = true

instance (app : App) (message : UiMessage) : Decidable (Wired app message) :=
  inferInstanceAs (Decidable (_ = true))

def Mirrored (app : App) : Prop :=
  app.state.buildOptions = app.syncBuildOptions.state.buildOptions

def UiMessage.rebuildOptions (app : App) (message : UiMessage) : BuildOptions :=
  match message with
  | .semantic (.variantChanged variant) => { app.state.buildOptions with variant := variant }
  | .configurePrepared generation _ =>
      if generation ≠ app.patchEpoch then app.state.buildOptions
      else (app.editOptions (message.reconfigure app)).state.buildOptions
  | .customNameChanged _ | .configLoaded _ | .checkToggled _ | .variantPicked _ | .ltoPicked _
  | .preemptPicked _ | .hzPicked _ | .ticklessPicked _ | .hugepagePicked _ | .cpuOptPicked _ =>
      (app.editOptions (message.reconfigure app)).state.buildOptions
  | _ => app.state.buildOptions

theorem transition_buildOptions (state : AppState) (event : AppEvent) :
    (transition state event).1.buildOptions = state.buildOptions := by
  cases event with
  | executeRequested =>
      simp only [transition]
      split <;> rfl
  | transactionFinished changed => cases changed <;> rfl
  | buildRequested =>
      simp only [transition]
      split <;> rfl
  | _ => rfl

theorem runEffect_buildOptions (app : App) (effect : Effect) :
    (app.runEffect effect).1.state.buildOptions = app.state.buildOptions := by
  cases effect with
  | hideProgress =>
      simp only [App.runEffect]
      split <;> rfl
  | _ => rfl

theorem onEvent_buildOptions (app : App) (event : AppEvent) :
    (app.onEvent event).1.state.buildOptions = app.state.buildOptions := by
  have kept := runEffects_field (fun app : App => app.state.buildOptions) runEffect_buildOptions
    { app with state := (transition app.state event).1 } (transition app.state event).2
  exact kept.trans (transition_buildOptions app.state event)

theorem rebuildOptions_unwritten (app : App) (message : UiMessage)
    (unwritten : message.writes .options = false ∧ message.writes .variant = false) :
    message.rebuildOptions app = app.state.buildOptions := by
  obtain ⟨noOptions, noVariant⟩ := unwritten
  cases message with
  | semantic message =>
      cases message with
      | variantChanged variant => cases noVariant
      | _ => rfl
  | variantPicked variant => cases noVariant
  | configurePrepared generation patches => cases noOptions
  | configLoaded config => cases noOptions
  | customNameChanged value => cases noOptions
  | checkToggled check => cases noOptions
  | ltoPicked lto => cases noOptions
  | preemptPicked preempt => cases noOptions
  | hzPicked hz => cases noOptions
  | ticklessPicked tickless => cases noOptions
  | hugepagePicked hugepage => cases noOptions
  | cpuOptPicked cpuOpt => cases noOptions
  | _ => rfl

theorem update_buildOptions (vercmp : String → String → Ordering) (app : App)
    (message : UiMessage) :
    (update vercmp app message).1.state.buildOptions = message.rebuildOptions app := by
  by_cases unwritten : message.writes .options = false ∧ message.writes .variant = false
  · rw [rebuildOptions_unwritten app message unwritten]
    refine update_field vercmp (fun app : App => app.state.buildOptions) app message ?_ rfl
      onEvent_buildOptions
    intro part own
    cases part with
    | options =>
        rw [unwritten.1] at own
        cases own
    | variant =>
        rw [unwritten.2] at own
        cases own
    | patchEpoch | sorted => exact fun _ same => same
    | checked | sorting => exact fun _ _ _ same => same
    | catalog => exact ⟨fun _ _ same => same, fun _ _ same => same⟩
    | _ => exact fun _ _ same => same
  · cases message with
    | semantic message =>
        cases message with
        | variantChanged variant => rfl
        | _ => exact absurd ⟨rfl, rfl⟩ unwritten
    | configurePrepared generation patches =>
        simp only [update, UiMessage.rebuildOptions, UiMessage.reconfigure]
        split
        · rfl
        · exact onEvent_buildOptions _ _
    | configLoaded config =>
        simp only [update, App.onSemantic]
        split <;> rfl
    | checkToggled check => cases check <;> rfl
    | _ => first | rfl | exact absurd ⟨rfl, rfl⟩ unwritten

theorem syncBuildOptions_congr (left right : App) (same : left.configure = right.configure) :
    left.syncBuildOptions.state.buildOptions = right.syncBuildOptions.state.buildOptions := by
  simp only [App.syncBuildOptions, same]

theorem applyPatchOp_mirrored (app : App) (op : ConfPatchOp) :
    (app.editOptions (app.configure.applyPatchOp op)).state.buildOptions =
      app.syncBuildOptions.state.buildOptions := by
  obtain ⟨patches, same⟩ := applyPatchOp_window app.configure op
  rw [same]
  rfl

/-- What a message does to the options is what it does to the window: the fields that it
leaves unsynced are not mirrored. -/
theorem rebuildOptions_mirrored (app : App) (message : UiMessage)
    (wired : message.wired = true) (mirrored : Mirrored app) :
    message.rebuildOptions app =
      (app.editOptions (message.reconfigure app)).state.buildOptions := by
  cases message with
  | semantic message => cases message <;> first | exact mirrored | cases wired
  | configurePrepared generation patches =>
      by_cases current : generation = app.patchEpoch
      · simp only [UiMessage.rebuildOptions, current, ne_eq, not_true_eq_false, ↓reduceIte]
      · simp only [UiMessage.rebuildOptions, UiMessage.reconfigure, current, ne_eq,
          not_false_eq_true, ↓reduceIte]
        exact mirrored
  | patchesRefreshed generation patches =>
      simp only [UiMessage.reconfigure]
      split <;> exact mirrored
  | patchOp op => exact mirrored.trans (applyPatchOp_mirrored app op).symm
  | pathDialogSubmitted =>
      simp only [UiMessage.reconfigure]
      split <;> exact mirrored
  | _ => first | rfl | exact mirrored

theorem update_mirrored (vercmp : String → String → Ordering) (app : App)
    (message : UiMessage) (mirrored : Mirrored app) (wired : Wired app message) :
    Mirrored (step vercmp app message) := by
  have configured : (step vercmp app message).configure = message.reconfigure app :=
    update_configure vercmp app message
  have rebuilt : (step vercmp app message).state.buildOptions = message.rebuildOptions app :=
    update_buildOptions vercmp app message
  unfold Mirrored
  rw [rebuilt, rebuildOptions_mirrored app message wired mirrored]
  exact syncBuildOptions_congr _ _ configured.symm

theorem initial_mirrored (flags : Flags) (locale : ResolvedLocale) :
    Mirrored (App.initial flags locale) := by
  have options := onEvent_buildOptions { locale := locale, flags := flags } .started
  have window := onEvent_configure { locale := locale, flags := flags } .started
  refine options.trans ?_
  exact syncBuildOptions_congr { locale := locale, flags := flags } _ window.symm

theorem transition_runBuild (state : AppState) (event : AppEvent) (variantDir : String)
    (emitted : Effect.runBuild variantDir ∈ (transition state event).2) :
    event = .buildRequested ∧ state.build.inFlight = false ∧
      variantDir = state.buildOptions.variant.dirName := by
  cases event with
  | buildRequested =>
      cases flight : state.build.inFlight with
      | true => simp [transition, flight] at emitted
      | false => exact ⟨rfl, rfl, by simpa [transition, flight] using emitted⟩
  | executeRequested =>
      simp only [transition] at emitted
      split at emitted <;> simp at emitted
  | transactionFinished changed => cases changed <;> simp [transition] at emitted
  | _ => simp [transition] at emitted

theorem buildRequested_tasks (vercmp : String → String → Ordering) (app : App)
    (idle : app.state.build.inFlight = false) :
    (update vercmp app (.semantic .buildRequested)).2 =
      [.build (app.buildJob (app.buildEpoch + 1))] := by
  simp [update, App.onSemantic, App.onEvent, transition, App.runEffects, App.runEffect, idle,
    Message.cancelsBuild, App.buildJob]

/-- After any run of what the windows and workers send the core options are those of the
Configure window, and a build effect names the directory of the variant that is built. -/
theorem buildOptions_mirrored (vercmp : String → String → Ordering) (flags : Flags)
    (locale : ResolvedLocale) (messages : List UiMessage)
    (wired : Machine.Admissible (step vercmp) Wired (App.initial flags locale) messages) :
    let app := Machine.run (step vercmp) (App.initial flags locale) messages
    app.state.buildOptions = app.syncBuildOptions.state.buildOptions ∧
      ∀ event variantDir, Effect.runBuild variantDir ∈ (transition app.state event).2 →
        event = .buildRequested ∧
          ∃ job, (update vercmp app (.semantic .buildRequested)).2 = [.build job] ∧
            variantDir = job.variant.dirName := by
  intro app
  have mirrored : Mirrored app :=
    Machine.run_invariant Mirrored (update_mirrored vercmp) (initial_mirrored flags locale) wired
  refine ⟨mirrored, ?_⟩
  intro event variantDir emitted
  obtain ⟨pressed, idle, named⟩ := transition_runBuild app.state event variantDir emitted
  refine ⟨pressed, _, buildRequested_tasks vercmp app idle, ?_⟩
  have shown : app.state.buildOptions.variant = app.configure.variant :=
    congrArg BuildOptions.variant mirrored
  rw [named, shown]
  rfl

namespace Sample

def optionSession : List UiMessage :=
  [.semantic .configureRequested, .configurePrepared 1 ["0001-base.patch"],
    .variantPicked .hardened, .checkToggled .zfs,
    .configLoaded { ltoCombo := "thin-dist", hzTicksCombo := "500" }, .variantPicked .rt,
    .customNameChanged "mine", .semantic .buildRequested]

end Sample

theorem buildOptions_mirrored_optionSession :
    let app := Machine.run (step Sample.vercmp) (App.initial Sample.flags Sample.locale)
      Sample.optionSession
    app.state.buildOptions = app.syncBuildOptions.state.buildOptions ∧
      ∀ event variantDir, Effect.runBuild variantDir ∈ (transition app.state event).2 →
        event = .buildRequested ∧
          ∃ job, (update Sample.vercmp app (.semantic .buildRequested)).2 = [.build job] ∧
            variantDir = job.variant.dirName :=
  buildOptions_mirrored Sample.vercmp Sample.flags Sample.locale Sample.optionSession (by decide)

end KernelManager
