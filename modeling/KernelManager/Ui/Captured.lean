import KernelManager.Ui.Frame

/-! What a message does to the Configure window, and what the build tasks capture of it. -/

namespace KernelManager

def Message.reconfigure (app : App) : Message → ConfigureWindowModel
  | .variantChanged variant => app.configure.onVariantChanged variant []
  | .patchAdded entry => app.configure.addRemotePatch entry
  | .patchRemoved index => app.configure.removePatch index
  | .configLoaded config => (app.configure.loadConfig config).1
  | _ => app.configure

def PathDialog.patches (dialog : PathDialog) : List String :=
  match dialog.onSubmit with
  | .addRemotePatch => if (trim dialog.value).isEmpty then [] else [dialog.value]
  | .addLocalPatch => if (trim dialog.value).isEmpty then [] else ["file://" ++ dialog.value]
  | .loadConfig | .saveConfig => []

def ConfigureWindowModel.appendPatches (window : ConfigureWindowModel)
    (patches : List String) : ConfigureWindowModel :=
  { window with patches := window.patches ++ patches }

def UiMessage.reconfigure (app : App) : UiMessage → ConfigureWindowModel
  | .semantic message => message.reconfigure app
  | .configurePrepared generation patches | .patchesRefreshed generation patches =>
      if generation ≠ app.patchEpoch then app.configure else app.configure.resetPatches patches
  | .customNameChanged value => { app.configure with customName := value }
  | .configLoaded config => (app.configure.loadConfig config).1
  | .checkToggled check => app.configure.toggleCheck check
  | .patchOp op => app.configure.applyPatchOp op
  | .variantPicked variant => app.configure.onVariantChanged variant []
  | .ltoPicked lto =>
      { app.configure with switch := { app.configure.switch with ltoSelected := lto } }
  | .preemptPicked preempt =>
      { app.configure with switch := { app.configure.switch with preemptSelected := preempt } }
  | .hzPicked hz =>
      { app.configure with switch := { app.configure.switch with hzSelected := hz } }
  | .ticklessPicked tickless => { app.configure with tickless := tickless }
  | .hugepagePicked hugepage => { app.configure with hugepage := hugepage }
  | .cpuOptPicked cpuOpt => { app.configure with cpuOpt := cpuOpt }
  | .pathDialogSubmitted =>
      match app.pathDialog with
      | some dialog => app.configure.appendPatches dialog.patches
      | none => app.configure
  | _ => app.configure

theorem applyPatchOp_window (window : ConfigureWindowModel) (op : ConfPatchOp) :
    ∃ patches, window.applyPatchOp op = { window with patches := patches } := by
  have swapped (left right : Nat) :
      ∃ patches, window.swapPatches left right = { window with patches := patches } := by
    unfold ConfigureWindowModel.swapPatches
    split
    · exact ⟨_, rfl⟩
    · exact ⟨window.patches, rfl⟩
  cases op with
  | moveUp index =>
      simp only [ConfigureWindowModel.applyPatchOp, ConfigureWindowModel.moveUp]
      split
      · exact swapped _ _
      · exact ⟨window.patches, rfl⟩
  | moveDown index =>
      simp only [ConfigureWindowModel.applyPatchOp, ConfigureWindowModel.moveDown]
      split
      · exact swapped _ _
      · exact ⟨window.patches, rfl⟩
  | remove index => exact ⟨_, rfl⟩

theorem runEffect_configure (app : App) (effect : Effect) :
    (app.runEffect effect).1.configure = app.configure := by
  cases effect with
  | hideProgress =>
      simp only [App.runEffect]
      split <;> rfl
  | _ => rfl

theorem onEvent_configure (app : App) (event : AppEvent) :
    (app.onEvent event).1.configure = app.configure :=
  runEffects_field App.configure runEffect_configure _ _

theorem reconfigure_unwritten (app : App) (message : UiMessage)
    (unwritten : message.writes .configure = false ∧ message.writes .variant = false) :
    message.reconfigure app = app.configure := by
  obtain ⟨noWindow, noVariant⟩ := unwritten
  cases message with
  | semantic message =>
      cases message with
      | variantChanged variant => cases noVariant
      | patchAdded entry => cases noWindow
      | patchRemoved index => cases noWindow
      | configLoaded config => cases noWindow
      | _ => rfl
  | variantPicked variant => cases noVariant
  | configurePrepared generation patches | patchesRefreshed generation patches => cases noWindow
  | configLoaded config => cases noWindow
  | customNameChanged value => cases noWindow
  | checkToggled check => cases noWindow
  | patchOp op => cases noWindow
  | ltoPicked lto => cases noWindow
  | preemptPicked preempt => cases noWindow
  | hzPicked hz => cases noWindow
  | ticklessPicked tickless => cases noWindow
  | hugepagePicked hugepage => cases noWindow
  | cpuOptPicked cpuOpt => cases noWindow
  | pathDialogSubmitted => cases noWindow
  | _ => rfl

theorem update_configure (vercmp : String → String → Ordering) (app : App)
    (message : UiMessage) :
    (update vercmp app message).1.configure = message.reconfigure app := by
  by_cases unwritten : message.writes .configure = false ∧ message.writes .variant = false
  · rw [reconfigure_unwritten app message unwritten]
    refine update_field vercmp App.configure app message ?_ rfl onEvent_configure
    intro part own
    cases part with
    | configure =>
        rw [unwritten.1] at own
        cases own
    | variant =>
        rw [unwritten.2] at own
        cases own
    | options | patchEpoch | sorted => exact fun _ same => same
    | checked | sorting => exact fun _ _ _ same => same
    | catalog => exact ⟨fun _ _ same => same, fun _ _ same => same⟩
    | _ => exact fun _ _ same => same
  · cases message with
    | semantic message =>
        cases message with
        | configLoaded config =>
            simp only [update, App.onSemantic, Message.cancelsBuild, Bool.false_and,
              Bool.false_eq_true, ↓reduceIte]
            split <;> rfl
        | variantChanged variant => rfl
        | patchAdded entry => rfl
        | patchRemoved index => rfl
        | _ => exact absurd ⟨rfl, rfl⟩ unwritten
    | configurePrepared generation patches =>
        simp only [update, UiMessage.reconfigure]
        split
        · rfl
        · exact onEvent_configure _ _
    | patchesRefreshed generation patches =>
        simp only [update, UiMessage.reconfigure]
        split <;> rfl
    | configLoaded config =>
        simp only [update, App.onSemantic]
        split <;> rfl
    | checkToggled check =>
        simp only [update]
        split <;> rfl
    | pathDialogSubmitted =>
        simp only [update, App.pathDialogSubmitted, UiMessage.reconfigure]
        cases app.pathDialog with
        | none => rfl
        | some dialog =>
            cases kind : dialog.onSubmit <;>
              simp only [PathDialog.patches, kind, ConfigureWindowModel.appendPatches,
                List.append_nil]
            · split <;> simp [App.bumpPatchEpoch, App.setConfigure,
                ConfigureWindowModel.addRemotePatch]
            · split <;> simp [App.bumpPatchEpoch, App.setConfigure,
                ConfigureWindowModel.addLocalPatches]
    | _ => first | rfl | exact absurd ⟨rfl, rfl⟩ unwritten

/-- A build captures the Configure window as it is when Build is pressed. -/
theorem update_build (vercmp : String → String → Ordering) (app : App) (message : UiMessage)
    (job : BuildJob) (spawned : Task.build job ∈ (update vercmp app message).2) :
    message = .semantic .buildRequested ∧ app.state.build.inFlight = false ∧
      job = app.buildJob (app.buildEpoch + 1) := by
  obtain ⟨event, raised, called⟩ :=
    update_operation vercmp app message _ .build rfl spawned
  obtain ⟨rfl, idle⟩ := build_called _ _ called
  have free : app.state.build.inFlight = false := idle
  cases raised
  refine ⟨rfl, free, ?_⟩
  simpa [update, App.onSemantic, App.onEvent, transition, App.runEffects, App.runEffect,
    free, Message.cancelsBuild, App.buildJob] using spawned

theorem update_artifacts (vercmp : String → String → Ordering) (app : App)
    (message : UiMessage) (job : ArtifactsJob)
    (spawned : Task.artifacts job ∈ (update vercmp app message).2) :
    (message = .installQuestion true ∨ message = .semantic .installArtifactsRequested) ∧
      job = app.artifactsJob app.buildEpoch := by
  obtain ⟨event, raised, called⟩ :=
    update_operation vercmp app message _ .artifacts rfl spawned
  obtain rfl := artifacts_called _ _ called
  cases raised with
  | installArtifactsRequested =>
      refine ⟨Or.inr rfl, ?_⟩
      simpa [update, App.onSemantic, App.onEvent, transition, App.runEffects, App.runEffect,
        Message.cancelsBuild, App.artifactsJob] using spawned
  | installAccepted =>
      refine ⟨Or.inl rfl, ?_⟩
      simpa [update, App.onEvent, transition, App.runEffects, App.runEffect,
        App.artifactsJob, App.setDialogs] using spawned

end KernelManager
