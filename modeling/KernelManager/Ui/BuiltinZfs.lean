import KernelManager.Ui.OptionsMirror

/-! Whether a build of the realtime kernel can ask for the builtin ZFS module. -/

namespace KernelManager

def UiMessage.togglesZfs : UiMessage → Bool
  | .checkToggled check => check = .zfs
  | _ => false

def ZfsToggledEnabled (app : App) (message : UiMessage) : Prop :=
  message.togglesZfs = true → app.configure.switch.zfsEnabled = true

instance (app : App) (message : UiMessage) : Decidable (ZfsToggledEnabled app message) :=
  inferInstanceAs (Decidable (_ → _))

def RtWithoutZfs (app : App) : Prop :=
  app.configure.variant = .rt →
    app.configure.switch.zfsChecked = false ∧ app.state.buildOptions.builtinZfs = false

instance (app : App) : Decidable (RtWithoutZfs app) := inferInstanceAs (Decidable (_ → _))

/-- No config that asks for ZFS is loaded under rt, and no bare switch to rt finds the flag in
the options, which it does not mirror. -/
def RtStaysWithoutZfs (app : App) : UiMessage → Prop
  | .configLoaded config | .semantic (.configLoaded config) =>
      app.configure.variant = .rt → config.builtinZfsCheck = false
  | .semantic (.variantChanged variant) =>
      variant = .rt → app.state.buildOptions.builtinZfs = false
  | _ => True

def ZfsEnabledOffRt (app : App) : Prop :=
  app.configure.switch.zfsEnabled = true ↔ app.configure.variant ≠ .rt

theorem toggleCheck_zfs (window : ConfigureWindowModel) (check : ConfCheck)
    (other : check ≠ .zfs) :
    (window.toggleCheck check).switch.zfsChecked = window.switch.zfsChecked := by
  cases check with
  | zfs => exact absurd rfl other
  | _ => rfl

theorem toggleCheck_variant (window : ConfigureWindowModel) (check : ConfCheck) :
    (window.toggleCheck check).variant = window.variant ∧
      (window.toggleCheck check).switch.zfsEnabled = window.switch.zfsEnabled := by
  cases check <;> exact ⟨rfl, rfl⟩

theorem onVariantChanged_zfs (window : ConfigureWindowModel) (variant : KernelVariant) :
    (window.onVariantChanged variant []).variant = variant ∧
      ((window.onVariantChanged variant []).switch.zfsEnabled = true ↔ variant ≠ .rt) ∧
      (variant = .rt → (window.onVariantChanged variant []).switch.zfsChecked = false) := by
  refine ⟨rfl, ?_, ?_⟩
  · simp [ConfigureWindowModel.onVariantChanged, ConfigureWindowModel.resetPatches,
      VariantSwitchState.switchTo]
  · rintro rfl
    rfl

theorem update_zfsEnabledOffRt (vercmp : String → String → Ordering) (app : App)
    (message : UiMessage) (before : ZfsEnabledOffRt app) :
    ZfsEnabledOffRt (step vercmp app message) := by
  unfold ZfsEnabledOffRt at before ⊢
  have configured : (step vercmp app message).configure = message.reconfigure app :=
    update_configure vercmp app message
  rw [configured]
  cases message with
  | semantic message =>
      cases message with
      | variantChanged variant => exact (onVariantChanged_zfs app.configure variant).2.1
      | _ => exact before
  | variantPicked variant => exact (onVariantChanged_zfs app.configure variant).2.1
  | checkToggled check =>
      obtain ⟨variant, enabled⟩ := toggleCheck_variant app.configure check
      simpa only [UiMessage.reconfigure, variant, enabled] using before
  | patchOp op =>
      obtain ⟨patches, same⟩ := applyPatchOp_window app.configure op
      simpa only [UiMessage.reconfigure, same] using before
  | configurePrepared generation patches =>
      simp only [UiMessage.reconfigure]
      split <;> exact before
  | patchesRefreshed generation patches =>
      simp only [UiMessage.reconfigure]
      split <;> exact before
  | pathDialogSubmitted =>
      simp only [UiMessage.reconfigure]
      split <;> exact before
  | _ => exact before

theorem synced_withoutZfs (app : App) (window : ConfigureWindowModel) :
    (window.variant = .rt → window.switch.zfsChecked = false ∧
      (app.editOptions window).state.buildOptions.builtinZfs = false) ↔
        (window.variant = .rt → window.switch.zfsChecked = false) := by
  constructor
  · intro without rt
    exact (without rt).1
  · intro unchecked rt
    exact ⟨unchecked rt, unchecked rt⟩

theorem update_rtWithoutZfs (vercmp : String → String → Ordering) (app : App)
    (message : UiMessage) (enabledOffRt : ZfsEnabledOffRt app) (before : RtWithoutZfs app)
    (enabled : ZfsToggledEnabled app message) :
    RtWithoutZfs (step vercmp app message) ↔ RtStaysWithoutZfs app message := by
  have unchecked : app.configure.variant = .rt → app.configure.switch.zfsChecked = false :=
    fun rt => (before rt).1
  have configured : (step vercmp app message).configure = message.reconfigure app :=
    update_configure vercmp app message
  have rebuilt : (step vercmp app message).state.buildOptions = message.rebuildOptions app :=
    update_buildOptions vercmp app message
  unfold RtWithoutZfs at before ⊢
  rw [configured, rebuilt]
  cases message with
  | semantic message =>
      cases message with
      | variantChanged variant =>
          obtain ⟨picked, _, off⟩ := onVariantChanged_zfs app.configure variant
          constructor
          · intro without rt
            exact (without (picked.trans rt)).2
          · intro options rt
            exact ⟨off (picked.symm.trans rt), options (picked.symm.trans rt)⟩
      | configLoaded config =>
          constructor
          · intro without rt
            exact (without rt).1
          · intro loaded rt
            exact ⟨loaded rt, (before rt).2⟩
      | _ => exact iff_of_true before trivial
  | configLoaded config => exact synced_withoutZfs app (app.configure.loadConfig config).1
  | variantPicked variant =>
      refine iff_of_true ?_ trivial
      exact (synced_withoutZfs app (app.configure.onVariantChanged variant [])).mpr
        (onVariantChanged_zfs app.configure variant).2.2
  | checkToggled check =>
      refine iff_of_true ?_ trivial
      refine (synced_withoutZfs app (app.configure.toggleCheck check)).mpr ?_
      rw [(toggleCheck_variant app.configure check).1]
      intro rt
      by_cases zfs : check = .zfs
      · have clickable : app.configure.switch.zfsEnabled = true :=
          enabled (by simp [UiMessage.togglesZfs, zfs])
        exact absurd rt (enabledOffRt.mp clickable)
      · exact (toggleCheck_zfs app.configure check zfs).trans (unchecked rt)
  | configurePrepared generation patches =>
      refine iff_of_true ?_ trivial
      simp only [UiMessage.reconfigure, UiMessage.rebuildOptions]
      split
      · exact before
      · exact (synced_withoutZfs app _).mpr unchecked
  | patchesRefreshed generation patches =>
      refine iff_of_true ?_ trivial
      simp only [UiMessage.reconfigure]
      split <;> exact before
  | patchOp op =>
      obtain ⟨patches, same⟩ := applyPatchOp_window app.configure op
      refine iff_of_true ?_ trivial
      simp only [UiMessage.reconfigure, same]
      exact before
  | pathDialogSubmitted =>
      refine iff_of_true ?_ trivial
      simp only [UiMessage.reconfigure]
      split <;> exact before
  | customNameChanged value =>
      exact iff_of_true ((synced_withoutZfs app _).mpr unchecked) trivial
  | ltoPicked lto => exact iff_of_true ((synced_withoutZfs app _).mpr unchecked) trivial
  | preemptPicked preempt =>
      exact iff_of_true ((synced_withoutZfs app _).mpr unchecked) trivial
  | hzPicked hz => exact iff_of_true ((synced_withoutZfs app _).mpr unchecked) trivial
  | ticklessPicked tickless =>
      exact iff_of_true ((synced_withoutZfs app _).mpr unchecked) trivial
  | hugepagePicked hugepage =>
      exact iff_of_true ((synced_withoutZfs app _).mpr unchecked) trivial
  | cpuOptPicked cpuOpt => exact iff_of_true ((synced_withoutZfs app _).mpr unchecked) trivial
  | _ => exact iff_of_true before trivial

/-- Every state of a run keeps rt without ZFS exactly if no config with the flag is loaded
under rt and no bare switch to rt finds it in the options. -/
theorem rtWithoutZfs_iff (vercmp : String → String → Ordering) (flags : Flags)
    (locale : ResolvedLocale) (messages : List UiMessage)
    (enabled : Machine.Admissible (step vercmp) ZfsToggledEnabled (App.initial flags locale)
      messages) :
    Machine.Always (step vercmp) RtWithoutZfs (App.initial flags locale) messages ↔
      Machine.Admissible (step vercmp) RtStaysWithoutZfs (App.initial flags locale)
        messages := by
  have window : (App.initial flags locale).configure = {} :=
    onEvent_configure { locale := locale, flags := flags } .started
  refine Machine.always_iff_admissible ZfsEnabledOffRt
    (fun app message offRt _ => update_zfsEnabledOffRt vercmp app message offRt)
    (update_rtWithoutZfs vercmp) ?_ ?_ enabled
  · unfold ZfsEnabledOffRt
    rw [window]
    decide
  · intro rt
    rw [window] at rt
    cases rt

namespace Sample

def rtSession : List UiMessage :=
  [.checkToggled .zfs, .variantPicked .rt, .configLoaded { ltoCombo := "thin" },
    .variantPicked .server, .configLoaded { builtinZfsCheck := true }, .variantPicked .rt]

def rtConfigLoaded : List UiMessage :=
  [.variantPicked .rt, .configLoaded { builtinZfsCheck := true }]

end Sample

theorem rtWithoutZfs_iff_rtSession :
    Machine.Always (step Sample.vercmp) RtWithoutZfs (App.initial Sample.flags Sample.locale)
        Sample.rtSession ↔
      Machine.Admissible (step Sample.vercmp) RtStaysWithoutZfs
        (App.initial Sample.flags Sample.locale) Sample.rtSession :=
  rtWithoutZfs_iff Sample.vercmp Sample.flags Sample.locale Sample.rtSession (by decide)

/-- A config saved for another variant checks the disabled box under rt. -/
theorem configLoaded_zfsOnRt :
    Machine.Admissible (step Sample.vercmp) ZfsToggledEnabled
        (App.initial Sample.flags Sample.locale) Sample.rtConfigLoaded ∧
      ¬RtWithoutZfs
        (Machine.run (step Sample.vercmp) (App.initial Sample.flags Sample.locale)
          Sample.rtConfigLoaded) := by
  decide

end KernelManager
