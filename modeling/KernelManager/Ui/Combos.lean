import KernelManager.Ui.Captured
import KernelManager.Ui.Controls

/-! The combo boxes of the Configure window as a function of the current variant. -/

namespace KernelManager

def VariantTransitions.ltoItems (transitions : VariantTransitions) : List LtoMode :=
  if transitions.ltoThinDist then [.none, .full, .thin, .thinDist] else [.none, .full, .thin]

def VariantTransitions.preemptItems (transitions : VariantTransitions) : List PreemptMode :=
  if transitions.extendedPreempt then [.full, .lazy, .voluntary, .none] else [.full, .lazy]

namespace VariantSwitchState

/-- The combo boxes are those of `variant`, whatever path of switches led there. -/
structure Canonical (controls : VariantSwitchState) (variant : KernelVariant) : Prop where
  ltoItems : controls.ltoItems = variant.transitions.ltoItems
  preemptItems : controls.preemptItems = variant.transitions.preemptItems
  lto : controls.ltoSelected ∈ controls.ltoItems
  preempt : controls.preemptSelected ∈ controls.preemptItems
  zfs : controls.zfsEnabled = true ↔ variant ≠ .rt

structure Prescribed (controls : VariantSwitchState) (rules : VariantTransitions) : Prop where
  ltoItems : controls.ltoItems = rules.ltoItems
  preemptItems : controls.preemptItems = rules.preemptItems
  lto : controls.ltoSelected = rules.ltoDefault
  preempt : controls.preemptSelected = rules.preemptDefault
  hz : controls.hzSelected = rules.hzDefault
  cachyConfig : controls.cachyConfigChecked = rules.cachyConfigDefault
  zfsEnabled : controls.zfsEnabled = rules.zfsEnabled
  zfsChecked : rules.zfsEnabled = false → controls.zfsChecked = false

end VariantSwitchState

def ConfigureWindowModel.Canonical (window : ConfigureWindowModel) : Prop :=
  window.switch.Canonical window.variant

inductive ConfigureEvent
  | switchVariant (variant : KernelVariant) (sourceArray : List String)
  | pickLto (lto : LtoMode)
  | pickPreempt (preempt : PreemptMode)
  | toggleCheck (check : ConfCheck)
  | loadConfig (config : KernelManagerConfig)

def configureStep (window : ConfigureWindowModel) : ConfigureEvent → ConfigureWindowModel
  | .switchVariant variant sourceArray => window.onVariantChanged variant sourceArray
  | .pickLto lto => { window with switch := { window.switch with ltoSelected := lto } }
  | .pickPreempt preempt =>
      { window with switch := { window.switch with preemptSelected := preempt } }
  | .toggleCheck check => window.toggleCheck check
  | .loadConfig config => (window.loadConfig config).1

def PickOffered (window : ConfigureWindowModel) : ConfigureEvent → Prop
  | .pickLto lto => lto ∈ window.switch.ltoItems
  | .pickPreempt preempt => preempt ∈ window.switch.preemptItems
  | _ => True

instance (window : ConfigureWindowModel) : ∀ event, Decidable (PickOffered window event)
  | .pickLto _ => inferInstanceAs (Decidable (_ ∈ _))
  | .pickPreempt _ => inferInstanceAs (Decidable (_ ∈ _))
  | .switchVariant _ _ => instDecidableTrue
  | .toggleCheck _ => instDecidableTrue
  | .loadConfig _ => instDecidableTrue

theorem transitions_ltoDefault (variant : KernelVariant) :
    variant.transitions.ltoDefault ∈ variant.transitions.ltoItems := by
  cases variant <;> decide

theorem transitions_preemptDefault (variant : KernelVariant) :
    variant.transitions.preemptDefault ∈ variant.transitions.preemptItems := by
  cases variant <;> decide

theorem transitions_zfsEnabled (variant : KernelVariant) :
    variant.transitions.zfsEnabled = true ↔ variant ≠ .rt := by
  simp [KernelVariant.transitions]

/-- Adding and removing items by their count moves from the items of any variant to those of
any other. -/
theorem switchTo_ltoItems (controls : VariantSwitchState) (before after : KernelVariant)
    (items : controls.ltoItems = before.transitions.ltoItems) :
    (controls.switchTo after).ltoItems = after.transitions.ltoItems := by
  simp only [VariantSwitchState.switchTo, items]
  cases before <;> cases after <;> rfl

theorem switchTo_preemptItems (controls : VariantSwitchState) (before after : KernelVariant)
    (items : controls.preemptItems = before.transitions.preemptItems) :
    (controls.switchTo after).preemptItems = after.transitions.preemptItems := by
  simp only [VariantSwitchState.switchTo, items]
  cases before <;> cases after <;> rfl

theorem switchTo_prescribed (controls : VariantSwitchState) (before after : KernelVariant)
    (canonical : controls.Canonical before) :
    (controls.switchTo after).Prescribed after.transitions where
  ltoItems := switchTo_ltoItems controls before after canonical.ltoItems
  preemptItems := switchTo_preemptItems controls before after canonical.preemptItems
  lto := rfl
  preempt := rfl
  hz := rfl
  cachyConfig := rfl
  zfsEnabled := rfl
  zfsChecked := by
    intro disabled
    have rt : after = .rt := by
      by_contra other
      rw [(transitions_zfsEnabled after).mpr other] at disabled
      cases disabled
    subst rt
    rfl

theorem prescribed_canonical (controls : VariantSwitchState) (variant : KernelVariant)
    (prescribed : controls.Prescribed variant.transitions) : controls.Canonical variant where
  ltoItems := prescribed.ltoItems
  preemptItems := prescribed.preemptItems
  lto := by
    rw [prescribed.lto, prescribed.ltoItems]
    exact transitions_ltoDefault variant
  preempt := by
    rw [prescribed.preempt, prescribed.preemptItems]
    exact transitions_preemptDefault variant
  zfs := by
    rw [prescribed.zfsEnabled]
    exact transitions_zfsEnabled variant

theorem onVariantChanged_canonical (window : ConfigureWindowModel) (variant : KernelVariant)
    (sourceArray : List String) (canonical : window.Canonical) :
    (window.onVariantChanged variant sourceArray).Canonical :=
  prescribed_canonical _ variant
    (switchTo_prescribed window.switch window.variant variant canonical)

theorem toggleCheck_canonical (window : ConfigureWindowModel) (check : ConfCheck)
    (canonical : window.Canonical) : (window.toggleCheck check).Canonical := by
  obtain ⟨ltoItems, preemptItems, lto, preempt, zfs⟩ := canonical
  cases check <;> exact ⟨ltoItems, preemptItems, lto, preempt, zfs⟩

theorem findItem_mem {Item : Type} (items : List Item) (value : Item → String)
    (saved : String) (selected : Item) (member : selected ∈ items) :
    (ConfigureWindowModel.findItem items value saved).getD selected ∈ items := by
  cases found : ConfigureWindowModel.findItem items value saved with
  | none => exact member
  | some item => exact List.mem_of_find?_eq_some found

theorem loadConfig_canonical (window : ConfigureWindowModel) (config : KernelManagerConfig)
    (canonical : window.Canonical) : (window.loadConfig config).1.Canonical where
  ltoItems := canonical.ltoItems
  preemptItems := canonical.preemptItems
  lto := findItem_mem _ _ _ _ canonical.lto
  preempt := findItem_mem _ _ _ _ canonical.preempt
  zfs := canonical.zfs

theorem configureStep_canonical (window : ConfigureWindowModel) (event : ConfigureEvent)
    (canonical : window.Canonical) (offered : PickOffered window event) :
    (configureStep window event).Canonical := by
  cases event with
  | switchVariant variant sourceArray =>
      exact onVariantChanged_canonical window variant sourceArray canonical
  | pickLto lto => exact { canonical with lto := offered }
  | pickPreempt preempt => exact { canonical with preempt := offered }
  | toggleCheck check => exact toggleCheck_canonical window check canonical
  | loadConfig config => exact loadConfig_canonical window config canonical

theorem default_canonical : ConfigureWindowModel.Canonical {} where
  ltoItems := rfl
  preemptItems := rfl
  lto := by decide
  preempt := by decide
  zfs := by decide

/-- After any sequence of switches, picks, toggles and loads the combos are those of the
variant, and a further switch leaves what its transitions prescribe. -/
theorem combos_canonical (events : List ConfigureEvent)
    (offered : Machine.Admissible configureStep PickOffered {} events) :
    let window := Machine.run configureStep {} events
    window.switch.Canonical window.variant ∧
      ∀ variant sourceArray,
        (window.onVariantChanged variant sourceArray).switch.Prescribed variant.transitions := by
  intro window
  have canonical : window.Canonical :=
    Machine.run_invariant ConfigureWindowModel.Canonical configureStep_canonical
      default_canonical offered
  exact ⟨canonical, fun variant _ =>
    switchTo_prescribed window.switch window.variant variant canonical⟩

namespace Sample

def comboSession : List ConfigureEvent :=
  [.switchVariant .hardened [], .pickPreempt .voluntary, .switchVariant .server ["0001.patch"],
    .loadConfig { ltoCombo := "thin-dist", preemptCombo := "voluntary" }, .toggleCheck .zfs,
    .switchVariant .rt [], .pickLto .thinDist]

end Sample

theorem combos_canonical_comboSession :
    let window := Machine.run configureStep {} Sample.comboSession
    window.switch.Canonical window.variant ∧
      ∀ variant sourceArray,
        (window.onVariantChanged variant sourceArray).switch.Prescribed variant.transitions :=
  combos_canonical Sample.comboSession (by decide)

section Application

def UiMessage.PickOffered (app : App) : UiMessage → Prop
  | .ltoPicked lto => lto ∈ app.configure.switch.ltoItems
  | .preemptPicked preempt => preempt ∈ app.configure.switch.preemptItems
  | _ => True

theorem applyPatchOp_canonical (window : ConfigureWindowModel) (op : ConfPatchOp)
    (canonical : window.Canonical) : (window.applyPatchOp op).Canonical := by
  obtain ⟨patches, same⟩ := applyPatchOp_window window op
  rw [same]
  exact canonical

theorem update_canonical (vercmp : String → String → Ordering) (app : App)
    (message : UiMessage) (canonical : app.configure.Canonical)
    (offered : message.PickOffered app) :
    (update vercmp app message).1.configure.Canonical := by
  rw [update_configure]
  cases message with
  | semantic message =>
      cases message with
      | variantChanged variant =>
          exact onVariantChanged_canonical app.configure variant [] canonical
      | configLoaded config => exact loadConfig_canonical app.configure config canonical
      | _ => exact canonical
  | configurePrepared generation patches =>
      simp only [UiMessage.reconfigure]
      split <;> exact canonical
  | patchesRefreshed generation patches =>
      simp only [UiMessage.reconfigure]
      split <;> exact canonical
  | configLoaded config => exact loadConfig_canonical app.configure config canonical
  | checkToggled check => exact toggleCheck_canonical app.configure check canonical
  | patchOp op => exact applyPatchOp_canonical app.configure op canonical
  | variantPicked variant => exact onVariantChanged_canonical app.configure variant [] canonical
  | ltoPicked lto => exact { canonical with lto := offered }
  | preemptPicked preempt => exact { canonical with preempt := offered }
  | hzPicked hz =>
      exact ⟨canonical.ltoItems, canonical.preemptItems, canonical.lto, canonical.preempt,
        canonical.zfs⟩
  | pathDialogSubmitted =>
      simp only [UiMessage.reconfigure]
      split <;> exact canonical
  | _ => exact canonical

end Application

end KernelManager
