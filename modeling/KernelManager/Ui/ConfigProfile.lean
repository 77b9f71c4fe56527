import KernelManager.Library.Keyed
import KernelManager.Ui.Combos

/-! Saving the Configure window to a config and loading it back. -/

namespace KernelManager

structure ConfigureWindowModel.Settled (window : ConfigureWindowModel) : Prop where
  canonical : window.Canonical
  label : window.variantLabel = KernelManager.variantLabel window.variant

theorem findItem_value {Item : Type} (items : List Item) (value : Item → String)
    (distinct : (items.map value).Nodup) (item : Item) (member : item ∈ items) :
    ConfigureWindowModel.findItem items value (value item) = some item :=
  Keyed.find?_key items value distinct item member

theorem tickless_found (tickless : TicklessMode) :
    ConfigureWindowModel.findItem TicklessMode.all TicklessMode.value tickless.value =
      some tickless := by
  apply findItem_value _ _ (by decide)
  cases tickless <;> decide

theorem hugepage_found (hugepage : HugepageMode) :
    ConfigureWindowModel.findItem HugepageMode.all HugepageMode.value hugepage.value =
      some hugepage := by
  apply findItem_value _ _ (by decide)
  cases hugepage <;> decide

theorem cpuOpt_found (cpuOpt : CpuOptMode) :
    ConfigureWindowModel.findItem CpuOptMode.all CpuOptMode.value cpuOpt.value =
      some cpuOpt := by
  apply findItem_value _ _ (by decide)
  cases cpuOpt <;> decide

theorem hz_found (hz : HzTick) :
    ConfigureWindowModel.findItem HzTick.all HzTick.value hz.value = some hz := by
  apply findItem_value _ _ (by decide)
  cases hz <;> decide

theorem lto_found (variant : KernelVariant) (lto : LtoMode)
    (offered : lto ∈ variant.transitions.ltoItems) :
    ConfigureWindowModel.findItem variant.transitions.ltoItems LtoMode.value lto.value =
      some lto := by
  apply findItem_value _ _ _ lto offered
  cases variant <;> decide

theorem preempt_found (variant : KernelVariant) (preempt : PreemptMode)
    (offered : preempt ∈ variant.transitions.preemptItems) :
    ConfigureWindowModel.findItem variant.transitions.preemptItems PreemptMode.value
      preempt.value = some preempt := by
  apply findItem_value _ _ _ preempt offered
  cases variant <;> decide

theorem canonical_items (left right : VariantSwitchState) (variant : KernelVariant)
    (first : left.Canonical variant) (second : right.Canonical variant) :
    left.ltoItems = right.ltoItems ∧ left.preemptItems = right.preemptItems ∧
      left.zfsEnabled = right.zfsEnabled := by
  refine ⟨?_, ?_, ?_⟩
  · rw [first.ltoItems, second.ltoItems]
  · rw [first.preemptItems, second.preemptItems]
  · exact Bool.eq_iff_iff.mpr (first.zfs.trans second.zfs.symm)

theorem settled_loads (window saved : ConfigureWindowModel) (settled : window.Settled)
    (savedSettled : saved.Settled) (sameVariant : window.variant = saved.variant) :
    window.loadConfig saved.toConfig = ({ saved with patches := window.patches }, false) := by
  have offered : window.switch.Canonical saved.variant := sameVariant ▸ settled.canonical
  obtain ⟨ltoItems, preemptItems, zfsEnabled⟩ :=
    canonical_items window.switch saved.switch saved.variant offered savedSettled.canonical
  have label : window.variantLabel = saved.variantLabel := by
    rw [settled.label, savedSettled.label, sameVariant]
  have lto : ConfigureWindowModel.findItem saved.switch.ltoItems LtoMode.value
      saved.switch.ltoSelected.value = some saved.switch.ltoSelected := by
    have selected := savedSettled.canonical.lto
    rw [savedSettled.canonical.ltoItems] at selected ⊢
    exact lto_found saved.variant _ selected
  have preempt : ConfigureWindowModel.findItem saved.switch.preemptItems PreemptMode.value
      saved.switch.preemptSelected.value = some saved.switch.preemptSelected := by
    have selected := savedSettled.canonical.preempt
    rw [savedSettled.canonical.preemptItems] at selected ⊢
    exact preempt_found saved.variant _ selected
  simp only [ConfigureWindowModel.loadConfig, ConfigureWindowModel.toConfig, tickless_found,
    hugepage_found, cpuOpt_found, hz_found, lto, preempt, Option.getD_some, Option.isNone_some,
    Bool.or_self, sameVariant, label, ltoItems, preemptItems, zfsEnabled]

theorem reconfigure_label (app : App) (message : UiMessage)
    (label : app.configure.variantLabel = variantLabel app.configure.variant) :
    (message.reconfigure app).variantLabel = variantLabel (message.reconfigure app).variant := by
  cases message with
  | semantic message =>
      cases message with
      | variantChanged variant => rfl
      | _ => exact label
  | variantPicked variant => rfl
  | checkToggled check => cases check <;> exact label
  | patchOp op =>
      obtain ⟨patches, same⟩ := applyPatchOp_window app.configure op
      simp only [UiMessage.reconfigure, same]
      exact label
  | configurePrepared generation patches =>
      simp only [UiMessage.reconfigure]
      split <;> exact label
  | patchesRefreshed generation patches =>
      simp only [UiMessage.reconfigure]
      split <;> exact label
  | pathDialogSubmitted =>
      simp only [UiMessage.reconfigure]
      split <;> exact label
  | _ => exact label

theorem update_settled (vercmp : String → String → Ordering) (app : App)
    (message : UiMessage) (settled : app.configure.Settled)
    (offered : message.PickOffered app) : (step vercmp app message).configure.Settled where
  canonical := update_canonical vercmp app message settled.canonical offered
  label := by
    have configured : (step vercmp app message).configure = message.reconfigure app :=
      update_configure vercmp app message
    rw [configured]
    exact reconfigure_label app message settled.label

theorem run_settled (vercmp : String → String → Ordering) (flags : Flags)
    (locale : ResolvedLocale) (messages : List UiMessage)
    (offered : Machine.Admissible (step vercmp) (fun app message => message.PickOffered app)
      (App.initial flags locale) messages) :
    (Machine.run (step vercmp) (App.initial flags locale) messages).configure.Settled := by
  refine Machine.run_invariant (fun app : App => app.configure.Settled)
    (update_settled vercmp) ?_ offered
  have window : (App.initial flags locale).configure = {} :=
    onEvent_configure { locale := locale, flags := flags } .started
  simp only [window]
  exact ⟨default_canonical, rfl⟩

/-- A config saved from one reachable window and loaded into another of the same variant
restores everything but the patch list, and is not reported as outdated. -/
theorem profile_lossless (vercmp : String → String → Ordering) (flags otherFlags : Flags)
    (locale otherLocale : ResolvedLocale) (messages otherMessages : List UiMessage)
    (offered : Machine.Admissible (step vercmp) (fun app message => message.PickOffered app)
      (App.initial flags locale) messages)
    (otherOffered : Machine.Admissible (step vercmp)
      (fun app message => message.PickOffered app) (App.initial otherFlags otherLocale)
      otherMessages) :
    let saved := (Machine.run (step vercmp) (App.initial flags locale) messages).configure
    let window :=
      (Machine.run (step vercmp) (App.initial otherFlags otherLocale) otherMessages).configure
    window.variant = saved.variant →
      window.loadConfig saved.toConfig = ({ saved with patches := window.patches }, false) := by
  intro saved window sameVariant
  exact settled_loads window saved
    (run_settled vercmp otherFlags otherLocale otherMessages otherOffered)
    (run_settled vercmp flags locale messages offered) sameVariant

namespace Sample

def profileSession : List UiMessage :=
  [.variantPicked .hardened, .preemptPicked .voluntary, .hzPicked .hz250, .checkToggled .zfs,
    .cpuOptPicked .zen4, .customNameChanged "mine", .patchOp (.moveUp 1)]

def otherProfileSession : List UiMessage :=
  [.semantic .configureRequested, .variantPicked .rt, .ltoPicked .thinDist,
    .variantPicked .hardened, .patchesRefreshed 4 ["0001-base.patch"]]

end Sample

theorem profile_lossless_profileSession :
    let saved :=
      (Machine.run (step Sample.vercmp) (App.initial Sample.flags Sample.locale)
        Sample.profileSession).configure
    let window :=
      (Machine.run (step Sample.vercmp) (App.initial Sample.flags Sample.locale)
        Sample.otherProfileSession).configure
    window.loadConfig saved.toConfig = ({ saved with patches := window.patches }, false) :=
  profile_lossless Sample.vercmp Sample.flags Sample.flags Sample.locale Sample.locale
    Sample.profileSession Sample.otherProfileSession
    (by simp only [Sample.profileSession, Machine.Admissible, UiMessage.PickOffered]; decide)
    (by simp only [Sample.otherProfileSession, Machine.Admissible, UiMessage.PickOffered]; decide)
    (by decide)

end KernelManager
