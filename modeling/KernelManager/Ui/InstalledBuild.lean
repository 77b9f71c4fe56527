import KernelManager.Ui.Captured
import KernelManager.Ui.Controls

/-! Whether what was built is what is installed. -/

namespace KernelManager

def UiMessage.selectedVariant (variant : KernelVariant) : UiMessage → KernelVariant
  | .semantic (.variantChanged picked) | .variantPicked picked => picked
  | _ => variant

def lastVariant (variant : KernelVariant) (messages : List UiMessage) : KernelVariant :=
  messages.foldl UiMessage.selectedVariant variant

theorem swapPatches_variant (window : ConfigureWindowModel) (left right : Nat) :
    (window.swapPatches left right).variant = window.variant := by
  unfold ConfigureWindowModel.swapPatches
  split <;> rfl

theorem applyPatchOp_variant (window : ConfigureWindowModel) (op : ConfPatchOp) :
    (window.applyPatchOp op).variant = window.variant := by
  cases op with
  | moveUp index =>
      simp only [ConfigureWindowModel.applyPatchOp, ConfigureWindowModel.moveUp]
      split
      · exact swapPatches_variant window _ _
      · rfl
  | moveDown index =>
      simp only [ConfigureWindowModel.applyPatchOp, ConfigureWindowModel.moveDown]
      split
      · exact swapPatches_variant window _ _
      · rfl
  | remove index => rfl

theorem reconfigure_variant (app : App) (message : UiMessage) :
    (message.reconfigure app).variant = message.selectedVariant app.configure.variant := by
  cases message with
  | semantic message => cases message <;> rfl
  | configurePrepared generation patches =>
      simp only [UiMessage.reconfigure]
      split <;> rfl
  | patchesRefreshed generation patches =>
      simp only [UiMessage.reconfigure]
      split <;> rfl
  | checkToggled check => cases check <;> rfl
  | patchOp op => exact applyPatchOp_variant app.configure op
  | pathDialogSubmitted =>
      simp only [UiMessage.reconfigure]
      split <;> rfl
  | _ => rfl

theorem run_variant (vercmp : String → String → Ordering) (app : App)
    (messages : List UiMessage) :
    (Machine.run (step vercmp) app messages).configure.variant =
      lastVariant app.configure.variant messages := by
  induction messages generalizing app with
  | nil => rfl
  | cons message messages ih =>
      rw [Machine.run_cons, ih]
      rw [step, update_configure, reconfigure_variant]
      rfl

/-- A run contains a press of Build that dispatches `built`, then the messages `between`
without another build, and then an answer that dispatches `installed`. -/
def InstalledAfter (vercmp : String → String → Ordering) (start : App)
    (messages : List UiMessage) (built : BuildJob) (between : List UiMessage)
    (installed : ArtifactsJob) : Prop :=
  ∃ before press answer rest,
    messages = before ++ press :: (between ++ answer :: rest) ∧
    let pressed := Machine.run (step vercmp) start before
    Task.build built ∈ (update vercmp pressed press).2 ∧
    Machine.Admissible (step vercmp)
      (fun app message => ∀ job, Task.build job ∉ (update vercmp app message).2)
      (step vercmp pressed press) between ∧
    Task.artifacts installed ∈
      (update vercmp (Machine.run (step vercmp) (step vercmp pressed press) between) answer).2

/-- What is installed is what the latest build built exactly if the variant selected last
between the Build press and the answer is the built one. -/
theorem installedVariant_iff (vercmp : String → String → Ordering) (flags : Flags)
    (locale : ResolvedLocale) (messages between : List UiMessage) (built : BuildJob)
    (installed : ArtifactsJob)
    (installation : InstalledAfter vercmp (App.initial flags locale) messages built between
      installed) :
    installed.variantDir = built.variant.dirName ↔
      lastVariant built.variant between = built.variant := by
  obtain ⟨before, press, answer, rest, _, dispatched, _, answered⟩ := installation
  obtain ⟨rfl, _, builtEq⟩ := update_build vercmp _ press built dispatched
  obtain ⟨_, installedEq⟩ := update_artifacts vercmp _ answer installed answered
  have variantEq : (step vercmp (Machine.run (step vercmp) (App.initial flags locale) before)
      (.semantic .buildRequested)).configure.variant = built.variant := by
    rw [step, update_configure, builtEq]
    rfl
  have dirEq : installed.variantDir = (lastVariant built.variant between).dirName := by
    rw [installedEq]
    simp only [App.artifactsJob]
    rw [run_variant, variantEq]
  rw [dirEq]
  constructor
  · exact dirName_injective _ _
  · intro kept
    rw [kept]

namespace Sample

def editing : List UiMessage :=
  [.catalogLoaded catalog, .semantic .configureRequested, .configurePrepared 1 []]

def pressed : App := Machine.run (step vercmp) app editing

def builtJob : BuildJob := pressed.buildJob 1

def answered (between : List UiMessage) : App :=
  Machine.run (step vercmp) (step vercmp pressed (.semantic .buildRequested)) between

def installedJob (between : List UiMessage) : ArtifactsJob :=
  (answered between).artifactsJob (answered between).buildEpoch

def installRun (between : List UiMessage) : List UiMessage :=
  editing ++ .semantic .buildRequested :: (between ++ [.installQuestion true])

end Sample

theorem withoutPress_dispatchesNothing (vercmp : String → String → Ordering) (app : App)
    (between : List UiMessage)
    (other : ∀ message ∈ between, message ≠ .semantic .buildRequested) :
    Machine.Admissible (step vercmp)
      (fun app message => ∀ job, Task.build job ∉ (update vercmp app message).2) app
      between := by
  induction between generalizing app with
  | nil => trivial
  | cons message between ih =>
      refine ⟨?_, ih _ fun later member => other later (List.mem_cons_of_mem _ member)⟩
      intro job spawned
      exact other message (List.mem_cons_self) (update_build vercmp app message job spawned).1

theorem Sample.installRun_installs (between : List UiMessage)
    (other : ∀ message ∈ between, message ≠ .semantic .buildRequested) :
    InstalledAfter Sample.vercmp Sample.app (Sample.installRun between) Sample.builtJob between
      (Sample.installedJob between) :=
  ⟨Sample.editing, .semantic .buildRequested, .installQuestion true, [], rfl,
    List.mem_singleton.mpr rfl, withoutPress_dispatchesNothing _ _ _ other,
    List.mem_singleton.mpr rfl⟩

theorem installedVariant_switchedBack :
    (Sample.installedJob
        [.variantPicked .bore, .variantPicked .cachyos, .buildFinished true]).variantDir =
      Sample.builtJob.variant.dirName :=
  (installedVariant_iff Sample.vercmp Sample.flags Sample.locale _ _ _ _
    (Sample.installRun_installs _ (by rintro message member rfl; simp at member))).mpr
    (by decide)

theorem installedVariant_differs :
    ¬∀ (vercmp : String → String → Ordering) (flags : Flags) (locale : ResolvedLocale)
      (messages between : List UiMessage) (built : BuildJob) (installed : ArtifactsJob),
      InstalledAfter vercmp (App.initial flags locale) messages built between installed →
        installed.variantDir = built.variant.dirName := by
  intro same
  have kept := same Sample.vercmp Sample.flags Sample.locale _ _ _ _
    (Sample.installRun_installs [.variantPicked .bore, .buildFinished true]
      (by rintro message member rfl; simp at member))
  revert kept
  decide

end KernelManager
