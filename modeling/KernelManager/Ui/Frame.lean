import KernelManager.Ui.Control

/-! What a message leaves alone: properties that only core events can change. -/

namespace KernelManager

def UiMessage.cancelsBuild : UiMessage → Bool
  | .semantic message => message.cancelsBuild
  | _ => false

def App.prepare (app : App) (message : UiMessage) : App :=
  if message.cancelsBuild && app.state.build.inFlight then app.cancelBuildProcess else app

def UiMessage.movesRows : UiMessage → Bool
  | .catalogLoaded _ | .discoveryFailed _ | .semantic (.kernelToggled _) | .sortRequested _ => true
  | _ => false

/-- The parts of the application that a message writes around its core events. -/
inductive AppPart
  | dialogs
  | configure
  | options
  | variant
  | patchEpoch
  | scx
  | tab
  | pathDialog
  | checked
  | sorted
  | sorting
  | catalog
  deriving DecidableEq, Repr

def Message.parts : Message → List AppPart
  | .kernelToggled _ => [.checked, .sorted]
  | .variantChanged _ => [.variant]
  | .patchAdded _ | .patchRemoved _ => [.configure]
  | .configLoaded _ => [.configure, .dialogs]
  | .schedulerChanged _ _ => [.scx]
  | _ => []

def UiMessage.parts : UiMessage → List AppPart
  | .semantic message => message.parts
  | .catalogLoaded _ => [.catalog, .dialogs]
  | .discoveryFailed _ => [.catalog]
  | .configureFailed _ | .taskFailed _ | .configError _ | .buildFinished _ | .scxApplied _
  | .scxDisabled _ | .dialogDismissed | .installQuestion _ | .scxApply => [.dialogs]
  | .patchesRefreshed _ _ => [.configure]
  | .configurePrepared _ _ | .customNameChanged _ | .preemptPicked _ | .hzPicked _
  | .ticklessPicked _ | .hugepagePicked _ | .cpuOptPicked _ => [.configure, .options]
  | .checkToggled _ | .ltoPicked _ => [.configure, .options, .patchEpoch]
  | .configLoaded _ => [.configure, .dialogs, .options, .patchEpoch]
  | .variantPicked _ => [.variant, .options, .patchEpoch]
  | .patchOp _ => [.configure, .patchEpoch]
  | .scxInit _ => [.dialogs, .scx]
  | .scxFlagsChanged _ | .scxSchedulerPicked _ | .scxProfilePicked _ => [.scx]
  | .sortRequested _ => [.sorting, .sorted]
  | .confTabClicked _ => [.tab]
  | .pathDialogOpened _ | .pathDialogChanged _ | .pathDialogDismissed => [.pathDialog]
  | .pathDialogSubmitted => [.pathDialog, .configure, .patchEpoch]
  | _ => []

def AppPart.ofRows : AppPart → Bool
  | .checked | .sorted | .sorting | .catalog => true
  | _ => false

def UiMessage.writes (message : UiMessage) (part : AppPart) : Bool := message.parts.contains part

def AppPart.KeptBy (vercmp : String → String → Ordering) (holds : App → Prop) : AppPart → Prop
  | .dialogs => ∀ app dialogs, holds app → holds (app.setDialogs dialogs)
  | .configure => ∀ app configure, holds app → holds (app.setConfigure configure)
  | .options => ∀ app, holds app → holds app.syncBuildOptions
  | .variant => ∀ (app : App) configure variant, holds app → holds
      { app with
        configure := configure
        state :=
          { app.state with buildOptions := { app.state.buildOptions with variant := variant } } }
  | .patchEpoch => ∀ app, holds app → holds app.bumpPatchEpoch
  | .scx => ∀ (app : App) scx, holds app → holds { app with scx := scx }
  | .tab => ∀ (app : App) tab, holds app → holds { app with confTab := tab }
  | .pathDialog => ∀ (app : App) dialog, holds app → holds { app with pathDialog := dialog }
  | .checked => ∀ app row raw, holds app → holds (app.projectChecked row raw)
  | .sorted => ∀ app, holds app → holds (app.recomputeSort vercmp)
  | .sorting => ∀ (app : App) column ascending, holds app → holds
      { app with sortColumn := column, sortAscending := ascending }
  | .catalog => (∀ app payload, holds app → holds (app.loadCatalog vercmp payload)) ∧
      ∀ app text, holds app → holds (app.clearCatalog text)

/-- A property that the model updates around the core events keep. -/
structure Framed (holds : App → Prop) : Prop where
  dialogs : ∀ app dialogs, holds app → holds (app.setDialogs dialogs)
  configure : ∀ app configure, holds app → holds (app.setConfigure configure)
  options : ∀ app, holds app → holds app.syncBuildOptions
  variant : ∀ (app : App) configure variant, holds app → holds
    { app with
      configure := configure
      state :=
        { app.state with buildOptions := { app.state.buildOptions with variant := variant } } }
  patchEpoch : ∀ app, holds app → holds app.bumpPatchEpoch
  checked : ∀ app row raw, holds app → holds (app.projectChecked row raw)
  sorted : ∀ vercmp app, holds app → holds (app.recomputeSort vercmp)
  sorting : ∀ (app : App) column ascending, holds app → holds
    { app with sortColumn := column, sortAscending := ascending }
  scx : ∀ (app : App) scx, holds app → holds { app with scx := scx }
  tab : ∀ (app : App) tab, holds app → holds { app with confTab := tab }
  pathDialog : ∀ (app : App) dialog, holds app → holds { app with pathDialog := dialog }

/-- A property that they keep as long as no row of the catalog moves. -/
structure FramedBesideRows (holds : App → Prop) : Prop where
  dialogs : ∀ app dialogs, holds app → holds (app.setDialogs dialogs)
  configure : ∀ app configure, holds app → holds (app.setConfigure configure)
  options : ∀ app, holds app → holds app.syncBuildOptions
  variant : ∀ (app : App) configure variant, holds app → holds
    { app with
      configure := configure
      state :=
        { app.state with buildOptions := { app.state.buildOptions with variant := variant } } }
  patchEpoch : ∀ app, holds app → holds app.bumpPatchEpoch
  scx : ∀ (app : App) scx, holds app → holds { app with scx := scx }
  tab : ∀ (app : App) tab, holds app → holds { app with confTab := tab }
  pathDialog : ∀ (app : App) dialog, holds app → holds { app with pathDialog := dialog }

theorem Framed.besideRows {holds : App → Prop} (framed : Framed holds) :
    FramedBesideRows holds where
  dialogs := framed.dialogs
  configure := framed.configure
  options := framed.options
  variant := framed.variant
  patchEpoch := framed.patchEpoch
  scx := framed.scx
  tab := framed.tab
  pathDialog := framed.pathDialog

theorem prepare_cancelled (app : App) (message : UiMessage) :
    app.prepare message = app ∨ app.prepare message = app.cancelBuildProcess := by
  unfold App.prepare
  split
  · exact Or.inr rfl
  · exact Or.inl rfl

theorem runEffects_framed {holds : App → Prop} (framed : FramedBesideRows holds)
    (effects : List Effect) (app : App) (start : holds app)
    (noBuild : ∀ variantDir, Effect.runBuild variantDir ∉ effects) :
    holds (app.runEffects effects).1 := by
  induction effects generalizing app with
  | nil => exact start
  | cons effect effects ih =>
      apply ih
      · cases effect with
        | hideProgress =>
            simp only []
            split
            · exact framed.dialogs app .none start
            · exact start
        | showError message => exact framed.dialogs app _ start
        | showProgress message => exact framed.dialogs app _ start
        | prepareConfiguration => exact framed.patchEpoch app start
        | runBuild variantDir => exact absurd (List.mem_cons_self) (noBuild variantDir)
        | _ => exact start
      · intro variantDir later
        exact noBuild variantDir (List.mem_cons_of_mem _ later)

section

variable (vercmp : String → String → Ordering) {holds : App → Prop}

theorem onSemantic_keeps (app : App) (message : Message)
    (kept : ∀ part, (UiMessage.semantic message).writes part = true → part.KeptBy vercmp holds)
    (start : holds app)
    (event : ∀ app event, Raises (.semantic message) event → holds app →
      holds (app.onEvent event).1) :
    holds (app.onSemantic vercmp message).1 := by
  cases message with
  | kernelToggled raw =>
      simp only [App.onSemantic]
      split
      · exact start
      · rename_i row _
        exact kept .sorted rfl _
          (kept .checked rfl _ row raw (event _ _ (.kernelToggled raw row) start))
  | variantChanged variant => exact kept .variant rfl app _ variant start
  | patchAdded entry => exact kept .configure rfl app _ start
  | patchRemoved index => exact kept .configure rfl app _ start
  | patchMoved source target => exact start
  | configLoaded config =>
      have loaded := kept .configure rfl app (app.configure.loadConfig config).1 start
      simp only [App.onSemantic]
      split
      · exact kept .dialogs rfl _ _ loaded
      · exact loaded
  | schedulerChanged scheduler mode => exact kept .scx rfl app _ start
  | _ => exact event app _ (by constructor) start

/-- A property that is kept by the core events of a message and by the writes to its parts
survives the message. -/
theorem update_keeps (app : App) (message : UiMessage)
    (kept : ∀ part, message.writes part = true → part.KeptBy vercmp holds)
    (start : holds (app.prepare message))
    (event : ∀ app event, Raises message event → holds app → holds (app.onEvent event).1) :
    holds (update vercmp app message).1 := by
  cases message with
  | semantic message => exact onSemantic_keeps vercmp _ message kept start event
  | catalogLoaded payload =>
      have finished := event _ _ (.catalogLoaded payload)
        ((kept .catalog rfl).1 app payload start)
      simp only [update]
      split
      · exact kept .dialogs rfl _ _ finished
      · exact finished
  | discoveryFailed text =>
      exact event _ _ (.discoveryFailed text) ((kept .catalog rfl).2 app text start)
  | sortRequested column =>
      simp only [update]
      split
      · exact kept .sorted rfl _ (kept .sorting rfl app _ _ start)
      · exact kept .sorted rfl _ (kept .sorting rfl app _ _ start)
  | configureFailed text =>
      exact event _ _ (.configureFailed text) (kept .dialogs rfl app _ start)
  | taskFailed text => exact kept .dialogs rfl app _ start
  | configError text => exact kept .dialogs rfl app _ start
  | configurePrepared generation patches =>
      simp only [update]
      split
      · exact start
      · exact event _ _ (.configurePrepared generation patches)
          (kept .options rfl _ (kept .configure rfl app _ start))
  | patchesRefreshed generation patches =>
      simp only [update]
      split
      · exact start
      · exact kept .configure rfl app _ start
  | buildFinished success =>
      have finished := event app _ (.buildFinished success) start
      simp only [update]
      split
      · exact kept .dialogs rfl _ _ finished
      · exact finished
  | scxInit model =>
      simp only [update]
      cases model.critical with
      | none => exact kept .scx rfl app _ start
      | some critical => exact kept .scx rfl _ _ (kept .dialogs rfl app _ start)
  | scxApplied ok =>
      simp only [update]
      split
      · split
        · exact kept .dialogs rfl app _ start
        · exact start
      · exact start
  | scxDisabled ok =>
      simp only [update]
      split
      · split
        · exact kept .dialogs rfl app _ start
        · exact start
      · exact start
  | dialogDismissed =>
      have dismissed := kept .dialogs rfl app .none start
      simp only [update]
      split
      · exact event _ _ .dialogDismissed dismissed
      · exact dismissed
  | installQuestion yes =>
      have answered := kept .dialogs rfl app .none start
      cases yes with
      | true => exact event _ _ .installAccepted answered
      | false => exact event _ _ .installDeclined answered
  | customNameChanged value => exact kept .options rfl _ (kept .configure rfl app _ start)
  | scxFlagsChanged value => exact kept .scx rfl app _ start
  | configLoaded config =>
      have loaded : holds (app.onSemantic vercmp (.configLoaded config)).1 := by
        refine onSemantic_keeps vercmp app (.configLoaded config) ?_ start
          (fun _ _ raised => by cases raised)
        intro part written
        cases part with
        | configure => exact kept .configure rfl
        | dialogs => exact kept .dialogs rfl
        | _ => cases written
      exact kept .patchEpoch rfl _ (kept .options rfl _ loaded)
  | confTabClicked tab => exact kept .tab rfl app tab start
  | checkToggled check =>
      have toggled := kept .options rfl _
        (kept .configure rfl app (app.configure.toggleCheck check) start)
      simp only [update]
      split
      · exact kept .patchEpoch rfl _ toggled
      · exact toggled
  | patchOp op => exact kept .patchEpoch rfl _ (kept .configure rfl app _ start)
  | variantPicked variant =>
      exact kept .patchEpoch rfl _ (kept .options rfl _ (kept .variant rfl app _ variant start))
  | ltoPicked lto =>
      exact kept .patchEpoch rfl _ (kept .options rfl _ (kept .configure rfl app _ start))
  | preemptPicked preempt => exact kept .options rfl _ (kept .configure rfl app _ start)
  | hzPicked hz => exact kept .options rfl _ (kept .configure rfl app _ start)
  | ticklessPicked tickless => exact kept .options rfl _ (kept .configure rfl app _ start)
  | hugepagePicked hugepage => exact kept .options rfl _ (kept .configure rfl app _ start)
  | cpuOptPicked cpuOpt => exact kept .options rfl _ (kept .configure rfl app _ start)
  | scxApply =>
      simp only [update, App.scxApply]
      split
      · exact start
      · split
        · exact kept .dialogs rfl app _ start
        · exact start
  | scxDisable =>
      simp only [update]
      split <;> exact start
  | scxSchedulerPicked scheduler => exact kept .scx rfl app _ start
  | scxProfilePicked profile => exact kept .scx rfl app _ start
  | pathDialogOpened kind => exact kept .pathDialog rfl app _ start
  | pathDialogChanged value => exact kept .pathDialog rfl app _ start
  | pathDialogDismissed => exact kept .pathDialog rfl app _ start
  | pathDialogSubmitted =>
      simp only [update, App.pathDialogSubmitted]
      split
      · exact start
      · rename_i dialog opened
        have closed := kept .pathDialog rfl app none start
        cases dialog.onSubmit with
        | loadConfig => exact closed
        | saveConfig => exact closed
        | addRemotePatch =>
            simp only []
            split
            · exact closed
            · exact kept .patchEpoch rfl _ (kept .configure rfl _ _ closed)
        | addLocalPatch =>
            simp only []
            split
            · exact closed
            · exact kept .patchEpoch rfl _ (kept .configure rfl _ _ closed)
  | exit => exact start
  | _ => exact event _ _ (by constructor) start

theorem update_field {Field : Type*} (field : App → Field) (app : App) (message : UiMessage)
    (kept : ∀ part, message.writes part = true →
      part.KeptBy vercmp fun later => field later = field app)
    (cancelled : field app.cancelBuildProcess = field app)
    (event : ∀ app event, field (App.onEvent app event).1 = field app) :
    field (update vercmp app message).1 = field app := by
  refine update_keeps vercmp app message kept ?_ (fun later raised _ same => ?_)
  · rcases prepare_cancelled app message with same | same
    · rw [same]
    · rw [same, cancelled]
  · exact (event later raised).trans same

theorem movesRows_parts (message : UiMessage) :
    message.movesRows = message.parts.any AppPart.ofRows := by
  cases message with
  | semantic message => cases message <;> rfl
  | _ => rfl

theorem FramedBesideRows.kept (framed : FramedBesideRows holds) (message : UiMessage)
    (other : message.movesRows = false) (part : AppPart) (written : message.writes part = true) :
    part.KeptBy vercmp holds := by
  have beside : part.ofRows = false := by
    rw [movesRows_parts, List.any_eq_false] at other
    exact Bool.eq_false_iff.mpr (other part (List.contains_iff_mem.mp written))
  cases part with
  | dialogs => exact framed.dialogs
  | configure => exact framed.configure
  | options => exact framed.options
  | variant => exact framed.variant
  | patchEpoch => exact framed.patchEpoch
  | scx => exact framed.scx
  | tab => exact framed.tab
  | pathDialog => exact framed.pathDialog
  | _ => cases beside

theorem update_besideRows (framed : FramedBesideRows holds) (app : App) (message : UiMessage)
    (start : holds (app.prepare message))
    (event : ∀ app event, Raises message event → holds app → holds (app.onEvent event).1)
    (other : message.movesRows = false) : holds (update vercmp app message).1 :=
  update_keeps vercmp app message (framed.kept vercmp message other) start event

end

section

variable (vercmp : String → String → Ordering) {holds : App → Prop} (framed : Framed holds)

include framed

theorem update_framed (app : App) (message : UiMessage) (start : holds (app.prepare message))
    (event : ∀ app event, Raises message event → holds app → holds (app.onEvent event).1)
    (loaded : ∀ payload, message = .catalogLoaded payload →
      holds (app.loadCatalog vercmp payload))
    (cleared : ∀ text, message = .discoveryFailed text → holds (app.clearCatalog text)) :
    holds (update vercmp app message).1 := by
  cases moves : message.movesRows with
  | false => exact update_besideRows vercmp framed.besideRows app message start event moves
  | true =>
      cases message with
      | semantic message =>
          cases message with
          | kernelToggled raw =>
              simp only [update, App.onSemantic]
              split
              · exact start
              · rename_i row _
                exact framed.sorted vercmp _
                  (framed.checked _ row raw (event _ _ (.kernelToggled raw row) start))
          | _ => cases moves
      | catalogLoaded payload =>
          have finished := event _ _ (.catalogLoaded payload) (loaded payload rfl)
          simp only [update]
          split
          · exact framed.dialogs _ _ finished
          · exact finished
      | discoveryFailed text => exact event _ _ (.discoveryFailed text) (cleared text rfl)
      | sortRequested column =>
          simp only [update]
          split
          · exact framed.sorted vercmp _ (framed.sorting app _ _ start)
          · exact framed.sorted vercmp _ (framed.sorting app _ _ start)
      | _ => cases moves

end

end KernelManager
