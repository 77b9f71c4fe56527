import KernelManager.Ui.CheckedRows
import KernelManager.Ui.Frame

/-! Whether the catalog, the selection and the displayed rows stay one view of the kernels. -/

namespace KernelManager

/-- The three copies of the row list agree: the selection position by position, the displayed
rows up to their order. -/
structure OneView (app : App) : Prop where
  selected : app.rows.map (fun view => (view.raw, view.checked)) =
    app.state.selection.rows.map fun row => (row.raw, row.checked)
  displayed : app.sortedRows.Perm app.rows

def DistinctRaws (app : App) : Prop := (app.rows.map (·.raw)).Nodup

def DistinctCatalog (_app : App) : UiMessage → Prop
  | .catalogLoaded payload => (payload.rows.map (·.raw)).Nodup
  | _ => True

def FailsUndisplayed (app : App) : UiMessage → Prop
  | .discoveryFailed _ => app.sortedRows = []
  | _ => True

instance (app : App) (message : UiMessage) : Decidable (DistinctCatalog app message) := by
  cases message <;> unfold DistinctCatalog <;> infer_instance

instance (app : App) (message : UiMessage) : Decidable (FailsUndisplayed app message) := by
  cases message <;> unfold FailsUndisplayed <;> infer_instance

def KernelRow.toggled (raw : String) (row : KernelRow) : KernelRow :=
  if row.raw = raw then { row with checked := !row.checked } else row

def KernelRowView.toggled (raw : String) (view : KernelRowView) : KernelRowView :=
  if view.raw = raw then { view with checked := !view.checked } else view

structure RowToggled (raw : String) (before after : App) : Prop where
  rows : after.rows = before.rows.map (·.toggled raw)
  selected : after.state.selection.rows = before.state.selection.rows.map (·.toggled raw)
  displayed : after.sortedRows.Perm (before.sortedRows.map (·.toggled raw))

theorem sortRows_perm (vercmp : String → String → Ordering) (column : Nat) (ascending : Bool)
    (rows : List KernelRowView) : (sortRows vercmp column ascending rows).Perm rows :=
  List.perm_insertionSort _ rows

theorem recomputeSort_perm (vercmp : String → String → Ordering) (app : App)
    (displayed : app.sortedRows.Perm app.rows) :
    (app.recomputeSort vercmp).sortedRows.Perm app.sortedRows := by
  unfold App.recomputeSort
  refine (sortRows_perm vercmp _ _ _).trans ?_
  split
  · exact displayed.symm
  · exact List.Perm.refl _

theorem view_raws (app : App) (view : OneView app) :
    app.state.selection.rows.map (·.raw) = app.rows.map (·.raw) := by
  have first := congrArg (List.map Prod.fst) view.selected
  rw [List.map_map, List.map_map] at first
  exact first.symm

theorem view_checked (app : App) (view : OneView app) (row : Nat) (shown : KernelRowView)
    (found : app.rows[row]? = some shown) :
    ∃ core, app.state.selection.rows[row]? = some core ∧ core.checked = shown.checked := by
  have agree := congrArg (fun rows => rows[row]?) view.selected
  simp only [List.getElem?_map, found, Option.map_some] at agree
  obtain ⟨core, at_row, same⟩ := Option.map_eq_some_iff.mp agree.symm
  exact ⟨core, at_row, congrArg Prod.snd same⟩

theorem displayed_row (app : App) (view : OneView app) (distinct : DistinctRaws app)
    (shown other : KernelRowView) (listed : shown ∈ app.rows) (member : other ∈ app.sortedRows)
    (same : other.raw = shown.raw) : other = shown :=
  List.inj_on_of_nodup_map distinct (view.displayed.mem_iff.mp member) listed same

theorem projectChecked_rows (app : App) (row : Nat) (raw : String) (core : KernelRow)
    (found : app.state.selection.rows[row]? = some core) :
    (app.projectChecked row raw).rows =
      app.rows.modify row fun shown => { shown with checked := core.checked } := by
  simp only [App.projectChecked, found]

theorem projectChecked_sortedRows (app : App) (row : Nat) (raw : String)
    (shown : KernelRowView) (found : (app.projectChecked row raw).rows[row]? = some shown) :
    (app.projectChecked row raw).sortedRows =
      app.sortedRows.modify (app.sortedRows.findIdx (·.raw = raw))
        fun view => { view with checked := shown.checked } := by
  simp only [App.projectChecked] at found ⊢
  rw [found]

theorem projectChecked_toggled (app : App) (raw : String) (row : Nat) (view : OneView app)
    (distinct : DistinctRaws app) (found : app.rows.findIdx? (·.raw = raw) = some row) :
    let projected := (app.onEvent (.kernelToggled row)).1.projectChecked row raw
    projected.rows = app.rows.map (·.toggled raw) ∧
      projected.state.selection.rows = app.state.selection.rows.map (·.toggled raw) ∧
        projected.sortedRows = app.sortedRows.map (·.toggled raw) := by
  intro projected
  obtain ⟨bound, here, _⟩ := List.findIdx?_eq_some_iff_getElem.mp found
  obtain ⟨_, position⟩ := List.findIdx?_eq_some_iff_findIdx_eq.mp found
  have shownAt : app.rows[row]? = some app.rows[row] := List.getElem?_eq_getElem bound
  have shownRaw : app.rows[row].raw = raw := by simpa using here
  obtain ⟨core, coreAt, agrees⟩ := view_checked app view row _ shownAt
  have toggledAt : (toggleRow app.state.selection row).rows[row]? =
      some { core with checked := !core.checked } := by
    simp [toggleRow, coreAt]
  have rows : projected.rows =
      app.rows.modify row fun shown => { shown with checked := !shown.checked } := by
    rw [projectChecked_rows _ row raw _ toggledAt]
    apply Keyed.modify_congr
    intro shown same
    cases shownAt.symm.trans same
    rw [agrees]
  have rowsAt : projected.rows[row]? =
      some { app.rows[row] with checked := !app.rows[row].checked } := by
    rw [rows]
    simp [shownAt]
  have sorted : projected.sortedRows =
      app.sortedRows.modify (app.sortedRows.findIdx (·.raw = raw))
        fun shown => { shown with checked := !shown.checked } := by
    rw [projectChecked_sortedRows _ row raw _ rowsAt]
    apply Keyed.modify_congr
    intro shown same
    obtain ⟨sortedBound, rfl⟩ := List.getElem?_eq_some_iff.mp same
    have sortedRaw : (app.sortedRows[app.sortedRows.findIdx (·.raw = raw)]).raw = raw :=
      of_decide_eq_true (List.findIdx_getElem (w := sortedBound))
    rw [displayed_row app view distinct app.rows[row] _ (List.getElem_mem bound)
      (List.getElem_mem sortedBound) (sortedRaw.trans shownRaw.symm)]
  have coreIndex : app.state.selection.rows.findIdx (·.raw = raw) = row := by
    rw [Keyed.findIdx?_key _ KernelRowView.raw, ← view_raws app view,
      ← Keyed.findIdx?_key _ KernelRow.raw] at found
    exact (List.findIdx?_eq_some_iff_findIdx_eq.mp found).2
  refine ⟨?_, ?_, ?_⟩
  · rw [rows, ← position]
    exact Keyed.modify_findIdx app.rows KernelRowView.raw _ raw distinct
  · have selected := Keyed.modify_findIdx app.state.selection.rows KernelRow.raw
      (fun core => { core with checked := !core.checked }) raw
      ((view_raws app view).symm ▸ distinct)
    rw [coreIndex] at selected
    exact selected
  · rw [sorted]
    exact Keyed.modify_findIdx app.sortedRows KernelRowView.raw _ raw
      ((view.displayed.map KernelRowView.raw).nodup_iff.mpr distinct)

theorem rowToggled_oneView (raw : String) (before after : App)
    (toggled : RowToggled raw before after) (view : OneView before) : OneView after := by
  let flip (pair : String × Bool) : String × Bool :=
    if pair.1 = raw then (pair.1, !pair.2) else pair
  have flipView : ∀ shown : KernelRowView,
      ((shown.toggled raw).raw, (shown.toggled raw).checked) = flip (shown.raw, shown.checked) := by
    intro shown
    by_cases here : shown.raw = raw <;> simp [KernelRowView.toggled, flip, here]
  have flipCore : ∀ core : KernelRow,
      ((core.toggled raw).raw, (core.toggled raw).checked) = flip (core.raw, core.checked) := by
    intro core
    by_cases here : core.raw = raw <;> simp [KernelRow.toggled, flip, here]
  refine ⟨?_, ?_⟩
  · calc
      _ = (before.rows.map fun shown => (shown.raw, shown.checked)).map flip := by
        rw [toggled.rows, List.map_map, List.map_map]
        exact List.map_congr_left fun shown _ => flipView shown
      _ = (before.state.selection.rows.map fun core => (core.raw, core.checked)).map flip := by
        rw [view.selected]
      _ = _ := by
        rw [toggled.selected, List.map_map, List.map_map]
        exact List.map_congr_left fun core _ => (flipCore core).symm
  · rw [toggled.rows]
    exact toggled.displayed.trans (view.displayed.map _)

theorem kernelToggled_raws (vercmp : String → String → Ordering) (app : App) (raw : String) :
    (step vercmp app (.semantic (.kernelToggled raw))).rows.map (·.raw) =
      app.rows.map (·.raw) := by
  simp only [step, update, Message.cancelsBuild, Bool.false_and, Bool.false_eq_true, ↓reduceIte,
    App.onSemantic]
  cases app.rows.findIdx? (·.raw = raw) with
  | none => rfl
  | some row => exact projectChecked_raws _ row raw

theorem kernelToggled_rowToggled (vercmp : String → String → Ordering) (app : App)
    (raw : String) (view : OneView app) (distinct : DistinctRaws app) :
    RowToggled raw app (step vercmp app (.semantic (.kernelToggled raw))) := by
  simp only [step, update, Message.cancelsBuild, Bool.false_and, Bool.false_eq_true, ↓reduceIte,
    App.onSemantic]
  cases found : app.rows.findIdx? (·.raw = raw) with
  | none =>
      have absent : raw ∉ app.rows.map (·.raw) := by
        intro member
        obtain ⟨shown, listed, same⟩ := List.mem_map.mp member
        have unmatched := List.findIdx?_eq_none_iff.mp found shown listed
        simp [same] at unmatched
      refine ⟨?_, ?_, ?_⟩
      · exact (Keyed.map_absent app.rows KernelRowView.raw _ raw absent).symm
      · exact (Keyed.map_absent app.state.selection.rows KernelRow.raw _ raw
          ((view_raws app view).symm ▸ absent)).symm
      · have untouched := Keyed.map_absent app.sortedRows KernelRowView.raw
          (fun shown => { shown with checked := !shown.checked }) raw
          (fun member => absent ((view.displayed.map _).mem_iff.mp member))
        exact List.Perm.of_eq untouched.symm
  | some row =>
      obtain ⟨rows, selected, sorted⟩ := projectChecked_toggled app raw row view distinct found
      refine ⟨rows, selected, ?_⟩
      rw [← sorted]
      apply recomputeSort_perm
      rw [rows, sorted]
      exact view.displayed.map _

def App.sortBy (app : App) (column : Nat) : App :=
  { app with
    sortColumn := column
    sortAscending := if app.sortColumn = column then !app.sortAscending else true }

theorem sortRequested_eq (vercmp : String → String → Ordering) (app : App) (column : Nat) :
    step vercmp app (.sortRequested column) = (app.sortBy column).recomputeSort vercmp := by
  simp only [step, update, App.sortBy]
  split
  · rename_i same
    rw [← same]
  · rfl

theorem recomputeSort_oneView (vercmp : String → String → Ordering) (app : App)
    (view : OneView app) : OneView (app.recomputeSort vercmp) :=
  ⟨view.selected, (recomputeSort_perm vercmp app view.displayed).trans view.displayed⟩

structure CatalogView where
  rows : List KernelRowView
  selected : List KernelRow
  displayed : List KernelRowView

def App.catalogView (app : App) : CatalogView where
  rows := app.rows
  selected := app.state.selection.rows
  displayed := app.sortedRows

theorem oneView_congr (left right : App) (same : left.catalogView = right.catalogView) :
    OneView left ↔ OneView right := by
  simp only [App.catalogView, CatalogView.mk.injEq] at same
  obtain ⟨rows, selected, displayed⟩ := same
  constructor
  · intro view
    exact ⟨rows ▸ selected ▸ view.selected, rows ▸ displayed ▸ view.displayed⟩
  · intro view
    exact ⟨rows ▸ selected ▸ view.selected, rows ▸ displayed ▸ view.displayed⟩

def AppEvent.togglesRow : AppEvent → Bool
  | .kernelToggled _ => true
  | _ => false

theorem runEffect_catalogView (app : App) (effect : Effect) :
    (app.runEffect effect).1.catalogView = app.catalogView := by
  cases effect with
  | hideProgress =>
      simp only [App.runEffect]
      split <;> rfl
  | _ => rfl

theorem onEvent_catalogView (app : App) (event : AppEvent) (other : event.togglesRow = false) :
    (app.onEvent event).1.catalogView = app.catalogView := by
  rw [App.onEvent, runEffects_field App.catalogView runEffect_catalogView]
  cases event with
  | kernelToggled row => cases other
  | executeRequested =>
      simp only [transition]
      split <;> rfl
  | transactionFinished changed => cases changed <;> rfl
  | buildRequested =>
      simp only [transition]
      split <;> rfl
  | _ => rfl

theorem catalogView_framed (view : CatalogView) :
    FramedBesideRows fun app => app.catalogView = view := by
  constructor <;> intros <;> assumption

theorem raises_keepsRows (message : UiMessage) (event : AppEvent)
    (raised : Raises message event) (other : message.movesRows = false) :
    event.togglesRow = false := by
  cases raised with
  | kernelToggled raw row => cases other
  | _ => rfl

theorem update_catalogView (vercmp : String → String → Ordering) (app : App)
    (message : UiMessage) (other : message.movesRows = false) :
    (update vercmp app message).1.catalogView = app.catalogView := by
  refine update_besideRows vercmp (catalogView_framed app.catalogView) app message ?_ ?_ other
  · rcases prepare_cancelled app message with same | cancelled
    · rw [same]
    · rw [cancelled]
      rfl
  · intro later event raised kept
    exact (onEvent_catalogView later event (raises_keepsRows message event raised other)).trans kept

theorem catalogLoaded_view (vercmp : String → String → Ordering) (app : App)
    (payload : CatalogPayload) :
    (step vercmp app (.catalogLoaded payload)).catalogView =
      (app.loadCatalog vercmp payload).catalogView :=
  catalogLoaded_field App.catalogView (fun _ _ => rfl) vercmp app payload

theorem discoveryFailed_view (vercmp : String → String → Ordering) (app : App) (text : String) :
    (step vercmp app (.discoveryFailed text)).catalogView =
      (app.clearCatalog text).catalogView :=
  onEvent_catalogView _ _ rfl

theorem loadCatalog_oneView (vercmp : String → String → Ordering) (app : App)
    (payload : CatalogPayload) : OneView (app.loadCatalog vercmp payload) := by
  apply recomputeSort_oneView
  refine ⟨?_, List.Perm.refl _⟩
  change _ = (payload.rows.map (App.kernelRow payload.installed)).map _
  rw [List.map_map]
  rfl

theorem fails_other (app : App) (message : UiMessage) (other : message.movesRows = false) :
    FailsUndisplayed app message := by
  cases message with
  | discoveryFailed text => cases other
  | _ => trivial

theorem step_distinct (vercmp : String → String → Ordering) (app : App) (message : UiMessage)
    (distinct : DistinctRaws app) (permitted : DistinctCatalog app message) :
    DistinctRaws (step vercmp app message) := by
  cases moves : message.movesRows with
  | false =>
      have kept := congrArg CatalogView.rows (update_catalogView vercmp app message moves)
      exact (congrArg (fun rows => (rows.map KernelRowView.raw).Nodup) kept).mpr distinct
  | true =>
      cases message with
      | semantic message =>
          cases message with
          | kernelToggled raw =>
              rw [DistinctRaws, kernelToggled_raws]
              exact distinct
          | _ => cases moves
      | catalogLoaded payload =>
          have loaded := congrArg CatalogView.rows (catalogLoaded_view vercmp app payload)
          exact (congrArg (fun rows => (rows.map KernelRowView.raw).Nodup) loaded).mpr permitted
      | discoveryFailed text =>
          have cleared := congrArg CatalogView.rows (discoveryFailed_view vercmp app text)
          exact (congrArg (fun rows => (rows.map KernelRowView.raw).Nodup) cleared).mpr
            List.nodup_nil
      | sortRequested column =>
          rw [sortRequested_eq]
          exact distinct
      | _ => cases moves

theorem step_oneView (vercmp : String → String → Ordering) (app : App) (message : UiMessage)
    (view : OneView app) (distinct : DistinctRaws app) :
    OneView (step vercmp app message) ↔ FailsUndisplayed app message := by
  cases moves : message.movesRows with
  | false =>
      have kept := update_catalogView vercmp app message moves
      exact iff_of_true ((oneView_congr _ _ kept).mpr view) (fails_other app message moves)
  | true =>
      cases message with
      | semantic message =>
          cases message with
          | kernelToggled raw =>
              refine iff_of_true ?_ trivial
              exact rowToggled_oneView raw app _
                (kernelToggled_rowToggled vercmp app raw view distinct) view
          | _ => cases moves
      | catalogLoaded payload =>
          refine iff_of_true ?_ trivial
          exact (oneView_congr _ _ (catalogLoaded_view vercmp app payload)).mpr
            (loadCatalog_oneView vercmp app payload)
      | discoveryFailed text =>
          rw [oneView_congr _ _ (discoveryFailed_view vercmp app text)]
          constructor
          · exact fun cleared => cleared.displayed.eq_nil
          · intro empty
            exact ⟨rfl, List.Perm.of_eq empty⟩
      | sortRequested column =>
          refine iff_of_true ?_ trivial
          rw [sortRequested_eq]
          exact recomputeSort_oneView vercmp _ ⟨view.selected, view.displayed⟩
      | _ => cases moves

theorem initial_oneView (flags : Flags) (locale : ResolvedLocale) :
    OneView (App.initial flags locale) := ⟨rfl, List.Perm.refl _⟩

/-- The three lists stay one view throughout a run exactly if discovery fails only while no
rows are displayed: a failure clears the catalog and the selection, but not the display. -/
theorem oneView_iff (vercmp : String → String → Ordering) (flags : Flags)
    (locale : ResolvedLocale) (messages : List UiMessage)
    (catalogs : Machine.Admissible (step vercmp) DistinctCatalog (App.initial flags locale)
      messages) :
    Machine.Always (step vercmp) OneView (App.initial flags locale) messages ↔
      Machine.Admissible (step vercmp) FailsUndisplayed (App.initial flags locale) messages :=
  Machine.always_iff_admissible DistinctRaws (step_distinct vercmp)
    (fun app message distinct view _ => step_oneView vercmp app message view distinct)
    List.nodup_nil (initial_oneView flags locale) catalogs

namespace Sample

def browsing : List UiMessage :=
  [.discoveryFailed "no handle", .catalogLoaded catalog, .sortRequested 1,
    .semantic (.kernelToggled "cachyos/linux-cachyos"), .catalogLoaded catalog]

def failedReload : List UiMessage := [.catalogLoaded catalog, .discoveryFailed "no handle"]

end Sample

theorem oneView_browsing :
    Machine.Always (step Sample.vercmp) OneView (App.initial Sample.flags Sample.locale)
      Sample.browsing :=
  (oneView_iff Sample.vercmp Sample.flags Sample.locale Sample.browsing (by decide)).mpr
    (by decide)

theorem oneView_failedReload :
    ¬∀ (vercmp : String → String → Ordering) (flags : Flags) (locale : ResolvedLocale)
      (messages : List UiMessage),
      Machine.Admissible (step vercmp) DistinctCatalog (App.initial flags locale) messages →
        Machine.Always (step vercmp) OneView (App.initial flags locale) messages := by
  intro kept
  have always := kept Sample.vercmp Sample.flags Sample.locale Sample.failedReload (by decide)
  have stale := always.2.2.displayed.length_eq
  exact absurd stale (by decide)

end KernelManager
