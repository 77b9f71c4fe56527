import KernelManager.Library.Dispatcher
import KernelManager.Ui.Controls
import KernelManager.Ui.PatchEpoch
import Mathlib.Data.List.Perm.Basic

/-! The preparation of the Configure window: whether it ends, and whether a window that the user
closed opens again. -/

namespace KernelManager

/-- A prepare with its generation, whether it belongs to the newest request and whether a message
has advanced the generation of the patch list since it was started. -/
structure PrepareWorker where
  generation : Nat
  newest : Bool := true
  outdated : Bool := false
  deriving DecidableEq, Repr

inductive PrepareProgress
  | succeed (patches : List String)
  | fail (text : String)
  deriving DecidableEq, Repr

/-- The application, and whether the user has closed the Configure window since it was last
requested. -/
structure PrepareHistory where
  app : App
  dismissed : Bool := false

def UiMessage.dismissesConfigure : UiMessage → Bool
  | .semantic .configurationCancelRequested | .semantic .configurationCloseRequested => true
  | _ => false

namespace PrepareWorker

def notice (history : PrepareHistory) (message : UiMessage) (worker : PrepareWorker) :
    PrepareWorker :=
  { worker with
    newest := worker.newest && !message.requestsConfigure
    outdated := worker.outdated || message.bumpsPatchEpoch history.app }

def work (_history : PrepareHistory) (worker : PrepareWorker) :
    PrepareProgress → Option UiMessage × Option PrepareWorker
  | .succeed patches => (some (.configurePrepared worker.generation patches), none)
  | .fail text => (some (.configureFailed text), none)

end PrepareWorker

def prepareDispatcher (vercmp : String → String → Ordering) :
    Machine.Dispatcher PrepareHistory UiMessage PrepareWorker PrepareProgress where
  update history message :=
    let (app, tasks) := update vercmp history.app message
    ({ app := app
       dismissed :=
         message.dismissesConfigure || (history.dismissed && !message.requestsConfigure) },
      (tasks.filterMap Task.prepareGeneration).map fun generation =>
        { generation := generation })
  notice := PrepareWorker.notice
  work := PrepareWorker.work

abbrev PrepareSession := Machine.Session PrepareHistory PrepareWorker
abbrev PrepareInput := Machine.Input UiMessage PrepareProgress

def PrepareSession.initial (flags : Flags) (locale : ResolvedLocale) : PrepareSession where
  state := { app := App.initial flags locale }

def UiMessage.endsPrepare : UiMessage → Bool
  | .configurePrepared _ _ | .configureFailed _ => true
  | _ => false

def PreparePermitted (_session : PrepareSession) : PrepareInput → Prop
  | .message message => message.endsPrepare = false
  | .work _ _ => True

instance (session : PrepareSession) : ∀ input, Decidable (PreparePermitted session input)
  | .message _ => inferInstanceAs (Decidable (_ = _))
  | .work _ _ => instDecidableTrue

def Settled (session : PrepareSession) : Prop :=
  (∀ worker ∈ session.workers, worker.newest = false) →
    session.state.app.state.configuration ≠ .preparing ∧
      session.state.app.state.dialogs ≠ .progress preparingConfiguration

def StaysClosed (session : PrepareSession) : Prop :=
  session.state.dismissed = true → session.state.app.state.configuration = .closed

/-- The newest prepare does not succeed after the generation has moved on, while the window
waits for it. -/
def SucceedsCurrent (session : PrepareSession) : PrepareInput → Prop
  | .work index (.succeed _) =>
      ∀ worker ∈ session.workers[index]?, worker.newest = true →
        session.state.app.state.configuration = .preparing → worker.outdated = false
  | _ => True

instance (session : PrepareSession) : ∀ input, Decidable (SucceedsCurrent session input)
  | .message _ => instDecidableTrue
  | .work _ (.succeed _) => inferInstanceAs (Decidable (∀ _ ∈ _, _))
  | .work _ (.fail _) => instDecidableTrue

/-- No prepare succeeds after the user has closed the window, unless the generation has moved
on. -/
def SucceedsUndismissed (session : PrepareSession) : PrepareInput → Prop
  | .work index (.succeed _) =>
      ∀ worker ∈ session.workers[index]?, session.state.dismissed = true → worker.outdated = true
  | _ => True

instance (session : PrepareSession) : ∀ input, Decidable (SucceedsUndismissed session input)
  | .message _ => instDecidableTrue
  | .work _ (.succeed _) => inferInstanceAs (Decidable (∀ _ ∈ _, _))
  | .work _ (.fail _) => instDecidableTrue

theorem react_configuration (control : Control) (event : AppEvent) :
    (control.react event).configuration =
      match event with
      | .configureRequested => .preparing
      | .configurePrepared => .editing
      | .configurationCancelRequested | .configurationCloseRequested => .closed
      | _ => control.configuration := by
  cases event with
  | executeRequested =>
      simp only [Control.react]
      split <;> rfl
  | transactionFinished changed => cases changed <;> rfl
  | buildRequested =>
      simp only [Control.react]
      split <;> rfl
  | _ => rfl

theorem update_configuration (vercmp : String → String → Ordering) (app : App)
    (message : UiMessage) :
    (update vercmp app message).1.state.configuration =
      match (message.impact app).event with
      | some event => (app.state.control.react event).configuration
      | none => app.state.configuration := by
  have control := congrArg Control.configuration (update_control vercmp app message)
  refine control.trans ?_
  cases message.impact app with
  | mk event posts => cases event <;> rfl

theorem update_preparing (vercmp : String → String → Ordering) (app : App)
    (message : UiMessage)
    (preparing : (update vercmp app message).1.state.configuration = .preparing) :
    app.state.configuration = .preparing ∨ message.requestsConfigure = true := by
  rw [update_configuration] at preparing
  cases raised : (message.impact app).event with
  | none =>
      simp only [raised] at preparing
      exact Or.inl preparing
  | some event =>
      simp only [raised, react_configuration] at preparing
      have cause := impact_raises app message event raised
      cases event with
      | configureRequested =>
          cases cause
          exact Or.inr rfl
      | configurePrepared => cases preparing
      | configurationCancelRequested => cases preparing
      | configurationCloseRequested => cases preparing
      | _ => exact Or.inl preparing

theorem update_closed (vercmp : String → String → Ordering) (app : App) (message : UiMessage)
    (closed : app.state.configuration = .closed) (unrequested : message.requestsConfigure = false)
    (event : (message.impact app).event ≠ some .configurePrepared) :
    (update vercmp app message).1.state.configuration = .closed := by
  rw [update_configuration]
  cases raised : (message.impact app).event with
  | none => exact closed
  | some event =>
      simp only [react_configuration]
      have cause := impact_raises app message event raised
      cases event with
      | configureRequested =>
          cases cause
          cases unrequested
      | configurePrepared => exact absurd raised ‹_›
      | configurationCancelRequested => rfl
      | configurationCloseRequested => rfl
      | _ => exact closed

theorem isPreparing_iff (dialogs : DialogsState) :
    dialogs.isPreparing = true ↔ dialogs = .progress preparingConfiguration := by
  cases dialogs <;> simp [DialogsState.isPreparing]

def DialogWaits (app : App) : Prop :=
  app.state.dialogs.isPreparing = true → app.state.configuration = .preparing

theorem update_dialogWaits (vercmp : String → String → Ordering) (app : App)
    (message : UiMessage) (waits : DialogWaits app) :
    DialogWaits (update vercmp app message).1 := by
  intro preparing
  have shown : (message.impact app).showsPreparing app.state.dialogs.isPreparing = true :=
    (congrArg PrepareView.preparing (update_prepareView vercmp app message)).symm.trans preparing
  rw [Impact.showsPreparing, Bool.and_eq_true] at shown
  rw [update_configuration]
  cases raised : (message.impact app).event with
  | none =>
      simp only [raised] at shown
      exact waits shown.2
  | some event =>
      simp only [raised] at shown
      simp only [react_configuration]
      cases event with
      | configureRequested => rfl
      | configurePrepared => cases shown.2
      | configurationCancelRequested => cases shown.2
      | configurationCloseRequested => cases shown.2
      | started => cases shown.2
      | discoveryFinished => cases shown.2
      | transactionFinished changed => cases shown.2
      | transactionFailed text => cases shown.2
      | _ => exact waits shown.2

def Dated (history : PrepareHistory) (worker : PrepareWorker) : Prop :=
  worker.generation ≤ history.app.patchEpoch ∧
    (worker.outdated = true ↔ worker.generation < history.app.patchEpoch)

section Session

variable (vercmp : String → String → Ordering)

open Machine.Dispatcher

theorem requests_bumps (app : App) (message : UiMessage)
    (requests : message.requestsConfigure = true) : message.bumpsPatchEpoch app = true := by
  cases message with
  | semantic message => cases message <;> first | rfl | cases requests
  | _ => cases requests

theorem prepare_workers (session : PrepareSession) (message : UiMessage) :
    ((prepareDispatcher vercmp).receive session message).workers =
      session.workers.map (PrepareWorker.notice session.state message) ++
        if message.requestsConfigure then
          [{ generation := session.state.app.patchEpoch + 1 }]
        else [] := by
  simp only [receive, prepareDispatcher]
  rw [update_prepares]
  split <;> rfl

theorem prepare_dated (session : PrepareSession) (message : UiMessage)
    (before : Outstanding Dated session) :
    Outstanding Dated ((prepareDispatcher vercmp).receive session message) := by
  have epoch := update_patchEpoch vercmp session.state.app message
  intro worker member
  rw [prepare_workers] at member
  change worker.generation ≤ (update vercmp session.state.app message).1.patchEpoch ∧
    (worker.outdated = true ↔
      worker.generation < (update vercmp session.state.app message).1.patchEpoch)
  rw [epoch]
  rcases List.mem_append.mp member with old | new
  · obtain ⟨previous, listed, rfl⟩ := List.mem_map.mp old
    obtain ⟨bound, outdated⟩ := before previous listed
    change previous.generation ≤ _ ∧
      ((previous.outdated || message.bumpsPatchEpoch session.state.app) = true ↔
        previous.generation < _)
    rw [Bool.or_eq_true, outdated]
    cases message.bumpsPatchEpoch session.state.app <;> simp <;> omega
  · split at new
    · rename_i requests
      obtain rfl := List.mem_singleton.mp new
      simp [requests_bumps session.state.app message requests]
    · cases new

theorem prepare_newest (session : PrepareSession) (message : UiMessage)
    (before : session.workers.countP (·.newest) ≤ 1) :
    ((prepareDispatcher vercmp).receive session message).workers.countP (·.newest) ≤ 1 := by
  rw [prepare_workers, List.countP_append, List.countP_map]
  cases requests : message.requestsConfigure with
  | true =>
      have none : List.countP ((·.newest) ∘ PrepareWorker.notice session.state message)
          session.workers = 0 := by
        simp [List.countP_eq_zero, PrepareWorker.notice, requests]
      simp [none]
  | false =>
      have kept : (·.newest) ∘ PrepareWorker.notice session.state message =
          PrepareWorker.newest := by
        funext worker
        simp [PrepareWorker.notice, requests]
      simpa [kept] using before

structure PrepareAccounted (session : PrepareSession) : Prop where
  dated : Outstanding Dated session
  single : session.workers.countP (·.newest) ≤ 1
  waits : DialogWaits session.state.app

theorem receive_prepareAccounted (session : PrepareSession) (message : UiMessage)
    (before : PrepareAccounted session) :
    PrepareAccounted ((prepareDispatcher vercmp).receive session message) where
  dated := prepare_dated vercmp session message before.dated
  single := prepare_newest vercmp session message before.single
  waits := update_dialogWaits vercmp session.state.app message before.waits

theorem erase_prepareAccounted (session : PrepareSession) (index : Nat)
    (before : PrepareAccounted session) :
    PrepareAccounted ⟨session.state, session.workers.eraseIdx index⟩ where
  dated worker member := before.dated worker (List.mem_of_mem_eraseIdx member)
  single := (List.eraseIdx_sublist session.workers index).countP_le.trans before.single
  waits := before.waits

def PrepareProgress.result (generation : Nat) : PrepareProgress → UiMessage
  | .succeed patches => .configurePrepared generation patches
  | .fail text => .configureFailed text

theorem step_finished (session : PrepareSession) (index : Nat) (progress : PrepareProgress)
    (worker : PrepareWorker) (found : session.workers[index]? = some worker) :
    (prepareDispatcher vercmp).step session (.work index progress) =
      (prepareDispatcher vercmp).receive ⟨session.state, session.workers.eraseIdx index⟩
        (progress.result worker.generation) := by
  rw [step_work (prepareDispatcher vercmp) session index progress worker found]
  cases progress <;> rfl

theorem step_prepareAccounted (session : PrepareSession) (input : PrepareInput)
    (before : PrepareAccounted session) :
    PrepareAccounted ((prepareDispatcher vercmp).step session input) := by
  cases input with
  | message message => exact receive_prepareAccounted vercmp session message before
  | work index progress =>
      cases found : session.workers[index]? with
      | none =>
          rw [step_work_absent _ session index progress found]
          exact before
      | some worker =>
          rw [step_finished vercmp session index progress worker found]
          exact receive_prepareAccounted vercmp _ _ (erase_prepareAccounted session index before)

theorem configurePrepared_current (app : App) (patches : List String) :
    (update vercmp app (.configurePrepared app.patchEpoch patches)).1.state.configuration =
      .editing := by
  rw [update_configuration]
  simp [UiMessage.impact, Control.react]

theorem configurePrepared_stale (app : App) (generation : Nat) (patches : List String)
    (stale : generation ≠ app.patchEpoch) :
    update vercmp app (.configurePrepared generation patches) = (app, []) := by
  simp [update, stale]

theorem configureFailed_closes (app : App) (text : String) :
    (update vercmp app (.configureFailed text)).1.state.configuration = .closed := by
  rw [update_configuration]
  rfl

/-- The result of a prepare opens the window if no message has outdated it, and closes it if the
prepare failed; otherwise it is dropped. -/
theorem result_configuration (history : PrepareHistory) (worker : PrepareWorker)
    (progress : PrepareProgress) (dated : Dated history worker) :
    (update vercmp history.app (progress.result worker.generation)).1.state.configuration =
      match progress with
      | .succeed _ => if worker.outdated then history.app.state.configuration else .editing
      | .fail _ => .closed := by
  cases progress with
  | succeed patches =>
      simp only [PrepareProgress.result]
      split
      · rename_i outdated
        have earlier := dated.2.mp outdated
        rw [configurePrepared_stale vercmp _ _ _ earlier.ne]
      · rename_i current
        have same : worker.generation = history.app.patchEpoch :=
          le_antisymm dated.1 (not_lt.mp fun earlier => current (dated.2.mpr earlier))
        rw [same, configurePrepared_current]
  | fail text => exact configureFailed_closes vercmp _ text

theorem settled_iff (session : PrepareSession) (waits : DialogWaits session.state.app) :
    Settled session ↔
      ((∀ worker ∈ session.workers, worker.newest = false) →
        session.state.app.state.configuration ≠ .preparing) := by
  refine ⟨fun settled none => (settled none).1, fun settled none => ⟨settled none, ?_⟩⟩
  intro shown
  exact settled none (waits ((isPreparing_iff _).mpr shown))

theorem receive_settled (session : PrepareSession) (message : UiMessage)
    (waits : DialogWaits session.state.app) (settled : Settled session) :
    Settled ((prepareDispatcher vercmp).receive session message) := by
  rw [settled_iff _ (update_dialogWaits vercmp session.state.app message waits)]
  intro none preparing
  rw [prepare_workers] at none
  cases requests : message.requestsConfigure with
  | true =>
      have hired := none { generation := session.state.app.patchEpoch + 1 }
        (List.mem_append_right _ (by simp [requests]))
      cases hired
  | false =>
      have noneBefore : ∀ worker ∈ session.workers, worker.newest = false := by
        intro worker member
        have noticed := none _ (List.mem_append_left _ (List.mem_map_of_mem member))
        simpa [PrepareWorker.notice, requests] using noticed
      rcases update_preparing vercmp session.state.app message preparing with before | requested
      · exact (settled noneBefore).1 before
      · rw [requests] at requested
        cases requested

theorem result_noneNewest (session : PrepareSession) (progress : PrepareProgress)
    (generation : Nat) (none : ∀ worker ∈ session.workers, worker.newest = false) :
    ∀ worker ∈ ((prepareDispatcher vercmp).receive session (progress.result generation)).workers,
      worker.newest = false := by
  have unrequested : (progress.result generation).requestsConfigure = false := by
    cases progress <;> rfl
  intro worker member
  rw [prepare_workers, unrequested] at member
  obtain ⟨previous, listed, rfl⟩ := List.mem_map.mp (by simpa using member)
  simp [PrepareWorker.notice, none previous listed]

theorem erase_noneNewest (session : PrepareSession) (index : Nat) (worker : PrepareWorker)
    (found : session.workers[index]? = some worker) (newest : worker.newest = true)
    (single : session.workers.countP (·.newest) ≤ 1) :
    ∀ other ∈ session.workers.eraseIdx index, other.newest = false := by
  obtain ⟨bound, rfl⟩ := List.getElem?_eq_some_iff.mp found
  have counted : (session.workers.eraseIdx index).countP (·.newest) + 1 =
      session.workers.countP (·.newest) := by
    rw [← (List.getElem_cons_eraseIdx_perm bound).countP_eq]
    exact (List.countP_cons_of_pos newest).symm
  have zero : (session.workers.eraseIdx index).countP (·.newest) = 0 := by omega
  intro other member
  simpa using List.countP_eq_zero.mp zero other member

theorem erase_settled (session : PrepareSession) (index : Nat) (worker : PrepareWorker)
    (found : session.workers[index]? = some worker) (older : worker.newest = false)
    (settled : Settled session) : Settled ⟨session.state, session.workers.eraseIdx index⟩ := by
  obtain ⟨bound, rfl⟩ := List.getElem?_eq_some_iff.mp found
  intro none
  apply settled
  intro other member
  rcases List.mem_cons.mp ((List.getElem_cons_eraseIdx_perm bound).mem_iff.mpr member) with
    rfl | kept
  · exact older
  · exact none other kept

theorem step_settled (session : PrepareSession) (input : PrepareInput)
    (accounted : PrepareAccounted session) (settled : Settled session) :
    Settled ((prepareDispatcher vercmp).step session input) ↔ SucceedsCurrent session input := by
  cases input with
  | message message =>
      exact iff_of_true (receive_settled vercmp session message accounted.waits settled) trivial
  | work index progress =>
      cases found : session.workers[index]? with
      | none =>
          rw [step_work_absent _ session index progress found]
          refine iff_of_true settled ?_
          cases progress <;> simp [SucceedsCurrent, found]
      | some worker =>
          rw [step_finished vercmp session index progress worker found]
          have dated := accounted.dated worker (List.mem_of_getElem? found)
          have rest := erase_prepareAccounted session index accounted
          by_cases newest : worker.newest = true
          · have none := erase_noneNewest session index worker found newest accounted.single
            have noneAfter := result_noneNewest vercmp
              ⟨session.state, session.workers.eraseIdx index⟩ progress worker.generation none
            have configuration := result_configuration vercmp session.state worker progress dated
            rw [settled_iff _ (update_dialogWaits vercmp session.state.app _ accounted.waits)]
            refine Iff.trans ⟨fun settled => settled noneAfter, fun settled _ => settled⟩ ?_
            change (update vercmp session.state.app _).1.state.configuration ≠ .preparing ↔ _
            rw [configuration]
            cases progress with
            | succeed patches =>
                cases outdated : worker.outdated <;>
                  simp [SucceedsCurrent, found, newest, outdated]
            | fail text => simp [SucceedsCurrent]
          · have older := Bool.eq_false_iff.mpr newest
            refine iff_of_true ?_ ?_
            · exact receive_settled vercmp _ _ rest.waits
                (erase_settled session index worker found older settled)
            · cases progress <;> simp [SucceedsCurrent, found, older]

theorem dismisses_closes (app : App) (message : UiMessage)
    (dismisses : message.dismissesConfigure = true) :
    (update vercmp app message).1.state.configuration = .closed := by
  rw [update_configuration]
  cases message with
  | semantic message => cases message <;> first | rfl | cases dismisses
  | _ => cases dismisses

theorem result_dismissed (session : PrepareSession) (progress : PrepareProgress)
    (generation : Nat) :
    ((prepareDispatcher vercmp).receive session (progress.result generation)).state.dismissed =
      session.state.dismissed := by
  cases progress <;>
    simp [receive, prepareDispatcher, PrepareProgress.result, UiMessage.dismissesConfigure,
      UiMessage.requestsConfigure]

theorem message_staysClosed (session : PrepareSession) (message : UiMessage)
    (permitted : message.endsPrepare = false) (closed : StaysClosed session) :
    StaysClosed ((prepareDispatcher vercmp).receive session message) := by
  intro dismissed
  change (message.dismissesConfigure || (session.state.dismissed && !message.requestsConfigure)) =
    true at dismissed
  change (update vercmp session.state.app message).1.state.configuration = .closed
  cases dismisses : message.dismissesConfigure with
  | true => exact dismisses_closes vercmp session.state.app message dismisses
  | false =>
      simp only [dismisses, Bool.false_or, Bool.and_eq_true, Bool.not_eq_true'] at dismissed
      apply update_closed vercmp session.state.app message (closed dismissed.1) dismissed.2
      intro raised
      cases impact_raises session.state.app message _ raised
      cases permitted

theorem step_staysClosed (session : PrepareSession) (input : PrepareInput)
    (permitted : PreparePermitted session input) (accounted : PrepareAccounted session)
    (closed : StaysClosed session) :
    StaysClosed ((prepareDispatcher vercmp).step session input) ↔
      SucceedsUndismissed session input := by
  cases input with
  | message message =>
      exact iff_of_true (message_staysClosed vercmp session message permitted closed) trivial
  | work index progress =>
      cases found : session.workers[index]? with
      | none =>
          rw [step_work_absent _ session index progress found]
          refine iff_of_true closed ?_
          cases progress <;> simp [SucceedsUndismissed, found]
      | some worker =>
          rw [step_finished vercmp session index progress worker found]
          have dated := accounted.dated worker (List.mem_of_getElem? found)
          have configuration := result_configuration vercmp session.state worker progress dated
          rw [StaysClosed, result_dismissed]
          change (session.state.dismissed = true →
            (update vercmp session.state.app _).1.state.configuration = .closed) ↔ _
          rw [configuration]
          cases progress with
          | succeed patches =>
              cases outdated : worker.outdated
              · simp [SucceedsUndismissed, found, outdated]
              · refine iff_of_true closed ?_
                simp [SucceedsUndismissed, found, outdated]
          | fail text => simp [SucceedsUndismissed]

end Session

theorem initial_prepareAccounted (flags : Flags) (locale : ResolvedLocale) :
    PrepareAccounted (PrepareSession.initial flags locale) where
  dated worker member := absurd member List.not_mem_nil
  single := Nat.zero_le 1
  waits preparing := by cases preparing

/-- The prepare of the newest request always ends the waiting exactly if it never succeeds after
the generation of the patch list has moved on while the window still waits. -/
theorem prepare_settles_iff (vercmp : String → String → Ordering) (flags : Flags)
    (locale : ResolvedLocale) (inputs : List PrepareInput)
    (permitted : Machine.Admissible (prepareDispatcher vercmp).step PreparePermitted
      (PrepareSession.initial flags locale) inputs) :
    Machine.Always (prepareDispatcher vercmp).step Settled
        (PrepareSession.initial flags locale) inputs ↔
      Machine.Admissible (prepareDispatcher vercmp).step SucceedsCurrent
        (PrepareSession.initial flags locale) inputs := by
  have start := initial_prepareAccounted flags locale
  refine Machine.always_iff_admissible PrepareAccounted
    (fun session input accounted _ => step_prepareAccounted vercmp session input accounted)
    (fun session input accounted settled _ => step_settled vercmp session input accounted settled)
    start ?_ permitted
  rw [settled_iff _ start.waits]
  intro _ preparing
  cases preparing

namespace Sample

def reopened : List PrepareInput :=
  [.message (.semantic .configureRequested), .message (.semantic .configurationCloseRequested),
    .message (.semantic .configureRequested), .work 0 (.succeed []), .work 0 (.succeed [])]

/-- A config whose loading was started before the window was closed arrives while the next
prepare runs. -/
def lateConfig : List PrepareInput :=
  [.message (.semantic .configureRequested), .work 0 (.succeed []),
    .message (.pathDialogOpened .loadConfig), .message (.pathDialogChanged "/home/user/km.toml"),
    .message .pathDialogSubmitted, .message (.semantic .configurationCancelRequested),
    .message (.semantic .configureRequested), .message (.configLoaded {}), .work 0 (.succeed [])]

end Sample

theorem prepare_settles_reopened :
    Machine.Always (prepareDispatcher Sample.vercmp).step Settled
      (PrepareSession.initial Sample.flags Sample.locale) Sample.reopened :=
  (prepare_settles_iff Sample.vercmp Sample.flags Sample.locale Sample.reopened
    (by decide)).mpr (by decide)

theorem prepare_sticks :
    ¬∀ (vercmp : String → String → Ordering) (flags : Flags) (locale : ResolvedLocale)
      (inputs : List PrepareInput),
      Machine.Admissible (prepareDispatcher vercmp).step PreparePermitted
        (PrepareSession.initial flags locale) inputs →
      Machine.Always (prepareDispatcher vercmp).step Settled
        (PrepareSession.initial flags locale) inputs := by
  intro settles
  obtain ⟨_, _, _, _, _, _, _, _, _, finished⟩ := settles Sample.vercmp Sample.flags Sample.locale
    Sample.lateConfig (by decide)
  exact (finished (by decide)).1 (by decide)

/-- A Configure window that the user closed stays closed until it is requested again, exactly if
no prepare succeeds in the meantime whose generation is still the current one. -/
theorem closedWindow_staysClosed_iff (vercmp : String → String → Ordering) (flags : Flags)
    (locale : ResolvedLocale) (inputs : List PrepareInput)
    (permitted : Machine.Admissible (prepareDispatcher vercmp).step PreparePermitted
      (PrepareSession.initial flags locale) inputs) :
    Machine.Always (prepareDispatcher vercmp).step StaysClosed
        (PrepareSession.initial flags locale) inputs ↔
      Machine.Admissible (prepareDispatcher vercmp).step SucceedsUndismissed
        (PrepareSession.initial flags locale) inputs :=
  Machine.always_iff_admissible PrepareAccounted
    (fun session input accounted _ => step_prepareAccounted vercmp session input accounted)
    (fun session input accounted closed permitted =>
      step_staysClosed vercmp session input permitted accounted closed)
    (initial_prepareAccounted flags locale) (fun dismissed => by cases dismissed) permitted

namespace Sample

def failedPrepare : List PrepareInput :=
  [.message (.semantic .configureRequested), .work 0 (.fail "the clone failed"),
    .message (.semantic .configureRequested), .message (.semantic .configureRequested),
    .message (.semantic .configurationCloseRequested), .work 0 (.succeed [])]

def closedEarly : List PrepareInput :=
  [.message (.semantic .configureRequested), .message (.semantic .configurationCloseRequested),
    .work 0 (.succeed [])]

end Sample

theorem closedWindow_staysClosed_failedPrepare :
    Machine.Always (prepareDispatcher Sample.vercmp).step StaysClosed
      (PrepareSession.initial Sample.flags Sample.locale) Sample.failedPrepare :=
  (closedWindow_staysClosed_iff Sample.vercmp Sample.flags Sample.locale Sample.failedPrepare
    (by decide)).mpr (by decide)

/-- The prepare that was running when the user closed the window opens it again. -/
theorem closedWindow_reopens :
    ¬∀ (vercmp : String → String → Ordering) (flags : Flags) (locale : ResolvedLocale)
      (inputs : List PrepareInput),
      Machine.Admissible (prepareDispatcher vercmp).step PreparePermitted
        (PrepareSession.initial flags locale) inputs →
      Machine.Always (prepareDispatcher vercmp).step StaysClosed
        (PrepareSession.initial flags locale) inputs := by
  intro stays
  obtain ⟨_, _, _, reopened⟩ := stays Sample.vercmp Sample.flags Sample.locale
    Sample.closedEarly (by decide)
  exact absurd (reopened (by decide)) (by decide)

end KernelManager
