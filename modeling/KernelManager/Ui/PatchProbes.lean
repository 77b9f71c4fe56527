import KernelManager.Ui.PatchEpoch
import KernelManager.Ui.PatchList
import Mathlib.Data.List.Nodup
import Mathlib.Data.List.Perm.Basic

/-! Which probe of the source array may fill the patch list. -/

namespace KernelManager

def Probe.generation (probe : Probe) : Nat := probe.job.generation

def probeGenerations (tasks : List Task) : List Nat :=
  (tasks.filterMap Task.probe).map Probe.generation

def UiMessage.editsPatches (app : App) : UiMessage → Bool
  | .patchOp _ => true
  | .pathDialogSubmitted => app.pathDialog.any fun dialog => !dialog.patches.isEmpty
  | _ => false

def UiMessage.dispatchesProbe : UiMessage → Bool
  | .semantic .configureRequested | .configLoaded _ | .variantPicked _ | .ltoPicked _ => true
  | .checkToggled check => check = .nvidiaOpen
  | _ => false

/-- A probe in flight, whether it is the one that was dispatched last and whether the user has
edited the patch list since. -/
structure PatchProbe where
  probe : Probe
  newest : Bool := true
  edited : Bool := false

inductive ProbeProgress
  | succeed (sourceArray : List String)
  | fail (text : String)
  deriving DecidableEq, Repr

structure ProbeHistory where
  app : App
  dispatched : List Nat := []
  applied : List Nat := []

namespace PatchProbe

def generation (worker : PatchProbe) : Nat := worker.probe.generation

def reply (worker : PatchProbe) (progress : ProbeProgress) : UiMessage :=
  match worker.probe, progress with
  | .prepare job, .succeed sourceArray =>
      .configurePrepared job.generation (sourceArray.filter isPatch)
  | .prepare _, .fail text => .configureFailed text
  | .refresh job, .succeed sourceArray =>
      .patchesRefreshed job.generation (sourceArray.filter isPatch)
  | .refresh _, .fail text => .taskFailed text

def notice (vercmp : String → String → Ordering) (history : ProbeHistory) (message : UiMessage)
    (worker : PatchProbe) : PatchProbe :=
  { worker with
    newest := worker.newest && (probeGenerations (update vercmp history.app message).2).isEmpty
    edited := worker.edited || message.editsPatches history.app }

end PatchProbe

def UiMessage.appliedGeneration (app : App) : UiMessage → Option Nat
  | .configurePrepared generation _ | .patchesRefreshed generation _ =>
      if generation ≠ app.patchEpoch then none else some generation
  | _ => none

def probeDispatcher (vercmp : String → String → Ordering) :
    Machine.Dispatcher ProbeHistory UiMessage PatchProbe ProbeProgress where
  update history message :=
    let (app, tasks) := update vercmp history.app message
    ({ app := app
       dispatched := history.dispatched ++ probeGenerations tasks
       applied := history.applied ++ (message.appliedGeneration history.app).toList },
      (tasks.filterMap Task.probe).map fun probe => { probe := probe })
  notice := PatchProbe.notice vercmp
  work _ worker progress := (some (worker.reply progress), none)

abbrev ProbeSession := Machine.Session ProbeHistory PatchProbe
abbrev ProbeInput := Machine.Input UiMessage ProbeProgress

def ProbeSession.initial (flags : Flags) (locale : ResolvedLocale) : ProbeSession where
  state := { app := App.initial flags locale }

def ProbePermitted (_session : ProbeSession) : ProbeInput → Prop
  | .message message => message.probeResult = false
  | .work _ _ => True

instance (session : ProbeSession) : ∀ input, Decidable (ProbePermitted session input)
  | .message _ => inferInstanceAs (Decidable (_ = _))
  | .work _ _ => instDecidableTrue

/-- The end of a probe that is not the newest, or that a patch edit has overtaken, leaves the
patch list alone. -/
def LeavesPatches (vercmp : String → String → Ordering) (session : ProbeSession) :
    ProbeInput → Prop
  | .message _ => True
  | .work index progress =>
      ∀ worker ∈ session.workers[index]?, worker.newest = false ∨ worker.edited = true →
        let after := ((probeDispatcher vercmp).step session (.work index progress)).state
        after.app.configure.patches = session.state.app.configure.patches ∧
          after.applied = session.state.applied

theorem onEvent_probes (app : App) (event : AppEvent) :
    probeGenerations (app.onEvent event).2 =
      if event.prepares then [app.patchEpoch + 1] else [] := by
  cases event with
  | executeRequested =>
      simp only [App.onEvent, transition]
      split <;> rfl
  | transactionFinished changed => cases changed <;> rfl
  | buildRequested =>
      simp only [App.onEvent, transition]
      split <;> rfl
  | _ => rfl

theorem ownTasks_probes (app : App) (message : UiMessage) :
    probeGenerations (message.ownTasks app) = [] := by
  cases message with
  | scxApply =>
      simp only [UiMessage.ownTasks, App.scxApply]
      split
      · rfl
      · split <;> rfl
  | scxDisable =>
      simp only [UiMessage.ownTasks]
      split <;> rfl
  | pathDialogSubmitted =>
      apply List.map_eq_nil_iff.mpr
      apply List.filterMap_eq_nil_iff.mpr
      intro task started
      rcases pathDialogSubmitted_tasks app task started with ⟨_, rfl⟩ | ⟨_, _, rfl⟩ <;> rfl
  | _ => rfl

theorem update_probes (vercmp : String → String → Ordering) (app : App)
    (message : UiMessage) :
    probeGenerations (update vercmp app message).2 =
      if message.dispatchesProbe then [app.patchEpoch + 1] else [] := by
  have started := update_tasks vercmp app message
  generalize (update vercmp app message).2 = tasks at started ⊢
  cases started with
  | event base event raised transaction build patchEpoch quiet =>
      have dispatches : message.dispatchesProbe = event.prepares := by
        cases impact_raises app message event raised <;> rfl
      rw [onEvent_probes, patchEpoch, dispatches]
  | refresh base silent refreshes =>
      have dispatches : message.dispatchesProbe = true := by
        cases message <;> first | exact refreshes | cases refreshes
      rw [dispatches]
      rfl
  | own silent quiet =>
      have dispatches : message.dispatchesProbe = false := by
        cases message with
        | semantic message => cases message <;> first | rfl | cases silent
        | _ => first | rfl | exact quiet
      rw [ownTasks_probes, dispatches]
      rfl

/-- The generation advances for every probe and every patch edit, and for nothing else. -/
theorem bumpsPatchEpoch_iff (app : App) (message : UiMessage) :
    message.bumpsPatchEpoch app = (message.dispatchesProbe || message.editsPatches app) := by
  cases message with
  | semantic message => cases message <;> rfl
  | checkToggled check => cases check <;> rfl
  | pathDialogSubmitted => rfl
  | _ => rfl

/-- Every probe has a generation of its own, at most one probe of it is applied, and a probe of
the current generation is the newest and no edit has overtaken it. -/
structure ProbesFresh (session : ProbeSession) : Prop where
  current : Machine.Dispatcher.Outstanding (fun (history : ProbeHistory) worker =>
    worker.generation = history.app.patchEpoch →
      worker.newest = true ∧ worker.edited = false) session
  bounded : ∀ generation ∈ session.state.applied ++ session.workers.map PatchProbe.generation,
    generation ≤ session.state.app.patchEpoch
  distinct : (session.state.applied ++ session.workers.map PatchProbe.generation).Nodup
  dispatchedBounded : ∀ generation ∈ session.state.dispatched,
    generation ≤ session.state.app.patchEpoch
  dispatchedDistinct : session.state.dispatched.Nodup

section Session

variable (vercmp : String → String → Ordering)

open Machine.Dispatcher

theorem receive_probeGenerations (session : ProbeSession) (message : UiMessage) :
    ((probeDispatcher vercmp).receive session message).workers.map PatchProbe.generation =
      session.workers.map PatchProbe.generation ++
        if message.dispatchesProbe then [session.state.app.patchEpoch + 1] else [] := by
  rw [← update_probes vercmp session.state.app message]
  simp only [receive, probeDispatcher, List.map_append, List.map_map, probeGenerations]
  rfl

theorem receive_dispatched (session : ProbeSession) (message : UiMessage) :
    ((probeDispatcher vercmp).receive session message).state.dispatched =
      session.state.dispatched ++
        if message.dispatchesProbe then [session.state.app.patchEpoch + 1] else [] := by
  rw [← update_probes vercmp session.state.app message]
  rfl

theorem receive_current (session : ProbeSession) (message : UiMessage)
    (fresh : ProbesFresh session) :
    ∀ worker ∈ ((probeDispatcher vercmp).receive session message).workers,
      worker.generation = (update vercmp session.state.app message).1.patchEpoch →
        worker.newest = true ∧ worker.edited = false := by
  intro worker member
  rcases List.mem_append.mp member with old | new
  · obtain ⟨previous, listed, rfl⟩ := List.mem_map.mp old
    have bound : previous.generation ≤ session.state.app.patchEpoch :=
      fresh.bounded _ (List.mem_append_right _ (List.mem_map_of_mem listed))
    rw [update_patchEpoch, bumpsPatchEpoch_iff]
    change previous.generation = _ →
      (previous.newest && (probeGenerations (update vercmp session.state.app message).2).isEmpty)
          = true ∧
        (previous.edited || message.editsPatches session.state.app) = false
    rw [update_probes]
    intro same
    cases dispatches : message.dispatchesProbe with
    | true =>
        simp only [dispatches, Bool.true_or, Bool.toNat_true] at same
        omega
    | false =>
        cases edits : message.editsPatches session.state.app with
        | true =>
            simp only [edits, Bool.or_true, Bool.toNat_true] at same
            omega
        | false =>
            simp only [dispatches, edits, Bool.or_self, Bool.toNat_false, Nat.add_zero] at same
            simpa using fresh.current previous listed same
  · obtain ⟨probe, _, rfl⟩ := List.mem_map.mp new
    intro _
    exact ⟨rfl, rfl⟩

theorem current_eq_some (generation epoch found : Nat) :
    (if generation ≠ epoch then none else some generation) = some found ↔
      generation = epoch ∧ generation = found := by
  by_cases current : generation = epoch
  · simp [current]
  · simp [current]

theorem appliedGeneration_current (app : App) (message : UiMessage) (generation : Nat)
    (applied : message.appliedGeneration app = some generation) :
    generation = app.patchEpoch := by
  cases message with
  | configurePrepared prepared patches =>
      obtain ⟨current, rfl⟩ := (current_eq_some prepared _ _).mp applied
      exact current
  | patchesRefreshed refreshed patches =>
      obtain ⟨current, rfl⟩ := (current_eq_some refreshed _ _).mp applied
      exact current
  | _ => cases applied

theorem interleave_perm {Item : Type} (first second third fourth : List Item) :
    ((first ++ second) ++ (third ++ fourth)).Perm ((first ++ third) ++ (second ++ fourth)) := by
  have swapped : (second ++ third).Perm (third ++ second) := List.perm_append_comm
  have inner := (swapped.append_right fourth).append_left first
  simpa only [List.append_assoc] using inner

theorem dispatched_next (app : App) (message : UiMessage) (generation : Nat)
    (member : generation ∈ if message.dispatchesProbe then [app.patchEpoch + 1] else []) :
    generation = app.patchEpoch + 1 ∧
      (update vercmp app message).1.patchEpoch = app.patchEpoch + 1 := by
  split at member
  · rename_i dispatches
    refine ⟨List.mem_singleton.mp member, ?_⟩
    rw [update_patchEpoch vercmp app message, bumpsPatchEpoch_iff, dispatches]
    rfl
  · cases member

theorem dispatched_nodup (message : UiMessage) (generation : Nat) :
    (if message.dispatchesProbe then [generation] else []).Nodup := by
  split
  · exact List.nodup_singleton generation
  · exact List.nodup_nil

theorem receive_fresh (session : ProbeSession) (message : UiMessage)
    (fresh : ProbesFresh session)
    (unclaimed : ∀ generation, message.appliedGeneration session.state.app = some generation →
      generation ∉ session.state.applied ++ session.workers.map PatchProbe.generation) :
    ProbesFresh ((probeDispatcher vercmp).receive session message) := by
  have epoch : (update vercmp session.state.app message).1.patchEpoch =
      session.state.app.patchEpoch + (message.bumpsPatchEpoch session.state.app).toNat :=
    update_patchEpoch vercmp session.state.app message
  have hired := dispatched_next vercmp session.state.app message
  have newlyApplied : ∀ generation ∈
      (message.appliedGeneration session.state.app).toList,
      generation = session.state.app.patchEpoch ∧
        generation ∉ session.state.applied ++ session.workers.map PatchProbe.generation := by
    intro generation member
    have applied := Option.mem_toList.mp member
    exact ⟨appliedGeneration_current session.state.app message generation applied,
      unclaimed generation applied⟩
  have single : (message.appliedGeneration session.state.app).toList.Nodup := by
    cases message.appliedGeneration session.state.app <;> simp
  have claimed := interleave_perm session.state.applied
    (message.appliedGeneration session.state.app).toList
    (session.workers.map PatchProbe.generation)
    (if message.dispatchesProbe then [session.state.app.patchEpoch + 1] else [])
  refine ⟨receive_current vercmp session message fresh, ?_, ?_, ?_, ?_⟩
  · rw [receive_probeGenerations]
    intro generation member
    change generation ≤ (update vercmp session.state.app message).1.patchEpoch
    rcases List.mem_append.mp (claimed.mem_iff.mp member) with old | new
    · have bound := fresh.bounded generation old
      omega
    · rcases List.mem_append.mp new with applied | dispatched
      · have current := (newlyApplied generation applied).1
        omega
      · have next := hired generation dispatched
        omega
  · rw [receive_probeGenerations]
    refine claimed.nodup_iff.mpr (List.nodup_append'.mpr ⟨fresh.distinct, ?_, ?_⟩)
    · refine List.nodup_append'.mpr ⟨single, dispatched_nodup message _, ?_⟩
      · intro generation applied dispatched
        have current := (newlyApplied generation applied).1
        have next := (hired generation dispatched).1
        omega
    · intro generation old new
      rcases List.mem_append.mp new with applied | dispatched
      · exact (newlyApplied generation applied).2 old
      · have bound := fresh.bounded generation old
        have next := (hired generation dispatched).1
        omega
  · rw [receive_dispatched]
    intro generation member
    change generation ≤ (update vercmp session.state.app message).1.patchEpoch
    rcases List.mem_append.mp member with old | new
    · have bound := fresh.dispatchedBounded generation old
      omega
    · have next := hired generation new
      omega
  · rw [receive_dispatched]
    refine List.nodup_append'.mpr ⟨fresh.dispatchedDistinct, dispatched_nodup message _, ?_⟩
    · intro generation old new
      have bound := fresh.dispatchedBounded generation old
      have next := (hired generation new).1
      omega

theorem erase_fresh (session : ProbeSession) (index : Nat) (fresh : ProbesFresh session) :
    ProbesFresh ⟨session.state, session.workers.eraseIdx index⟩ := by
  have fewer : (session.state.applied ++
      (session.workers.eraseIdx index).map PatchProbe.generation).Sublist
        (session.state.applied ++ session.workers.map PatchProbe.generation) :=
    ((session.workers.eraseIdx_sublist index).map _).append_left _
  refine ⟨?_, ?_, fresh.distinct.sublist fewer, fresh.dispatchedBounded,
    fresh.dispatchedDistinct⟩
  · intro worker member
    exact fresh.current worker (List.mem_of_mem_eraseIdx member)
  · intro generation member
    exact fresh.bounded generation (fewer.subset member)

theorem erased_unclaimed (session : ProbeSession) (index : Nat) (worker : PatchProbe)
    (fresh : ProbesFresh session) (found : session.workers[index]? = some worker) :
    worker.generation ∉ session.state.applied ++
      (session.workers.eraseIdx index).map PatchProbe.generation := by
  obtain ⟨_, distinct, apart⟩ := List.nodup_append'.mp fresh.distinct
  intro member
  rcases List.mem_append.mp member with applied | outstanding
  · exact apart applied (List.mem_map_of_mem (List.mem_of_getElem? found))
  · obtain ⟨other, listed, same⟩ := List.mem_map.mp outstanding
    obtain ⟨position, differs, at_position⟩ := List.mem_eraseIdx_iff_getElem?.mp listed
    have first : (session.workers.map PatchProbe.generation)[position]? =
        some worker.generation := by
      rw [List.getElem?_map, at_position, Option.map_some, same]
    have second : (session.workers.map PatchProbe.generation)[index]? =
        some worker.generation := by
      rw [List.getElem?_map, found, Option.map_some]
    obtain ⟨positionBound, positionValue⟩ := List.getElem?_eq_some_iff.mp first
    obtain ⟨indexBound, indexValue⟩ := List.getElem?_eq_some_iff.mp second
    exact differs ((distinct.getElem_inj_iff).mp (positionValue.trans indexValue.symm))

theorem reply_applied (app : App) (worker : PatchProbe) (progress : ProbeProgress)
    (generation : Nat)
    (applied : (worker.reply progress).appliedGeneration app = some generation) :
    worker.generation = generation := by
  obtain ⟨probe, newest, edited⟩ := worker
  cases progress with
  | succeed sourceArray =>
      cases probe with
      | prepare job => exact ((current_eq_some job.generation _ _).mp applied).2
      | refresh job => exact ((current_eq_some job.generation _ _).mp applied).2
  | fail text => cases probe <;> cases applied

theorem reply_stale (app : App) (worker : PatchProbe) (progress : ProbeProgress)
    (stale : worker.generation ≠ app.patchEpoch) :
    (worker.reply progress).reconfigure app = app.configure ∧
      (worker.reply progress).appliedGeneration app = none := by
  obtain ⟨probe, newest, edited⟩ := worker
  cases probe with
  | prepare job =>
      cases progress with
      | succeed sourceArray => exact ⟨if_pos stale, if_pos stale⟩
      | fail text => exact ⟨rfl, rfl⟩
  | refresh job =>
      cases progress with
      | succeed sourceArray => exact ⟨if_pos stale, if_pos stale⟩
      | fail text => exact ⟨rfl, rfl⟩

theorem step_replied (session : ProbeSession) (index : Nat) (progress : ProbeProgress)
    (worker : PatchProbe) (found : session.workers[index]? = some worker) :
    (probeDispatcher vercmp).step session (.work index progress) =
      (probeDispatcher vercmp).receive ⟨session.state, session.workers.eraseIdx index⟩
        (worker.reply progress) := by
  rw [step_work (probeDispatcher vercmp) session index progress worker found]
  rfl

theorem step_fresh (session : ProbeSession) (input : ProbeInput) (fresh : ProbesFresh session)
    (permitted : ProbePermitted session input) :
    ProbesFresh ((probeDispatcher vercmp).step session input) := by
  cases input with
  | message message =>
      refine receive_fresh vercmp session message fresh ?_
      intro generation applied
      cases message with
      | configurePrepared prepared patches => cases permitted
      | patchesRefreshed refreshed patches => cases permitted
      | _ => cases applied
  | work index progress =>
      cases found : session.workers[index]? with
      | none =>
          rw [step_work_absent _ session index progress found]
          exact fresh
      | some worker =>
          rw [step_replied vercmp session index progress worker found]
          refine receive_fresh vercmp _ _ (erase_fresh session index fresh) ?_
          intro generation applied
          rw [← reply_applied session.state.app worker progress generation applied]
          exact erased_unclaimed session index worker fresh found

theorem fresh_leavesPatches (session : ProbeSession) (input : ProbeInput)
    (fresh : ProbesFresh session) : LeavesPatches vercmp session input := by
  cases input with
  | message message => trivial
  | work index progress =>
      intro worker found overtaken after
      have stale : worker.generation ≠ session.state.app.patchEpoch := by
        intro same
        have current := fresh.current worker (List.mem_of_getElem? found) same
        rcases overtaken with older | edited
        · rw [current.1] at older
          cases older
        · rw [current.2] at edited
          cases edited
      obtain ⟨kept, unapplied⟩ := reply_stale session.state.app worker progress stale
      have replied : after = ((probeDispatcher vercmp).receive
          ⟨session.state, session.workers.eraseIdx index⟩ (worker.reply progress)).state :=
        congrArg Machine.Session.state (step_replied vercmp session index progress worker found)
      rw [replied]
      constructor
      · have configured := update_configure vercmp session.state.app (worker.reply progress)
        exact congrArg ConfigureWindowModel.patches (configured.trans kept)
      · change session.state.applied ++
          ((worker.reply progress).appliedGeneration session.state.app).toList =
            session.state.applied
        rw [unapplied, Option.toList_none, List.append_nil]

end Session

/-- However probes and edits interleave, only the newest probe, and only if no edit has
overtaken it, fills the patch list, and it does so once. -/
theorem patchEdits_kept (vercmp : String → String → Ordering) (flags : Flags)
    (locale : ResolvedLocale) (inputs : List ProbeInput)
    (permitted : Machine.Admissible (probeDispatcher vercmp).step ProbePermitted
      (ProbeSession.initial flags locale) inputs) :
    let final := Machine.run (probeDispatcher vercmp).step (ProbeSession.initial flags locale)
      inputs
    Machine.Admissible (probeDispatcher vercmp).step (LeavesPatches vercmp)
        (ProbeSession.initial flags locale) inputs ∧
      final.state.dispatched.Nodup ∧ final.state.applied.Nodup := by
  have initial : ProbesFresh (ProbeSession.initial flags locale) := by
    refine ⟨?_, ?_, List.nodup_nil, ?_, List.nodup_nil⟩
    · intro worker member
      cases member
    · intro generation member
      cases member
    · intro generation member
      cases member
  have fresh := Machine.run_invariant ProbesFresh (step_fresh vercmp) initial permitted
  refine ⟨?_, fresh.dispatchedDistinct, (List.nodup_append'.mp fresh.distinct).1⟩
  exact Machine.admissible_of_invariant ProbesFresh (step_fresh vercmp)
    (fun session input before _ => fresh_leavesPatches vercmp session input before) initial
    permitted

namespace Sample

def probeSession : List ProbeInput :=
  [.message (.semantic .configureRequested), .message (.variantPicked .rt),
    .work 0 (.succeed ["linux.tar.xz", "0001-base.patch"]),
    .message (.pathDialogOpened .addRemotePatch),
    .message (.pathDialogChanged "0002-mine.patch"),
    .message .pathDialogSubmitted, .work 0 (.succeed ["0001-base.patch"]),
    .message (.ltoPicked .full), .work 0 (.succeed ["0001-base.patch"])]

end Sample

theorem patchEdits_kept_probeSession :
    let final := Machine.run (probeDispatcher Sample.vercmp).step
      (ProbeSession.initial Sample.flags Sample.locale) Sample.probeSession
    Machine.Admissible (probeDispatcher Sample.vercmp).step (LeavesPatches Sample.vercmp)
        (ProbeSession.initial Sample.flags Sample.locale) Sample.probeSession ∧
      final.state.dispatched.Nodup ∧ final.state.applied.Nodup :=
  patchEdits_kept Sample.vercmp Sample.flags Sample.locale Sample.probeSession (by decide)

end KernelManager
