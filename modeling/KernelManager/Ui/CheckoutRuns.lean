import KernelManager.Ui.CancelledBuild
import KernelManager.Ui.OptionsMirror
import KernelManager.Ui.SharedCheckout

/-! What makepkg sources, over every run of the builds and the prepares. -/

namespace KernelManager

section Messages

variable (vercmp : String → String → Ordering) (app : App) (message : UiMessage)

theorem pressesBuild_iff : message.pressesBuild = true ↔ message = .semantic .buildRequested := by
  constructor
  · intro presses
    cases message with
    | semantic message => cases message <;> first | rfl | cases presses
    | _ => cases presses
  · rintro rfl
    rfl

theorem update_pressed :
    (update vercmp app message).2.filterMap Task.pressed =
      if message.pressesBuild && !app.state.build.inFlight then
        [.pressed (app.buildJob (app.buildEpoch + 1))]
      else [] := by
  split
  · next pressed =>
      obtain ⟨presses, idle⟩ := Bool.and_eq_true_iff.mp pressed
      obtain rfl := (pressesBuild_iff message).mp presses
      rw [buildRequested_tasks vercmp app (by simpa using idle)]
      rfl
  · next unpressed =>
      refine List.filterMap_eq_nil_iff.mpr fun task member => ?_
      cases task with
      | build job =>
          obtain ⟨rfl, idle, -⟩ := update_build vercmp app message job member
          exact absurd (by simp [UiMessage.pressesBuild, idle]) unpressed
      | _ => rfl

theorem update_unprepared (unrequested : message.requestsConfigure = false) :
    (update vercmp app message).2.filterMap Task.prepareThread = [] := by
  have none := update_prepares vercmp app message
  rw [unrequested] at none
  refine List.filterMap_eq_nil_iff.mpr fun task member => ?_
  cases task with
  | configure job => exact absurd (List.filterMap_eq_nil_iff.mp none _ member) nofun
  | _ => rfl

theorem message_flight (session : OperationSession) (accounted : BuildAccounted session)
    (permitted : BuildsPermitted session (.message message))
    (underway : (update vercmp session.state message).1.state.build.inFlight = true) :
    session.state.state.build.inFlight = true ∨ message.pressesBuild = true := by
  obtain ⟨ordered, noRequest, onlyAsked⟩ := permitted
  have after : (update vercmp session.state message).1.state.build =
      (session.state.state.control.after (message.impact session.state)).build :=
    congrArg Control.build (update_control vercmp session.state message)
  rw [after] at underway
  cases raised : (message.impact session.state).event with
  | none =>
      rw [Control.after, raised] at underway
      exact .inl underway
  | some event =>
      by_cases drives : event.drivesBuild = true
      · cases impact_raises session.state message event raised with
        | buildRequested => exact .inr rfl
        | installArtifactsRequested => cases noRequest
        | buildFinished success => cases ordered
        | artifactsInstalled => cases ordered
        | installAccepted | installDeclined =>
            have asked : session.state.state.build = .awaitingInstallDecision :=
              accounted.asked ((isConfirm_iff _).mp (onlyAsked rfl))
            exact .inl (by rw [asked]; rfl)
        | _ => cases drives
      · have same := (react_building session.state.state.control event (by simpa using drives)).1
        rw [Control.after, raised] at underway
        exact .inl ((congrArg BuildState.inFlight same).symm.trans underway)

end Messages

theorem tasks_building (tasks : List Task) :
    (tasks.filterMap Task.builderThread).map BuilderThread.pending =
      pendingOperations Operation.building (tasks.filterMap Task.operation) := by
  induction tasks with
  | nil => rfl
  | cons task tasks ih =>
      cases task with
      | build job => exact congrArg ({ operation := .build } :: ·) ih
      | artifacts job => exact congrArg ({ operation := .artifacts } :: ·) ih
      | _ => exact ih

theorem advance_building (epoch : Nat) (files : Pkgbuilds) (event : BuilderEvent)
    (thread : BuilderThread) :
    (thread.advance epoch files event).2.1.pending = thread.pending := by
  cases thread <;> rfl

theorem reply_answers (thread : BuilderThread) (message : UiMessage)
    (replies : thread.reply = some message) :
    thread.pending.answeredBy message = true ∧ thread.pending.after message = none ∧
      message.requestsConfigure = false ∧ message.pressesBuild = false := by
  cases thread with
  | build thread =>
      obtain ⟨job, stage, found, probed, output⟩ := thread
      cases stage with
      | answered success =>
          cases replies
          exact ⟨rfl, rfl, rfl, rfl⟩
      | _ => cases replies
  | artifacts job stage =>
      cases stage with
      | answered =>
          cases replies
          exact ⟨rfl, rfl, rfl, rfl⟩
      | _ => cases replies

theorem prepared_quiet (session : OperationSession) (thread : PrepareThread)
    (progress : PrepareProgress) (message : UiMessage)
    (replies : thread.reply progress = some message) :
    BuildsPermitted session (.message message) ∧ message.requestsConfigure = false ∧
      message.pressesBuild = false := by
  cases progress with
  | fail text =>
      cases replies
      exact ⟨⟨rfl, rfl, nofun⟩, rfl, rfl⟩
  | succeed patches =>
      obtain ⟨job, stage⟩ := thread
      cases stage with
      | finished =>
          cases replies
          exact ⟨⟨rfl, rfl, nofun⟩, rfl, rfl⟩
      | _ => cases replies

theorem outstandingBuild_length (build : BuildState) : build.outstanding.length ≤ 1 := by
  cases build <;> decide

theorem outstandingBuild_inFlight (build : BuildState) (idle : build.inFlight = false) :
    build.outstanding = [] := by
  cases build <;> first | rfl | cases idle

section Sessions

variable (vercmp : String → String → Ordering) (session : CheckoutSession)

theorem builders_refine :
    (operationDispatcher vercmp Operation.building).Refines (builderDispatcher vercmp)
      BuilderThread.pending where
  update app message := by
    simp only [operationDispatcher, builderDispatcher, tasks_building]
  notice _ _ _ := rfl

theorem accounted_alone (accounted : BuildAccounted (pendingBuilders session)) (index : Nat)
    (thread : BuilderThread) (found : session.builders.workers[index]? = some thread) :
    session.builders.workers = [thread] ∧ index = 0 := by
  apply Machine.Dispatcher.alone session.builders.workers _ index thread found
  have viewed : (pendingBuilders session).workers.length = session.builders.workers.length :=
    List.length_map _
  rw [← viewed, accounted.workers]
  exact outstandingBuild_length _

theorem accounted_idle (accounted : BuildAccounted (pendingBuilders session))
    (idle : session.app.state.build.inFlight = false) : session.builders.workers = [] := by
  have none := accounted.workers.trans (outstandingBuild_inFlight _ idle)
  exact List.map_eq_nil_iff.mp none

theorem accounted_flight (accounted : BuildAccounted (pendingBuilders session)) (index : Nat)
    (thread : BuilderThread) (found : session.builders.workers[index]? = some thread) :
    session.app.state.build.inFlight = true := by
  by_contra idle
  rw [accounted_idle session accounted (by simpa using idle)] at found
  cases found

theorem deliver_accounted (session : CheckoutSession) (message : UiMessage)
    (accounted : BuildAccounted (pendingBuilders session))
    (permitted : BuildsPermitted (pendingBuilders session) (.message message)) :
    BuildAccounted (pendingBuilders (session.deliver vercmp message)) := by
  have received := message_accounted vercmp _ message accounted permitted
  rwa [← Machine.Dispatcher.viewed_receive _ _ _ (builders_refine vercmp)] at received

theorem answer_builders (index : Nat) (thread : BuilderThread) (message : UiMessage)
    (found : session.builders.workers[index]? = some thread)
    (replies : thread.reply = some message) :
    (builderDispatcher vercmp).step session.builders (.work index ()) =
      (builderDispatcher vercmp).receive
        { session.builders with workers := session.builders.workers.eraseIdx index } message := by
  rw [Machine.Dispatcher.step_work _ _ index () thread found]
  simp only [builderDispatcher, replies]
  rfl

theorem answered_accounted (index : Nat) (thread : BuilderThread) (message : UiMessage)
    (accounted : BuildAccounted (pendingBuilders session))
    (found : session.builders.workers[index]? = some thread)
    (replies : thread.reply = some message) :
    BuildAccounted (pendingBuilders
      ({ session with
          builders :=
            { session.builders with
              workers := session.builders.workers.eraseIdx index } }.deliver vercmp message)) := by
  obtain ⟨answers, ended, -⟩ := reply_answers thread message replies
  have seen : (pendingBuilders session).workers[index]? = some thread.pending := by
    simp only [pendingBuilders, Machine.Dispatcher.viewed, List.getElem?_map, found,
      Option.map_some]
  have allowed : BuildsPermitted (pendingBuilders session) (.work index message) := by
    refine ⟨?_, trivial⟩
    rw [AnswersInOrder, seen]
    exact answers
  have works : (builderDispatcher vercmp).work session.builders.state thread () =
      (some message, none) := by
    simp only [builderDispatcher, replies]
  have viewed := Machine.Dispatcher.viewed_work _ _ _ (builders_refine vercmp) session.builders
    index () message thread found message none works (by rw [Option.map_none, ← ended]; rfl)
  have stepped := answer_accounted vercmp _ index message accounted allowed
  rw [← viewed, answer_builders vercmp session index thread message found replies] at stepped
  exact stepped

section Sound

/-- Only a press that starts a build adds to the log, and there the log begins anew. -/
theorem deliver_log (session : CheckoutSession) (message : UiMessage) :
    (session.deliver vercmp message).log = session.log ∧
        (message.pressesBuild = true → session.app.state.build.inFlight = true) ∨
      message.pressesBuild = true ∧
        ∃ job, (session.deliver vercmp message).log = session.log ++ [.pressed job] := by
  simp only [CheckoutSession.deliver, update_pressed]
  cases presses : message.pressesBuild with
  | false => exact .inl ⟨List.append_nil _, nofun⟩
  | true =>
      cases flight : session.app.state.build.inFlight with
      | false => exact .inr ⟨rfl, _, rfl⟩
      | true => exact .inl ⟨List.append_nil _, fun _ => rfl⟩

theorem deliver_fewer (session : CheckoutSession) (message : UiMessage) (made : Sourced)
    (member : .sourced made ∈ recent (session.deliver vercmp message).log) :
    .sourced made ∈ recent session.log := by
  obtain ⟨same, -⟩ | ⟨-, job, logged⟩ := deliver_log vercmp session message
  · exact same ▸ member
  · rw [logged, recent_pressed] at member
    cases member

theorem deliver_workers (session : CheckoutSession) (message : UiMessage)
    (thread : BuilderThread)
    (member : thread ∈ (session.deliver vercmp message).builders.workers) :
    thread ∈ session.builders.workers ∨ (∃ job stage, thread = .artifacts job stage) ∨
      recent (session.deliver vercmp message).log = [] ∧ ∃ job, thread = .build { job := job } := by
  rcases List.mem_append.mp member with old | new
  · obtain ⟨worker, listed, rfl⟩ := List.mem_map.mp old
    exact .inl listed
  · obtain ⟨task, spawned, hires⟩ := List.mem_filterMap.mp new
    cases task with
    | artifacts job =>
        cases hires
        exact .inr (.inl ⟨job, .check, rfl⟩)
    | build job =>
        cases hires
        obtain ⟨rfl, idle, -⟩ := update_build vercmp session.app message job spawned
        refine .inr (.inr ⟨?_, job, rfl⟩)
        obtain ⟨-, flight⟩ | ⟨-, job, logged⟩ :=
          deliver_log vercmp session (.semantic .buildRequested)
        · exact absurd (idle.symm.trans (flight rfl)) nofun
        · rw [logged, recent_pressed]
    | _ => cases hires

theorem deliver_sound (session : CheckoutSession) (message : UiMessage)
    (sound : CheckoutSound session)
    (flight : (session.deliver vercmp message).app.state.build.inFlight = true →
      session.app.state.build.inFlight = true ∨ message.pressesBuild = true)
    (unconfigured : message.requestsConfigure = true → session.app.state.build.inFlight = false)
    (settled : message.pressesBuild = true → session.prepares = []) :
    CheckoutSound (session.deliver vercmp message) where
  alone underway := by
    have unrequested : message.requestsConfigure = false := by
      by_contra requested
      have requests : message.requestsConfigure = true := by simpa using requested
      rcases flight underway with before | presses
      · rw [unconfigured requests] at before
        cases before
      · obtain rfl := (pressesBuild_iff message).mp presses
        cases requests
    have nothing := update_unprepared vercmp session.app message unrequested
    have quiet : session.prepares = [] := (flight underway).elim sound.alone settled
    simp only [CheckoutSession.deliver, nothing, quiet, List.append_nil]
  sound thread member := by
    rcases deliver_workers vercmp session message thread member with
      old | ⟨job, stage, rfl⟩ | ⟨fresh, job, rfl⟩
    · exact (sound.sound thread old).logged (deliver_fewer vercmp session message)
    · trivial
    · exact hired_sound _ _ job fresh
  kept underway made member := by
    obtain ⟨same, presses⟩ | ⟨-, job, logged⟩ := deliver_log vercmp session message
    · have before : session.app.state.build.inFlight = true :=
        (flight underway).elim id presses
      exact sound.kept before made (deliver_fewer vercmp session message made member)
    · rw [logged, recent_pressed] at member
      cases member
  faithful := by
    obtain ⟨same, -⟩ | ⟨-, job, logged⟩ := deliver_log vercmp session message
    · exact same ▸ sound.faithful
    · exact logged ▸ faithfulLog_snoc session.log _ sound.faithful trivial

theorem deliver_quiet (session : CheckoutSession) (message : UiMessage)
    (sound : CheckoutSound session)
    (flight : (session.deliver vercmp message).app.state.build.inFlight = true →
      session.app.state.build.inFlight = true ∨ message.pressesBuild = true)
    (unrequested : message.requestsConfigure = false)
    (unpressed : message.pressesBuild = false) :
    CheckoutSound (session.deliver vercmp message) := by
  apply deliver_sound vercmp session message sound flight
  · intro requests
    rw [unrequested] at requests
    cases requests
  · intro presses
    rw [unpressed] at presses
    cases presses

theorem sourced_spliced (files : Pkgbuilds) (log : List CheckoutEntry) (thread : BuildThread)
    (running : thread.stage = .recheck ∨ thread.stage = .wait) (sound : thread.Sound files log) :
    (thread.sourced files).Follows log := by
  obtain ⟨job, stage, found, probed, output⟩ := thread
  rcases running with rfl | rfl <;> exact ⟨sound.accepted rfl, sound.holds.1, sound.holds.2⟩

structure EntriesKept (files : Pkgbuilds) (log : List CheckoutEntry) : Prop where
  kept : ∀ made, .sourced made ∈ recent log → files made.job.workingPath = made.text
  faithful : FaithfulLog log

theorem globbed_kept (files : Pkgbuilds) (log : List CheckoutEntry) (job : ArtifactsJob)
    (before : EntriesKept files log) :
    EntriesKept files (log ++ [.globbed job (files job.variantDir)]) where
  kept made member := by
    rw [recent_append _ _ (by simp [CheckoutEntry.isPressed])] at member
    exact before.kept made (by simpa using member)
  faithful := by
    refine faithfulLog_snoc log _ before.faithful ?_
    intro made member same
    exact (congrArg files same.symm).trans (before.kept made member)

theorem sourced_kept (files : Pkgbuilds) (log : List CheckoutEntry) (thread : BuildThread)
    (running : thread.stage = .recheck ∨ thread.stage = .wait) (sound : thread.Sound files log)
    (before : EntriesKept files log) : EntriesKept files (log ++ [thread.sourced files]) where
  kept made member := by
    rw [recent_append _ _ (by simp [BuildThread.sourced, CheckoutEntry.isPressed])] at member
    rcases List.mem_cons.mp member with now | earlier
    · cases now
      rfl
    · exact before.kept made earlier
  faithful :=
    faithfulLog_snoc log _ before.faithful (sourced_spliced files log thread running sound)

theorem artifacts_entries (epoch : Nat) (files : Pkgbuilds) (log : List CheckoutEntry)
    (event : BuilderEvent) (job : ArtifactsJob) (stage : ArtifactsStage)
    (before : EntriesKept files log) :
    EntriesKept files
      (log ++ (BuilderThread.advanceArtifacts epoch files job stage event).2) := by
  have entries : (BuilderThread.advanceArtifacts epoch files job stage event).2 = [] ∨
      (BuilderThread.advanceArtifacts epoch files job stage event).2 =
        [.globbed job (files job.variantDir)] := by
    cases stage <;> cases event <;> first | exact .inl rfl | exact .inr rfl
  rcases entries with none | globs
  · rwa [none, List.append_nil]
  · rw [globs]
    exact globbed_kept files log job before

theorem build_entries (epoch : Nat) (files : Pkgbuilds) (log : List CheckoutEntry)
    (event : BuilderEvent) (thread : BuildThread) (sound : thread.Sound files log)
    (before : EntriesKept files log) :
    let result := thread.advance epoch files event
    result.2.1.Sound result.1 (log ++ result.2.2) ∧ EntriesKept result.1 (log ++ result.2.2) := by
  intro result
  obtain none | ⟨running, sources⟩ := @advance_entries files thread epoch event
  · rw [none, List.append_nil]
    refine ⟨advance_sound epoch event sound, ⟨?_, before.faithful⟩⟩
    intro made member
    -- A worker that still writes has started no makepkg.
    cases early : thread.stage.early with
    | true => exact absurd member (sound.unsourced early made)
    | false =>
        have same : result.1 = files := advance_late epoch event early
        rw [same]
        exact before.kept made member
  · have stepped : result = (files, thread, [thread.sourced files]) := sources
    rw [stepped]
    refine ⟨?_, sourced_kept files log thread running sound before⟩
    refine { sound with unsourced := fun early => ?_ }
    rcases running with here | here <;> rw [here] at early <;> cases early

theorem builder_entries (epoch : Nat) (files : Pkgbuilds) (log : List CheckoutEntry)
    (event : BuilderEvent) (thread : BuilderThread) (sound : thread.Sound files log)
    (before : EntriesKept files log) :
    let result := thread.advance epoch files event
    result.2.1.Sound result.1 (log ++ result.2.2) ∧ EntriesKept result.1 (log ++ result.2.2) := by
  cases thread with
  | artifacts job stage =>
      exact ⟨trivial, artifacts_entries epoch files log event job stage before⟩
  | build thread => exact build_entries epoch files log event thread sound before

theorem builder_sound (session : CheckoutSession) (index : Nat) (event : BuilderEvent)
    (accounted : BuildAccounted (pendingBuilders session)) (sound : CheckoutSound session) :
    let after := session.step vercmp (.builder index event)
    BuildAccounted (pendingBuilders after) ∧ CheckoutSound after := by
  intro after
  cases found : session.builders.workers[index]? with
  | none =>
      have same : after = session := by simp only [after, CheckoutSession.step, found]
      rw [same]
      exact ⟨accounted, sound⟩
  | some thread =>
      obtain ⟨only, rfl⟩ := accounted_alone session accounted index thread found
      have flight := accounted_flight session accounted 0 thread found
      have entries := builder_entries session.app.buildEpoch session.files session.log
        event thread (sound.sound thread (List.mem_of_getElem? found))
        ⟨sound.kept flight, sound.faithful⟩
      have pending := advance_building session.app.buildEpoch session.files event thread
      obtain ⟨⟨app, workers⟩, prepares, strays, files, log⟩ := session
      simp only at only
      subst only
      obtain ⟨advanced, behind⟩ := entries
      refine ⟨⟨?_, accounted.asked⟩, sound.alone, ?_, fun _ => behind.kept, behind.faithful⟩
      · exact (congrArg (fun each => [each]) pending).trans accounted.workers
      · intro other member
        rw [List.mem_singleton.mp member]
        exact advanced

theorem idle_sound (session : CheckoutSession)
    (accounted : BuildAccounted (pendingBuilders session)) (sound : CheckoutSound session)
    (idle : session.app.state.build.inFlight = false) (prepares : List PrepareThread)
    (files : Pkgbuilds) :
    CheckoutSound { session with prepares := prepares, files := files } where
  alone flight := absurd (idle.symm.trans flight) nofun
  sound thread member := by
    have resting := accounted_idle session accounted idle
    rw [resting] at member
    cases member
  kept flight := absurd (idle.symm.trans flight) nofun
  faithful := sound.faithful

/-- A prepare is underway only while no build is in flight. -/
theorem prepare_sound (session : CheckoutSession) (index : Nat) (event : RefreshEvent)
    (accounted : BuildAccounted (pendingBuilders session)) (sound : CheckoutSound session) :
    CheckoutSound (session.step vercmp (.prepare index event)) := by
  cases found : session.prepares[index]? with
  | none => simpa only [CheckoutSession.step, found] using sound
  | some thread =>
      have idle : session.app.state.build.inFlight = false := by
        by_contra flight
        rw [sound.alone (by simpa using flight)] at found
        cases found
      simp only [CheckoutSession.step, found]
      exact idle_sound session accounted sound idle _ _

theorem stray_sound (session : CheckoutSession) (index : Nat) (sound : CheckoutSound session) :
    CheckoutSound (session.step vercmp (.stray index)) := by
  cases found : session.strays[index]? with
  | none => simpa only [CheckoutSession.step, found] using sound
  | some job =>
      have fewer (made : Sourced)
          (member : .sourced made ∈
            recent (session.log ++ [.strayed job (session.files job.workingPath)])) :
          .sourced made ∈ recent session.log := by
        rw [recent_append _ _ (by simp [CheckoutEntry.isPressed])] at member
        simpa using member
      simp only [CheckoutSession.step, found]
      exact {
        alone := sound.alone
        sound := fun thread member => (sound.sound thread member).logged fewer
        kept := fun flight made member => sound.kept flight made (fewer made member)
        faithful := faithfulLog_snoc session.log _ sound.faithful trivial }

theorem step_sound (session : CheckoutSession) (input : CheckoutInput)
    (permitted : CheckoutPermitted session input)
    (accounted : BuildAccounted (pendingBuilders session))
    (sound : CheckoutSound session) :
    let after := session.step vercmp input
    BuildAccounted (pendingBuilders after) ∧ CheckoutSound after := by
  cases input with
  | message message =>
      obtain ⟨builds, configures, presses⟩ := permitted
      refine ⟨deliver_accounted vercmp session message accounted builds, ?_⟩
      exact deliver_sound vercmp session message sound
        (message_flight vercmp message _ accounted builds) configures
        fun pressed => List.isEmpty_iff.mp (presses pressed)
  | builder index event => exact builder_sound vercmp session index event accounted sound
  | prepare index event =>
      refine ⟨?_, prepare_sound vercmp session index event accounted sound⟩
      simp only [CheckoutSession.step]
      split <;> exact accounted
  | stray index =>
      refine ⟨?_, stray_sound vercmp session index sound⟩
      simp only [CheckoutSession.step]
      split <;> exact accounted
  | edited directory text =>
      exact ⟨accounted, idle_sound session accounted sound permitted session.prepares _⟩
  | answer index =>
      cases found : session.builders.workers[index]? with
      | none => simpa only [CheckoutSession.step, found] using ⟨accounted, sound⟩
      | some thread =>
          cases replies : thread.reply with
          | none =>
              simpa only [CheckoutSession.step, found, Option.bind_some, replies] using
                ⟨accounted, sound⟩
          | some message =>
              obtain ⟨-, -, unrequested, unpressed⟩ := reply_answers thread message replies
              have flight := accounted_flight session accounted index thread found
              simp only [CheckoutSession.step, found, Option.bind_some, replies]
              refine ⟨answered_accounted vercmp session index thread message accounted found
                replies, ?_⟩
              refine deliver_quiet vercmp _ message ?_ (fun _ => .inl flight) unrequested
                unpressed
              exact { sound with
                sound := fun other member => sound.sound other (List.mem_of_mem_eraseIdx member) }
  | prepared index progress =>
      cases found : session.prepares[index]? with
      | none => simpa only [CheckoutSession.step, found] using ⟨accounted, sound⟩
      | some thread =>
          cases replies : thread.reply progress with
          | none =>
              simpa only [CheckoutSession.step, found, Option.bind_some, replies] using
                ⟨accounted, sound⟩
          | some message =>
              obtain ⟨builds, unrequested, unpressed⟩ :=
                prepared_quiet (pendingBuilders session) thread progress message replies
              have erased : CheckoutSound
                  { session with prepares := session.prepares.eraseIdx index } := by
                refine { sound with alone := fun flight => ?_ }
                rw [sound.alone flight]
                rfl
              simp only [CheckoutSession.step, found, Option.bind_some, replies]
              refine ⟨deliver_accounted vercmp _ message accounted builds, ?_⟩
              exact deliver_quiet vercmp _ message erased
                (message_flight vercmp message _ accounted builds) unrequested unpressed

theorem initial_checkoutSound (flags : Flags) (locale : ResolvedLocale) (files : Pkgbuilds) :
    CheckoutSound (CheckoutSession.initial flags locale files) where
  alone _ := rfl
  sound _ member := absurd member List.not_mem_nil
  kept _ _ member := absurd member List.not_mem_nil
  faithful _ _ _ split := absurd split.symm (List.append_ne_nil_of_right_ne_nil _ nofun)

theorem run_sound (flags : Flags) (locale : ResolvedLocale) (files : Pkgbuilds)
    (inputs : List CheckoutInput)
    (permitted : Machine.Admissible (CheckoutSession.step vercmp) CheckoutPermitted
      (CheckoutSession.initial flags locale files) inputs) :
    CheckoutSound
      (Machine.run (CheckoutSession.step vercmp)
        (CheckoutSession.initial flags locale files) inputs) := by
  refine (Machine.run_invariant
    (fun session => BuildAccounted (pendingBuilders session) ∧ CheckoutSound session)
    ?_ ?_ permitted).2
  · rintro session input ⟨accounted, sound⟩ allowed
    exact step_sound vercmp session input allowed accounted sound
  · exact ⟨initial_accounted flags locale,
      initial_checkoutSound flags locale files⟩

end Sound

end Sessions

def makepkgRun : List CheckoutInput :=
  [.builder 0 .checks, .builder 0 (.spawns true), .builder 0 .sources, .builder 0 .checks,
    .builder 0 (.ends true), .answer 0]

namespace Sample

def upstreamPkgbuild : String :=
  "source=(\"linux.tar.xz\")\n_major=6.17\n\nprepare() \x7b\n\x7d\n"

def splicedPkgbuild : String :=
  "source=(\"linux.tar.xz\")\n\npkgbase=\"$pkgbase-custom\"\n_major=6.17\n" ++
    "source=(\n\"linux.tar.xz\"\n\"0001-a.patch\")\n\nprepare() \x7b\n\x7d\n"

def upstreamFiles : Pkgbuilds := fun directory =>
  if directory = "linux-cachyos" then some upstreamPkgbuild else none

def freshRefresh : List RefreshEvent :=
  .looks { parentDirExists := true, repoExists := true, repoIsGit := true } ::
    List.replicate 6 (.performs true upstreamFiles)

def splicedRun : List CheckoutInput :=
  .message (.semantic .configureRequested) :: (freshRefresh.map (CheckoutInput.prepare 0) ++
      [.prepared 0 (.succeed ["0001-a.patch"]), .message (.semantic .buildRequested)] ++
      freshRefresh.map (fun event => CheckoutInput.builder 0 (.refreshes event)) ++
      [.builder 0 (.probes "linux.tar.xz"), .builder 0 (.reads true), .builder 0 (.writes .ok),
        .builder 0 (.reads true), .builder 0 (.writes .ok)])

def installedRun : List CheckoutInput :=
  splicedRun ++ makepkgRun ++
    [.message (.installQuestion true), .builder 0 .checks, .builder 0 (.probes ""),
      .builder 0 (.ends true), .answer 0]

def checkoutSession (inputs : List CheckoutInput) : CheckoutSession :=
  Machine.run (CheckoutSession.step vercmp)
    (CheckoutSession.initial flags locale fun _ => none) inputs

def splicedJob : BuildJob := (checkoutSession splicedRun).app.buildJob 1

def splicedSource : Sourced where
  job := splicedJob
  found := some upstreamPkgbuild
  probed := some upstreamPkgbuild
  output := "linux.tar.xz"
  text := some splicedPkgbuild

end Sample

section Faithful

variable (vercmp : String → String → Ordering)

/-- An install asks the PKGBUILD that makepkg has sourced for the names of the packages. -/
theorem install_globs (flags : Flags) (locale : ResolvedLocale) (files : Pkgbuilds)
    (inputs : List CheckoutInput)
    (permitted : Machine.Admissible (CheckoutSession.step vercmp) CheckoutPermitted
      (CheckoutSession.initial flags locale files) inputs) :
    let session := Machine.run (CheckoutSession.step vercmp)
      (CheckoutSession.initial flags locale files) inputs
    ∀ before job text after, session.log = before ++ .globbed job text :: after →
      ∀ made, .sourced made ∈ recent before → made.job.workingPath = job.variantDir →
        text = made.text := by
  intro session before job text after split made member same
  exact (run_sound vercmp flags locale files inputs permitted).faithful before _ after
    split made member same

theorem install_globs_installed :
    let install : ArtifactsJob := (Sample.checkoutSession Sample.splicedRun).app.artifactsJob 1
    (Sample.checkoutSession Sample.installedRun).log =
        [.pressed Sample.splicedJob, .sourced Sample.splicedSource,
          .globbed install (some Sample.splicedPkgbuild)] ∧
      some Sample.splicedPkgbuild = Sample.splicedSource.text := by
  intro install
  have logged : (Sample.checkoutSession Sample.installedRun).log =
      [.pressed Sample.splicedJob, .sourced Sample.splicedSource,
        .globbed install (some Sample.splicedPkgbuild)] := by
    decide +kernel
  exact ⟨logged, install_globs Sample.vercmp Sample.flags Sample.locale (fun _ => none)
    Sample.installedRun (by decide +kernel)
    [.pressed Sample.splicedJob, .sourced Sample.splicedSource] install _ [] logged
    Sample.splicedSource (by decide +kernel) rfl⟩

end Faithful

section Unspliced

variable (vercmp : String → String → Ordering)

theorem prepare_runs (session : CheckoutSession) (thread : PrepareThread)
    (alone : session.prepares = [thread]) (events : List RefreshEvent) :
    let reached := thread.stage.refreshes session.files events
    Machine.run (CheckoutSession.step vercmp) session (events.map (CheckoutInput.prepare 0)) =
      { session with
        prepares := [{ thread with stage := reached.2 }]
        files := reached.1 } := by
  induction events generalizing session thread with
  | nil =>
      obtain ⟨builders, prepares, strays, files, log⟩ := session
      obtain rfl := alone
      rfl
  | cons event events ih =>
      obtain ⟨builders, prepares, strays, files, log⟩ := session
      obtain rfl := alone
      rw [List.map_cons, Machine.run_cons]
      exact ih _ { thread with stage := (thread.stage.advance files event).2 } rfl

theorem configureRequested_tasks (app : App) :
    (update vercmp app (.semantic .configureRequested)).2 =
      [.configure (app.probeJob (app.patchEpoch + 1))] := by
  simp [update, App.onSemantic, App.onEvent, transition, App.runEffects, App.runEffect,
    Message.cancelsBuild, App.configureTask, App.setDialogs, App.probeJob]

theorem makepkg_runs (session : CheckoutSession) (thread : BuildThread)
    (building : session.builders.workers = [.build thread]) (spliced : thread.stage = .check)
    (current : thread.job.epoch = session.app.buildEpoch) :
    Machine.run (CheckoutSession.step vercmp) session makepkgRun =
      ({ session with
          builders := { session.builders with workers := [] }
          strays := session.strays ++ [thread.job]
          log := session.log ++ [thread.sourced session.files] }).deliver vercmp
        (.buildFinished true) := by
  obtain ⟨⟨app, _⟩, prepares, strays, files, log⟩ := session
  obtain ⟨job, _, found, probed, output⟩ := thread
  obtain rfl := building
  obtain rfl := spliced
  have same : job.epoch = app.buildEpoch := current
  simp [makepkgRun, Machine.run_cons, CheckoutSession.step, BuilderThread.advance,
    BuildThread.advance, BuilderThread.reply, BuilderThread.strays, BuilderThread.runs, same,
    BuildThread.sourced]

theorem finished_confirm (app : App) :
    (update vercmp app (.buildFinished true)).1.state.dialogs.isConfirm = true := by
  rw [isConfirm_iff, update_control]
  rfl

/-- Configure is pressed behind the second splice, and its prepare takes these steps before
makepkg is started. -/
def configureDuring (events : List RefreshEvent) : List CheckoutInput :=
  .message (.semantic .configureRequested) ::
    (events.map (CheckoutInput.prepare 0) ++ makepkgRun)

theorem splicedRun_building :
    (Sample.checkoutSession Sample.splicedRun).builders.workers =
      [.build { job := Sample.splicedJob, stage := .check, output := "linux.tar.xz",
                found := some Sample.upstreamPkgbuild,
                probed := some Sample.upstreamPkgbuild }] := by
  decide +kernel

end Unspliced

end KernelManager
