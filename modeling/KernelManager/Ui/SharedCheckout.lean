import KernelManager.Build.Checkout
import KernelManager.Build.DoneStatus
import KernelManager.Build.Environment
import KernelManager.Build.Pkgbuild
import KernelManager.Ui.BuildWorkers
import KernelManager.Ui.PatchList
import KernelManager.Ui.PrepareFlow

/-!
The PKGBUILD that a build runs: its worker refreshes the checkout, splices the PKGBUILD and starts
makepkg, while the prepares of the Configure window refresh the same checkout.
-/

namespace KernelManager

namespace BuildJob

def accepted (job : BuildJob) : Bool :=
  spliceSafeCustomName job.customName &&
    job.patches.all fun patch => (spliceUnsafeIndex patch).isNone

def spliceSources (job : BuildJob) (output pkgbuild : String) : String :=
  insertPatchSourceArray pkgbuild (parseSourceArrayProbeOutput output) job.patches

def splice (job : BuildJob) (output pkgbuild : String) : String :=
  insertCustomPkgbase (job.spliceSources output pkgbuild) job.customName

end BuildJob

/-- Where a build worker is; makepkg runs from `recheck` on. -/
inductive BuildStage
  | refresh (stage : RefreshStage)
  | probe
  | read
  | write (found : String)
  | readAgain
  | writeAgain (found : String)
  | check
  | spawn
  | recheck
  | wait
  | answered (success : Bool)
  deriving DecidableEq

/-- The worker of a build. The PKGBUILD that its refresh left it with, and the one that it probed,
are what the program does not keep. -/
structure BuildThread where
  job : BuildJob
  stage : BuildStage := .refresh .look
  found : Option String := none
  probed : Option String := none
  output : String := ""
  deriving DecidableEq

inductive ArtifactsStage
  | check
  | probe
  | wait
  | answered
  deriving DecidableEq

inductive BuilderThread
  | build (thread : BuildThread)
  | artifacts (job : ArtifactsJob) (stage : ArtifactsStage)
  deriving DecidableEq

inductive WriteOutcome
  | ok
  | failed (left : Option String)

/-- What the next call of a builder meets, or what makepkg does. The terminal also ends when it is
killed, and makepkg then runs on. -/
inductive BuilderEvent
  | refreshes (event : RefreshEvent)
  | probes (output : String)
  | reads (ok : Bool)
  | writes (outcome : WriteOutcome)
  | checks
  | spawns (ok : Bool)
  | sources
  | ends (marked : Bool)
  | panics

structure Sourced where
  job : BuildJob
  found : Option String
  probed : Option String
  output : String
  text : Option String
  deriving DecidableEq

inductive CheckoutEntry
  | pressed (job : BuildJob)
  | sourced (made : Sourced)
  /-- A makepkg that outlives the worker of its build sources as well. -/
  | strayed (job : BuildJob) (text : Option String)
  | globbed (job : ArtifactsJob) (text : Option String)
  deriving DecidableEq

namespace BuildThread

abbrev directory (thread : BuildThread) : String := thread.job.workingPath

def sourced (thread : BuildThread) (files : Pkgbuilds) : CheckoutEntry :=
  .sourced
    { job := thread.job
      found := thread.found
      probed := thread.probed
      output := thread.output
      text := files thread.directory }

def write (files : Pkgbuilds) (thread : BuildThread) (text : String) (next : BuildStage) :
    WriteOutcome → Pkgbuilds × BuildThread × List CheckoutEntry
  | .ok => (Function.update files thread.directory (some text), { thread with stage := next }, [])
  | .failed left =>
      (Function.update files thread.directory left, { thread with stage := .answered false }, [])

/-- A call of the worker, over the generation of the builds. An event that does not fit where the
worker stands is none of its. -/
def advance (epoch : Nat) (files : Pkgbuilds) (thread : BuildThread) (event : BuilderEvent) :
    Pkgbuilds × BuildThread × List CheckoutEntry :=
  let same := (files, thread, [])
  let moved (stage : BuildStage) : Pkgbuilds × BuildThread × List CheckoutEntry :=
    (files, { thread with stage := stage }, [])
  match thread.stage, event with
  | .answered _, _ => same
  | _, .panics => moved (.answered false)
  | .refresh stage, .refreshes event =>
      match stage.advance files event with
      | (files, .finished) =>
          (files, { thread with stage := .probe, found := files thread.directory }, [])
      | (files, stage) => (files, { thread with stage := .refresh stage }, [])
  | .probe, .probes output =>
      (files,
        { thread with
          probed := files thread.directory
          output := output
          stage := if thread.job.accepted then .read else .answered false }, [])
  -- What cannot be read is taken for empty.
  | .read, .reads ok => moved (.write (if ok then (files thread.directory).getD "" else ""))
  | .write found, .writes outcome =>
      thread.write files (thread.job.spliceSources thread.output found) .readAgain outcome
  | .readAgain, .reads ok =>
      moved (.writeAgain (if ok then (files thread.directory).getD "" else ""))
  | .writeAgain found, .writes outcome =>
      thread.write files (insertCustomPkgbase found thread.job.customName) .check outcome
  | .check, .checks => moved (if thread.job.epoch = epoch then .spawn else .answered false)
  | .spawn, .spawns ok => moved (if ok then .recheck else .answered false)
  | .recheck, .checks => moved (if thread.job.epoch = epoch then .wait else .answered false)
  | .recheck, .sources | .wait, .sources => (files, thread, [thread.sourced files])
  | .wait, .ends marked => moved (.answered (marked && thread.job.epoch = epoch))
  | _, _ => same

end BuildThread

namespace BuilderThread

def pending : BuilderThread → Pending
  | .build _ => { operation := .build }
  | .artifacts _ _ => { operation := .artifacts }

def advanceArtifacts (epoch : Nat) (files : Pkgbuilds) (job : ArtifactsJob) :
    ArtifactsStage → BuilderEvent → ArtifactsStage × List CheckoutEntry
  | .check, .checks => (if job.epoch = epoch then .probe else .answered, [])
  | .probe, .probes _ => (.wait, [.globbed job (files job.variantDir)])
  | .wait, .ends _ => (.answered, [])
  | _, .panics => (.answered, [])
  | stage, _ => (stage, [])

def advance (epoch : Nat) (files : Pkgbuilds) (event : BuilderEvent) :
    BuilderThread → Pkgbuilds × BuilderThread × List CheckoutEntry
  | .build thread =>
      let (files, thread, entries) := thread.advance epoch files event
      (files, .build thread, entries)
  | .artifacts job stage =>
      let (stage, entries) := advanceArtifacts epoch files job stage event
      (files, .artifacts job stage, entries)

def runs : BuilderThread → Option BuildJob
  | .build { job := job, stage := .recheck, .. } | .build { job := job, stage := .wait, .. } =>
      some job
  | _ => none

/-- A makepkg that its worker does not wait for any longer. -/
def strays (before after : BuilderThread) : List BuildJob :=
  if after.runs.isNone then before.runs.toList else []

def reply : BuilderThread → Option UiMessage
  | .build { stage := .answered success, .. } => some (.buildFinished success)
  | .artifacts _ .answered => some .artifactsInstalled
  | _ => none

end BuilderThread

/-- A prepare of the Configure window; its probe only reads. -/
structure PrepareThread where
  job : ProbeJob
  stage : RefreshStage := .look
  deriving DecidableEq

namespace Task

def builderThread : Task → Option BuilderThread
  | .build job => some (.build { job := job })
  | .artifacts job => some (.artifacts job .check)
  | _ => none

def prepareThread : Task → Option PrepareThread
  | .configure job => some { job := job }
  | _ => none

def pressed : Task → Option CheckoutEntry
  | .build job => some (.pressed job)
  | _ => none

end Task

def builderDispatcher (vercmp : String → String → Ordering) :
    Machine.Dispatcher App UiMessage BuilderThread Unit where
  update app message :=
    let (app, tasks) := update vercmp app message
    (app, tasks.filterMap Task.builderThread)
  notice _ _ thread := thread
  work _ thread _ :=
    match thread.reply with
    | some message => (some message, none)
    | none => (none, some thread)

structure CheckoutSession where
  builders : Machine.Session App BuilderThread
  prepares : List PrepareThread := []
  strays : List BuildJob := []
  files : Pkgbuilds
  log : List CheckoutEntry := []

inductive CheckoutInput
  | message (message : UiMessage)
  | builder (index : Nat) (event : BuilderEvent)
  | answer (index : Nat)
  | prepare (index : Nat) (event : RefreshEvent)
  | prepared (index : Nat) (progress : PrepareProgress)
  | stray (index : Nat)
  /-- Some other program, or makepkg itself, changes a PKGBUILD. -/
  | edited (directory : String) (text : Option String)

namespace PrepareThread

def reply (thread : PrepareThread) : PrepareProgress → Option UiMessage
  | .succeed patches =>
      match thread.stage with
      | .finished => some (.configurePrepared thread.job.generation patches)
      | _ => none
  | .fail text => some (.configureFailed text)

end PrepareThread

namespace CheckoutSession

abbrev app (session : CheckoutSession) : App := session.builders.state

def initial (flags : Flags) (locale : ResolvedLocale) (files : Pkgbuilds) : CheckoutSession where
  builders := { state := App.initial flags locale }
  files := files

section Steps

variable (vercmp : String → String → Ordering)

def deliver (session : CheckoutSession) (message : UiMessage) : CheckoutSession :=
  let tasks := (update vercmp session.app message).2
  { session with
    builders := (builderDispatcher vercmp).receive session.builders message
    prepares := session.prepares ++ tasks.filterMap Task.prepareThread
    log := session.log ++ tasks.filterMap Task.pressed }

def step (session : CheckoutSession) : CheckoutInput → CheckoutSession
  | .message message => session.deliver vercmp message
  | .builder index event =>
      match session.builders.workers[index]? with
      | none => session
      | some thread =>
          let (files, advanced, entries) :=
            thread.advance session.app.buildEpoch session.files event
          { session with
            builders :=
              { session.builders with workers := session.builders.workers.set index advanced }
            strays := session.strays ++ thread.strays advanced
            files := files
            log := session.log ++ entries }
  | .answer index =>
      match session.builders.workers[index]?.bind BuilderThread.reply with
      | none => session
      | some message =>
          { session with
            builders :=
              { session.builders with
                workers := session.builders.workers.eraseIdx index } }.deliver vercmp message
  | .prepare index event =>
      match session.prepares[index]? with
      | none => session
      | some thread =>
          let (files, stage) := thread.stage.advance session.files event
          { session with
            prepares := session.prepares.set index { thread with stage := stage }
            files := files }
  | .prepared index progress =>
      match session.prepares[index]?.bind (·.reply progress) with
      | none => session
      | some message =>
          { session with prepares := session.prepares.eraseIdx index }.deliver vercmp message
  | .stray index =>
      match session.strays[index]? with
      | none => session
      | some job =>
          { session with
            log := session.log ++ [.strayed job (session.files job.workingPath)] }
  | .edited directory text =>
      { session with files := Function.update session.files directory text }

end Steps

end CheckoutSession

abbrev pendingBuilders (session : CheckoutSession) : OperationSession :=
  Machine.Dispatcher.viewed BuilderThread.pending session.builders

/-- Nothing but the workers answers for them, nobody presses Configure while a build is in flight
or Build before the prepares are done, and meanwhile nothing else changes a PKGBUILD. -/
def CheckoutPermitted (session : CheckoutSession) : CheckoutInput → Prop
  | .message message =>
      BuildsPermitted (pendingBuilders session) (.message message) ∧
        (message.requestsConfigure = true → session.app.state.build.inFlight = false) ∧
        (message.pressesBuild = true → session.prepares.isEmpty = true)
  | .edited _ _ => session.app.state.build.inFlight = false
  | _ => True

instance (session : CheckoutSession) : ∀ input, Decidable (CheckoutPermitted session input)
  | .message _ => inferInstanceAs (Decidable (_ ∧ (_ → _) ∧ (_ → _)))
  | .edited _ _ => inferInstanceAs (Decidable (_ = _))
  | .builder _ _ | .answer _ | .prepare _ _ | .prepared _ _ | .stray _ => instDecidableTrue

def CheckoutEntry.isPressed : CheckoutEntry → Bool
  | .pressed _ => true
  | .sourced _ | .strayed _ _ | .globbed _ _ => false

/-- The entries behind the last press of Build, the newest first. -/
def recent (log : List CheckoutEntry) : List CheckoutEntry :=
  log.reverse.takeWhile (!·.isPressed)

theorem recent_pressed (log : List CheckoutEntry) (job : BuildJob) :
    recent (log ++ [.pressed job]) = [] := by
  simp [recent, CheckoutEntry.isPressed]

theorem recent_append (log entries : List CheckoutEntry)
    (unpressed : ∀ entry ∈ entries, entry.isPressed = false) :
    recent (log ++ entries) = entries.reverse ++ recent log := by
  rw [recent, List.reverse_append, List.takeWhile_append_of_pos]
  · rfl
  · intro entry member
    simp [unpressed entry (List.mem_reverse.mp member)]

/-- What makepkg sources is the PKGBUILD that its build was left with and has probed, with the
splices of that build, or, when the PKGBUILD could not be read, nothing. -/
structure Sourced.Spliced (made : Sourced) : Prop where
  accepted : made.job.accepted = true
  probed : made.probed = made.found
  text : made.text = some "" ∨
    ∃ pristine, made.found = some pristine ∧
      made.text = some (made.job.splice made.output pristine)

def CheckoutEntry.Follows (before : List CheckoutEntry) : CheckoutEntry → Prop
  | .pressed _ | .strayed _ _ => True
  | .sourced made => made.Spliced
  | .globbed job text =>
      ∀ made, .sourced made ∈ recent before → made.job.workingPath = job.variantDir →
        text = made.text

def FaithfulLog (log : List CheckoutEntry) : Prop :=
  ∀ before entry after, log = before ++ entry :: after → entry.Follows before

theorem faithfulLog_snoc (log : List CheckoutEntry) (entry : CheckoutEntry)
    (faithful : FaithfulLog log) (follows : entry.Follows log) :
    FaithfulLog (log ++ [entry]) := by
  intro before other after split
  rcases List.eq_nil_or_concat after with rfl | ⟨front, last, rfl⟩
  · obtain ⟨rfl, same⟩ := List.append_inj' split rfl
    obtain rfl := List.singleton_inj.mp same
    exact follows
  · rw [List.concat_eq_append, ← List.cons_append, ← List.append_assoc] at split
    exact faithful before other front (List.append_inj' split rfl).1

namespace BuildStage

def early : BuildStage → Bool
  | .refresh _ | .probe | .read | .write _ | .readAgain | .writeAgain _ | .check | .spawn => true
  | .recheck | .wait | .answered _ => false

def gated : BuildStage → Bool
  | .refresh _ | .probe | .answered _ => false
  | _ => true

end BuildStage

def BuildThread.Holds (files : Pkgbuilds) (thread : BuildThread) : Prop :=
  let file := files thread.directory
  let probed := thread.probed = thread.found
  match thread.stage with
  | .refresh _ => True
  | .probe => file = thread.found
  | .read => probed ∧ file = thread.found
  | .write text => probed ∧ (text = "" ∨ thread.found = some text)
  | .readAgain =>
      probed ∧ (file = some "" ∨ ∃ pristine, thread.found = some pristine ∧
        file = some (thread.job.spliceSources thread.output pristine))
  | .writeAgain text =>
      probed ∧ (text = "" ∨ ∃ pristine, thread.found = some pristine ∧
        text = thread.job.spliceSources thread.output pristine)
  | .check | .spawn | .recheck | .wait =>
      probed ∧ (file = some "" ∨ ∃ pristine, thread.found = some pristine ∧
        file = some (thread.job.splice thread.output pristine))
  | .answered _ => True

structure BuildThread.Sound (files : Pkgbuilds) (log : List CheckoutEntry)
    (thread : BuildThread) : Prop where
  holds : thread.Holds files
  unsourced : thread.stage.early = true → ∀ made, .sourced made ∉ recent log
  accepted : thread.stage.gated = true → thread.job.accepted = true

def BuilderThread.Sound (files : Pkgbuilds) (log : List CheckoutEntry) : BuilderThread → Prop
  | .build thread => thread.Sound files log
  | .artifacts _ _ => True

/-- While a build is in flight nothing prepares, and the PKGBUILD that was sourced last is as it
was. -/
structure CheckoutSound (session : CheckoutSession) : Prop where
  alone : session.app.state.build.inFlight = true → session.prepares = []
  sound : ∀ thread ∈ session.builders.workers, thread.Sound session.files session.log
  kept : session.app.state.build.inFlight = true →
    ∀ made, .sourced made ∈ recent session.log →
      session.files made.job.workingPath = made.text
  faithful : FaithfulLog session.log

theorem spliceSources_empty (job : BuildJob) (output : String) : job.spliceSources output "" = "" :=
  rfl

theorem insertCustomPkgbase_empty (customName : String) : insertCustomPkgbase "" customName = "" :=
  rfl

section Advance

variable {files : Pkgbuilds} {log : List CheckoutEntry} {thread : BuildThread}

theorem BuildThread.Sound.moved (sound : thread.Sound files log) (stage : BuildStage)
    (holds : thread.Holds files → ({ thread with stage := stage } : BuildThread).Holds files)
    (early : stage.early = true → thread.stage.early = true)
    (gated : stage.gated = true → thread.stage.gated = true) :
    ({ thread with stage := stage } : BuildThread).Sound files log where
  holds := holds sound.holds
  unsourced now := sound.unsourced (early now)
  accepted now := sound.accepted (gated now)

theorem BuildThread.Sound.failed (sound : thread.Sound files log) (success : Bool) :
    ({ thread with stage := .answered success } : BuildThread).Sound files log :=
  sound.moved _ (fun _ => trivial) nofun nofun

theorem BuildThread.Sound.checked (sound : thread.Sound files log) (goesOn : Prop)
    [Decidable goesOn] (next : BuildStage)
    (holds : thread.Holds files → ({ thread with stage := next } : BuildThread).Holds files)
    (early : next.early = true → thread.stage.early = true)
    (gated : next.gated = true → thread.stage.gated = true) :
    ({ thread with stage := if goesOn then next else .answered false } : BuildThread).Sound files
      log := by
  split
  · exact sound.moved next holds early gated
  · exact sound.failed false

theorem BuildThread.Sound.written (sound : thread.Sound files log) (text : String)
    (next : BuildStage) (early : thread.stage.early = true) (gated : thread.stage.gated = true)
    (holds : thread.Holds files → ({ thread with stage := next } : BuildThread).Holds
      (Function.update files thread.directory (some text))) (outcome : WriteOutcome) :
    (thread.write files text next outcome).2.1.Sound (thread.write files text next outcome).1
      log := by
  cases outcome with
  | ok => exact ⟨holds sound.holds, fun _ => sound.unsourced early, fun _ => sound.accepted gated⟩
  | failed left => exact ⟨trivial, nofun, nofun⟩

theorem refreshing_sound (stage : RefreshStage) (here : thread.stage = .refresh stage)
    (event : RefreshEvent) (epoch : Nat) (sound : thread.Sound files log) :
    let result := thread.advance epoch files (.refreshes event)
    result.2.1.Sound result.1 log := by
  obtain ⟨job, _, found, probed, output⟩ := thread
  obtain rfl := here
  have unsourced := sound.unsourced rfl
  intro result
  simp only [result, BuildThread.advance]
  cases stage.advance files event with
  | mk after stage =>
      cases stage with
      | finished => exact ⟨rfl, fun _ => unsourced, nofun⟩
      | look | steps => exact ⟨trivial, fun _ => unsourced, nofun⟩

theorem probing_sound (here : thread.stage = .probe) (printed : String) (epoch : Nat)
    (sound : thread.Sound files log) :
    let result := thread.advance epoch files (.probes printed)
    result.2.1.Sound result.1 log := by
  obtain ⟨job, _, found, probed, output⟩ := thread
  obtain rfl := here
  have file : files job.workingPath = found := sound.holds
  have unsourced := sound.unsourced rfl
  intro result
  simp only [result, BuildThread.advance]
  by_cases accepted : job.accepted = true
  · rw [if_pos accepted]
    exact ⟨⟨file, file⟩, fun _ => unsourced, fun _ => accepted⟩
  · rw [if_neg accepted]
    exact ⟨trivial, nofun, nofun⟩

theorem advance_sound (epoch : Nat) (event : BuilderEvent) (sound : thread.Sound files log) :
    let result := thread.advance epoch files event
    result.2.1.Sound result.1 log := by
  obtain ⟨job, stage, found, probed, output⟩ := thread
  cases stage with
  | refresh refresh =>
      cases event with
      | refreshes event => exact refreshing_sound refresh rfl event epoch sound
      | panics => exact sound.failed false
      | _ => exact sound
  | probe =>
      cases event with
      | probes printed => exact probing_sound rfl printed epoch sound
      | panics => exact sound.failed false
      | _ => exact sound
  | read =>
      cases event with
      | reads ok =>
          refine sound.moved _ (fun holds => ⟨holds.1, ?_⟩) (fun _ => rfl) fun _ => rfl
          have file : files job.workingPath = found := holds.2
          cases ok with
          | false => exact .inl rfl
          | true =>
              cases there : files job.workingPath with
              | none => exact .inl rfl
              | some text => exact .inr (by simp [← file, there])
      | panics => exact sound.failed false
      | _ => exact sound
  | write text =>
      cases event with
      | writes outcome =>
          refine sound.written _ .readAgain rfl rfl (fun holds => ⟨holds.1, ?_⟩) outcome
          rw [Function.update_self]
          rcases holds.2 with rfl | left
          · exact .inl (congrArg some (spliceSources_empty job output))
          · exact .inr ⟨text, left, rfl⟩
      | panics => exact sound.failed false
      | _ => exact sound
  | readAgain =>
      cases event with
      | reads ok =>
          refine sound.moved _ (fun holds => ⟨holds.1, ?_⟩) (fun _ => rfl) fun _ => rfl
          cases ok with
          | false => exact .inl rfl
          | true =>
              have taken (text : String) (file : files job.workingPath = some text) :
                  (files job.workingPath).getD "" = text :=
                congrArg (·.getD "") file
              rcases holds.2 with blank | ⟨pristine, left, file⟩
              · exact .inl (taken _ blank)
              · exact .inr ⟨pristine, left, taken _ file⟩
      | panics => exact sound.failed false
      | _ => exact sound
  | writeAgain text =>
      cases event with
      | writes outcome =>
          refine sound.written _ .check rfl rfl (fun holds => ⟨holds.1, ?_⟩) outcome
          rw [Function.update_self]
          rcases holds.2 with rfl | ⟨pristine, left, read⟩
          · exact .inl (congrArg some (insertCustomPkgbase_empty job.customName))
          · have text_eq : text = job.spliceSources output pristine := read
            exact .inr ⟨pristine, left, congrArg some (text_eq ▸ rfl)⟩
      | panics => exact sound.failed false
      | _ => exact sound
  | check =>
      cases event with
      | checks => exact sound.checked _ .spawn (fun holds => holds) (fun _ => rfl) fun _ => rfl
      | panics => exact sound.failed false
      | _ => exact sound
  | spawn =>
      cases event with
      | spawns ok => exact sound.checked _ .recheck (fun holds => holds) nofun fun _ => rfl
      | panics => exact sound.failed false
      | _ => exact sound
  | recheck =>
      cases event with
      | checks => exact sound.checked _ .wait (fun holds => holds) nofun fun _ => rfl
      | panics => exact sound.failed false
      | _ => exact sound
  | wait =>
      cases event with
      | ends marked => exact sound.failed _
      | panics => exact sound.failed false
      | _ => exact sound
  | answered success => exact sound

theorem refreshing_silent (stage : RefreshStage) (here : thread.stage = .refresh stage)
    (event : RefreshEvent) (epoch : Nat) :
    (thread.advance epoch files (.refreshes event)).2.2 = [] := by
  obtain ⟨job, _, found, probed, output⟩ := thread
  obtain rfl := here
  simp only [BuildThread.advance]
  split <;> rfl

theorem advance_entries (epoch : Nat) (event : BuilderEvent) :
    let result := thread.advance epoch files event
    result.2.2 = [] ∨
      (thread.stage = .recheck ∨ thread.stage = .wait) ∧
        result = (files, thread, [thread.sourced files]) := by
  intro result
  obtain ⟨job, stage, found, probed, output⟩ := thread
  cases stage with
  | refresh stage =>
      cases event with
      | refreshes event => exact .inl (refreshing_silent stage rfl event epoch)
      | _ => exact .inl rfl
  | write text | writeAgain text =>
      cases event with
      | writes outcome => cases outcome <;> exact .inl rfl
      | _ => exact .inl rfl
  | recheck =>
      cases event with
      | sources => exact .inr ⟨.inl rfl, rfl⟩
      | _ => exact .inl rfl
  | wait =>
      cases event with
      | sources => exact .inr ⟨.inr rfl, rfl⟩
      | _ => exact .inl rfl
  | _ => cases event <;> exact .inl rfl

theorem advance_late (epoch : Nat) (event : BuilderEvent) (late : thread.stage.early = false) :
    let result := thread.advance epoch files event
    result.1 = files := by
  intro result
  obtain ⟨job, stage, found, probed, output⟩ := thread
  cases stage with
  | recheck | wait | answered success => cases event <;> rfl
  | _ => cases late

end Advance

theorem BuilderThread.Sound.logged {files : Pkgbuilds} {log after : List CheckoutEntry}
    {thread : BuilderThread} (sound : thread.Sound files log)
    (fewer : ∀ made, .sourced made ∈ recent after → .sourced made ∈ recent log) :
    thread.Sound files after := by
  cases thread with
  | artifacts job stage => trivial
  | build thread =>
      have built : thread.Sound files log := sound
      exact { built with
        unsourced := fun early made member => built.unsourced early made (fewer made member) }

theorem hired_sound (files : Pkgbuilds) (log : List CheckoutEntry) (job : BuildJob)
    (fresh : recent log = []) :
    (BuilderThread.build { job := job }).Sound files log := by
  refine ⟨trivial, fun _ made member => ?_, nofun⟩
  rw [fresh] at member
  cases member

end KernelManager
