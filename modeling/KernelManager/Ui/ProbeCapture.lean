import KernelManager.Build.Environment
import KernelManager.Config.Save

/-!
The probes of the application: the output of a command is captured in a file of its own. The
calls of several probes, threads and processes interleave with what the commands write.
-/

namespace KernelManager

open Machine Volume

/-- The two functions that probe count on their own. -/
inductive ProbeFunction
  | execProbe | runProbe
  deriving DecidableEq, Repr

inductive ProbeCommand
  | findmnt | chwd | nvidia | nvidiaOpen
  | sourceArray (options : BuildOptions)
  | pkgext
  | pkgfuncs

namespace ProbeCommand

def function : ProbeCommand → ProbeFunction
  | .findmnt | .chwd | .nvidia | .nvidiaOpen => .execProbe
  | .sourceArray _ | .pkgext | .pkgfuncs => .runProbe

def script : ProbeCommand → String
  | .findmnt => "findmnt -ln -o FSTYPE /"
  | .chwd => "chwd --list-installed -d 2>/dev/null | grep Name | awk '\x7bprint $4\x7d'"
  | .nvidia => "pacman -Qqs '^linux-cachyos.*-nvidia$' 2>/dev/null"
  | .nvidiaOpen => "pacman -Qqs '^linux-cachyos.*-nvidia-open$' 2>/dev/null"
  | .sourceArray options =>
      "#!/usr/bin/bash\n" ++ optionsEnvString options ++
        "source \"$1\"\necho \"$\x7bsource[@]\x7d\""
  | .pkgext => "#!/usr/bin/bash\nsource \"/etc/makepkg.conf\"\necho \"$\x7bPKGEXT\x7d\""
  | .pkgfuncs =>
      "#!/usr/bin/bash\nsource \"$1\"\ndeclare -F;echo \"pkgver: $pkgver-$pkgrel\""

def length (command : ProbeCommand) : Nat := command.script.utf8ByteSize

end ProbeCommand

/-- The next call of a probe; one whose process is gone makes no more. -/
inductive ProbeStage
  | create
  | spawn
  | wait
  | read
  | remove (text : String)
  | returned (text : String)
  | abandoned
  deriving DecidableEq, Repr

structure ProbeRun where
  pid : Nat
  command : ProbeCommand
  sequence : Nat
  stage : ProbeStage := .create
  file : Option Nat := none
  written : List UInt8 := []
  /-- The command, with all that it started, has ended. -/
  ended : Bool := false

def probeName (pid sequence length : Nat) : String :=
  "km-probe-" ++ toString pid ++ "-" ++ toString sequence ++ "-" ++ toString length ++ ".out"

def ProbeRun.name (probe : ProbeRun) : String :=
  probeName probe.pid probe.sequence probe.command.length

def popNewline (text : String) : String :=
  match text.toList.getLast? with
  | some symbol => if symbol = newline then String.ofList text.toList.dropLast else text
  | none => text

structure ProbeState where
  directory : Directory String UInt8
  counters : Nat → ProbeFunction → Nat := fun _ _ => 0
  probes : Nat → Option ProbeRun := fun _ => none

inductive ProbeEvent
  | start (thread pid : Nat) (command : ProbeCommand)
  | call (thread : Nat) (outcome : CallOutcome)
  | write (thread : Nat) (bytes : List UInt8)
  | exit (thread : Nat)
  /-- The deadline passes, or the command cannot be waited for. -/
  | expire (thread : Nat)
  | crash (pid : Nat)
  /-- A call of another program, or of a command on something else than its output. -/
  | foreign (change : Directory.Change String UInt8)

namespace ProbeRun

def move (probe : ProbeRun) (stage : ProbeStage) : ProbeRun := { probe with stage := stage }

/-- One call of `exec_probe` or `run_probe`; `decode` reads a text. -/
def perform (decode : List UInt8 → Option String) (directory : Directory String UInt8)
    (probe : ProbeRun) (outcome : CallOutcome) : Directory String UInt8 × ProbeRun :=
  match probe.stage, outcome with
  | .create, .error => (directory, probe.move (.returned ""))
  | .create, .ok _ =>
      -- The creation is exclusive.
      match directory.entries probe.name with
      | some _ => (directory, probe.move (.returned ""))
      | none =>
          let (created, file) := directory.create probe.name
          (created, { probe with stage := .spawn, file := some file })
  | .spawn, .error => (directory, { probe with stage := .remove "", ended := true })
  | .spawn, .ok _ => (directory, probe.move .wait)
  | .read, .error => (directory, probe.move (.remove ""))
  | .read, .ok _ =>
      (directory, probe.move (.remove (((directory.read probe.name).bind decode).getD "")))
  | .remove text, .error => (directory, probe.move (.returned (popNewline text)))
  | .remove text, .ok _ =>
      (directory.remove probe.name, probe.move (.returned (popNewline text)))
  | .wait, _ | .returned _, _ | .abandoned, _ => (directory, probe)

def writes (probe : ProbeRun) : Bool :=
  match probe.stage with
  | .create | .spawn => false
  | .wait | .read | .remove _ | .returned _ | .abandoned => !probe.ended

/-- With its process a probe is gone; a command that it has started runs on. -/
def crash (probe : ProbeRun) (pid : Nat) : ProbeRun :=
  if probe.pid = pid then
    match probe.stage with
    | .returned _ | .abandoned => probe
    | .create | .spawn => { probe with stage := .abandoned, ended := true }
    | .wait | .read | .remove _ => probe.move .abandoned
  else probe

end ProbeRun

def ProbeState.put (state : ProbeState) (thread : Nat) (probe : ProbeRun) : ProbeState :=
  { state with probes := Function.update state.probes thread (some probe) }

def probeStep (decode : List UInt8 → Option String) (state : ProbeState) :
    ProbeEvent → ProbeState
  | .start thread pid command =>
      match state.probes thread with
      | some _ => state
      | none =>
          let sequence := state.counters pid command.function
          { state with
              counters := Function.update state.counters pid
                (Function.update (state.counters pid) command.function (sequence + 1))
              probes := Function.update state.probes thread
                (some { pid := pid, command := command, sequence := sequence }) }
  | .call thread outcome =>
      match state.probes thread with
      | none => state
      | some probe =>
          let (directory, moved) := probe.perform decode state.directory outcome
          { state with
              directory := directory
              probes := Function.update state.probes thread (some moved) }
  | .write thread bytes =>
      match state.probes thread with
      | none => state
      | some probe =>
          match probe.file, probe.writes with
          | some file, true =>
              { state with
                  directory := state.directory.writeAt 0 file probe.written.length bytes
                  probes := Function.update state.probes thread
                    (some { probe with written := probe.written ++ bytes }) }
          | _, _ => state
  | .exit thread =>
      match state.probes thread with
      | none => state
      | some probe =>
          if probe.stage = .wait then
            state.put thread { probe with stage := .read, ended := true }
          else state
  | .expire thread =>
      match state.probes thread with
      | none => state
      | some probe => if probe.stage = .wait then state.put thread (probe.move .read) else state
  | .crash pid =>
      { state with
          counters := Function.update state.counters pid fun _ => 0
          probes := fun thread => (state.probes thread).map (·.crash pid) }
  | .foreign change => { state with directory := state.directory.change 0 change }

namespace ProbeRun

def named (probe : ProbeRun) : Bool :=
  match probe.stage with
  | .spawn | .wait | .read | .remove _ => true
  | .create | .returned _ | .abandoned => false

def Captured (decode : List UInt8 → Option String) (probe : ProbeRun) (text : String) : Prop :=
  text = "" ∨ ∃ part, part <+: probe.written ∧ decode part = some text ∧
    (probe.ended = true → part = probe.written)

structure Sound (decode : List UInt8 → Option String) (directory : Directory String UInt8)
    (probe : ProbeRun) : Prop where
  owned : ∀ file, probe.file = some file →
    file < directory.fresh ∧ directory.files file = probe.written
  holds : probe.named = true →
    ∃ file, probe.file = some file ∧ directory.entries probe.name = some file
  unmade : probe.stage = .create → probe.file = none ∧ probe.written = []
  removes : ∀ text, probe.stage = .remove text → probe.Captured decode text
  returns : ∀ text, probe.stage = .returned text →
    ∃ whole, probe.Captured decode whole ∧ text = popNewline whole

theorem Sound.spared {decode : List UInt8 → Option String} {own : Nat → Prop}
    {before after : Directory String UInt8} {probe : ProbeRun}
    (sound : probe.Sound decode before) (sparing : before.Sparing own after)
    (apart : ∀ file, probe.file = some file → ¬own file) : probe.Sound decode after where
  owned file made := by
    obtain ⟨below, content⟩ := sound.owned file made
    exact ⟨Nat.lt_of_lt_of_le below sparing.fresh,
      (sparing.files file below (apart file made)).trans content⟩
  holds named := by
    obtain ⟨file, made, leads⟩ := sound.holds named
    exact ⟨file, made, sparing.entries _ file leads (apart file made)⟩
  unmade := sound.unmade
  removes := sound.removes
  returns := sound.returns

theorem writes_running {probe : ProbeRun} (writing : probe.writes = true) :
    probe.stage ≠ .create ∧ probe.ended = false := by
  obtain ⟨pid, command, sequence, stage, file, written, ended⟩ := probe
  cases stage <;> simp_all [writes]

theorem Sound.write {decode : List UInt8 → Option String}
    {directory : Directory String UInt8} {probe : ProbeRun}
    (sound : probe.Sound decode directory) (file : Nat) (bytes : List UInt8)
    (made : probe.file = some file) (writing : probe.writes = true) :
    { probe with written := probe.written ++ bytes }.Sound decode
      (directory.writeAt 0 file probe.written.length bytes) := by
  obtain ⟨below, content⟩ := sound.owned file made
  obtain ⟨created, running⟩ := writes_running writing
  have captured (text : String) (was : probe.Captured decode text) :
      { probe with written := probe.written ++ bytes }.Captured decode text := by
    rcases was with nothing | ⟨part, prefixed, decoded, _⟩
    · exact .inl nothing
    · refine .inr ⟨part, prefixed.trans (List.prefix_append ..), decoded, fun ended => ?_⟩
      simp only [running, Bool.false_eq_true] at ended
  refine ⟨?_, sound.holds, ?_, ?_, ?_⟩
  · intro other same
    obtain rfl := Option.some.inj (made.symm.trans same)
    refine ⟨below, ?_⟩
    rw [directory.writeAt_files, content, Directory.overlay_end]
  · intro creating
    exact absurd creating created
  · intro text removing
    exact captured text (sound.removes text removing)
  · intro text returned
    obtain ⟨whole, was, same⟩ := sound.returns text returned
    exact ⟨whole, captured whole was, same⟩

theorem Sound.read {decode : List UInt8 → Option String}
    {directory : Directory String UInt8} {probe : ProbeRun}
    (sound : probe.Sound decode directory) (ended : Bool) (waiting : probe.stage = .wait) :
    { probe with stage := .read, ended := ended }.Sound decode directory :=
  ⟨sound.owned, fun _ => sound.holds (by simp only [named, waiting]), by simp, by simp, by simp⟩

theorem crash_file (probe : ProbeRun) (pid : Nat) : (probe.crash pid).file = probe.file := by
  unfold crash
  split
  · split <;> rfl
  · rfl

theorem Sound.crash {decode : List UInt8 → Option String}
    {directory : Directory String UInt8} {probe : ProbeRun}
    (sound : probe.Sound decode directory) (pid : Nat) :
    (probe.crash pid).Sound decode directory := by
  unfold ProbeRun.crash
  split
  · split
    · exact sound
    · exact sound
    all_goals
      exact ⟨sound.owned, by simp [named, move], by simp [move], by simp [move], by simp [move]⟩
  · exact sound

structure Steps (decode : List UInt8 → Option String)
    (before : Directory String UInt8) (probe : ProbeRun)
    (result : Directory String UInt8 × ProbeRun) : Prop where
  sparing : before.Sparing (fun file => probe.file = some file) result.1
  sound : result.2.Sound decode result.1
  source : ∀ file, result.2.file = some file → probe.file = some file ∨ before.fresh ≤ file

theorem steps_same (decode : List UInt8 → Option String)
    (directory : Directory String UInt8) (probe after : ProbeRun) (file : after.file = probe.file)
    (sound : after.Sound decode directory) :
    probe.Steps decode directory (directory, after) :=
  ⟨.refl _ directory, sound, fun _ made => .inl (file ▸ made)⟩

theorem perform_sound (decode : List UInt8 → Option String)
    (directory : Directory String UInt8) (probe : ProbeRun) (outcome : CallOutcome)
    (sound : probe.Sound decode directory) :
    probe.Steps decode directory (probe.perform decode directory outcome) := by
  obtain ⟨pid, command, sequence, stage, file, written, ended⟩ := probe
  cases stage with
  | create =>
      obtain ⟨nothing, silent⟩ := sound.unmade rfl
      simp only at nothing silent
      subst nothing silent
      have refused : ProbeRun.Sound decode directory
          ⟨pid, command, sequence, .returned "", none, [], ended⟩ :=
        ⟨by simp, by simp [named], by simp, by simp,
          fun text same => ⟨"", .inl rfl, (ProbeStage.returned.inj same).symm⟩⟩
      cases outcome with
      | error => exact steps_same decode directory _ _ rfl refused
      | ok count =>
          simp only [perform]
          split
          · exact steps_same decode directory _ _ rfl refused
          · rename_i absent
            obtain ⟨sparing, number, later⟩ := directory.create_sparing
              (fun file => (none : Option Nat) = some file) _ absent
            obtain ⟨leads, empty⟩ := directory.create_opens
              (ProbeRun.name ⟨pid, command, sequence, .create, none, [], ended⟩)
            refine ⟨sparing, ⟨?_, fun _ => ⟨_, rfl, leads⟩, by simp, by simp, by simp⟩, ?_⟩
            · rintro file made
              obtain rfl := Option.some.inj made
              refine ⟨?_, empty⟩
              dsimp only
              omega
            · rintro file made
              obtain rfl := Option.some.inj made
              exact .inr (Nat.le_of_eq number.symm)
  | spawn =>
      cases outcome with
      | error =>
          refine steps_same decode directory _ _ rfl ?_
          exact ⟨sound.owned, fun _ => sound.holds rfl, by simp,
            fun text same => .inl (ProbeStage.remove.inj same).symm, by simp⟩
      | ok count =>
          refine steps_same decode directory _ _ rfl ?_
          exact ⟨sound.owned, fun _ => sound.holds rfl, by simp [move], by simp [move],
            by simp [move]⟩
  | wait => exact steps_same decode directory _ _ rfl sound
  | read =>
      cases outcome with
      | error =>
          refine steps_same decode directory _ _ rfl ?_
          exact ⟨sound.owned, fun _ => sound.holds rfl, by simp [move],
            fun text same => .inl (ProbeStage.remove.inj same).symm, by simp [move]⟩
      | ok count =>
          refine steps_same decode directory _ _ rfl ?_
          refine ⟨sound.owned, fun _ => sound.holds rfl, by simp [move], ?_, by simp [move]⟩
          rintro text same
          obtain rfl := ProbeStage.remove.inj same
          obtain ⟨own, made, leads⟩ := sound.holds rfl
          have content := (sound.owned own made).2
          simp only [Directory.read, leads, Option.map_some, Option.bind_some, content]
          cases decoded : decode written with
          | none => exact .inl rfl
          | some text => exact .inr ⟨written, List.prefix_refl _, decoded, fun _ => rfl⟩
  | remove text =>
      have ends : ∀ directory, (∀ own, file = some own →
          own < directory.fresh ∧ directory.files own = written) →
          ProbeRun.Sound decode directory
            ⟨pid, command, sequence, .returned (popNewline text), file, written, ended⟩ := by
        intro directory owned
        refine ⟨owned, by simp [named], by simp, by simp, ?_⟩
        rintro final same
        obtain rfl := ProbeStage.returned.inj same
        exact ⟨text, sound.removes text rfl, rfl⟩
      cases outcome with
      | error => exact steps_same decode directory _ _ rfl (ends directory sound.owned)
      | ok count =>
          obtain ⟨own, made, leads⟩ := sound.holds rfl
          simp only at made
          subst made
          refine ⟨(directory.remove_sparing _ own leads).mono ?_, ends _ sound.owned,
            fun _ made => .inl made⟩
          rintro other rfl
          rfl
  | returned text => exact steps_same decode directory _ _ rfl sound
  | abandoned => exact steps_same decode directory _ _ rfl sound

end ProbeRun

def ProbeState.Captures (state : ProbeState) (file : Nat) : Prop :=
  ∃ thread probe, state.probes thread = some probe ∧ probe.file = some file

/-- Others leave the files alone that the probes have created. They may take a free name, also one
of a probe, and change and remove whatever else is there. -/
def ProbeEvent.Spares (state : ProbeState) : ProbeEvent → Prop
  | .foreign change => ∀ name ∈ change.names, ∀ file, state.directory.entries name = some file →
      ¬state.Captures file
  | .start .. | .call .. | .write .. | .exit _ | .expire _ | .crash _ => True

structure ProbeInvariant (decode : List UInt8 → Option String) (state : ProbeState) : Prop where
  sound : ∀ thread probe, state.probes thread = some probe → probe.Sound decode state.directory
  apart : ∀ first second one two file, state.probes first = some one →
    state.probes second = some two → one.file = some file → two.file = some file → first = second

theorem ProbeInvariant.put {decode : List UInt8 → Option String} {state : ProbeState}
    (invariant : ProbeInvariant decode state) (thread : Nat) (own : Option Nat)
    (present : ∀ file, own = some file → ∃ probe, state.probes thread = some probe ∧
      probe.file = some file)
    (directory : Directory String UInt8) (probe : ProbeRun)
    (sparing : state.directory.Sparing (fun file => own = some file) directory)
    (sound : probe.Sound decode directory)
    (source : ∀ file, probe.file = some file → own = some file ∨ state.directory.fresh ≤ file)
    (counters : Nat → ProbeFunction → Nat) :
    ProbeInvariant decode
      ⟨directory, counters, Function.update state.probes thread (some probe)⟩ := by
  have different (other : Nat) (second : ProbeRun) (elsewhere : other ≠ thread)
      (found : state.probes other = some second) (file : Nat) (made : second.file = some file) :
      own ≠ some file := by
    intro same
    obtain ⟨mine, mineFound, mineMade⟩ := present file same
    exact elsewhere (invariant.apart other thread second mine file found mineFound made mineMade)
  have unshared (other : Nat) (second : ProbeRun) (elsewhere : other ≠ thread)
      (found : state.probes other = some second) (file : Nat) (made : second.file = some file) :
      probe.file ≠ some file := by
    intro same
    rcases source file same with mine | new
    · exact different other second elsewhere found file made mine
    · have below := ((invariant.sound other second found).owned file made).1
      omega
  refine ⟨?_, ?_⟩
  · intro other second found
    obtain ⟨rfl, rfl⟩ | ⟨here, found⟩ := process_set found
    · exact sound
    · exact (invariant.sound other second found).spared sparing
        (different other second here found)
  · intro first second one two file oneFound twoFound oneMade twoMade
    obtain ⟨firstHere, rfl⟩ | ⟨firstHere, oneWas⟩ := process_set oneFound <;>
      obtain ⟨secondHere, rfl⟩ | ⟨secondHere, twoWas⟩ := process_set twoFound
    · exact firstHere.trans secondHere.symm
    · exact absurd oneMade (unshared second two secondHere twoWas file twoMade)
    · exact absurd twoMade (unshared first one firstHere oneWas file oneMade)
    · exact invariant.apart first second one two file oneWas twoWas oneMade twoMade

theorem probeStep_kept (decode : List UInt8 → Option String) (state : ProbeState)
    (event : ProbeEvent) (invariant : ProbeInvariant decode state) (spares : event.Spares state) :
    ProbeInvariant decode (probeStep decode state event) := by
  have same (thread : Nat) (probe after : ProbeRun) (found : state.probes thread = some probe)
      (file : after.file = probe.file)
      (sound : after.Sound decode state.directory) :
      ProbeInvariant decode (state.put thread after) :=
    invariant.put thread probe.file (fun _ made => ⟨probe, found, made⟩) state.directory after
      (.refl _ _) sound (fun _ made => .inl (file ▸ made)) state.counters
  cases event with
  | start thread pid command =>
      simp only [probeStep]
      split
      · exact invariant
      · refine invariant.put thread none (by simp) _ _ (.refl _ _) ?_ (by simp) _
        exact ⟨by simp, by simp [ProbeRun.named], by simp, by simp, by simp⟩
  | call thread outcome =>
      simp only [probeStep]
      split
      · exact invariant
      · rename_i probe found
        obtain ⟨sparing, sound, source⟩ := ProbeRun.perform_sound decode state.directory probe
          outcome (invariant.sound thread probe found)
        exact invariant.put thread probe.file (fun _ made => ⟨probe, found, made⟩) _ _ sparing
          sound source _
  | write thread bytes =>
      simp only [probeStep]
      split
      · exact invariant
      · rename_i probe found
        split
        · rename_i file made writing
          have sound := invariant.sound thread probe found
          refine invariant.put thread probe.file (fun _ made => ⟨probe, found, made⟩) _ _
            ((state.directory.writeAt_sparing 0 file _ bytes).mono ?_)
            (sound.write file bytes made writing) (fun _ made => .inl made) _
          rintro other rfl
          exact made
        · exact invariant
  | exit thread =>
      simp only [probeStep]
      split
      · exact invariant
      · rename_i probe found
        split
        · rename_i waiting
          exact same thread probe _ found rfl
            ((invariant.sound thread probe found).read true waiting)
        · exact invariant
  | expire thread =>
      simp only [probeStep]
      split
      · exact invariant
      · rename_i probe found
        split
        · rename_i waiting
          exact same thread probe _ found rfl
            ((invariant.sound thread probe found).read probe.ended waiting)
        · exact invariant
  | crash pid =>
      refine ⟨?_, ?_⟩
      · intro thread probe found
        obtain ⟨was, wasFound, rfl⟩ := Option.map_eq_some_iff.mp found
        exact (invariant.sound thread was wasFound).crash pid
      · intro first second one two file oneFound twoFound oneMade twoMade
        obtain ⟨wasOne, wasOneFound, rfl⟩ := Option.map_eq_some_iff.mp oneFound
        obtain ⟨wasTwo, wasTwoFound, rfl⟩ := Option.map_eq_some_iff.mp twoFound
        rw [ProbeRun.crash_file] at oneMade twoMade
        exact invariant.apart first second wasOne wasTwo file wasOneFound wasTwoFound oneMade
          twoMade
  | foreign change =>
      refine ⟨?_, invariant.apart⟩
      intro thread probe found
      refine (invariant.sound thread probe found).spared (state.directory.change_sparing 0 change)
        ?_
      rintro file made ⟨name, named, leads⟩
      exact spares name named file leads ⟨thread, probe, found, made⟩

theorem probeStep_sparing (decode : List UInt8 → Option String) (state : ProbeState)
    (event : ProbeEvent) (invariant : ProbeInvariant decode state)
    (own : ∀ change, event ≠ .foreign change) :
    state.directory.Sparing state.Captures (probeStep decode state event).directory := by
  cases event with
  | start thread pid command =>
      simp only [probeStep]
      split <;> exact .refl _ _
  | call thread outcome =>
      simp only [probeStep]
      split
      · exact .refl _ _
      · rename_i probe found
        have steps := ProbeRun.perform_sound decode state.directory probe outcome
          (invariant.sound thread probe found)
        exact steps.sparing.mono fun file made => ⟨thread, probe, found, made⟩
  | write thread bytes =>
      simp only [probeStep]
      split
      · exact .refl _ _
      · rename_i probe found
        split
        · rename_i file made _
          refine (state.directory.writeAt_sparing 0 file _ bytes).mono ?_
          rintro other rfl
          exact ⟨thread, probe, found, made⟩
        · exact .refl _ _
  | exit thread | expire thread =>
      simp only [probeStep]
      split
      · exact .refl _ _
      · split <;> exact .refl _ _
  | crash pid => exact .refl _ _
  | foreign change => exact absurd rfl (own change)

/-- Whatever the calls of several probes, the commands they have started and dying processes do,
in any order, and whatever other programs do to other files: what a probe has returned is nothing,
or text that its own command has written, and no step of a probe or a command changes or removes a
file that no probe has created. -/
theorem probes_isolated (decode : List UInt8 → Option String) (before : Directory String UInt8)
    (events : List ProbeEvent)
    (spared : Admissible (probeStep decode) (fun state event => event.Spares state)
      { directory := before } events) :
    let state := run (probeStep decode) { directory := before } events
    (∀ thread probe text, state.probes thread = some probe → probe.stage = .returned text →
        ∃ whole, probe.Captured decode whole ∧ text = popNewline whole) ∧
      ∀ event, (∀ change, event ≠ .foreign change) →
        ∀ name file, state.directory.entries name = some file → ¬state.Captures file →
          let after := (probeStep decode state event).directory
          after.entries name = some file ∧ after.files file = state.directory.files file := by
  intro state
  have invariant : ProbeInvariant decode state := by
    refine run_invariant (ProbeInvariant decode)
      (fun state event kept permitted => probeStep_kept decode state event kept permitted) ?_ spared
    exact ⟨by simp, by simp⟩
  refine ⟨?_, ?_⟩
  · intro thread probe text found returned
    exact (invariant.sound thread probe found).returns text returned
  · intro event own name file leads uncaptured
    have sparing := probeStep_sparing decode state event invariant own
    exact ⟨sparing.entries name file leads uncaptured,
      sparing.files file (state.directory.bounded name file leads) uncaptured⟩

def decodeAscii (bytes : List UInt8) : Option String :=
  some (String.ofList (bytes.map fun byte => Char.ofNat byte.toNat))

def takenName : List ProbeEvent :=
  [.foreign (.create (probeName 7 0 23)), .start 0 7 .findmnt, .call 0 (.ok 0)]

theorem probes_isolated_taken :
    let state := run (probeStep decodeAscii) { directory := .empty } takenName
    (state.probes 0).map (·.stage) = some (.returned "") ∧
      (probeStep decodeAscii state (.call 0 (.ok 0))).directory.entries (probeName 7 0 23) =
        some 0 := by
  intro state
  have fileless : (state.probes 0).bind (·.file) = none := by decide +kernel
  have uncaptured : ¬state.Captures 0 := by
    rintro ⟨thread, probe, found, made⟩
    match thread with
    | 0 =>
        rw [found] at fileless
        cases made.symm.trans fileless
    | thread + 1 => cases (rfl : state.probes (thread + 1) = none).symm.trans found
  have spared : Admissible (probeStep decodeAscii) (fun state event => event.Spares state)
      { directory := .empty } takenName := by
    refine ⟨?_, trivial, trivial, trivial⟩
    intro name _ file leads
    cases leads
  have taken : state.directory.entries (probeName 7 0 23) = some 0 := by decide +kernel
  refine ⟨by decide +kernel, ?_⟩
  exact ((probes_isolated decodeAscii .empty takenName spared).2 (.call 0 (.ok 0))
    (fun _ same => nomatch same) (probeName 7 0 23) 0 taken uncaptured).1

def PidsUnused (events : List ProbeEvent) : Prop :=
  events.Pairwise fun earlier later =>
    ∀ pid thread command, earlier = .crash pid → later ≠ .start thread pid command

def IsProbeName (name : String) : Prop :=
  ∃ pid sequence length, name = probeName pid sequence length

theorem dash_not_mem_digits (number : Nat) : '-' ∉ Nat.toDigits 10 number := by
  intro member
  have digit := Nat.isDigit_of_mem_toDigits (by decide) (by decide) member
  revert digit
  decide

theorem probeName_injective {pid sequence length pid' sequence' length' : Nat}
    (same : probeName pid sequence length = probeName pid' sequence' length') :
    pid = pid' ∧ sequence = sequence' ∧ length = length' := by
  have cut (pid sequence length : Nat) : (probeName pid sequence length).toList =
      ((("km-probe".toList ++ '-' :: Nat.toDigits 10 pid) ++ '-' :: Nat.toDigits 10 sequence) ++
        '-' :: Nat.toDigits 10 length) ++ '.' :: "out".toList := by
    delta probeName
    simp [Nat.toString_eq_repr, Nat.toList_repr]
  have same := congrArg String.toList same
  rw [cut, cut] at same
  obtain ⟨same, _⟩ := split_last_eq (by decide) (by decide) same
  obtain ⟨same, lengths⟩ :=
    split_last_eq (dash_not_mem_digits _) (dash_not_mem_digits _) same
  obtain ⟨same, sequences⟩ :=
    split_last_eq (dash_not_mem_digits _) (dash_not_mem_digits _) same
  obtain ⟨_, pids⟩ := split_last_eq (dash_not_mem_digits _) (dash_not_mem_digits _) same
  exact ⟨toDigits_injective pids, toDigits_injective sequences, toDigits_injective lengths⟩

theorem envString_size (pairs : List (String × String)) (text : String) :
    text.utf8ByteSize + 2 * pairs.length ≤
      (pairs.foldl (fun text pair => text ++ (pair.1 ++ "=" ++ pair.2 ++ "\n"))
        text).utf8ByteSize := by
  induction pairs generalizing text with
  | nil => simp
  | cons pair pairs ih =>
      have rest := ih (text ++ (pair.1 ++ "=" ++ pair.2 ++ "\n"))
      have equals : "=".utf8ByteSize = 1 := rfl
      have ended : "\n".utf8ByteSize = 1 := rfl
      simp only [String.utf8ByteSize_append, equals, ended, List.foldl_cons,
        List.length_cons] at rest ⊢
      omega

theorem sourceArray_length (options : BuildOptions) :
    67 < (ProbeCommand.sourceArray options).length := by
  have pairs : 16 ≤ options.envPairs.length := by
    simp only [BuildOptions.envPairs, BuildOptions.checked, checkboxBindings, List.length_append]
    simp
    omega
  have text := envString_size options.envPairs ""
  have head : "#!/usr/bin/bash\n".utf8ByteSize = 16 := rfl
  have tail : "source \"$1\"\necho \"$\x7bsource[@]\x7d\"".utf8ByteSize = 31 := rfl
  have length : (ProbeCommand.sourceArray options).length =
      ("#!/usr/bin/bash\n" ++ options.envString ++
        "source \"$1\"\necho \"$\x7bsource[@]\x7d\"").utf8ByteSize := rfl
  rw [length, String.utf8ByteSize_append, String.utf8ByteSize_append, head, tail]
  unfold BuildOptions.envString
  omega

/-- The two functions count apart, but no script of the one is as long as one of the other. -/
theorem length_function {command other : ProbeCommand} (same : command.length = other.length) :
    command.function = other.function := by
  have findmnt : ProbeCommand.findmnt.length = 23 := rfl
  have chwd : ProbeCommand.chwd.length = 67 := rfl
  have nvidia : ProbeCommand.nvidia.length = 50 := rfl
  have nvidiaOpen : ProbeCommand.nvidiaOpen.length = 55 := rfl
  have pkgext : ProbeCommand.pkgext.length = 59 := rfl
  have pkgfuncs : ProbeCommand.pkgfuncs.length = 69 := rfl
  cases command with
  | sourceArray options =>
      have long := sourceArray_length options
      cases other <;> first | rfl | omega
  | pkgext | pkgfuncs =>
      cases other <;> first | rfl | omega
  | findmnt | chwd | nvidia | nvidiaOpen =>
      cases other with
      | sourceArray options =>
          have long := sourceArray_length options
          omega
      | findmnt | chwd | nvidia | nvidiaOpen => rfl
      | pkgext | pkgfuncs => omega

/-- A process has died, or a call has failed: a capture file can be left behind. -/
def Disturbed (events : List ProbeEvent) : Prop :=
  (∃ pid, .crash pid ∈ events) ∨ ∃ thread, .call thread .error ∈ events

theorem Disturbed.more {past : List ProbeEvent} (disturbed : Disturbed past)
    (event : ProbeEvent) : Disturbed (past ++ [event]) :=
  disturbed.imp (fun ⟨pid, member⟩ => ⟨pid, List.mem_append_left _ member⟩)
    fun ⟨thread, member⟩ => ⟨thread, List.mem_append_left _ member⟩

structure ProbeRun.Continues (probe after : ProbeRun) : Prop where
  pid : after.pid = probe.pid
  command : after.command = probe.command
  sequence : after.sequence = probe.sequence
  made : probe.stage ≠ .create → after.stage ≠ .create

theorem ProbeRun.perform_continues (decode : List UInt8 → Option String)
    (directory : Directory String UInt8) (probe : ProbeRun) (outcome : CallOutcome) :
    probe.Continues (probe.perform decode directory outcome).2 := by
  obtain ⟨pid, command, sequence, stage, file, written, ended⟩ := probe
  cases stage with
  | create =>
      cases outcome with
      | error => exact ⟨rfl, rfl, rfl, fun _ => nofun⟩
      | ok count =>
          simp only [perform]
          split <;> exact ⟨rfl, rfl, rfl, fun _ => nofun⟩
  | spawn | read | remove => cases outcome <;> exact ⟨rfl, rfl, rfl, fun _ => nofun⟩
  | wait | returned | abandoned => exact ⟨rfl, rfl, rfl, id⟩

theorem ProbeRun.crash_continues (probe : ProbeRun) (pid : Nat) :
    probe.Continues (probe.crash pid) := by
  unfold crash
  split
  · split
    · exact ⟨rfl, rfl, rfl, id⟩
    · exact ⟨rfl, rfl, rfl, id⟩
    all_goals exact ⟨rfl, rfl, rfl, fun _ => nofun⟩
  · exact ⟨rfl, rfl, rfl, id⟩

theorem ProbeRun.Continues.name {probe after : ProbeRun} (continues : probe.Continues after) :
    after.name = probe.name := by
  simp only [ProbeRun.name, continues.pid, continues.command, continues.sequence]

/-- The numbers of the probes are counted, no two are alike, and what is in the directory under
a name of a probe has been created by the one that has this name. -/
structure ProbeNames (past : List ProbeEvent) (state : ProbeState) : Prop where
  counted : ∀ thread probe, state.probes thread = some probe → .crash probe.pid ∉ past →
    probe.sequence < state.counters probe.pid probe.command.function
  distinct : ∀ first second one two, state.probes first = some one →
    state.probes second = some two → one.name = two.name → first = second
  created : ∀ name file, IsProbeName name → state.directory.entries name = some file →
    ∃ thread probe, state.probes thread = some probe ∧ probe.name = name ∧
      probe.stage ≠ .create ∧ (probe.named = true ∨ Disturbed past)

namespace ProbeNames

variable {past : List ProbeEvent} {state : ProbeState}

theorem available (names : ProbeNames past state) (thread : Nat) (probe : ProbeRun)
    (found : state.probes thread = some probe) (creating : probe.stage = .create) :
    state.directory.entries probe.name = none := by
  cases leads : state.directory.entries probe.name with
  | none => rfl
  | some file =>
      obtain ⟨other, second, secondFound, same, made, _⟩ :=
        names.created probe.name file ⟨_, _, _, rfl⟩ leads
      obtain rfl := names.distinct other thread second probe secondFound found same
      obtain rfl := Option.some.inj (found.symm.trans secondFound)
      exact absurd creating made

theorem more (names : ProbeNames past state) (event : ProbeEvent) :
    ProbeNames (past ++ [event]) state where
  counted thread probe found alive :=
    names.counted thread probe found (mt (List.mem_append_left _) alive)
  distinct := names.distinct
  created name file isName leads := by
    obtain ⟨thread, probe, found, same, made, still⟩ := names.created name file isName leads
    exact ⟨thread, probe, found, same, made, still.imp_right (·.more event)⟩

theorem put (names : ProbeNames past state) (event : ProbeEvent) (thread : Nat)
    (probe after : ProbeRun) (found : state.probes thread = some probe)
    (continues : probe.Continues after) (directory : Directory String UInt8)
    (others : ∀ name, name ≠ after.name → directory.entries name = state.directory.entries name)
    (own : ∀ file, directory.entries after.name = some file →
      after.stage ≠ .create ∧ (after.named = true ∨ Disturbed (past ++ [event]))) :
    ProbeNames (past ++ [event])
      ⟨directory, state.counters, Function.update state.probes thread (some after)⟩ := by
  have came (other : Nat) (second : ProbeRun)
      (here : Function.update state.probes thread (some after) other = some second) :
      ∃ was, state.probes other = some was ∧ was.Continues second := by
    obtain ⟨rfl, rfl⟩ | ⟨_, elsewhere⟩ := process_set here
    · exact ⟨probe, found, continues⟩
    · exact ⟨second, elsewhere, rfl, rfl, rfl, id⟩
  refine ⟨?_, ?_, ?_⟩
  · intro other second here alive
    obtain ⟨was, wasFound, goes⟩ := came other second here
    rw [goes.pid] at alive
    have below := names.counted other was wasFound (mt (List.mem_append_left _) alive)
    rwa [← goes.pid, ← goes.command, ← goes.sequence] at below
  · intro first second one two oneHere twoHere same
    obtain ⟨wasOne, oneFound, oneGoes⟩ := came first one oneHere
    obtain ⟨wasTwo, twoFound, twoGoes⟩ := came second two twoHere
    rw [oneGoes.name, twoGoes.name] at same
    exact names.distinct first second wasOne wasTwo oneFound twoFound same
  · intro name file isName leads
    by_cases mine : name = after.name
    · subst mine
      obtain ⟨made, still⟩ := own file leads
      exact ⟨thread, after, Function.update_self .., rfl, made, still⟩
    · obtain ⟨other, second, secondFound, same, made, still⟩ :=
        names.created name file isName ((others name mine).symm.trans leads)
      have elsewhere : other ≠ thread := by
        rintro rfl
        obtain rfl := Option.some.inj (found.symm.trans secondFound)
        exact mine (same.symm.trans continues.name.symm)
      exact ⟨other, second, (Function.update_of_ne elsewhere ..).trans secondFound, same, made,
        still.imp_right (·.more event)⟩

theorem move (names : ProbeNames past state) (event : ProbeEvent) (thread : Nat)
    (probe after : ProbeRun) (found : state.probes thread = some probe)
    (continues : probe.Continues after)
    (still : probe.named = true → after.named = true ∨ Disturbed (past ++ [event]))
    (directory : Directory String UInt8)
    (entries : directory.entries = state.directory.entries) :
    ProbeNames (past ++ [event])
      ⟨directory, state.counters, Function.update state.probes thread (some after)⟩ := by
  refine names.put event thread probe after found continues directory
    (fun name _ => congrFun entries name) ?_
  intro file leads
  rw [entries, continues.name] at leads
  obtain ⟨other, second, secondFound, same, made, was⟩ :=
    names.created probe.name file ⟨_, _, _, rfl⟩ leads
  obtain rfl := names.distinct other thread second probe secondFound found same
  obtain rfl := Option.some.inj (found.symm.trans secondFound)
  exact ⟨continues.made made, was.elim still fun disturbed => .inr (disturbed.more event)⟩

theorem call (names : ProbeNames past state) (decode : List UInt8 → Option String)
    (thread : Nat) (probe : ProbeRun) (outcome : CallOutcome)
    (found : state.probes thread = some probe) :
    ProbeNames (past ++ [.call thread outcome])
      ⟨(probe.perform decode state.directory outcome).1, state.counters,
        Function.update state.probes thread
          (some (probe.perform decode state.directory outcome).2)⟩ := by
  have continues := probe.perform_continues decode state.directory outcome
  have failed : Disturbed (past ++ [.call thread .error]) := .inr ⟨thread, by simp⟩
  obtain ⟨pid, command, sequence, stage, file, written, ended⟩ := probe
  cases stage with
  | create =>
      have absent := names.available thread _ found rfl
      cases outcome with
      | error => exact names.move _ thread _ _ found continues (fun _ => .inr failed) _ rfl
      | ok count =>
          simp only [ProbeRun.perform, absent] at continues ⊢
          refine names.put _ thread _ _ found continues _ ?_ fun _ _ => ⟨nofun, .inl rfl⟩
          intro name different
          exact (state.directory.create_within _ absent).entries name different
  | spawn => cases outcome <;> exact names.move _ thread _ _ found continues .inl _ rfl
  | read => cases outcome <;> exact names.move _ thread _ _ found continues .inl _ rfl
  | remove text =>
      cases outcome with
      | error => exact names.move _ thread _ _ found continues (fun _ => .inr failed) _ rfl
      | ok count =>
          refine names.put _ thread _ _ found continues _ ?_ ?_
          · intro name different
            exact (state.directory.remove_within _).entries name different
          · intro left leads
            exact absurd leads (by simp [ProbeRun.perform, Directory.remove, ProbeRun.name,
              ProbeRun.move])
  | wait | returned | abandoned => exact names.move _ thread _ _ found continues .inl _ rfl

theorem start (names : ProbeNames past state) (thread pid : Nat) (command : ProbeCommand)
    (vacant : state.probes thread = none) (alive : .crash pid ∉ past) :
    ProbeNames (past ++ [.start thread pid command])
      ⟨state.directory,
        Function.update state.counters pid (Function.update (state.counters pid) command.function
          (state.counters pid command.function + 1)),
        Function.update state.probes thread (some
          { pid := pid, command := command,
            sequence := state.counters pid command.function })⟩ := by
  have grown (process : Nat) (function : ProbeFunction) :
      state.counters process function ≤
        Function.update state.counters pid (Function.update (state.counters pid) command.function
          (state.counters pid command.function + 1)) process function := by
    by_cases here : process = pid
    · subst here
      by_cases counted : function = command.function
      · subst counted
        simp
      · simp [counted]
    · simp [here]
  have unlike (other : Nat) (probe : ProbeRun) (found : state.probes other = some probe) :
      probe.name ≠ probeName pid (state.counters pid command.function) command.length := by
    intro same
    obtain ⟨samePid, sameSequence, sameLength⟩ := probeName_injective same
    have below := names.counted other probe found (samePid ▸ alive)
    rw [samePid, length_function sameLength, sameSequence] at below
    omega
  refine ⟨?_, ?_, ?_⟩
  · intro other probe found living
    obtain ⟨rfl, rfl⟩ | ⟨_, found⟩ := process_set found
    · simp
    · have below := names.counted other probe found (mt (List.mem_append_left _) living)
      exact Nat.lt_of_lt_of_le below (grown probe.pid probe.command.function)
  · intro first second one two oneFound twoFound same
    obtain ⟨firstHere, rfl⟩ | ⟨_, oneWas⟩ := process_set oneFound <;>
      obtain ⟨secondHere, rfl⟩ | ⟨_, twoWas⟩ := process_set twoFound
    · exact firstHere.trans secondHere.symm
    · exact absurd same.symm (unlike second two twoWas)
    · exact absurd same (unlike first one oneWas)
    · exact names.distinct first second one two oneWas twoWas same
  · intro name file isName leads
    obtain ⟨other, probe, found, same, made, still⟩ := names.created name file isName leads
    have elsewhere : other ≠ thread := by
      rintro rfl
      exact absurd (vacant.symm.trans found) (by simp)
    exact ⟨other, probe, (Function.update_of_ne elsewhere ..).trans found, same, made,
      still.imp_right (·.more _)⟩

theorem crash (names : ProbeNames past state) (pid : Nat) :
    ProbeNames (past ++ [.crash pid])
      ⟨state.directory, Function.update state.counters pid fun _ => 0,
        fun thread => (state.probes thread).map (·.crash pid)⟩ := by
  refine ⟨?_, ?_, ?_⟩
  · intro thread probe found alive
    obtain ⟨was, wasFound, rfl⟩ := Option.map_eq_some_iff.mp found
    have continues := was.crash_continues pid
    have other : was.pid ≠ pid := by
      rintro rfl
      rw [continues.pid] at alive
      exact alive (by simp)
    rw [continues.pid] at alive
    rw [continues.pid, continues.command, continues.sequence]
    dsimp only
    rw [Function.update_of_ne other]
    exact names.counted thread was wasFound (mt (List.mem_append_left _) alive)
  · intro first second one two oneFound twoFound same
    obtain ⟨wasOne, wasOneFound, rfl⟩ := Option.map_eq_some_iff.mp oneFound
    obtain ⟨wasTwo, wasTwoFound, rfl⟩ := Option.map_eq_some_iff.mp twoFound
    rw [(wasOne.crash_continues pid).name, (wasTwo.crash_continues pid).name] at same
    exact names.distinct first second wasOne wasTwo wasOneFound wasTwoFound same
  · intro name file isName leads
    obtain ⟨thread, probe, found, same, made, _⟩ := names.created name file isName leads
    have continues := probe.crash_continues pid
    exact ⟨thread, probe.crash pid, by simp only [found, Option.map_some],
      continues.name.trans same, continues.made made, .inr (.inl ⟨pid, by simp⟩)⟩

end ProbeNames

def ProbeEvent.Permitted (past : List ProbeEvent) : ProbeEvent → Prop
  | .start _ pid _ => .crash pid ∉ past
  | .foreign change => ∀ name ∈ change.names, ¬IsProbeName name
  | .call .. | .write .. | .exit _ | .expire _ | .crash _ => True

theorem probeStep_names (decode : List UInt8 → Option String) (past : List ProbeEvent)
    (state : ProbeState) (event : ProbeEvent) (names : ProbeNames past state)
    (permitted : event.Permitted past) :
    ProbeNames (past ++ [event]) (probeStep decode state event) := by
  cases event with
  | start thread pid command =>
      simp only [probeStep]
      split
      · exact names.more _
      · rename_i vacant
        exact names.start thread pid command vacant permitted
  | call thread outcome =>
      simp only [probeStep]
      split
      · exact names.more _
      · rename_i probe found
        exact names.call decode thread probe outcome found
  | write thread bytes =>
      simp only [probeStep]
      split
      · exact names.more _
      · rename_i probe found
        split
        · refine names.move _ thread probe _ found ?_ ?_ _ rfl
          · exact ⟨rfl, rfl, rfl, id⟩
          · exact .inl
        · exact names.more _
  | exit thread =>
      simp only [probeStep]
      split
      · exact names.more _
      · rename_i probe found
        split
        · refine names.move _ thread probe _ found ?_ ?_ _ rfl
          · exact ⟨rfl, rfl, rfl, fun _ => nofun⟩
          · exact fun _ => .inl rfl
        · exact names.more _
  | expire thread =>
      simp only [probeStep]
      split
      · exact names.more _
      · rename_i probe found
        split
        · refine names.move _ thread probe _ found ?_ ?_ _ rfl
          · exact ⟨rfl, rfl, rfl, fun _ => nofun⟩
          · exact fun _ => .inl rfl
        · exact names.more _
  | crash pid => exact names.crash pid
  | foreign change =>
      have stays := names.more (.foreign change)
      refine ⟨stays.counted, stays.distinct, ?_⟩
      intro other file isName leads
      refine stays.created other file isName ?_
      have different : other ∉ change.names := fun named => permitted other named isName
      exact (state.directory.change_entries 0 change other different).symm.trans leads

/-- Where no pid of a dead process is used again and no other program takes a name of the kind:
a probe that comes to create its file finds the name free, and when every probe has returned
without a failed call or a dead process, none of the files is left. -/
theorem probes_available (decode : List UInt8 → Option String) (before : Directory String UInt8)
    (events : List ProbeEvent) (clear : ∀ name, IsProbeName name → before.entries name = none)
    (unused : PidsUnused events)
    (alone : ∀ change, .foreign change ∈ events → ∀ name ∈ change.names, ¬IsProbeName name) :
    let after := run (probeStep decode) { directory := before } events
    (∀ thread probe, after.probes thread = some probe → probe.stage = .create →
        after.directory.entries probe.name = none) ∧
      (¬Disturbed events →
        (∀ thread probe, after.probes thread = some probe →
          ∃ text, probe.stage = .returned text) →
        ∀ name, IsProbeName name → after.directory.entries name = none) := by
  intro after
  have names : ProbeNames ([] ++ events) after := by
    refine run_recorded ProbeNames (fun past state event kept permitted =>
      probeStep_names decode past state event kept permitted) ?_ events ?_
    · refine ⟨by simp, by simp, ?_⟩
      intro name file isName leads
      exact absurd ((clear name isName).symm.trans leads) (by simp)
    · rintro past event rest rfl
      cases event with
      | start thread pid command =>
          intro crashed
          exact (List.pairwise_append.mp unused).2.2 _ crashed _ List.mem_cons_self pid thread
            command rfl rfl
      | foreign change => exact alone change (by simp)
      | call | write | exit | expire | crash => trivial
  refine ⟨names.available, ?_⟩
  intro calm returned name isName
  cases leads : after.directory.entries name with
  | none => rfl
  | some file =>
      obtain ⟨thread, probe, found, _, _, still⟩ := names.created name file isName leads
      obtain ⟨text, ended⟩ := returned thread probe found
      rcases still with underway | disturbed
      · simp only [ProbeRun.named, ended, Bool.false_eq_true] at underway
      · exact absurd disturbed calm

def twoProbes : List ProbeEvent :=
  [.start 0 7 .findmnt, .call 0 (.ok 0), .start 1 7 .nvidia, .call 0 (.ok 0), .call 1 (.ok 0),
    .write 0 [98, 116, 114], .call 1 (.ok 0), .write 1 [108, 116, 111, 10], .write 0 [102, 115, 10],
    .exit 1, .exit 0, .call 0 (.ok 0), .call 0 (.ok 0), .call 1 (.ok 0), .call 1 (.ok 0)]

theorem probes_available_two :
    let after := run (probeStep decodeAscii) { directory := .empty } twoProbes
    (after.probes 0).map (·.stage) = some (.returned "btrfs") ∧
      (after.probes 1).map (·.stage) = some (.returned "lto") ∧
        ∀ name, IsProbeName name → after.directory.entries name = none := by
  intro after
  have first : (after.probes 0).map (·.stage) = some (.returned "btrfs") := by decide +kernel
  have second : (after.probes 1).map (·.stage) = some (.returned "lto") := by decide +kernel
  refine ⟨first, second, ?_⟩
  have lived (pid : Nat) : .crash pid ∉ twoProbes := by simp [twoProbes]
  have unused : PidsUnused twoProbes :=
    List.pairwise_of_forall_mem_list fun _ member _ _ pid _ _ crashed =>
      absurd (crashed ▸ member) (lived pid)
  refine (probes_available decodeAscii .empty twoProbes (fun _ _ => rfl) unused
    (by simp [twoProbes])).2 (by simp [Disturbed, twoProbes]) ?_
  intro thread probe found
  match thread with
  | 0 => exact ⟨"btrfs", by simpa [after, found] using first⟩
  | 1 => exact ⟨"lto", by simpa [after, found] using second⟩
  | thread + 2 =>
      have other : after.probes (thread + 2) = none := rfl
      exact absurd (other.symm.trans found) (by simp)

end KernelManager
