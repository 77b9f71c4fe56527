import KernelManager.Library.Machine
import KernelManager.Library.Volume
import KernelManager.Ui.ConfigureWindow

/-!
Saving a configuration: the document is written to a temporary sibling that is then renamed.
The system calls of several saves interleave, calls fail and processes are killed.
-/

namespace KernelManager

open Machine Volume

def tmpName (fileName : String) (pid round : Nat) : String :=
  let name := "." ++ fileName ++ ".tmp." ++ toString pid
  if round = 0 then name else name ++ "." ++ toString round

inductive SaveStage
  | probe (round : Nat)
  | create (round : Nat)
  | write (round file written : Nat)
  | rename (round : Nat)
  | cleanup (round : Nat)
  deriving DecidableEq, Repr

structure SaveCall where
  pid : Nat
  fileName : String
  config : KernelManagerConfig
  content : List UInt8
  stage : SaveStage

def SaveCall.tmp (call : SaveCall) (round : Nat) : String := tmpName call.fileName call.pid round

/-- How a system call ends; a write takes some of the bytes it is given. -/
inductive CallOutcome
  | ok (count : Nat)
  | error
  deriving DecidableEq, Repr

inductive SaveProgress
  | next (stage : SaveStage)
  | saved
  | failed
  deriving DecidableEq, Repr

/-- One system call of `KernelManagerConfig::save`. -/
def SaveCall.perform (call : SaveCall) (directory : Directory String UInt8) :
    SaveStage → CallOutcome → Directory String UInt8 × SaveProgress
  -- A name that cannot be looked up does not exist for the loop, and cannot be opened either.
  | .probe _, .error => (directory, .failed)
  | .probe round, .ok _ =>
      if (directory.entries (call.tmp round)).isSome then (directory, .next (.probe (round + 1)))
      else (directory, .next (.create round))
  | .create _, .error => (directory, .failed)
  | .create round, .ok _ =>
      let (created, file) := directory.create (call.tmp round)
      (created, .next (.write round file 0))
  | .write round file written, outcome =>
      let left := call.content.drop written
      match left, outcome with
      | [], _ => (directory, .next (.rename round))
      | _, .error | _, .ok 0 => (directory, .failed)
      | left, .ok count =>
          (directory.writeAt 0 file written (left.take count),
            .next (.write round file (written + (left.take count).length)))
  | .rename round, .error => (directory, .next (.cleanup round))
  | .rename round, .ok _ =>
      match directory.rename (call.tmp round) call.fileName with
      | some renamed => (renamed, .saved)
      | none => (directory, .next (.cleanup round))
  | .cleanup _, .error => (directory, .failed)
  | .cleanup round, .ok _ => (directory.remove (call.tmp round), .failed)

structure SaveState where
  directory : Directory String UInt8
  calls : Nat → Option SaveCall := fun _ => none

inductive SaveEvent
  | start (thread pid : Nat) (fileName : String) (config : KernelManagerConfig)
  | call (thread : Nat) (outcome : CallOutcome)
  | crash (pid : Nat)

def SaveCall.advance (call : SaveCall) : SaveProgress → Option SaveCall
  | .next stage => some { call with stage }
  | .saved | .failed => none

/-- `document` is the serializer; a configuration without a document is not written at all. -/
def saveStep (document : KernelManagerConfig → Option (List UInt8)) (state : SaveState) :
    SaveEvent → SaveState
  | .start thread pid fileName config =>
      match document config with
      | none => state
      | some content =>
          let call := ⟨pid, fileName, config, content, .probe 0⟩
          { state with calls := Function.update state.calls thread (some call) }
  | .call thread outcome =>
      match state.calls thread with
      | none => state
      | some call =>
          let (directory, progress) := call.perform state.directory call.stage outcome
          ⟨directory, Function.update state.calls thread (call.advance progress)⟩
  | .crash pid =>
      { state with calls := fun thread => (state.calls thread).filter (·.pid ≠ pid) }

def savedAs (name : String) (state : SaveState) : SaveEvent → List KernelManagerConfig
  | .call thread outcome =>
      match state.calls thread with
      | some call =>
          if call.fileName = name ∧
              (call.perform state.directory call.stage outcome).2 = .saved then
            [call.config]
          else []
      | none => []
  | .start .. | .crash _ => []

/-- `KernelManagerConfig::load`, with the reader as a parameter. -/
def loadConfig {Error : Type*} (missing : Error)
    (parse : List UInt8 → Except Error KernelManagerConfig) (directory : Directory String UInt8)
    (name : String) : Except Error KernelManagerConfig :=
  match directory.read name with
  | none => .error missing
  | some bytes => parse bytes

def IsTmpName (name : String) : Prop := ∃ fileName pid round, name = tmpName fileName pid round

def SavesApart (state : SaveState) : SaveEvent → Prop
  | .start thread pid fileName _ =>
      state.calls thread = none ∧ ¬IsTmpName fileName ∧
        ∀ other call, state.calls other = some call → call.pid ≠ pid
  | .call .. | .crash _ => True

theorem split_last_eq {mark : Char} {left right leftEnd rightEnd : List Char}
    (leftPlain : mark ∉ leftEnd) (rightPlain : mark ∉ rightEnd)
    (same : left ++ mark :: leftEnd = right ++ mark :: rightEnd) :
    left = right ∧ leftEnd = rightEnd := by
  rcases List.append_eq_append_iff.mp same with ⟨between, rfl, ends⟩ | ⟨between, rfl, ends⟩
  · cases between with
    | nil => exact ⟨(List.append_nil left).symm, (List.cons.inj ends).2⟩
    | cons symbol between =>
        obtain ⟨_, rfl⟩ := List.cons.inj ends
        simp at leftPlain
  · cases between with
    | nil => exact ⟨List.append_nil right, (List.cons.inj ends).2.symm⟩
    | cons symbol between =>
        obtain ⟨_, rfl⟩ := List.cons.inj ends
        simp at rightPlain

theorem dot_not_mem_digits (number : Nat) : '.' ∉ Nat.toDigits 10 number := by
  intro member
  have digit := Nat.isDigit_of_mem_toDigits (by decide) (by decide) member
  revert digit
  decide

theorem toDigits_injective {left right : Nat}
    (same : Nat.toDigits 10 left = Nat.toDigits 10 right) : left = right := by
  have numbers := congrArg (fun digits => Nat.ofDigitChars 10 digits 0) same
  simpa only [Nat.ofDigitChars_toDigits (by decide : 1 < 10) (by decide)] using numbers

theorem tmp_ne_digits (number : Nat) : ['t', 'm', 'p'] ≠ Nat.toDigits 10 number := by
  intro same
  have digit : ('t').isDigit = true :=
    Nat.isDigit_of_mem_toDigits (by decide) (by decide) (same ▸ List.mem_cons_self)
  revert digit
  decide

theorem tmpName_zero (fileName : String) (pid : Nat) :
    (tmpName fileName pid 0).toList =
      ('.' :: fileName.toList ++ '.' :: ['t', 'm', 'p']) ++ '.' :: Nat.toDigits 10 pid := by
  simp [tmpName, Nat.toString_eq_repr, Nat.toList_repr]

theorem tmpName_succ (fileName : String) (pid round : Nat) :
    (tmpName fileName pid (round + 1)).toList =
      (tmpName fileName pid 0).toList ++ '.' :: Nat.toDigits 10 (round + 1) := by
  simp [tmpName, Nat.toString_eq_repr, Nat.toList_repr]

theorem tmpName_zero_pid {fileName other : String} {pid second : Nat}
    (same : (tmpName fileName pid 0).toList = (tmpName other second 0).toList) :
    pid = second := by
  rw [tmpName_zero, tmpName_zero] at same
  exact toDigits_injective
    (split_last_eq (dot_not_mem_digits _) (dot_not_mem_digits _) same).2

theorem tmpName_zero_ne_succ (fileName other : String) (pid second round : Nat) :
    (tmpName fileName pid 0).toList ≠ (tmpName other second (round + 1)).toList := by
  intro same
  rw [tmpName_zero, tmpName_succ, tmpName_zero] at same
  have fronts := (split_last_eq (dot_not_mem_digits _) (dot_not_mem_digits _) same).1
  exact tmp_ne_digits second
    (split_last_eq (by decide) (dot_not_mem_digits _) fronts).2

/-- Whatever they save and however often they try, two processes never try one name. -/
theorem tmpName_pid {fileName other : String} {pid second round otherRound : Nat}
    (same : tmpName fileName pid round = tmpName other second otherRound) : pid = second := by
  have same := congrArg String.toList same
  cases round with
  | zero =>
      cases otherRound with
      | zero => exact tmpName_zero_pid same
      | succ otherRound => exact absurd same (tmpName_zero_ne_succ _ _ _ _ _)
  | succ round =>
      cases otherRound with
      | zero => exact absurd same.symm (tmpName_zero_ne_succ _ _ _ _ _)
      | succ otherRound =>
          rw [tmpName_succ, tmpName_succ] at same
          exact tmpName_zero_pid
            (split_last_eq (dot_not_mem_digits _) (dot_not_mem_digits _) same).1

namespace SaveCall

def Holds (call : SaveCall) (directory : Directory String UInt8) : SaveStage → Prop
  | .probe _ | .cleanup _ => True
  | .create round => directory.entries (call.tmp round) = none
  | .write round file written =>
      directory.Sole (call.tmp round) file ∧ directory.files file = call.content.take written ∧
        written ≤ call.content.length
  | .rename round =>
      ∃ file, directory.Sole (call.tmp round) file ∧ directory.files file = call.content

def Touches (call : SaveCall) (progress : SaveProgress) (name : String) : Prop :=
  (∃ round, name = call.tmp round) ∨ (progress = .saved ∧ name = call.fileName)

theorem Holds.frame {call : SaveCall} {before after : Directory String UInt8}
    {own : String → Prop} {stage : SaveStage} (within : before.Within own after)
    (apart : ∀ round, ¬own (call.tmp round)) (holds : call.Holds before stage) :
    call.Holds after stage := by
  cases stage with
  | probe round => trivial
  | cleanup round => trivial
  | create round => exact (within.entries _ (apart round)).trans holds
  | write round file written =>
      obtain ⟨sole, content, bound⟩ := holds
      have kept := within.sole (apart round) sole
      exact ⟨kept.1, kept.2.trans content, bound⟩
  | rename round =>
      obtain ⟨file, sole, content⟩ := holds
      have kept := within.sole (apart round) sole
      exact ⟨file, kept.1, kept.2.trans content⟩

structure Sound (call : SaveCall) (directory : Directory String UInt8)
    (result : Directory String UInt8 × SaveProgress) : Prop where
  within : directory.Within (call.Touches result.2) result.1
  next : ∀ stage, result.2 = .next stage → call.Holds result.1 stage
  saved : result.2 = .saved → result.1.read call.fileName = some call.content

theorem sound_idle (call : SaveCall) (directory : Directory String UInt8)
    (progress : SaveProgress) (unsaved : progress ≠ .saved)
    (next : ∀ stage, progress = .next stage → call.Holds directory stage) :
    call.Sound directory (directory, progress) :=
  ⟨.refl directory, next, fun saved => absurd saved unsaved⟩

theorem sound_create (call : SaveCall) (directory : Directory String UInt8) (round : Nat)
    (outcome : CallOutcome) (holds : call.Holds directory (.create round)) :
    call.Sound directory (call.perform directory (.create round) outcome) := by
  cases outcome with
  | error => exact call.sound_idle directory .failed (by simp) (by simp)
  | ok count =>
      have created := directory.create_sole (call.tmp round) holds
      refine ⟨?_, ?_, by simp [perform]⟩
      · refine (directory.create_within (call.tmp round) holds).mono ?_
        rintro name rfl
        exact .inl ⟨round, rfl⟩
      · rintro stage reached
        obtain rfl := SaveProgress.next.inj reached
        exact ⟨created.1, created.2, Nat.zero_le _⟩

theorem sound_write (call : SaveCall) (directory : Directory String UInt8)
    (round file written : Nat) (outcome : CallOutcome)
    (holds : call.Holds directory (.write round file written)) :
    call.Sound directory (call.perform directory (.write round file written) outcome) := by
  obtain ⟨sole, content, bound⟩ := holds
  simp only [perform]
  split
  · rename_i finished
    -- Nothing is left to write: the file holds all of the document.
    refine call.sound_idle directory _ (by simp) ?_
    rintro stage reached
    obtain rfl := SaveProgress.next.inj reached
    have all := List.drop_eq_nil_iff.mp finished
    exact ⟨file, sole, content.trans (List.take_of_length_le all)⟩
  · exact call.sound_idle directory _ (by simp) (by simp)
  · exact call.sound_idle directory _ (by simp) (by simp)
  · rename_i count _ _
    refine ⟨?_, ?_, by simp⟩
    · refine (directory.writeAt_within 0 _ file written _ sole).mono ?_
      rintro name rfl
      exact .inl ⟨round, rfl⟩
    · rintro stage reached
      obtain rfl := SaveProgress.next.inj reached
      obtain ⟨appended, within⟩ := directory.writeAt_next 0 file written count call.content
        content bound
      exact ⟨sole, appended, within⟩

theorem sound_rename (call : SaveCall) (directory : Directory String UInt8) (round : Nat)
    (outcome : CallOutcome) (plain : ¬IsTmpName call.fileName)
    (holds : call.Holds directory (.rename round)) :
    call.Sound directory (call.perform directory (.rename round) outcome) := by
  cases outcome with
  | error => exact call.sound_idle directory _ (by simp) (by simp [Holds])
  | ok count =>
      obtain ⟨file, sole, content⟩ := holds
      have different : call.fileName ≠ call.tmp round := fun same => plain ⟨_, _, _, same⟩
      obtain ⟨after, renamed, reads⟩ :=
        directory.rename_read (call.tmp round) call.fileName file sole.1 different
      simp only [perform, renamed]
      refine ⟨?_, by simp, fun _ => reads.trans (congrArg some content)⟩
      refine (directory.rename_within after _ _ renamed).mono ?_
      rintro name (rfl | rfl)
      · exact .inl ⟨round, rfl⟩
      · exact .inr ⟨rfl, rfl⟩

theorem sound_perform (call : SaveCall) (directory : Directory String UInt8)
    (stage : SaveStage) (outcome : CallOutcome) (plain : ¬IsTmpName call.fileName)
    (holds : call.Holds directory stage) :
    call.Sound directory (call.perform directory stage outcome) := by
  cases stage with
  | probe round =>
      cases outcome with
      | error => exact call.sound_idle directory _ (by simp) (by simp)
      | ok count =>
          simp only [perform]
          split
          · exact call.sound_idle directory _ (by simp) (by simp [Holds])
          · rename_i absent
            refine call.sound_idle directory _ (by simp) ?_
            rintro stage reached
            obtain rfl := SaveProgress.next.inj reached
            exact Option.not_isSome_iff_eq_none.mp absent
  | create round => exact call.sound_create directory round outcome holds
  | write round file written => exact call.sound_write directory round file written outcome holds
  | rename round => exact call.sound_rename directory round outcome plain holds
  | cleanup round =>
      cases outcome with
      | error => exact call.sound_idle directory _ (by simp) (by simp)
      | ok count =>
          refine ⟨?_, by simp [perform], by simp [perform]⟩
          refine (directory.remove_within (call.tmp round)).mono ?_
          rintro name rfl
          exact .inl ⟨round, rfl⟩

end SaveCall

theorem IsTmpName.head {name : String} (temporary : IsTmpName name) :
    name.toList.head? = some '.' := by
  obtain ⟨fileName, pid, round, rfl⟩ := temporary
  cases round with
  | zero => rw [tmpName_zero]; rfl
  | succ round => rw [tmpName_succ, tmpName_zero]; rfl

theorem kernelToml_plain : ¬IsTmpName "kernel.toml" := by
  intro temporary
  have head := temporary.head
  revert head
  decide

structure SaveInvariant (document : KernelManagerConfig → Option (List UInt8))
    (state : SaveState) : Prop where
  holds : ∀ thread call, state.calls thread = some call → call.Holds state.directory call.stage
  plain : ∀ thread call, state.calls thread = some call → ¬IsTmpName call.fileName
  rendered : ∀ thread call, state.calls thread = some call →
    document call.config = some call.content
  apart : ∀ first second call other, state.calls first = some call →
    state.calls second = some other → call.pid = other.pid → first = second

section Runs

variable {document : KernelManagerConfig → Option (List UInt8)} {state : SaveState}

theorem SaveInvariant.start (invariant : SaveInvariant document state) (thread pid : Nat)
    (fileName : String) (config : KernelManagerConfig)
    (apart : SavesApart state (.start thread pid fileName config)) :
    SaveInvariant document (saveStep document state (.start thread pid fileName config)) := by
  obtain ⟨idle, plain, single⟩ := apart
  simp only [saveStep]
  cases rendered : document config with
  | none => exact invariant
  | some content =>
      -- The new call is at its first stage; each other one is where it was.
      have cases : ∀ second other,
          Function.update state.calls thread
            (some ⟨pid, fileName, config, content, .probe 0⟩) second = some other →
          (second = thread ∧ other = ⟨pid, fileName, config, content, .probe 0⟩) ∨
            (second ≠ thread ∧ state.calls second = some other) := by
        exact fun _ _ started => process_set started
      constructor
      · intro second other started
        obtain ⟨rfl, rfl⟩ | ⟨_, was⟩ := cases second other started
        · trivial
        · exact invariant.holds second other was
      · intro second other started
        obtain ⟨rfl, rfl⟩ | ⟨_, was⟩ := cases second other started
        · exact plain
        · exact invariant.plain second other was
      · intro second other started
        obtain ⟨rfl, rfl⟩ | ⟨_, was⟩ := cases second other started
        · exact rendered
        · exact invariant.rendered second other was
      · intro first second call other startedFirst startedSecond same
        obtain ⟨rfl, rfl⟩ | ⟨_, wasFirst⟩ := cases first call startedFirst
        · obtain ⟨rfl, _⟩ | ⟨_, wasSecond⟩ := cases second other startedSecond
          · rfl
          · exact absurd same.symm (single second other wasSecond)
        · obtain ⟨rfl, rfl⟩ | ⟨_, wasSecond⟩ := cases second other startedSecond
          · exact absurd same (single first call wasFirst)
          · exact invariant.apart first second call other wasFirst wasSecond same

theorem SaveInvariant.crash (invariant : SaveInvariant document state) (pid : Nat) :
    SaveInvariant document (saveStep document state (.crash pid)) := by
  have survives : ∀ thread call, (state.calls thread).filter (·.pid ≠ pid) = some call →
      state.calls thread = some call := fun thread call survived =>
    (Option.filter_eq_some_iff.mp survived).1
  exact ⟨fun thread call survived => invariant.holds thread call (survives _ _ survived),
    fun thread call survived => invariant.plain thread call (survives _ _ survived),
    fun thread call survived => invariant.rendered thread call (survives _ _ survived),
    fun first second call other survivedFirst survivedSecond =>
      invariant.apart first second call other (survives _ _ survivedFirst)
        (survives _ _ survivedSecond)⟩

theorem SaveCall.not_touches_tmp {call other : SaveCall} (plain : ¬IsTmpName call.fileName)
    (apart : call.pid ≠ other.pid) (progress : SaveProgress) (round : Nat) :
    ¬call.Touches progress (other.tmp round) := by
  rintro (⟨second, same⟩ | ⟨_, same⟩)
  · exact apart (tmpName_pid same).symm
  · exact plain ⟨_, _, _, same.symm⟩

theorem saveStep_call (thread : Nat) (outcome : CallOutcome) (call : SaveCall)
    (running : state.calls thread = some call) :
    saveStep document state (.call thread outcome) =
      ⟨(call.perform state.directory call.stage outcome).1,
        Function.update state.calls thread
          (call.advance (call.perform state.directory call.stage outcome).2)⟩ := by
  simp only [saveStep, running]

theorem advance_eq_some {call next : SaveCall} {progress : SaveProgress}
    (advanced : call.advance progress = some next) :
    ∃ stage, progress = .next stage ∧ next = { call with stage } := by
  cases progress with
  | next stage => exact ⟨stage, rfl, (Option.some.inj advanced).symm⟩
  | saved => cases advanced
  | failed => cases advanced

theorem SaveInvariant.call (invariant : SaveInvariant document state) (thread : Nat)
    (outcome : CallOutcome) :
    SaveInvariant document (saveStep document state (.call thread outcome)) := by
  cases running : state.calls thread with
  | none => simpa only [saveStep, running] using invariant
  | some call =>
      have plain := invariant.plain thread call running
      have sound := call.sound_perform state.directory call.stage outcome plain
        (invariant.holds thread call running)
      rw [saveStep_call thread outcome call running]
      generalize call.perform state.directory call.stage outcome = result at sound
      -- The thread that moved goes on with its call, at the next stage.
      have cases : ∀ second other,
          Function.update state.calls thread (call.advance result.2) second = some other →
          (second = thread ∧ ∃ stage, result.2 = .next stage ∧ other = { call with stage }) ∨
            (second ≠ thread ∧ state.calls second = some other) := by
        intro second other moved
        exact (process_put moved).imp_left fun ⟨same, moved⟩ => ⟨same, advance_eq_some moved⟩
      constructor
      · intro second other moved
        obtain ⟨rfl, stage, reached, rfl⟩ | ⟨different, was⟩ := cases second other moved
        · exact sound.next stage reached
        · have apart : call.pid ≠ other.pid := fun same =>
            different (invariant.apart thread second call other running was same).symm
          exact (invariant.holds second other was).frame sound.within
            (SaveCall.not_touches_tmp plain apart result.2)
      · intro second other moved
        obtain ⟨rfl, stage, reached, rfl⟩ | ⟨_, was⟩ := cases second other moved
        · exact plain
        · exact invariant.plain second other was
      · intro second other moved
        obtain ⟨rfl, stage, reached, rfl⟩ | ⟨_, was⟩ := cases second other moved
        · exact invariant.rendered second call running
        · exact invariant.rendered second other was
      · intro first second firstCall secondCall movedFirst movedSecond same
        have original : ∀ second other,
            Function.update state.calls thread (call.advance result.2) second = some other →
            ∃ earlier, state.calls second = some earlier ∧ earlier.pid = other.pid := by
          intro second other moved
          obtain ⟨rfl, stage, _, rfl⟩ | ⟨_, was⟩ := cases second other moved
          · exact ⟨call, running, rfl⟩
          · exact ⟨other, was, rfl⟩
        obtain ⟨earlierFirst, wasFirst, firstPid⟩ := original first firstCall movedFirst
        obtain ⟨earlierSecond, wasSecond, secondPid⟩ := original second secondCall movedSecond
        exact invariant.apart first second _ _ wasFirst wasSecond
          (firstPid.trans (same.trans secondPid.symm))

theorem SaveInvariant.step (invariant : SaveInvariant document state) (event : SaveEvent)
    (apart : SavesApart state event) : SaveInvariant document (saveStep document state event) := by
  cases event with
  | start thread pid fileName config => exact invariant.start thread pid fileName config apart
  | call thread outcome => exact invariant.call thread outcome
  | crash pid => exact invariant.crash pid

/-- A step replaces what a plain name reads by the whole document of the save that returns
with it, and otherwise leaves it. -/
theorem saveStep_read (invariant : SaveInvariant document state) (event : SaveEvent)
    (name : String) (plain : ¬IsTmpName name) :
    (saveStep document state event).directory.read name =
      ((savedAs name state event).getLast?.map document).getD (state.directory.read name) := by
  cases event with
  | start thread pid fileName config =>
      simp only [saveStep, savedAs]
      cases document config <;> rfl
  | crash pid => rfl
  | call thread outcome =>
      cases running : state.calls thread with
      | none => simp only [saveStep, savedAs, running]; rfl
      | some call =>
          have sound := call.sound_perform state.directory call.stage outcome
            (invariant.plain thread call running) (invariant.holds thread call running)
          rw [saveStep_call thread outcome call running]
          simp only [savedAs, running]
          by_cases returns : call.fileName = name ∧
              (call.perform state.directory call.stage outcome).2 = .saved
          · rw [if_pos returns]
            obtain ⟨rfl, saved⟩ := returns
            exact (sound.saved saved).trans (invariant.rendered thread call running).symm
          · rw [if_neg returns]
            refine sound.within.read ?_
            rintro (⟨round, same⟩ | ⟨saved, same⟩)
            · exact plain ⟨_, _, _, same⟩
            · exact returns ⟨same.symm, saved⟩

theorem savedAs_rendered (invariant : SaveInvariant document state) (event : SaveEvent)
    (name : String) : ∀ config ∈ savedAs name state event, (document config).isSome := by
  cases event with
  | start thread pid fileName config => simp [savedAs]
  | crash pid => simp [savedAs]
  | call thread outcome =>
      cases running : state.calls thread with
      | none => simp only [savedAs, running, List.not_mem_nil, false_imp_iff, implies_true]
      | some call =>
          have rendered := invariant.rendered thread call running
          simp only [savedAs, running]
          split <;> simp [rendered]

theorem SaveInvariant.initial (directory : Directory String UInt8) :
    SaveInvariant document { directory } := by
  constructor <;> intros <;> contradiction

end Runs

/-- The files of a directory in which processes save are atomic registers: whatever the saves
do, whichever calls fail and whenever processes are killed, a load finds the configuration of
the last save to the name that returned, and never a part of a document. -/
theorem load_last_saved {Error : Type} (missing : Error)
    (document : KernelManagerConfig → Option (List UInt8))
    (parse : List UInt8 → Except Error KernelManagerConfig)
    (faithful : ∀ config bytes, document config = some bytes → parse bytes = .ok config)
    (directory : Directory String UInt8) (events : List SaveEvent) (name : String)
    (plain : ¬IsTmpName name)
    (apart : Admissible (saveStep document) SavesApart { directory } events) :
    loadConfig missing parse (run (saveStep document) { directory } events).directory name =
      match (outputs (saveStep document) (savedAs name) { directory } events).getLast? with
      | some config => .ok config
      | none => loadConfig missing parse directory name := by
  have initial : SaveInvariant document { directory } := .initial directory
  have reads : (run (saveStep document) { directory } events).directory.read name =
      ((outputs (saveStep document) (savedAs name) { directory } events).getLast?.map
        document).getD (directory.read name) :=
    run_observes (SaveInvariant document) (fun state => state.directory.read name) document
      (fun state event invariant apart => invariant.step event apart)
      (fun state event invariant _ => saveStep_read invariant event name plain) initial apart
  have rendered := (forall_mem_outputs (savedAs name) (fun config => (document config).isSome)
    { directory } events).mpr (admissible_of_invariant (SaveInvariant document)
      (fun state event invariant apart => invariant.step event apart)
      (fun state event invariant _ => savedAs_rendered invariant event name) initial apart)
  simp only [loadConfig, reads]
  cases last : (outputs (saveStep document) (savedAs name) { directory } events).getLast? with
  | none => rfl
  | some config =>
      obtain ⟨bytes, written⟩ :=
        Option.isSome_iff_exists.mp (rendered config (List.mem_of_getLast? last))
      simp only [Option.map_some, Option.getD_some, written]
      exact faithful config bytes written

def emptyDocument : List UInt8 :=
  ("hardly_check = false\nper_gov_check = false\ntcp_bbr3_check = false\n" ++
    "cachy_config_check = false\nnconfig_check = false\nxconfig_check = false\n" ++
    "localmodcfg_check = false\nuse_current_check = false\nbuiltin_zfs_check = false\n" ++
    "builtin_nvidia_open_check = false\nbuild_debug_check = false\nhz_ticks_combo = \"\"\n" ++
    "tickrate_combo = \"\"\npreempt_combo = \"\"\nhugepage_combo = \"\"\n" ++
    "lto_combo = \"\"\ncpu_opt_combo = \"\"\ncustom_name_edit = \"\"\n").toUTF8.toList

/-- A process is killed in the middle of its write; a later one with its number saves. -/
theorem load_last_saved_after_kill :
    loadConfig () (fun bytes => if bytes = emptyDocument then .ok {} else .error ())
      (run (saveStep fun config => if config = {} then some emptyDocument else none)
        { directory := .empty }
        [.start 0 40 "kernel.toml" {}, .call 0 (.ok 0), .call 0 (.ok 0), .call 0 (.ok 9), .crash 40,
          .start 1 40 "kernel.toml" {}, .call 1 (.ok 0), .call 1 (.ok 0), .call 1 (.ok 0),
          .call 1 (.ok 4096), .call 1 (.ok 0), .call 1 (.ok 0)]).directory "kernel.toml" =
      .ok {} := by
  have loaded := load_last_saved ()
    (fun config => if config = {} then some emptyDocument else none)
    (fun bytes => if bytes = emptyDocument then .ok {} else .error ())
    (by
      intro config bytes written
      split at written
      · rename_i empty
        rw [if_pos (Option.some.inj written).symm, empty]
      · cases written)
    .empty
    [.start 0 40 "kernel.toml" {}, .call 0 (.ok 0), .call 0 (.ok 0), .call 0 (.ok 9), .crash 40,
      .start 1 40 "kernel.toml" {}, .call 1 (.ok 0), .call 1 (.ok 0), .call 1 (.ok 0),
      .call 1 (.ok 4096), .call 1 (.ok 0), .call 1 (.ok 0)] "kernel.toml" kernelToml_plain
    (by
      refine ⟨⟨rfl, kernelToml_plain, by simp⟩, trivial, trivial, trivial, trivial,
        ⟨rfl, kernelToml_plain, ?_⟩, trivial, trivial, trivial, trivial, trivial, trivial, trivial⟩
      intro other call survived
      simpa using (Option.filter_eq_some_iff.mp survived).2)
  rw [loaded]
  decide +kernel

/-- Two saves of one process that overlap: both threads find the same temporary name free, and
the second one cuts the file that the first one has written. -/
def overlappingSaves (pid : Nat) (fileName : String) (first second : KernelManagerConfig)
    (length count : Nat) : List SaveEvent :=
  [.start 0 pid fileName first, .start 1 pid fileName second, .call 0 (.ok 0), .call 1 (.ok 0),
    .call 0 (.ok 0), .call 0 (.ok length), .call 0 (.ok 0), .call 1 (.ok 0), .call 1 (.ok count)]

theorem overlappingSaves_cut (document : KernelManagerConfig → Option (List UInt8))
    (directory : Directory String UInt8) (pid : Nat) (fileName : String)
    (first second : KernelManagerConfig) (one two : List UInt8) (count : Nat)
    (firstDocument : document first = some one) (secondDocument : document second = some two)
    (nonempty : one ≠ []) (absent : directory.entries (tmpName fileName pid 0) = none) :
    let events := overlappingSaves pid fileName first second one.length count
    let state := run (saveStep document) { directory } events
    outputs (saveStep document) (savedAs fileName) { directory } events = [] ∧
      state.calls 0 = some ⟨pid, fileName, first, one, .rename 0⟩ ∧
      state.directory.entries (tmpName fileName pid 0) = some directory.fresh ∧
      state.directory.files directory.fresh = two.take count := by
  obtain ⟨byte, rest, rfl⟩ := List.exists_cons_of_ne_nil nonempty
  -- The last write has nothing left to write, fails, or takes some bytes.
  cases two with
  | nil =>
      simp [overlappingSaves, outputs, saveStep, savedAs, firstDocument, secondDocument,
        SaveCall.perform, SaveCall.advance, SaveCall.tmp, absent, Directory.create,
        Directory.writeAt]
  | cons symbol two =>
      cases count with
      | zero =>
          simp [overlappingSaves, outputs, saveStep, savedAs, firstDocument, secondDocument,
            SaveCall.perform, SaveCall.advance, SaveCall.tmp, absent, Directory.create,
            Directory.writeAt]
      | succ count =>
          simp [overlappingSaves, outputs, saveStep, savedAs, firstDocument, secondDocument,
            SaveCall.perform, SaveCall.advance, SaveCall.tmp, absent, Directory.create,
            Directory.writeAt, Directory.overlay]

/-- The loop over temporary names does not keep two saves of one process apart: the first one
can return without an error and leave any beginning of the other one's document. -/
theorem overlappingSaves_tear (document : KernelManagerConfig → Option (List UInt8))
    (directory : Directory String UInt8) (pid : Nat) (fileName : String)
    (first second : KernelManagerConfig) (one two : List UInt8) (count : Nat)
    (firstDocument : document first = some one) (secondDocument : document second = some two)
    (nonempty : one ≠ []) (plain : ¬IsTmpName fileName)
    (absent : directory.entries (tmpName fileName pid 0) = none) :
    let events :=
      overlappingSaves pid fileName first second one.length count ++ [.call 0 (.ok 0)]
    outputs (saveStep document) (savedAs fileName) { directory } events = [first] ∧
      (run (saveStep document) { directory } events).directory.read fileName =
        some (two.take count) := by
  obtain ⟨unsaved, running, leads, cut⟩ := overlappingSaves_cut document directory pid fileName
    first second one two count firstDocument secondDocument nonempty absent
  have apart : fileName ≠ tmpName fileName pid 0 := fun same => plain ⟨_, _, _, same⟩
  simp only [outputs_append, run_append, unsaved, List.nil_append]
  generalize run (saveStep document) { directory }
    (overlappingSaves pid fileName first second one.length count) = state at running leads cut ⊢
  obtain ⟨after, renamed, reads⟩ := state.directory.rename_read _ fileName _ leads apart
  rw [cut] at reads
  simp only [outputs, savedAs, run_cons, run_nil, saveStep, running, SaveCall.perform,
    SaveCall.tmp, renamed, and_self, if_true, List.append_nil]
  exact ⟨trivial, reads⟩

theorem overlappingSaves_tear_empty :
    let document := fun config : KernelManagerConfig =>
      if config = {} then some emptyDocument else none
    let events := overlappingSaves 40 "kernel.toml" {} {} emptyDocument.length 12 ++
      [.call 0 (.ok 0)]
    outputs (saveStep document) (savedAs "kernel.toml") { directory := .empty } events = [{}] ∧
      (run (saveStep document) { directory := .empty } events).directory.read "kernel.toml" =
        some (emptyDocument.take 12) :=
  overlappingSaves_tear (fun config => if config = {} then some emptyDocument else none)
    .empty 40 "kernel.toml" {} {} emptyDocument emptyDocument 12
    (if_pos rfl) (if_pos rfl) (by decide +kernel) kernelToml_plain rfl

end KernelManager
