import Mathlib.Data.List.Basic
import Mathlib.Logic.Function.Basic
import Mathlib.Logic.Relation

/-!
Runs of a machine given by a total step function: which runs are admissible
under a guard, what holds throughout a run, and the induction rules that pass
from one step to a whole run.
-/

namespace Machine

variable {State Event Output Abstract : Type*} {step : State → Event → State}

def run (step : State → Event → State) (start : State) (events : List Event) : State :=
  events.foldl step start

def outputs (step : State → Event → State) (emit : State → Event → List Output) :
    State → List Event → List Output
  | _, [] => []
  | start, event :: events => emit start event ++ outputs step emit (step start event) events

def Admissible (step : State → Event → State) (guard : State → Event → Prop) :
    State → List Event → Prop
  | _, [] => True
  | start, event :: events =>
      guard start event ∧ Admissible step guard (step start event) events

def Always (step : State → Event → State) (holds : State → Prop) :
    State → List Event → Prop
  | start, [] => holds start
  | start, event :: events => holds start ∧ Always step holds (step start event) events

instance Admissible.decide (guard : State → Event → Prop)
    [permitted : ∀ state event, Decidable (guard state event)] :
    ∀ start events, Decidable (Admissible step guard start events)
  | _, [] => instDecidableTrue
  | start, event :: events =>
      have := Admissible.decide guard (step start event) events
      inferInstanceAs (Decidable (guard start event ∧ _))

instance Always.decide (holds : State → Prop) [decided : ∀ state, Decidable (holds state)] :
    ∀ start events, Decidable (Always step holds start events)
  | start, [] => inferInstanceAs (Decidable (holds start))
  | start, event :: events =>
      have := Always.decide holds (step start event) events
      inferInstanceAs (Decidable (holds start ∧ _))

@[simp] theorem run_nil (start : State) : run step start [] = start := rfl

@[simp] theorem run_cons (start : State) (event : Event) (events : List Event) :
    run step start (event :: events) = run step (step start event) events := rfl

theorem run_append (start : State) (first second : List Event) :
    run step start (first ++ second) = run step (run step start first) second :=
  List.foldl_append ..

theorem outputs_append (emit : State → Event → List Output) (start : State)
    (first second : List Event) :
    outputs step emit start (first ++ second) =
      outputs step emit start first ++ outputs step emit (run step start first) second := by
  induction first generalizing start with
  | nil => rfl
  | cons event first ih => rw [List.cons_append, outputs, outputs, ih, run_cons, List.append_assoc]

theorem admissible_of_forall {guard : State → Event → Prop}
    (permitted : ∀ state event, guard state event) (start : State) (events : List Event) :
    Admissible step guard start events := by
  induction events generalizing start with
  | nil => trivial
  | cons event events ih => exact ⟨permitted start event, ih (step start event)⟩

theorem Admissible.and {first second : State → Event → Prop} {start : State}
    {events : List Event} (left : Admissible step first start events)
    (right : Admissible step second start events) :
    Admissible step (fun state event => first state event ∧ second state event) start
      events := by
  induction events generalizing start with
  | nil => trivial
  | cons event events ih => exact ⟨⟨left.1, right.1⟩, ih left.2 right.2⟩

theorem admissible_congr {first second : State → Event → Prop}
    (same : ∀ state event, first state event ↔ second state event) (start : State)
    (events : List Event) :
    Admissible step first start events ↔ Admissible step second start events := by
  induction events generalizing start with
  | nil => exact Iff.rfl
  | cons event events ih => exact and_congr (same start event) (ih (step start event))

theorem admissible_iff_forall_mem (permitted : Event → Prop) (start : State)
    (events : List Event) :
    Admissible step (fun _ event => permitted event) start events ↔
      ∀ event ∈ events, permitted event := by
  induction events generalizing start with
  | nil => simp [Admissible]
  | cons event events ih => rw [Admissible, ih, List.forall_mem_cons]

theorem forall_mem_outputs (emit : State → Event → List Output) (property : Output → Prop)
    (start : State) (events : List Event) :
    (∀ output ∈ outputs step emit start events, property output) ↔
      Admissible step (fun state event => ∀ output ∈ emit state event, property output) start
        events := by
  induction events generalizing start with
  | nil => simp [outputs, Admissible]
  | cons event events ih => rw [outputs, List.forall_mem_append, ih, Admissible]

theorem admissible_of_invariant {guard concluded : State → Event → Prop}
    (invariant : State → Prop)
    (preserved : ∀ state event, invariant state → guard state event →
      invariant (step state event))
    (concludes : ∀ state event, invariant state → guard state event → concluded state event)
    {start : State} {events : List Event} (initial : invariant start)
    (admissible : Admissible step guard start events) :
    Admissible step concluded start events := by
  induction events generalizing start with
  | nil => trivial
  | cons event events ih =>
      exact ⟨concludes start event initial admissible.1,
        ih (preserved start event initial admissible.1) admissible.2⟩

theorem run_invariant {guard : State → Event → Prop} (invariant : State → Prop)
    (preserved : ∀ state event, invariant state → guard state event →
      invariant (step state event))
    {start : State} {events : List Event} (initial : invariant start)
    (admissible : Admissible step guard start events) :
    invariant (run step start events) := by
  induction events generalizing start with
  | nil => exact initial
  | cons event events ih =>
      exact ih (preserved start event initial admissible.1) admissible.2

theorem run_preserves (invariant : State → Prop)
    (preserved : ∀ state event, invariant state → invariant (step state event))
    {start : State} (initial : invariant start) (events : List Event) :
    invariant (run step start events) := by
  induction events generalizing start with
  | nil => exact initial
  | cons event events ih => exact ih (preserved start event initial)

/-- An invariant that also concerns the events of the past. -/
theorem run_recorded {permitted : List Event → Event → Prop}
    (invariant : List Event → State → Prop)
    (preserved : ∀ past state event, invariant past state → permitted past event →
      invariant (past ++ [event]) (step state event))
    {start : State} {past : List Event} (initial : invariant past start) (events : List Event)
    (admitted : ∀ before event after, events = before ++ event :: after →
      permitted (past ++ before) event) :
    invariant (past ++ events) (run step start events) := by
  induction events generalizing start past with
  | nil => simpa using initial
  | cons event events ih =>
      have first := admitted [] event events rfl
      rw [List.append_nil] at first
      have next := ih (preserved past start event initial first) ?_
      · rwa [List.append_assoc] at next
      · rintro before later after rfl
        simpa using admitted (event :: before) later after rfl

theorem always_start {holds : State → Prop} {start : State} {events : List Event}
    (always : Always step holds start events) : holds start := by
  cases events with
  | nil => exact always
  | cons event events => exact always.1

/-- When a step from a state with the property keeps it exactly if the step is
`allowed`, a run keeps it throughout exactly if all of its steps are. -/
theorem always_iff_admissible {guard allowed : State → Event → Prop}
    (invariant : State → Prop) {holds : State → Prop}
    (preserved : ∀ state event, invariant state → guard state event →
      invariant (step state event))
    (exact : ∀ state event, invariant state → holds state → guard state event →
      (holds (step state event) ↔ allowed state event))
    {start : State} {events : List Event} (initial : invariant start)
    (holdsInitially : holds start) (admissible : Admissible step guard start events) :
    Always step holds start events ↔ Admissible step allowed start events := by
  induction events generalizing start with
  | nil => simpa [Always, Admissible] using holdsInitially
  | cons event events ih =>
      obtain ⟨permitted, rest⟩ := admissible
      have once := exact start event initial holdsInitially permitted
      have next := preserved start event initial permitted
      simp only [Always, Admissible]
      constructor
      · rintro ⟨_, always⟩
        have kept := always_start always
        exact ⟨once.mp kept, (ih next kept rest).mp always⟩
      · rintro ⟨okay, admissibleRest⟩
        exact ⟨holdsInitially, (ih next (once.mpr okay) rest).mpr admissibleRest⟩

/-- When each step sets an observation to what it emits last, and keeps it otherwise, so does
a whole run. -/
theorem run_observes {Value : Type*} {guard : State → Event → Prop}
    {emit : State → Event → List Output} (invariant : State → Prop) (observe : State → Value)
    (written : Output → Value)
    (preserved : ∀ state event, invariant state → guard state event →
      invariant (step state event))
    (observed : ∀ state event, invariant state → guard state event →
      observe (step state event) =
        ((emit state event).getLast?.map written).getD (observe state))
    {start : State} {events : List Event} (initial : invariant start)
    (admissible : Admissible step guard start events) :
    observe (run step start events) =
      ((outputs step emit start events).getLast?.map written).getD (observe start) := by
  induction events generalizing start with
  | nil => rfl
  | cons event events ih =>
      obtain ⟨permitted, rest⟩ := admissible
      rw [run_cons, ih (preserved start event initial permitted) rest,
        observed start event initial permitted, outputs, List.getLast?_append]
      cases (outputs step emit (step start event) events).getLast? <;> simp

theorem run_outputs {guard : State → Event → Prop} {emit : State → Event → List Output}
    (invariant : State → List Output → Prop)
    (preserved : ∀ state past event, invariant state past → guard state event →
      invariant (step state event) (past ++ emit state event))
    {start : State} {past : List Output} {events : List Event} (initial : invariant start past)
    (admissible : Admissible step guard start events) :
    invariant (run step start events) (past ++ outputs step emit start events) := by
  induction events generalizing start past with
  | nil => simpa [outputs] using initial
  | cons event events ih =>
      obtain ⟨permitted, rest⟩ := admissible
      have next := ih (preserved start past event initial permitted) rest
      rwa [List.append_assoc] at next

theorem run_projected {guard : State → Event → Prop} {emit : State → Event → List Output}
    {abstractStep : Abstract → Output → Abstract} (invariant : State → Prop)
    (project : State → Abstract)
    (preserved : ∀ state event, invariant state → guard state event →
      invariant (step state event))
    (matched : ∀ state event, invariant state → guard state event →
      project (step state event) = run abstractStep (project state) (emit state event))
    {start : State} {events : List Event} (initial : invariant start)
    (admissible : Admissible step guard start events) :
    project (run step start events) =
      run abstractStep (project start) (outputs step emit start events) := by
  induction events generalizing start with
  | nil => rfl
  | cons event events ih =>
      obtain ⟨permitted, rest⟩ := admissible
      rw [run_cons, ih (preserved start event initial permitted) rest, outputs, run_append,
        matched start event initial permitted]

/-- Two machines that step together: related states stay related, and emit the same. -/
theorem outputs_simulated {Other : Type*} {otherStep : Other → Event → Other}
    {emit : State → Event → List Output} {otherEmit : Other → Event → List Output}
    {guard : State → Event → Prop} (related : State → Other → Prop)
    (matched : ∀ state other event, related state other → guard state event →
      related (step state event) (otherStep other event) ∧
        emit state event = otherEmit other event)
    {start : State} {otherStart : Other} {events : List Event}
    (initial : related start otherStart) (admissible : Admissible step guard start events) :
    related (run step start events) (run otherStep otherStart events) ∧
      outputs step emit start events = outputs otherStep otherEmit otherStart events := by
  induction events generalizing start otherStart with
  | nil => exact ⟨initial, rfl⟩
  | cons event events ih =>
      obtain ⟨permitted, rest⟩ := admissible
      obtain ⟨next, same⟩ := matched start otherStart event initial permitted
      obtain ⟨final, equal⟩ := ih next rest
      exact ⟨final, by rw [outputs, outputs, same, equal]⟩

theorem foldlM_simulated {Other Error : Type*} {step : State → Event → Except Error State}
    {otherStep : Other → Event → Except Error Other} (related : State → Other → Prop)
    (matched : ∀ state other event, related state other →
      (∃ error, step state event = .error error ∧ otherStep other event = .error error) ∨
        ∃ state' other', step state event = .ok state' ∧ otherStep other event = .ok other' ∧
          related state' other')
    {start : State} {otherStart : Other} (initial : related start otherStart)
    (events : List Event) :
    (∃ error, events.foldlM step start = .error error ∧
      events.foldlM otherStep otherStart = .error error) ∨
      ∃ final otherFinal, events.foldlM step start = .ok final ∧
        events.foldlM otherStep otherStart = .ok otherFinal ∧ related final otherFinal := by
  induction events generalizing start otherStart with
  | nil => exact .inr ⟨start, otherStart, rfl, rfl, initial⟩
  | cons event events ih =>
      simp only [List.foldlM_cons]
      obtain ⟨error, fails, otherFails⟩ | ⟨next, otherNext, moves, otherMoves, still⟩ :=
        matched start otherStart event initial
      · exact .inl ⟨error, by rw [fails]; rfl, by rw [otherFails]; rfl⟩
      · rw [moves, otherMoves]
        exact ih still

/-- Forward simulation: if every permitted step is matched by steps of an abstract
relation, every admissible run ends in a state that represents an abstract one
reachable from the start. -/
theorem run_simulates {guard : State → Event → Prop} {next : Abstract → Abstract → Prop}
    {represents : State → Abstract → Prop}
    (matched : ∀ state event abstract, represents state abstract → guard state event →
      ∃ abstract', Relation.ReflTransGen next abstract abstract' ∧
        represents (step state event) abstract')
    {start : State} {events : List Event} {initial : Abstract}
    (related : represents start initial)
    (admissible : Admissible step guard start events) :
    ∃ final, Relation.ReflTransGen next initial final ∧
      represents (run step start events) final := by
  induction events generalizing start initial with
  | nil => exact ⟨initial, .refl, related⟩
  | cons event events ih =>
      obtain ⟨middle, first, relatedMiddle⟩ := matched start event initial related admissible.1
      obtain ⟨final, rest, relatedFinal⟩ := ih relatedMiddle admissible.2
      exact ⟨final, first.trans rest, relatedFinal⟩

theorem process_put {Slot Process : Type*} [DecidableEq Slot] {processes : Slot → Option Process}
    {slot other : Slot} {put : Option Process} {found : Process}
    (reached : Function.update processes slot put other = some found) :
    other = slot ∧ put = some found ∨ other ≠ slot ∧ processes other = some found := by
  by_cases same : other = slot
  · subst same
    rw [Function.update_self] at reached
    exact .inl ⟨rfl, reached⟩
  · rw [Function.update_of_ne same] at reached
    exact .inr ⟨same, reached⟩

theorem process_set {Slot Process : Type*} [DecidableEq Slot] {processes : Slot → Option Process}
    {slot other : Slot} {set found : Process}
    (reached : Function.update processes slot (some set) other = some found) :
    other = slot ∧ found = set ∨ other ≠ slot ∧ processes other = some found :=
  (process_put reached).imp_left fun ⟨same, set⟩ => ⟨same, (Option.some.inj set).symm⟩

end Machine
