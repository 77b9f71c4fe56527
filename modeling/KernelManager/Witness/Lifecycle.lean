import KernelManager.Exec.BuildFlow

/-! The witness of the actions on the Configure window against the reference tool. -/

namespace KernelManager

structure LifecycleReport where
  trace : List (String × String)
  finalRunning : Bool
  deriving DecidableEq, Repr

def ConfigureAction.text : ConfigureAction → String
  | .execute => "execute"
  | .cancel => "cancel"
  | .close => "close"

def ConfigureAction.parse : String → Option ConfigureAction
  | "execute" => some .execute
  | "cancel" => some .cancel
  | "close" => some .close
  | _ => none

def lifecycleReportFrom (running : Bool) (actions : List String) : Option LifecycleReport :=
  (actions.mapM ConfigureAction.parse).map fun actions =>
    let (trace, last) := configureTraceFrom running actions
    { trace := trace.map fun event => (event.action.text, event.outcome), finalRunning := last }

/-- `main` of the candidate: all actions are read before the first one is traced. -/
def lifecycleReport (actions : List String) : Option LifecycleReport :=
  lifecycleReportFrom false actions

namespace OracleBuildFlow

def actions : Bool → List String → Option LifecycleReport
  | running, [] => some { trace := [], finalRunning := running }
  | running, action :: rest =>
      if action = "execute" then
        (actions true rest).map fun report =>
          { report with
            trace := ("execute", if running then "ignored" else "start") :: report.trace }
      else if action = "cancel" ∨ action = "close" then
        some { trace := [(action, "closed")], finalRunning := false }
      else none

end OracleBuildFlow

def closes (action : String) : Bool := action = "cancel" || action = "close"

theorem parse_closes (action : String) (closing : closes action = true) :
    ∃ parsed, ConfigureAction.parse action = some parsed ∧ parsed.text = action ∧
      parsed ≠ .execute := by
  rcases (by simpa [closes] using closing : action = "cancel" ∨ action = "close") with rfl | rfl
  · exact ⟨.cancel, rfl, rfl, by decide⟩
  · exact ⟨.close, rfl, rfl, by decide⟩

theorem parse_other (action : String) (other : action ≠ "execute")
    (going : closes action = false) : ConfigureAction.parse action = none := by
  obtain ⟨first, second⟩ : action ≠ "cancel" ∧ action ≠ "close" := by
    simpa [closes] using going
  unfold ConfigureAction.parse
  split <;> first | rfl | contradiction

theorem lifecycleReportFrom_cons (running : Bool) (action : String) (actions : List String)
    (parsed : ConfigureAction) (known : ConfigureAction.parse action = some parsed) :
    lifecycleReportFrom running (action :: actions) =
      (actions.mapM ConfigureAction.parse).map fun rest =>
        { trace := (configureTraceFrom running (parsed :: rest)).1.map fun event =>
            (event.action.text, event.outcome)
          finalRunning := (configureTraceFrom running (parsed :: rest)).2 } := by
  simp only [lifecycleReportFrom, List.mapM_cons, known, Option.pure_def, Option.bind_eq_bind,
    Option.bind_some]
  cases actions.mapM ConfigureAction.parse <;> rfl

theorem mapM_parse_isSome (actions : List String) :
    (actions.mapM ConfigureAction.parse).isSome = true ↔
      ∀ action ∈ actions, (ConfigureAction.parse action).isSome = true := by
  induction actions with
  | nil => simp
  | cons action actions ih =>
      rw [List.forall_mem_cons, ← ih, List.mapM_cons]
      cases ConfigureAction.parse action with
      | none => simp
      | some parsed => cases actions.mapM ConfigureAction.parse <;> simp

theorem lifecycleReport_eq_iff_from (running : Bool) (actions : List String) :
    lifecycleReportFrom running actions = OracleBuildFlow.actions running actions ↔
      let reached := actions.takeWhile (!closes ·)
      (∃ action ∈ reached, action ≠ "execute") ∨
        ((∀ action ∈ actions, (ConfigureAction.parse action).isSome = true) ∧
          (reached = actions ∨ reached = [] ∧ running = false)) := by
  induction actions generalizing running with
  | nil => simp [lifecycleReportFrom, configureTraceFrom, OracleBuildFlow.actions]
  | cons action actions ih =>
      by_cases executes : action = "execute"
      · subst executes
        have step : lifecycleReportFrom running ("execute" :: actions) =
            (lifecycleReportFrom true actions).map fun report =>
              { report with
                trace := ("execute", if running then "ignored" else "start") :: report.trace } := by
          rw [lifecycleReportFrom_cons running "execute" actions .execute rfl]
          unfold lifecycleReportFrom
          cases actions.mapM ConfigureAction.parse <;> rfl
        have injective : Function.Injective fun report : LifecycleReport =>
            { report with
              trace := ("execute", if running then "ignored" else "start") :: report.trace } := by
          rintro ⟨first, firstRunning⟩ ⟨second, secondRunning⟩ same
          simpa using same
        rw [step, OracleBuildFlow.actions, if_pos rfl, Option.map_injective injective |>.eq_iff, ih]
        simp [closes, ConfigureAction.parse]
      · cases closing : closes action with
        | true =>
            obtain ⟨parsed, known, text, last⟩ := parse_closes action closing
            have printed : lifecycleReportFrom running (action :: actions) =
                (actions.mapM ConfigureAction.parse).map fun _ =>
                  { trace := [(action, "closed")], finalRunning := running } := by
              rw [lifecycleReportFrom_cons running action actions parsed known]
              cases parsed with
              | execute => exact absurd rfl last
              | cancel | close => simp only [configureTraceFrom, List.map_cons, List.map_nil, text]
            have expected : OracleBuildFlow.actions running (action :: actions) =
                some { trace := [(action, "closed")], finalRunning := false } := by
              have leaves : action = "cancel" ∨ action = "close" := by simpa [closes] using closing
              rw [OracleBuildFlow.actions, if_neg executes, if_pos leaves]
            have whole := mapM_parse_isSome actions
            rw [printed, expected]
            simp only [closing, Bool.not_true, List.takeWhile_cons_of_neg, Bool.false_eq_true,
              not_false_eq_true, List.not_mem_nil, false_and, exists_false, false_or,
              List.forall_mem_cons, known, Option.isSome_some, true_and, ← whole, reduceCtorEq]
            cases actions.mapM ConfigureAction.parse <;> simp
        | false =>
            have unknown := parse_other action executes closing
            have open_ : ¬(action = "cancel" ∨ action = "close") := by
              simpa [closes] using closing
            rw [OracleBuildFlow.actions, if_neg executes, if_neg open_]
            refine iff_of_true ?_ (.inl ⟨action, ?_, executes⟩)
            · simp [lifecycleReportFrom, List.mapM_cons, unknown]
            · simp [closing]

/-- The reference takes the build to end with the window, the candidate lets it run on: they
print the same exactly when both refuse an action before the window closes, or know all of them
and the window is not closed or was closed at once. -/
theorem lifecycleReport_eq_iff (actions : List String) :
    lifecycleReport actions = OracleBuildFlow.actions false actions ↔
      let reached := actions.takeWhile (!closes ·)
      (∃ action ∈ reached, action ≠ "execute") ∨
        ((∀ action ∈ actions, (ConfigureAction.parse action).isSome = true) ∧
          (reached = actions ∨ reached = [])) := by
  rw [lifecycleReport, lifecycleReport_eq_iff_from]
  simp only [and_true]

end KernelManager
