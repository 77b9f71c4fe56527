import KernelManager.Scx.Window
import KernelManager.Ui.ScxPlans

/-! An apply from a window whose flags field is as it was rendered. -/

namespace KernelManager

def Task.schedulerCall (services : ServiceStates) : Task → Option DbCall
  | .scxApply job => (applyPlan (job.input services)).map (·.dbCall)
  | .scxDisable config configPath => some (disablePlan config configPath).dbCall
  | _ => none

def ScxWindowModel.rendered (scx : ScxWindowModel) (sched : SupportedSched) : ScxWindowModel :=
  { scx with scheduler := sched.name, flags := flagsText scx.config sched.name scx.profile }

def unmodifiedCalls (app : App) (scx : ScxWindowModel) (sched : SupportedSched)
    (services : ServiceStates) : List DbCall :=
  ({ app with scx := some (scx.rendered sched) } : App).scxApply.2.filterMap
    (Task.schedulerCall services)

/-- The flags come back from their joined text: there are none, or no flag has a space and the
text neither begins nor ends with a whitespace or an empty flag. -/
def SplitsBack (flags : List String) : Prop :=
  flags = [] ∨
    (∀ flag ∈ flags, ' ' ∉ flag.toList) ∧
      (∃ first symbol, flags.head? = some first ∧ first.toList.head? = some symbol ∧
        isWhitespace symbol = false) ∧
      ∃ last symbol, flags.getLast? = some last ∧ last.toList.getLast? = some symbol ∧
        isWhitespace symbol = false

theorem joined_toList (flags : List String) :
    (String.intercalate " " flags).toList = [' '].intercalate (flags.map String.toList) := by
  rw [String.toList_intercalate]
  rfl

theorem joined_head (first : String) (rest : List String) :
    (String.intercalate " " (first :: rest)).toList.head? =
      first.toList.head?.or (if rest = [] then none else some ' ') := by
  rw [joined_toList, List.map_cons, Scan.head?_intercalate]
  simp only [List.map_eq_nil_iff]

theorem joined_last (front : List String) (last : String) :
    (String.intercalate " " (front ++ [last])).toList.getLast? =
      last.toList.getLast?.or (if front = [] then none else some ' ') := by
  rw [joined_toList, List.map_append, List.map_singleton, Scan.getLast?_intercalate]
  simp only [List.map_eq_nil_iff]

theorem schedArgs_toList (text : String) (filled : text.toList ≠ []) :
    (schedArgs text).map String.toList = text.toList.splitOn ' ' := by
  have some : text.isEmpty = false := by
    rw [← Bool.not_eq_true, String.isEmpty_iff, ← String.toList_eq_nil_iff]
    exact filled
  rw [schedArgs, some]
  simp

theorem schedArgs_splitsBack (flags : List String) (back : SplitsBack flags) :
    schedArgs (trim (String.intercalate " " flags)) = flags := by
  rcases back with rfl |
    ⟨plain, ⟨first, begin, leads, begins, dark⟩, last, final, trails, ends, solid⟩
  · decide
  · obtain ⟨rest, rfl⟩ := List.head?_eq_some_iff.mp leads
    obtain ⟨front, spelled⟩ := List.getLast?_eq_some_iff.mp trails
    have head : (String.intercalate " " (first :: rest)).toList.head? = some begin := by
      rw [joined_head, begins, Option.some_or]
    have tail : (String.intercalate " " (first :: rest)).toList.getLast? = some final := by
      rw [spelled, joined_last, ends, Option.some_or]
    have kept : trim (String.intercalate " " (first :: rest)) =
        String.intercalate " " (first :: rest) := by
      rw [trim_eq_self, head, tail]
      constructor
      · rintro symbol ⟨⟩
        exact dark
      · rintro symbol ⟨⟩
        exact solid
    have filled : (String.intercalate " " (first :: rest)).toList ≠ [] := by
      intro empty
      rw [empty] at head
      cases head
    apply List.map_injective_iff.mpr fun _ _ same => String.toList_injective same
    rw [kept, schedArgs_toList _ filled, joined_toList]
    apply List.splitOn_intercalate
    · intro symbols member
      obtain ⟨flag, listed, rfl⟩ := List.mem_map.mp member
      exact plain flag listed
    · simp

theorem splitsBack_schedArgs (flags : List String)
    (same : schedArgs (trim (String.intercalate " " flags)) = flags) : SplitsBack flags := by
  by_cases none : flags = []
  · exact Or.inl none
  · have filled : (trim (String.intercalate " " flags)).toList ≠ [] := by
      intro empty
      rw [String.toList_eq_nil_iff.mp empty] at same
      exact none same.symm
    have pieces := schedArgs_toList _ filled
    rw [same] at pieces
    have kept : trim (String.intercalate " " flags) = String.intercalate " " flags := by
      apply String.ext
      rw [joined_toList, pieces, List.intercalate_splitOn]
    have ends := (trim_eq_self _).mp kept
    rw [kept] at filled
    have blank : isWhitespace ' ' = true := by decide
    refine Or.inr ⟨?_, ?_, ?_⟩
    · intro flag listed
      have piece : flag.toList ∈ flags.map String.toList := List.mem_map_of_mem listed
      rw [pieces] at piece
      exact (Scan.mem_splitOn ' ' _ _ piece).1
    · obtain ⟨first, rest, rfl⟩ := List.exists_cons_of_ne_nil none
      have head := joined_head first rest
      cases begins : first.toList.head? with
      | some symbol =>
          rw [begins, Option.some_or] at head
          exact ⟨first, symbol, rfl, begins, ends.1 symbol head⟩
      | none =>
          rw [begins, Option.none_or] at head
          split at head
          · exact absurd (List.head?_eq_none_iff.mp head) filled
          · exact absurd (ends.1 ' ' head) (by rw [blank]; decide)
    · obtain ⟨front, last, rfl⟩ : ∃ front last, flags = front ++ [last] :=
        ⟨flags.dropLast, flags.getLast none, (List.dropLast_append_getLast none).symm⟩
      have tail := joined_last front last
      cases finishes : last.toList.getLast? with
      | some symbol =>
          rw [finishes, Option.some_or] at tail
          exact ⟨last, symbol, List.getLast?_concat, finishes, ends.2 symbol tail⟩
      | none =>
          rw [finishes, Option.none_or] at tail
          split at tail
          · exact absurd (List.getLast?_eq_none_iff.mp tail) filled
          · exact absurd (ends.2 ' ' tail) (by rw [blank]; decide)

theorem schedArgs_joined (flags : List String) :
    schedArgs (trim (String.intercalate " " flags)) = flags ↔ SplitsBack flags :=
  ⟨splitsBack_schedArgs flags, schedArgs_splitsBack flags⟩

theorem scxApply_rendered (app : App) (scx : ScxWindowModel) (sched : SupportedSched) :
    ({ app with scx := some (scx.rendered sched) } : App).scxApply.2 =
      [.scxApply
        { scheduler := sched.name
          mode := scx.scxMode
          flags := trim (scx.rendered sched).flags
          config := scx.config
          configPath := scx.configPath }] := by
  have shown : (scx.rendered sched).scheduler = sched.name := rfl
  simp only [App.scxApply, shown, fromStr_name]
  rfl

/-- An unmodified apply is the mode call exactly if the configured flags come back from the text
they are rendered as. -/
theorem unmodifiedApply_iff (app : App) (scx : ScxWindowModel) (sched : SupportedSched)
    (services : ServiceStates) :
    unmodifiedCalls app scx sched services = [.switchScheduler sched scx.scxMode] ↔
      SplitsBack (flagsForMode scx.config sched scx.scxMode) := by
  have text : (scx.rendered sched).flags =
      String.intercalate " " (flagsForMode scx.config sched scx.scxMode) := by
    simp only [ScxWindowModel.rendered, flagsText, fromStr_name, ScxWindowModel.scxMode]
  have started := scxApply_rendered app scx sched
  rw [text] at started
  have calls : unmodifiedCalls app scx sched services =
      [if schedArgs (trim (String.intercalate " " (flagsForMode scx.config sched scx.scxMode))) =
          flagsForMode scx.config sched scx.scxMode then .switchScheduler sched scx.scxMode
        else .switchSchedulerWithArgs sched (schedArgs
          (trim (String.intercalate " " (flagsForMode scx.config sched scx.scxMode))))] := by
    rw [unmodifiedCalls, started]
    exact List.filterMap_cons_some (applyPlan_dbCall _ sched (fromStr_name sched))
  rw [← schedArgs_joined, calls, List.singleton_inj]
  constructor
  · intro call
    by_contra differ
    rw [if_neg differ] at call
    cases call
  · intro same
    rw [if_pos same]

namespace Sample

def spacedFlags : ScxWindowModel :=
  { scxModel with
    profile := "Gaming"
    config :=
      { defaultConfig with
        scheds := fun name =>
          if name = "scx_bpfland" then some { gamingMode := some ["-m performance"] } else none } }

end Sample

/-- A flag with a space is split, so that the unmodified flags are sent as arguments. -/
theorem spacedFlags_sentAsArgs :
    unmodifiedCalls Sample.app Sample.spacedFlags .bpfland {} =
        [.switchSchedulerWithArgs .bpfland ["-m", "performance"]] ∧
      unmodifiedCalls Sample.app Sample.spacedFlags .bpfland {} ≠
        [.switchScheduler .bpfland Sample.spacedFlags.scxMode] := by
  decide

end KernelManager
