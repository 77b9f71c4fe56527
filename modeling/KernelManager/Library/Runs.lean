import KernelManager.Library.Occurrences

/-!
Texts in which another word stands for the run of symbols behind each occurrence of a pattern.
-/

namespace Scan

variable {Symbol : Type*}

def LongestRun (drops : Symbol → Bool) (run rest : List Symbol) : Prop :=
  run.all drops = true ∧ ∀ symbol, rest.head? = some symbol → drops symbol = false

/-- Behind every occurrence that a scan from the left finds, the token takes the place of the
longest run; the scan goes on behind that run. -/
inductive RunsReplaced (pattern : List Symbol) (drops : Symbol → Bool) (token : List Symbol) :
    List Symbol → List Symbol → Prop
  | last {text} (absent : ¬pattern <:+: text) : RunsReplaced pattern drops token text text
  | next {front run rest out}
      (first : FirstAt pattern (front ++ (pattern ++ (run ++ rest))) front.length)
      (longest : LongestRun drops run rest)
      (later : RunsReplaced pattern drops token rest out) :
      RunsReplaced pattern drops token (front ++ (pattern ++ (run ++ rest)))
        (front ++ (pattern ++ (token ++ out)))

def replaceRunsWithin [DecidableEq Symbol] (pattern : List Symbol) (drops : Symbol → Bool)
    (token : List Symbol) : Nat → List Symbol → List Symbol
  | 0, text => text
  | fuel + 1, text =>
      match find pattern text with
      | none => text
      | some position =>
          let after := text.drop (position + pattern.length)
          text.take position ++ (pattern ++ (token ++
            replaceRunsWithin pattern drops token fuel (after.dropWhile drops)))

variable {pattern : List Symbol} {drops : Symbol → Bool} {token : List Symbol}

theorem FirstAt.unique {text : List Symbol} {left right : Nat} (first : FirstAt pattern text left)
    (second : FirstAt pattern text right) : left = right := by
  have notBefore : ¬left < right := fun before => second.2 left before first.1
  have notBehind : ¬right < left := fun before => first.2 right before second.1
  omega

theorem longestRun_split (text : List Symbol) :
    LongestRun drops (text.takeWhile drops) (text.dropWhile drops) := by
  refine ⟨List.all_takeWhile, ?_⟩
  intro symbol first
  have head := List.head?_dropWhile_not drops text
  rw [first] at head
  simpa using head

theorem LongestRun.eq_split {run rest : List Symbol} (longest : LongestRun drops run rest) :
    run = (run ++ rest).takeWhile drops ∧ rest = (run ++ rest).dropWhile drops := by
  obtain ⟨inside, ends⟩ := longest
  rw [List.all_eq_true] at inside
  have stops : rest.takeWhile drops = [] ∧ rest.dropWhile drops = rest := by
    cases rest with
    | nil => exact ⟨rfl, rfl⟩
    | cons symbol rest => simp [ends symbol rfl]
  rw [List.takeWhile_append_of_pos inside, List.dropWhile_append_of_pos inside, stops.1, stops.2,
    List.append_nil]
  exact ⟨rfl, rfl⟩

namespace RunsReplaced

theorem head?_eq {text out : List Symbol} (nonempty : pattern ≠ [])
    (replaced : RunsReplaced pattern drops token text out) : out.head? = text.head? := by
  cases replaced with
  | last absent => rfl
  | next first longest later =>
      obtain ⟨symbol, rest, rfl⟩ := List.exists_cons_of_ne_nil nonempty
      simp only [List.head?_append, List.cons_append, List.head?_cons, Option.or_some]

theorem again {text out : List Symbol} (nonempty : pattern ≠ [])
    (droppable : token.all drops = true) (other : List Symbol)
    (replaced : RunsReplaced pattern drops token text out) :
    ∃ result, RunsReplaced pattern drops other text result ∧
      RunsReplaced pattern drops other out result := by
  induction replaced with
  | last absent => exact ⟨_, .last absent, .last absent⟩
  | @next front run rest out first longest later ih =>
      obtain ⟨result, fromRest, fromOut⟩ := ih
      -- What follows the token begins as what followed the run, so it is a longest run too.
      have still : LongestRun drops token out := by
        refine ⟨droppable, ?_⟩
        rw [later.head?_eq nonempty]
        exact longest.2
      exact ⟨_, .next first longest fromRest, .next (first.congr_behind _) still fromOut⟩

theorem unique {text left right : List Symbol}
    (first : RunsReplaced pattern drops token text left)
    (second : RunsReplaced pattern drops token text right) : left = right := by
  induction first generalizing right with
  | last absent =>
      cases second with
      | last _ => rfl
      | next _ _ _ => exact absurd (List.infix_append' _ _ _) absent
  | @next front run rest out first longest later ih =>
      generalize spelled : front ++ (pattern ++ (run ++ rest)) = text at second
      cases second with
      | last absent => exact absurd (spelled ▸ List.infix_append' _ _ _) absent
      | @next otherFront otherRun otherRest otherOut otherFirst otherLongest otherLater =>
          have reached : front.length = otherFront.length := by
            rw [spelled] at first
            exact first.unique otherFirst
          obtain ⟨rfl, behind⟩ := List.append_inj spelled reached
          have after := List.append_cancel_left behind
          have rests : rest = otherRest := by
            rw [longest.eq_split.2, otherLongest.eq_split.2, after]
          subst rests
          rw [ih otherLater]

theorem eq_of_eq {left right out leftOther rightOther other : List Symbol}
    (nonempty : pattern ≠ []) (droppable : token.all drops = true)
    (leftReplaced : RunsReplaced pattern drops token left out)
    (rightReplaced : RunsReplaced pattern drops token right out)
    (leftAgain : RunsReplaced pattern drops other left leftOther)
    (rightAgain : RunsReplaced pattern drops other right rightOther) :
    leftOther = rightOther := by
  obtain ⟨first, fromLeft, fromLeftOut⟩ := leftReplaced.again nonempty droppable other
  obtain ⟨second, fromRight, fromRightOut⟩ := rightReplaced.again nonempty droppable other
  calc
    leftOther = first := leftAgain.unique fromLeft
    _ = second := fromLeftOut.unique fromRightOut
    _ = rightOther := fromRight.unique rightAgain

/-- Two texts that one token makes equal differ in their runs only, and so every token does. -/
theorem eq_iff {left right leftOut rightOut leftOther rightOther other : List Symbol}
    (nonempty : pattern ≠ []) (droppable : token.all drops = true)
    (otherDroppable : other.all drops = true)
    (leftReplaced : RunsReplaced pattern drops token left leftOut)
    (rightReplaced : RunsReplaced pattern drops token right rightOut)
    (leftAgain : RunsReplaced pattern drops other left leftOther)
    (rightAgain : RunsReplaced pattern drops other right rightOther) :
    leftOut = rightOut ↔ leftOther = rightOther := by
  constructor
  · rintro rfl
    exact leftReplaced.eq_of_eq nonempty droppable rightReplaced leftAgain rightAgain
  · rintro rfl
    exact leftAgain.eq_of_eq nonempty otherDroppable rightAgain leftReplaced rightReplaced

theorem settled {text out : List Symbol} (nonempty : pattern ≠ [])
    (droppable : token.all drops = true)
    (replaced : RunsReplaced pattern drops token text out) :
    RunsReplaced pattern drops token out out := by
  obtain ⟨result, fromText, fromOut⟩ := replaced.again nonempty droppable token
  rw [← replaced.unique fromText] at fromOut
  exact fromOut

end RunsReplaced

theorem replaceRunsWithin_replaced [DecidableEq Symbol] (nonempty : pattern ≠ []) (fuel : Nat)
    (text : List Symbol) (enough : text.length ≤ fuel) :
    RunsReplaced pattern drops token text
      (replaceRunsWithin pattern drops token fuel text) := by
  induction fuel generalizing text with
  | zero =>
      -- Without fuel the text is empty, and so without an occurrence.
      obtain rfl := List.eq_nil_of_length_eq_zero (Nat.le_zero.mp enough)
      exact .last fun occurs => nonempty (List.infix_nil.mp occurs)
  | succ fuel ih =>
      rw [replaceRunsWithin]
      cases found : find pattern text with
      | none => exact .last ((find_eq_none_iff pattern text).mp found)
      | some position =>
          obtain ⟨front, rest, rfl, rfl, first⟩ := find_split nonempty found
          have after : (front ++ (pattern ++ rest)).drop (front.length + pattern.length) =
              rest := by
            rw [← List.drop_drop, List.drop_left, List.drop_left]
          have positive := List.length_pos_of_ne_nil nonempty
          have shorter := (List.dropWhile_suffix drops (l := rest)).length_le
          simp only [List.length_append] at enough
          have later := ih (rest.dropWhile drops) (by omega)
          have longest : LongestRun drops (rest.takeWhile drops) (rest.dropWhile drops) :=
            longestRun_split rest
          rw [← List.takeWhile_append_dropWhile (p := drops) (l := rest)] at first
          have replaced := RunsReplaced.next first longest later
          rw [List.takeWhile_append_dropWhile] at replaced
          simp only [after, List.take_left]
          exact replaced

end Scan
