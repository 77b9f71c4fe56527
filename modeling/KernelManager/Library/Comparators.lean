import Mathlib.Order.Compare

/-!
Comparators that are antisymmetric and tell unequal elements apart: transitivity fails exactly at
a cycle, and where the cycles of two ways to build a comparator are.
-/

namespace Comparing

variable {Element Key : Type*} (cmp : Element → Element → Ordering)

def Cycle (first second third : Element) : Prop :=
  cmp first second = .lt ∧ cmp second third = .lt ∧ cmp third first = .lt

variable {cmp}

theorem Cycle.rotate {first second third : Element} (cycle : Cycle cmp first second third) :
    Cycle cmp second third first :=
  ⟨cycle.2.1, cycle.2.2, cycle.1⟩

theorem gt_iff [Std.OrientedCmp cmp] {left right : Element} :
    cmp left right = .gt ↔ cmp right left = .lt := by
  have swapped : cmp left right = (cmp right left).swap := Std.OrientedCmp.eq_swap
  rw [swapped]
  cases cmp right left <;> simp

theorem ne_gt_iff [Std.OrientedCmp cmp] [Std.LawfulEqCmp cmp] {left right : Element} :
    cmp left right ≠ .gt ↔ cmp left right = .lt ∨ left = right := by
  have same : cmp left right = .eq ↔ left = right := Std.LawfulEqCmp.compare_eq_iff_eq
  rw [← same]
  cases cmp left right <;> simp

theorem trans_iff [Std.OrientedCmp cmp] [Std.LawfulEqCmp cmp] (first second third : Element) :
    (cmp first second ≠ .gt → cmp second third ≠ .gt → cmp first third ≠ .gt) ↔
      ¬Cycle cmp first second third := by
  constructor
  · rintro trans ⟨lower, upper, back⟩
    exact trans (by simp [lower]) (by simp [upper]) (gt_iff.mpr back)
  · intro acyclic lower upper above
    have back : cmp third first = .lt := gt_iff.mp above
    rcases ne_gt_iff.mp lower with lower | rfl
    · rcases ne_gt_iff.mp upper with upper | rfl
      · exact acyclic ⟨lower, upper, back⟩
      · rw [gt_iff.mpr back] at lower
        cases lower
    · exact upper (gt_iff.mpr back)

theorem not_cycle [Std.TransCmp cmp] (first second third : Element) :
    ¬Cycle cmp first second third := by
  rintro ⟨lower, upper, back⟩
  have above : cmp first third = .lt := Std.TransCmp.lt_trans lower upper
  rw [gt_iff.mpr back] at above
  cases above

theorem lt_asymm [Std.OrientedCmp cmp] {left right : Element} (below : cmp left right = .lt) :
    cmp right left ≠ .lt := by
  intro above
  rw [gt_iff.mpr above] at below
  cases below

/-! A list of elements, compared at the first place that differs. -/

theorem compareLex_shared [Std.ReflCmp cmp] (shared left right : List Element) :
    List.compareLex cmp (shared ++ left) (shared ++ right) = List.compareLex cmp left right := by
  induction shared with
  | nil => rfl
  | cons element shared ih =>
      have same : cmp element element = .eq := Std.ReflCmp.compare_self
      rw [List.cons_append, List.cons_append, List.compareLex_cons_cons, same, Ordering.eq_then, ih]

theorem not_compareLex_nil (elements : List Element) :
    List.compareLex cmp elements [] ≠ .lt := by
  cases elements with
  | nil => simp [List.compareLex_nil_nil]
  | cons element elements => simp [List.compareLex_cons_nil]

theorem compareLex_cons_lt [Std.LawfulEqCmp cmp] {left right : Element}
    {lefts rights : List Element} :
    List.compareLex cmp (left :: lefts) (right :: rights) = .lt ↔
      cmp left right = .lt ∨ left = right ∧ List.compareLex cmp lefts rights = .lt := by
  rw [List.compareLex_cons_cons, Ordering.then_eq_lt, Std.LawfulEqCmp.compare_eq_iff_eq]

theorem compareLex_cycle_cons [Std.OrientedCmp cmp] [Std.LawfulEqCmp cmp] {x y z : Element}
    {xs ys zs : List Element} :
    Cycle (List.compareLex cmp) (x :: xs) (y :: ys) (z :: zs) ↔
      Cycle cmp x y z ∨ (x = y ∧ y = z) ∧ Cycle (List.compareLex cmp) xs ys zs := by
  constructor
  · rintro ⟨lower, upper, back⟩
    rw [compareLex_cons_lt] at lower upper back
    rcases lower with lower | ⟨rfl, lower⟩
    · rcases upper with upper | ⟨rfl, _⟩
      · rcases back with back | ⟨rfl, _⟩
        · exact Or.inl ⟨lower, upper, back⟩
        · exact absurd upper (lt_asymm lower)
      · rcases back with back | ⟨rfl, _⟩
        · exact absurd back (lt_asymm lower)
        · exact absurd lower (lt_asymm lower)
    · rcases upper with upper | ⟨rfl, upper⟩
      · rcases back with back | ⟨rfl, _⟩
        · exact absurd back (lt_asymm upper)
        · exact absurd upper (lt_asymm upper)
      · rcases back with back | ⟨_, back⟩
        · exact absurd back (lt_asymm back)
        · exact Or.inr ⟨⟨rfl, rfl⟩, lower, upper, back⟩
  · simp only [Cycle, compareLex_cons_lt]
    rintro (⟨lower, upper, back⟩ | ⟨⟨rfl, rfl⟩, lower, upper, back⟩)
    · exact ⟨Or.inl lower, Or.inl upper, Or.inl back⟩
    · exact ⟨Or.inr ⟨rfl, lower⟩, Or.inr ⟨rfl, upper⟩, Or.inr ⟨rfl, back⟩⟩

/-- The elements that turn the lists around stand at one place, behind a shared front. -/
theorem compareLex_cycle [Std.OrientedCmp cmp] [Std.LawfulEqCmp cmp]
    (first second third : List Element) :
    Cycle (List.compareLex cmp) first second third ↔
      ∃ shared x xs y ys z zs, first = shared ++ x :: xs ∧ second = shared ++ y :: ys ∧
        third = shared ++ z :: zs ∧ Cycle cmp x y z := by
  constructor
  · intro cycle
    induction first generalizing second third with
    | nil => exact absurd cycle.2.2 (not_compareLex_nil third)
    | cons x first ih =>
        cases second with
        | nil => exact absurd cycle.1 (not_compareLex_nil (x :: first))
        | cons y second =>
            cases third with
            | nil => exact absurd cycle.2.1 (not_compareLex_nil (y :: second))
            | cons z third =>
                rcases compareLex_cycle_cons.mp cycle with heads | ⟨⟨rfl, rfl⟩, rest⟩
                · exact ⟨[], x, first, y, second, z, third, rfl, rfl, rfl, heads⟩
                · obtain ⟨shared, x, xs, y, ys, z, zs, rfl, rfl, rfl, heads⟩ :=
                    ih second third rest
                  exact ⟨_ :: shared, x, xs, y, ys, z, zs, rfl, rfl, rfl, heads⟩
  · rintro ⟨shared, x, xs, y, ys, z, zs, rfl, rfl, rfl, heads⟩
    simp only [Cycle, compareLex_shared]
    exact compareLex_cycle_cons.mpr (Or.inl heads)

/-! A spelling order, overruled where both elements have a key. -/

section Keys

variable [Ord Element] [Ord Key] (key : Element → Option Key)

def compareKeyed (left right : Element) : Ordering :=
  match key left, key right with
  | some leftKey, some rightKey => (compare leftKey rightKey).then (compare left right)
  | _, _ => compare left right

variable {key}

theorem compareKeyed_both {left right : Element} {leftKey rightKey : Key}
    (hasLeft : key left = some leftKey) (hasRight : key right = some rightKey) :
    compareKeyed key left right = (compare leftKey rightKey).then (compare left right) := by
  rw [compareKeyed, hasLeft, hasRight]

theorem compareKeyed_left {left right : Element} (lacks : key left = none) :
    compareKeyed key left right = compare left right := by
  rw [compareKeyed, lacks]

theorem compareKeyed_right {left right : Element} (lacks : key right = none) :
    compareKeyed key left right = compare left right := by
  rw [compareKeyed, lacks]
  cases key left <;> rfl

variable (key)

instance [Std.OrientedOrd Element] [Std.OrientedOrd Key] :
    Std.OrientedCmp (compareKeyed key) where
  eq_swap {left right} := by
    have elements : compare left right = (compare right left).swap := Std.OrientedCmp.eq_swap
    cases hasLeft : key left with
    | none => rw [compareKeyed_left hasLeft, compareKeyed_right hasLeft, elements]
    | some leftKey =>
        cases hasRight : key right with
        | none => rw [compareKeyed_right hasRight, compareKeyed_left hasRight, elements]
        | some rightKey =>
            have keys : compare leftKey rightKey = (compare rightKey leftKey).swap :=
              Std.OrientedCmp.eq_swap
            rw [compareKeyed_both hasLeft hasRight, compareKeyed_both hasRight hasLeft,
              Ordering.swap_then, elements, keys]

instance [Std.LawfulEqOrd Element] [Std.ReflOrd Key] : Std.LawfulEqCmp (compareKeyed key) where
  compare_self {element} := by
    have same : compare element element = .eq := Std.ReflCmp.compare_self
    cases has : key element with
    | none => rw [compareKeyed_left has, same]
    | some own =>
        have sameKey : compare own own = .eq := Std.ReflCmp.compare_self
        rw [compareKeyed_both has has, sameKey, same]
        rfl
  eq_of_compare {left right} ties := by
    apply Std.LawfulEqOrd.eq_of_compare
    cases hasLeft : key left with
    | none => rwa [compareKeyed_left hasLeft] at ties
    | some leftKey =>
        cases hasRight : key right with
        | none => rwa [compareKeyed_right hasRight] at ties
        | some rightKey =>
            rw [compareKeyed_both hasLeft hasRight, Ordering.then_eq_eq] at ties
            exact ties.2

def Knot (low high outsider : Element) : Prop :=
  (∃ lowKey highKey, key low = some lowKey ∧ key high = some highKey ∧
    compare lowKey highKey = .lt) ∧
  key outsider = none ∧ compare high outsider = .lt ∧ compare outsider low = .lt

theorem Knot.cycle {low high outsider : Element} (knot : Knot key low high outsider) :
    Cycle (compareKeyed key) low high outsider := by
  obtain ⟨⟨lowKey, highKey, hasLow, hasHigh, keys⟩, lacks, above, below⟩ := knot
  refine ⟨?_, ?_, ?_⟩
  · rw [compareKeyed_both hasLow hasHigh, keys]
    rfl
  · rw [compareKeyed_right lacks, above]
  · rw [compareKeyed_left lacks, below]

variable [Std.TransOrd Element]

theorem knot_of_cycle {low high outsider : Element} (lacks : key outsider = none)
    (cycle : Cycle (compareKeyed key) low high outsider) : Knot key low high outsider := by
  obtain ⟨lower, above, below⟩ := cycle
  rw [compareKeyed_right lacks] at above
  rw [compareKeyed_left lacks] at below
  have spelled : compare high low = .lt := Std.TransCmp.lt_trans above below
  have unspelled : compare low high ≠ .lt := lt_asymm spelled
  refine ⟨?_, lacks, above, below⟩
  cases hasLow : key low with
  | none => exact absurd (compareKeyed_left hasLow ▸ lower) unspelled
  | some lowKey =>
      cases hasHigh : key high with
      | none => exact absurd (compareKeyed_right hasHigh ▸ lower) unspelled
      | some highKey =>
          rw [compareKeyed_both hasLow hasHigh, Ordering.then_eq_lt] at lower
          exact ⟨lowKey, highKey, rfl, rfl, lower.resolve_right fun tied => unspelled tied.2⟩

theorem compareKeyed_cycle [Std.TransOrd Key] (first second third : Element) :
    Cycle (compareKeyed key) first second third ↔
      Knot key first second third ∨ Knot key second third first ∨ Knot key third first second := by
  constructor
  · intro cycle
    cases hasThird : key third with
    | none => exact .inl (knot_of_cycle key hasThird cycle)
    | some thirdKey =>
        cases hasFirst : key first with
        | none => exact .inr (.inl (knot_of_cycle key hasFirst cycle.rotate))
        | some firstKey =>
            cases hasSecond : key second with
            | none => exact .inr (.inr (knot_of_cycle key hasSecond cycle.rotate.rotate))
            | some secondKey =>
                -- With keys everywhere, this is the lexicographic order on key and element.
                have acyclic :
                    ¬Cycle (compareLex (compareOn Prod.fst) (compareOn Prod.snd))
                      (firstKey, first) (secondKey, second) (thirdKey, third) :=
                  not_cycle _ _ _
                obtain ⟨lower, upper, back⟩ := cycle
                rw [compareKeyed_both hasFirst hasSecond] at lower
                rw [compareKeyed_both hasSecond hasThird] at upper
                rw [compareKeyed_both hasThird hasFirst] at back
                exact absurd ⟨lower, upper, back⟩ acyclic
  · rintro (knot | knot | knot)
    · exact knot.cycle
    · exact knot.cycle.rotate.rotate
    · exact knot.cycle.rotate

end Keys

end Comparing
