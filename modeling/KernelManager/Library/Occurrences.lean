import KernelManager.Library.Scan

/-!
The pieces of a text between the occurrences of a pattern, and what is left of the text when the
occurrences are taken out.
-/

namespace Scan

variable {Symbol : Type*} {pattern : List Symbol}

/-- The pieces between the occurrences that are found from the left, none of which overlaps the
one before it. -/
inductive Pieces (pattern : List Symbol) : List Symbol → List (List Symbol) → Prop
  | last {text} (absent : ¬pattern <:+: text) : Pieces pattern text [text]
  | next {front rest pieces}
      (first : FirstAt pattern (front ++ (pattern ++ rest)) front.length)
      (later : Pieces pattern rest pieces) :
      Pieces pattern (front ++ (pattern ++ rest)) (front :: pieces)

/-- Nothing but the whole pattern both begins and ends it. -/
def Unbordered (pattern : List Symbol) : Prop :=
  ∀ border, border ≠ [] → border <+: pattern → border <:+ pattern → border = pattern

def Interrupted (pattern text : List Symbol) : Prop :=
  ∃ first middle last, first ≠ [] ∧ last ≠ [] ∧ first ++ (middle.flatten ++ last) = pattern ∧
    pattern.intercalate (first :: (middle ++ [last])) <:+: text

/-- The text is the base with the pattern written into it, any number of times, also into an
occurrence that was written before. -/
inductive Woven (pattern base : List Symbol) : List Symbol → Prop
  | bare : Woven pattern base base
  | insert {front back} (woven : Woven pattern base (front ++ back)) :
      Woven pattern base (front ++ (pattern ++ back))

theorem unbordered_of_head (first : Symbol) (rest : List Symbol) (once : first ∉ rest) :
    Unbordered (first :: rest) := by
  intro border nonempty begins ends
  obtain ⟨symbol, others, rfl⟩ := List.exists_cons_of_ne_nil nonempty
  obtain ⟨rfl, _⟩ := List.cons_prefix_cons.mp begins
  rcases List.suffix_cons_iff.mp ends with whole | inside
  · exact whole
  · exact absurd (inside.subset List.mem_cons_self) once

theorem FirstAt.absent_before {front rest : List Symbol} (nonempty : pattern ≠ [])
    (first : FirstAt pattern (front ++ rest) front.length) : ¬pattern <:+: front := by
  rintro ⟨before, after, rfl⟩
  have positive := List.length_pos_of_ne_nil nonempty
  apply first.2 before.length
  · simp only [List.length_append]
    omega
  · rw [List.append_assoc, List.append_assoc, List.drop_left]
    exact List.prefix_append pattern _

theorem FirstAt.congr_behind {front rest : List Symbol}
    (first : FirstAt pattern (front ++ (pattern ++ rest)) front.length) (other : List Symbol) :
    FirstAt pattern (front ++ (pattern ++ other)) front.length := by
  constructor
  · rw [List.drop_left]
    exact List.prefix_append pattern other
  · intro earlier before leads
    apply first.2 earlier before
    have whole : ∀ behind, (front ++ (pattern ++ behind)).drop earlier =
        front.drop earlier ++ pattern ++ behind := by
      intro behind
      rw [List.drop_append_of_le_length (Nat.le_of_lt before), List.append_assoc]
    rw [whole] at leads ⊢
    have inside : pattern <+: front.drop earlier ++ pattern :=
      List.prefix_of_prefix_length_le leads (List.prefix_append _ other) (by simp)
    exact inside.trans (List.prefix_append _ rest)

theorem Unbordered.firstAt (unbordered : Unbordered pattern) (front rest : List Symbol)
    (absent : ¬pattern <:+: front) :
    FirstAt pattern (front ++ (pattern ++ rest)) front.length := by
  constructor
  · rw [List.drop_left]
    exact List.prefix_append pattern rest
  · intro earlier before leads
    rw [List.drop_append_of_le_length (Nat.le_of_lt before)] at leads
    have behind : front.drop earlier ≠ [] := by
      rw [ne_eq, List.drop_eq_nil_iff]
      omega
    rcases List.prefix_or_prefix_of_prefix leads (List.prefix_append _ _) with inside | beyond
    · exact absent (inside.isInfix.trans (List.drop_suffix earlier front).isInfix)
    · obtain ⟨border, spelled⟩ := beyond
      have follows : border <+: pattern ++ rest := by
        rw [← List.prefix_append_right_inj (front.drop earlier), spelled]
        exact leads
      have short := congrArg List.length spelled
      rw [List.length_append] at short
      have begins : border <+: pattern :=
        List.prefix_of_prefix_length_le follows (List.prefix_append _ rest) (by omega)
      by_cases empty : border = []
      · rw [empty, List.append_nil] at spelled
        exact absent (spelled ▸ (List.drop_suffix earlier front).isInfix)
      · have whole := unbordered border empty begins ⟨_, spelled⟩
        rw [whole] at spelled
        exact behind (List.append_left_eq_self.mp spelled)

theorem Unbordered.absent_append (unbordered : Unbordered pattern) {text first : List Symbol}
    (absent : ¬pattern <:+: text) (begins : first <+: pattern) (proper : first ≠ pattern) :
    ¬pattern <:+: text ++ first := by
  intro occurs
  rcases List.infix_append_iff_ne_nil.mp occurs with
    inside | inside | ⟨front, border, nonempty, some, spelled, _, ends⟩
  · exact absent inside
  · exact proper (begins.eq_of_length_le inside.length_le)
  · have whole := unbordered border some (ends.trans begins) ⟨front, spelled.symm⟩
    rw [whole] at spelled
    exact nonempty (List.append_left_eq_self.mp spelled.symm)

theorem Unbordered.absent_append_left (unbordered : Unbordered pattern)
    {last text : List Symbol} (absent : ¬pattern <:+: text) (ends : last <:+ pattern)
    (proper : last ≠ pattern) : ¬pattern <:+: last ++ text := by
  intro occurs
  rcases List.infix_append_iff_ne_nil.mp occurs with
    inside | inside | ⟨border, back, some, nonempty, spelled, begins, _⟩
  · exact proper (ends.eq_of_length_le inside.length_le)
  · exact absent inside
  · have whole := unbordered border some ⟨back, spelled.symm⟩ (begins.trans ends)
    rw [whole] at spelled
    exact nonempty (List.append_right_eq_self.mp spelled.symm)

theorem intercalate_append (separator : List Symbol) (left right : List (List Symbol))
    (leftSome : left ≠ []) (rightSome : right ≠ []) :
    separator.intercalate (left ++ right) =
      separator.intercalate left ++ (separator ++ separator.intercalate right) := by
  induction left with
  | nil => exact absurd rfl leftSome
  | cons first left ih =>
      rw [List.cons_append]
      by_cases alone : left = []
      · rw [alone, List.nil_append, List.intercalate_cons_of_ne_nil rightSome,
          List.intercalate_singleton, List.append_assoc]
      · rw [List.intercalate_cons_of_ne_nil (by simp [alone]), ih alone,
          List.intercalate_cons_of_ne_nil alone]
        simp only [List.append_assoc]

theorem intercalate_append_cons (separator front first : List Symbol)
    (pieces : List (List Symbol)) :
    separator.intercalate ((front ++ first) :: pieces) =
      front ++ separator.intercalate (first :: pieces) := by
  by_cases alone : pieces = []
  · rw [alone, List.intercalate_singleton, List.intercalate_singleton]
  · rw [List.intercalate_cons_of_ne_nil alone, List.intercalate_cons_of_ne_nil alone]
    simp only [List.append_assoc]

theorem intercalate_meet (separator front first : List Symbol)
    (before after : List (List Symbol)) :
    separator.intercalate (before ++ [front]) ++ separator.intercalate (first :: after) =
      separator.intercalate (before ++ (front ++ first) :: after) := by
  by_cases alone : before = []
  · rw [alone, List.nil_append, List.nil_append, List.intercalate_singleton,
      intercalate_append_cons]
  · rw [intercalate_append _ before _ alone (List.cons_ne_nil _ _),
      intercalate_append _ before _ alone (List.cons_ne_nil _ _), List.intercalate_singleton,
      intercalate_append_cons]
    simp only [List.append_assoc]

theorem intercalate_nil_separator (pieces : List (List Symbol)) :
    ([] : List Symbol).intercalate pieces = pieces.flatten := by
  induction pieces with
  | nil => rfl
  | cons first pieces ih =>
      by_cases alone : pieces = []
      · rw [alone, List.intercalate_singleton, List.flatten_singleton]
      · rw [List.intercalate_cons_of_ne_nil alone, ih, List.append_nil, List.flatten_cons]

theorem prefix_flatten (pieces : List (List Symbol)) (word : List Symbol) (some : word ≠ [])
    (leads : word <+: pieces.flatten) :
    ∃ middle last back after, pieces = middle ++ (last ++ back) :: after ∧ last ≠ [] ∧
      middle.flatten ++ last = word := by
  induction pieces generalizing word with
  | nil => exact absurd (List.prefix_nil.mp leads) some
  | cons piece pieces ih =>
      rw [List.flatten_cons] at leads
      rcases List.prefix_or_prefix_of_prefix leads (List.prefix_append piece _) with
        ⟨back, spelled⟩ | ⟨rest, spelled⟩
      · exact ⟨[], word, back, pieces, by rw [spelled]; rfl, some, rfl⟩
      · by_cases whole : rest = []
        · rw [whole, List.append_nil] at spelled
          exact ⟨[], word, [], pieces, by rw [List.append_nil, spelled]; rfl, some, rfl⟩
        · rw [← spelled, List.prefix_append_right_inj] at leads
          obtain ⟨middle, last, back, after, rfl, ends, rfl⟩ := ih rest whole leads
          refine ⟨piece :: middle, last, back, after, rfl, ends, ?_⟩
          rw [List.flatten_cons, List.append_assoc, spelled]

theorem infix_flatten (pieces : List (List Symbol)) (nonempty : pattern ≠ [])
    (absent : ∀ piece ∈ pieces, ¬pattern <:+: piece) (occurs : pattern <:+: pieces.flatten) :
    ∃ before front first middle last back after,
      pieces = before ++ (front ++ first) :: (middle ++ (last ++ back) :: after) ∧
        first ≠ [] ∧ last ≠ [] ∧ first ++ (middle.flatten ++ last) = pattern := by
  induction pieces with
  | nil => exact absurd (List.infix_nil.mp occurs) nonempty
  | cons piece pieces ih =>
      rw [List.forall_mem_cons] at absent
      rw [List.flatten_cons] at occurs
      rcases List.infix_append_iff_ne_nil.mp occurs with
        inside | later | ⟨first, rest, firstSome, restSome, rfl, ⟨front, rfl⟩, follows⟩
      · exact absurd inside absent.1
      · obtain ⟨before, front, first, middle, last, back, after, rfl, ends⟩ := ih absent.2 later
        exact ⟨piece :: before, front, first, middle, last, back, after, rfl, ends⟩
      · obtain ⟨middle, last, back, after, rfl, lastSome, rfl⟩ :=
          prefix_flatten pieces rest restSome follows
        exact ⟨[], front, first, middle, last, back, after, rfl, firstSome, lastSome, rfl⟩

namespace Pieces

variable {text : List Symbol} {pieces : List (List Symbol)}

theorem ne_nil (cut : Pieces pattern text pieces) : pieces ≠ [] := by
  cases cut with
  | last absent => exact List.cons_ne_nil _ _
  | next first later => exact List.cons_ne_nil _ _

theorem spelled (cut : Pieces pattern text pieces) : pattern.intercalate pieces = text := by
  induction cut with
  | last absent => exact List.intercalate_singleton
  | next first later ih =>
      rw [List.intercalate_cons_of_ne_nil later.ne_nil, ih, List.append_assoc]

theorem absent (cut : Pieces pattern text pieces) (nonempty : pattern ≠ []) :
    ∀ piece ∈ pieces, ¬pattern <:+: piece := by
  induction cut with
  | last absent =>
      intro piece member
      rw [List.mem_singleton.mp member]
      exact absent
  | next first later ih =>
      rw [List.forall_mem_cons]
      exact ⟨first.absent_before nonempty, ih⟩

theorem of_intercalate (unbordered : Unbordered pattern) (some : pieces ≠ [])
    (absent : ∀ piece ∈ pieces, ¬pattern <:+: piece) :
    Pieces pattern (pattern.intercalate pieces) pieces := by
  induction pieces with
  | nil => exact absurd rfl some
  | cons front pieces ih =>
      rw [List.forall_mem_cons] at absent
      by_cases alone : pieces = []
      · rw [alone, List.intercalate_singleton]
        exact .last absent.1
      · rw [List.intercalate_cons_of_ne_nil alone, List.append_assoc]
        exact .next (unbordered.firstAt front _ absent.1) (ih alone absent.2)

end Pieces

theorem Pieces.interrupted {text : List Symbol} {pieces : List (List Symbol)}
    (nonempty : pattern ≠ []) (cut : Pieces pattern text pieces)
    (occurs : pattern <:+: pieces.flatten) : Interrupted pattern text := by
  obtain ⟨before, front, first, middle, last, back, after, rfl, firstSome, lastSome, whole⟩ :=
    infix_flatten pieces nonempty (cut.absent nonempty) occurs
  refine ⟨first, middle, last, firstSome, lastSome, whole, ?_⟩
  -- The parts of the pattern and what is between them, with the pieces around them, are the text.
  have inner : pattern.intercalate (first :: (middle ++ [last])) ++
      pattern.intercalate (back :: after) =
        pattern.intercalate (first :: (middle ++ (last ++ back) :: after)) :=
    intercalate_meet pattern last back (first :: middle) after
  have outer := intercalate_meet pattern front first before (middle ++ (last ++ back) :: after)
  rw [cut.spelled, ← inner] at outer
  exact ⟨_, _, (List.append_assoc _ _ _).trans outer⟩

theorem Unbordered.absent_interrupted (unbordered : Unbordered pattern)
    {before middle after : List (List Symbol)} {front first last back : List Symbol}
    (firstSome : first ≠ []) (lastSome : last ≠ [])
    (whole : first ++ (middle.flatten ++ last) = pattern)
    (leftAbsent : ∀ piece ∈ before ++ [front], ¬pattern <:+: piece)
    (rightAbsent : ∀ piece ∈ back :: after, ¬pattern <:+: piece) :
    ∀ piece ∈ before ++ (front ++ first) :: (middle ++ (last ++ back) :: after),
      ¬pattern <:+: piece := by
  have sizes := congrArg List.length whole
  have firstSize := List.length_pos_of_ne_nil firstSome
  have lastSize := List.length_pos_of_ne_nil lastSome
  simp only [List.length_append] at sizes
  rw [List.forall_mem_append, List.forall_mem_singleton] at leftAbsent
  rw [List.forall_mem_cons] at rightAbsent
  rw [List.forall_mem_append, List.forall_mem_cons, List.forall_mem_append, List.forall_mem_cons]
  refine ⟨leftAbsent.1, ?_, ?_, ?_, rightAbsent.2⟩
  · apply unbordered.absent_append leftAbsent.2 ⟨_, whole⟩
    intro same
    rw [← same] at sizes
    omega
  · intro piece member occurs
    have short := (List.sublist_flatten_of_mem member).length_le
    have long := occurs.length_le
    omega
  · apply unbordered.absent_append_left rightAbsent.1
    · exact ⟨first ++ middle.flatten, by rw [List.append_assoc, whole]⟩
    · intro same
      rw [← same] at sizes
      omega

theorem Woven.mem_iff {base text : List Symbol} (woven : Woven pattern base text) (symbol : Symbol)
    (absent : symbol ∉ pattern) : symbol ∈ text ↔ symbol ∈ base := by
  induction woven with
  | bare => exact Iff.rfl
  | insert _ ih =>
      rw [← ih]
      simp only [List.mem_append, absent, false_or]

section

variable [DecidableEq Symbol]

theorem find_split {text : List Symbol} {position : Nat} (nonempty : pattern ≠ [])
    (found : find pattern text = some position) :
    ∃ front rest, text = front ++ (pattern ++ rest) ∧ front.length = position ∧
      FirstAt pattern (front ++ (pattern ++ rest)) front.length := by
  have first := (find_eq_some_iff pattern text position).mp found
  have fits := find_fits pattern text position (List.length_pos_of_ne_nil nonempty) found
  obtain ⟨rest, behind⟩ := first.1
  have whole : text.take position ++ (pattern ++ rest) = text := by
    rw [behind, List.take_append_drop]
  have reached : (text.take position).length = position := List.length_take_of_le (by omega)
  refine ⟨text.take position, rest, whole.symm, reached, ?_⟩
  rw [whole, reached]
  exact first

theorem find_firstAt {front rest : List Symbol}
    (first : FirstAt pattern (front ++ (pattern ++ rest)) front.length) :
    find pattern (front ++ (pattern ++ rest)) = some front.length :=
  (find_eq_some_iff _ _ _).mpr first

theorem exists_pieces (nonempty : pattern ≠ []) (text : List Symbol) :
    ∃ pieces, Pieces pattern text pieces := by
  generalize size : text.length = length
  induction length using Nat.strongRecOn generalizing text with
  | ind length ih =>
      cases found : find pattern text with
      | none => exact ⟨[text], .last ((find_eq_none_iff pattern text).mp found)⟩
      | some position =>
          obtain ⟨front, rest, rfl, _, first⟩ := find_split nonempty found
          have positive := List.length_pos_of_ne_nil nonempty
          simp only [List.length_append] at size
          obtain ⟨pieces, later⟩ := ih rest.length (by omega) rest rfl
          exact ⟨front :: pieces, .next first later⟩

theorem Interrupted.pieces (unbordered : Unbordered pattern) {text : List Symbol}
    (interrupted : Interrupted pattern text) :
    ∃ pieces, Pieces pattern text pieces ∧ pattern <:+: pieces.flatten := by
  obtain ⟨first, middle, last, firstSome, lastSome, whole, left, right, spelled⟩ := interrupted
  have nonempty : pattern ≠ [] := by
    rw [← whole]
    simp [firstSome]
  obtain ⟨leftPieces, leftCut⟩ := exists_pieces nonempty left
  obtain ⟨rightPieces, rightCut⟩ := exists_pieces nonempty right
  obtain ⟨before, front, rfl⟩ := List.eq_nil_or_concat leftPieces |>.resolve_left leftCut.ne_nil
  obtain ⟨back, after, rfl⟩ := List.exists_cons_of_ne_nil rightCut.ne_nil
  rw [List.concat_eq_append] at leftCut
  have absent := unbordered.absent_interrupted firstSome lastSome whole (leftCut.absent nonempty)
    (rightCut.absent nonempty)
  have inner := intercalate_meet pattern last back (first :: middle) after
  have outer := intercalate_meet pattern front first before (middle ++ (last ++ back) :: after)
  refine ⟨before ++ (front ++ first) :: (middle ++ (last ++ back) :: after), ?_, ?_⟩
  · have joined : pattern.intercalate
        (before ++ (front ++ first) :: (middle ++ (last ++ back) :: after)) = text := by
      rw [← outer, ← spelled, leftCut.spelled, List.append_assoc, ← rightCut.spelled]
      exact congrArg (left ++ ·) inner.symm
    rw [← joined]
    exact Pieces.of_intercalate unbordered (by simp) absent
  · refine ⟨before.flatten ++ front, back ++ after.flatten, ?_⟩
    rw [← whole]
    simp only [List.flatten_append, List.flatten_cons, List.append_assoc]

theorem replaceAll_absent (replacement text : List Symbol) (absent : ¬pattern <:+: text) :
    replaceAll pattern replacement 0 text = text := by
  induction text with
  | nil => rfl
  | cons symbol text ih =>
      rw [List.infix_cons_iff, not_or, ← List.isPrefixOf_iff_prefix] at absent
      rw [replaceAll, if_neg absent.1, ih absent.2]

theorem replaceAll_skip (replacement before text : List Symbol) :
    replaceAll pattern replacement before.length (before ++ text) =
      replaceAll pattern replacement 0 text := by
  induction before with
  | nil => rfl
  | cons symbol before ih => exact ih

theorem replaceAll_first (replacement : List Symbol) {front rest : List Symbol}
    (nonempty : pattern ≠ [])
    (first : FirstAt pattern (front ++ (pattern ++ rest)) front.length) :
    replaceAll pattern replacement 0 (front ++ (pattern ++ rest)) =
      front ++ (replacement ++ replaceAll pattern replacement 0 rest) := by
  induction front with
  | nil =>
      obtain ⟨symbol, others, rfl⟩ := List.exists_cons_of_ne_nil nonempty
      have here : (symbol :: others).isPrefixOf (symbol :: (others ++ rest)) = true :=
        List.isPrefixOf_iff_prefix.mpr (List.prefix_append _ rest)
      rw [List.nil_append, List.cons_append, replaceAll, if_pos here, List.length_cons,
        Nat.add_sub_cancel, replaceAll_skip, List.nil_append]
  | cons symbol front ih =>
      have notHere : ¬pattern.isPrefixOf (symbol :: (front ++ (pattern ++ rest))) = true := by
        rw [List.isPrefixOf_iff_prefix]
        exact first.2 0 (Nat.zero_lt_succ _)
      have later : FirstAt pattern (front ++ (pattern ++ rest)) front.length :=
        ⟨first.1, fun earlier before => first.2 (earlier + 1) (Nat.succ_lt_succ before)⟩
      rw [List.cons_append, replaceAll, if_neg notHere, ih later, List.cons_append]

theorem Pieces.replaceAll_eq {text : List Symbol} {pieces : List (List Symbol)}
    (nonempty : pattern ≠ []) (replacement : List Symbol) (cut : Pieces pattern text pieces) :
    replaceAll pattern replacement 0 text = replacement.intercalate pieces := by
  induction cut with
  | last absent => rw [replaceAll_absent replacement _ absent, List.intercalate_singleton]
  | next first later ih =>
      rw [replaceAll_first replacement nonempty first, ih,
        List.intercalate_cons_of_ne_nil later.ne_nil, List.append_assoc]

/-- A single pass leaves an occurrence exactly where one is interrupted by others. -/
theorem replaceAll_infix_iff (unbordered : Unbordered pattern) (nonempty : pattern ≠ [])
    (text : List Symbol) :
    pattern <:+: replaceAll pattern [] 0 text ↔ Interrupted pattern text := by
  constructor
  · intro occurs
    obtain ⟨pieces, cut⟩ := exists_pieces nonempty text
    rw [cut.replaceAll_eq nonempty [], intercalate_nil_separator] at occurs
    exact cut.interrupted nonempty occurs
  · intro interrupted
    obtain ⟨pieces, cut, occurs⟩ := interrupted.pieces unbordered
    rw [cut.replaceAll_eq nonempty [], intercalate_nil_separator]
    exact occurs

theorem CutsTo.unique {text left right : List Symbol} (first : CutsTo pattern text left)
    (second : CutsTo pattern text right) : left = right := by
  induction first with
  | done absent =>
      cases second with
      | done _ => rfl
      | cut found _ =>
          rw [absent] at found
          cases found
  | cut found rest ih =>
      cases second with
      | done absent =>
          rw [absent] at found
          cases found
      | cut again other =>
          obtain rfl := Option.some.inj (found.symm.trans again)
          exact ih other

theorem cutsTo_flatten (unbordered : Unbordered pattern) (front : List Symbol)
    (pieces : List (List Symbol)) (absent : ¬pattern <:+: (front :: pieces).flatten) :
    CutsTo pattern (pattern.intercalate (front :: pieces)) (front :: pieces).flatten := by
  induction pieces generalizing front with
  | nil =>
      rw [List.flatten_singleton] at absent ⊢
      rw [List.intercalate_singleton]
      exact .done ((find_eq_none_iff pattern front).mpr absent)
  | cons next pieces ih =>
      have missing : ¬pattern <:+: front := by
        intro occurs
        exact absent (occurs.trans List.infix_append_left)
      have found := find_firstAt (unbordered.firstAt front (pattern.intercalate (next :: pieces))
        missing)
      have later := ih (front ++ next) (by simpa using absent)
      rw [List.intercalate_cons_of_ne_nil (List.cons_ne_nil next pieces), List.append_assoc]
      apply CutsTo.cut found
      rw [List.take_left, ← List.drop_drop, List.drop_left, List.drop_left,
        ← intercalate_append_cons]
      simpa using later

theorem removeAll_eq_replaceAll (unbordered : Unbordered pattern) (nonempty : pattern ≠ [])
    (text : List Symbol) (clean : ¬pattern <:+: replaceAll pattern [] 0 text) :
    removeAll pattern text = replaceAll pattern [] 0 text := by
  obtain ⟨pieces, cut⟩ := exists_pieces nonempty text
  obtain ⟨front, rest, rfl⟩ := List.exists_cons_of_ne_nil cut.ne_nil
  rw [cut.replaceAll_eq nonempty [], intercalate_nil_separator] at clean ⊢
  have joined := cutsTo_flatten unbordered front rest clean
  rw [cut.spelled] at joined
  exact (removeAll_cutsTo pattern text (List.length_pos_of_ne_nil nonempty)).unique joined

theorem removeAll_first {front rest : List Symbol} (nonempty : pattern ≠ [])
    (first : FirstAt pattern (front ++ (pattern ++ rest)) front.length) :
    removeAll pattern (front ++ (pattern ++ rest)) = removeAll pattern (front ++ rest) := by
  have positive := List.length_pos_of_ne_nil nonempty
  apply (removeAll_cutsTo pattern _ positive).unique
  apply CutsTo.cut (find_firstAt first)
  rw [List.take_left, ← List.drop_drop, List.drop_left, List.drop_left]
  exact removeAll_cutsTo pattern (front ++ rest) positive

/-- It does not matter which occurrence is cut out first. -/
theorem removeAll_insert (unbordered : Unbordered pattern) (nonempty : pattern ≠ [])
    (front back : List Symbol) :
    removeAll pattern (front ++ (pattern ++ back)) = removeAll pattern (front ++ back) := by
  have positive := List.length_pos_of_ne_nil nonempty
  generalize size : front.length = length
  induction length using Nat.strongRecOn generalizing front with
  | ind length ih =>
      by_cases absent : pattern <:+: front
      · obtain ⟨position, found⟩ := Option.isSome_iff_exists.mp
          ((find_isSome_iff pattern front).mpr absent)
        obtain ⟨left, middle, rfl, _, first⟩ := find_split nonempty found
        -- The loop cuts the first occurrence out of both texts, which leaves a shorter front.
        have cut (behind : List Symbol) :
            removeAll pattern (left ++ (pattern ++ middle) ++ behind) =
              removeAll pattern (left ++ middle ++ behind) := by
          simp only [List.append_assoc]
          exact removeAll_first nonempty (first.congr_behind (middle ++ behind))
        simp only [List.length_append] at size
        have shorter := ih (left ++ middle).length (by rw [List.length_append]; omega)
          (left ++ middle) rfl
        rw [cut, cut, shorter]
      · exact removeAll_first nonempty (unbordered.firstAt front back absent)

theorem Woven.removeAll_eq (unbordered : Unbordered pattern) (nonempty : pattern ≠ [])
    {base text : List Symbol} (woven : Woven pattern base text) :
    removeAll pattern text = removeAll pattern base := by
  induction woven with
  | bare => rfl
  | insert _ ih => rw [removeAll_insert unbordered nonempty, ih]

theorem CutsTo.woven (nonempty : pattern ≠ []) {text result : List Symbol}
    (cuts : CutsTo pattern text result) : Woven pattern result text := by
  induction cuts with
  | done absent => exact .bare
  | cut found rest ih =>
      obtain ⟨front, behind, rfl, rfl, _⟩ := find_split nonempty found
      rw [List.take_left, ← List.drop_drop, List.drop_left, List.drop_left] at ih
      exact .insert ih

/-- The removal undoes exactly the writing of the pattern into a text without it. -/
theorem removeAll_eq_iff (unbordered : Unbordered pattern) (nonempty : pattern ≠ [])
    (text base : List Symbol) :
    removeAll pattern text = base ↔ ¬pattern <:+: base ∧ Woven pattern base text := by
  have positive := List.length_pos_of_ne_nil nonempty
  constructor
  · rintro rfl
    exact ⟨(find_eq_none_iff _ _).mp (removeAll_find pattern text positive),
      (removeAll_cutsTo pattern text positive).woven nonempty⟩
  · rintro ⟨absent, woven⟩
    rw [woven.removeAll_eq unbordered nonempty]
    exact (removeAll_cutsTo pattern base positive).unique
      (.done ((find_eq_none_iff pattern base).mpr absent))

end

end Scan
