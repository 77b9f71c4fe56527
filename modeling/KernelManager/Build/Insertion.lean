import KernelManager.Build.Pkgbuild
import KernelManager.Library.Utf8

/-!
The insertion into the PKGBUILD on the bytes of its text: where it stands, and that none of its
slices cuts a character.
-/

namespace KernelManager

def spliceIn (text marker : List Char) : Option (Nat × Nat) :=
  match Scan.find marker text with
  | none => none
  | some position =>
      (lastNewline (text.take (position + 1))).map fun index => (position, index)

def splicePoint (text marker : String) : Option (Nat × Nat) :=
  spliceIn text.toList marker.toList

def findBytes (text pattern : List Char) : Option Nat :=
  (Scan.find pattern text).map (Utf8.offset text)

def lastNewlineBytes (text : List Char) : Option Nat :=
  (lastNewline text).map (Utf8.offset text)

/-- The outer option is `none` if a slice of the text would panic. -/
def insertBeforeMarkerChanged (text marker insertion : String) :
    Option (Option (String × Bool)) :=
  match findBytes text.toList marker.toList with
  | none => some none
  | some markerPos =>
      match Utf8.splitAt (markerPos + 1) text.toList with
      | none => none
      | some (searched, _) =>
          match lastNewlineBytes searched with
          | none => some none
          | some lastNewline =>
              match Utf8.splitAt lastNewline text.toList with
              | none => none
              | some (before, after) =>
                  some (some (String.ofList (before ++ insertion.toList ++ after), true))

def insertBeforeMarkerBytes (text marker insertion : String) : Option String :=
  (insertBeforeMarkerChanged text marker insertion).map fun changed =>
    match changed with
    | some (out, _) => out
    | none => text

def Unanchored (text marker : String) : Prop :=
  ¬marker.toList <:+: text.toList ∨
    ∃ position, Scan.FirstAt marker.toList text.toList position ∧
      newline ∉ text.toList.take position

def Anchored (text marker before after : String) : Prop :=
  text = before ++ after ∧
    ∃ line rest, after.toList = newline :: line ++ rest ∧ newline ∉ line ∧
      Scan.FirstAt marker.toList text.toList (before.toList ++ newline :: line).length

theorem lastNewline_append (before line : List Char) (plain : newline ∉ line) :
    lastNewline (before ++ newline :: line) = some before.length :=
  Scan.findLast_append newline before line plain

theorem lastNewline_none (text : List Char) (plain : newline ∉ text) : lastNewline text = none :=
  Scan.findLast_none newline text plain

theorem lastNewline_lt (text : List Char) (index : Nat) (found : lastNewline text = some index) :
    index < text.length := by
  obtain ⟨before, line, rfl, _, rfl⟩ := Scan.findLast_split newline text index found
  simp

theorem insertBeforeMarker_splicePoint (text marker insertion : String) :
    insertBeforeMarker text marker insertion =
      match splicePoint text marker with
      | none => text
      | some (_, index) => String.ofList
          (text.toList.take index ++ insertion.toList ++ text.toList.drop index) := by
  unfold insertBeforeMarker splicePoint spliceIn
  cases Scan.find marker.toList text.toList with
  | none => rfl
  | some position =>
      cases found : lastNewline (text.toList.take (position + 1)) with
      | none => simp [found]
      | some index => simp [found]

section

variable (text marker : String) {first : Char} {rest : List Char}
  (starts : marker.toList = first :: rest) (ascii : Utf8.Ascii first)

include starts in
theorem take_marker (position : Nat)
    (found : Scan.find marker.toList text.toList = some position) :
    text.toList.take (position + 1) = text.toList.take position ++ [first] := by
  have located := Scan.find_located _ _ position found
  rw [starts] at located
  obtain ⟨after, ends⟩ := located
  have here : text.toList[position]? = some first := by
    rw [← List.head?_drop, ← ends]
    rfl
  rw [List.take_add_one, here]
  rfl

include starts ascii in
/-- No slice cuts a character, so that the bytes are spliced as the characters are. -/
theorem insertBeforeMarkerChanged_splicePoint (insertion : String) :
    insertBeforeMarkerChanged text marker insertion =
      some ((splicePoint text marker).map fun point => (String.ofList
        (text.toList.take point.2 ++ insertion.toList ++ text.toList.drop point.2), true)) := by
  unfold insertBeforeMarkerChanged splicePoint spliceIn findBytes
  cases found : Scan.find marker.toList text.toList with
  | none => rfl
  | some position =>
      have slice : Utf8.splitAt (Utf8.offset text.toList position + 1) text.toList =
          some (text.toList.take (position + 1), text.toList.drop (position + 1)) := by
        rw [Utf8.splitAt_iff]
        refine ⟨(List.take_append_drop _ _).symm, ?_⟩
        rw [take_marker text marker starts position found, Utf8.size_append, Utf8.size_cons,
          Utf8.utf8Size_ascii ascii]
        rfl
      simp only [Option.map_some, slice, lastNewlineBytes]
      cases last : lastNewline (text.toList.take (position + 1)) with
      | none => rfl
      | some index =>
          have near : index ≤ position + 1 := by
            have inside := lastNewline_lt _ index last
            rw [List.length_take] at inside
            omega
          have prefixOffset : Utf8.offset (text.toList.take (position + 1)) index =
              Utf8.offset text.toList index := by
            rw [Utf8.offset, List.take_take, Nat.min_eq_left near]
            rfl
          simp only [Option.map_some, prefixOffset, Utf8.splitAt_offset]

include starts ascii in
theorem insertBeforeMarkerBytes_eq (insertion : String) :
    insertBeforeMarkerBytes text marker insertion =
      some (insertBeforeMarker text marker insertion) := by
  rw [insertBeforeMarkerBytes, insertBeforeMarkerChanged_splicePoint text marker starts ascii,
    insertBeforeMarker_splicePoint]
  cases splicePoint text marker <;> rfl

include starts in
theorem anchored_newline (position : Nat)
    (found : Scan.find marker.toList text.toList = some position) (before line : List Char)
    (spelled : text.toList.take position = before ++ newline :: line) (plain : newline ∉ line) :
    Anchored text marker (String.ofList (text.toList.take before.length))
      (String.ofList (text.toList.drop before.length)) := by
  have fits := Scan.find_fits _ _ position (by rw [starts]; exact Nat.succ_pos _) found
  have long : (before ++ newline :: line).length = position := by
    rw [← spelled, List.length_take]
    omega
  have whole : text.toList = before ++ (newline :: line ++ text.toList.drop position) := by
    rw [← List.append_assoc, ← spelled, List.take_append_drop]
  have front : text.toList.take before.length = before := by
    rw [whole, List.take_left]
  have back : text.toList.drop before.length = newline :: line ++ text.toList.drop position := by
    conv_lhs => rw [whole, List.drop_left]
  refine ⟨?_, line, text.toList.drop position, ?_, plain, ?_⟩
  · rw [← String.ofList_append, List.take_append_drop, String.ofList_toList]
  · rw [String.toList_ofList, back]
  · rw [String.toList_ofList, front, long]
    exact (Scan.find_eq_some_iff _ _ position).mp found

variable (inline : first ≠ newline)

include starts inline in
theorem splicePoint_newline (position : Nat)
    (found : Scan.find marker.toList text.toList = some position) (before line : List Char)
    (spelled : text.toList.take position = before ++ newline :: line) (plain : newline ∉ line) :
    splicePoint text marker = some (position, before.length) := by
  have last : lastNewline (text.toList.take (position + 1)) = some before.length := by
    rw [take_marker text marker starts position found, spelled, List.append_assoc, List.cons_append]
    apply lastNewline_append
    simp [plain, inline.symm]
  simp only [splicePoint, spliceIn, found, last, Option.map_some]

include starts inline in
theorem splicePoint_cases :
    Unanchored text marker ∧ splicePoint text marker = none ∨
      ¬Unanchored text marker ∧ ∃ position index,
        splicePoint text marker = some (position, index) ∧
          Anchored text marker (String.ofList (text.toList.take index))
            (String.ofList (text.toList.drop index)) := by
  cases found : Scan.find marker.toList text.toList with
  | none =>
      refine Or.inl ⟨Or.inl ((Scan.find_eq_none_iff _ _).mp found), ?_⟩
      simp only [splicePoint, spliceIn, found]
  | some position =>
      have here := (Scan.find_eq_some_iff _ _ position).mp found
      by_cases member : newline ∈ text.toList.take position
      · obtain ⟨before, line, spelled, plain⟩ := Scan.split_last newline _ member
        have point := splicePoint_newline text marker starts inline position found before line
          spelled plain
        refine Or.inr ⟨?_, position, before.length, point, ?_⟩
        · rintro (absent | ⟨other, first, free⟩)
          · exact absent (Scan.find_inside _ _ position found)
          · have same := (Scan.find_eq_some_iff _ _ other).mpr first
            obtain rfl := Option.some.inj (found.symm.trans same)
            exact free member
        · exact anchored_newline text marker starts position found before line spelled plain
      · refine Or.inl ⟨Or.inr ⟨position, here, member⟩, ?_⟩
        have none : lastNewline (text.toList.take (position + 1)) = none := by
          rw [take_marker text marker starts position found]
          apply lastNewline_none
          simp [member, inline.symm]
        simp only [splicePoint, spliceIn, found, none, Option.map_none]

include starts ascii inline in
/-- With a marker that begins with an ASCII symbol other than a newline no slice panics, and the
text is unchanged or the insertion stands in front of the last newline before the first marker. -/
theorem insertBeforeMarker_exact (insertion : String) :
    Unanchored text marker ∧ insertBeforeMarkerChanged text marker insertion = some none ∧
        insertBeforeMarkerBytes text marker insertion = some text ∨
      ¬Unanchored text marker ∧ ∃ before after, Anchored text marker before after ∧
        insertBeforeMarkerChanged text marker insertion =
          some (some (before ++ insertion ++ after, true)) ∧
        insertBeforeMarkerBytes text marker insertion = some (before ++ insertion ++ after) := by
  have changed := insertBeforeMarkerChanged_splicePoint text marker starts ascii insertion
  rcases splicePoint_cases text marker starts inline with
    ⟨free, point⟩ | ⟨held, _, index, point, cut⟩
  · rw [point, Option.map_none] at changed
    refine Or.inl ⟨free, changed, ?_⟩
    rw [insertBeforeMarkerBytes, changed]
    rfl
  · have whole : String.ofList (text.toList.take index ++ insertion.toList ++
        text.toList.drop index) = String.ofList (text.toList.take index) ++ insertion ++
          String.ofList (text.toList.drop index) := by
      simp [String.ofList_append, String.append_assoc]
    rw [point, Option.map_some, whole] at changed
    refine Or.inr ⟨held, _, _, cut, changed, ?_⟩
    rw [insertBeforeMarkerBytes, changed]
    rfl

end

theorem accented_exact :
    insertBeforeMarkerBytes "é\n_major=é" "_major=" "x" = some "éx\n_major=é" ∧
      (Unanchored "é\n_major=é" "_major=" ∧
          insertBeforeMarkerChanged "é\n_major=é" "_major=" "x" = some none ∧
          insertBeforeMarkerBytes "é\n_major=é" "_major=" "x" = some "é\n_major=é" ∨
        ¬Unanchored "é\n_major=é" "_major=" ∧ ∃ before after,
          Anchored "é\n_major=é" "_major=" before after ∧
          insertBeforeMarkerChanged "é\n_major=é" "_major=" "x" =
            some (some (before ++ "x" ++ after, true)) ∧
          insertBeforeMarkerBytes "é\n_major=é" "_major=" "x" =
            some (before ++ "x" ++ after)) :=
  ⟨by decide, insertBeforeMarker_exact _ "_major="
    (by decide : "_major=".toList = '_' :: "major=".toList) (by decide) (by decide) "x"⟩

end KernelManager
