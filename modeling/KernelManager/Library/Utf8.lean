import Mathlib.Data.List.Basic

/-!
Texts and the bytes of their UTF-8 form: the size of a text, slices at byte offsets, and ASCII
symbols, whose bytes are no part of any other character.
-/

namespace Utf8

def encode (text : List Char) : List UInt8 := text.flatMap String.utf8EncodeChar

def size : List Char → Nat
  | [] => 0
  | symbol :: text => symbol.utf8Size + size text

/-- The text before a byte offset and the text from it on. There is none if the offset is past the
end or inside a character. -/
def splitAt (offset : Nat) : List Char → Option (List Char × List Char)
  | [] => if offset = 0 then some ([], []) else none
  | symbol :: text =>
      if offset = 0 then some ([], symbol :: text)
      else if symbol.utf8Size ≤ offset then
        (splitAt (offset - symbol.utf8Size) text).map fun parts => (symbol :: parts.1, parts.2)
      else none

def slice (start stop : Nat) (text : List Char) : Option (List Char) :=
  (splitAt stop text).bind fun parts => (splitAt start parts.1).map Prod.snd

def offset (text : List Char) (position : Nat) : Nat := size (text.take position)

def Ascii (symbol : Char) : Prop := symbol.toNat < 128

instance (symbol : Char) : Decidable (Ascii symbol) := inferInstanceAs (Decidable (_ < _))

def byte (symbol : Char) : UInt8 := UInt8.ofNat symbol.toNat

@[simp] theorem size_nil : size [] = 0 := rfl

@[simp] theorem size_cons (symbol : Char) (text : List Char) :
    size (symbol :: text) = symbol.utf8Size + size text := rfl

@[simp] theorem size_append (left right : List Char) :
    size (left ++ right) = size left + size right := by
  induction left with
  | nil => rw [List.nil_append, size_nil, Nat.zero_add]
  | cons symbol left ih => rw [List.cons_append, size_cons, size_cons, ih, Nat.add_assoc]

theorem size_eq_zero {text : List Char} (empty : size text = 0) : text = [] := by
  cases text with
  | nil => rfl
  | cons symbol text =>
      have positive := symbol.utf8Size_pos
      rw [size_cons] at empty
      omega

theorem encode_length (text : List Char) : (encode text).length = size text := by
  induction text with
  | nil => rfl
  | cons symbol text ih =>
      rw [encode, List.flatMap_cons, List.length_append, String.length_utf8EncodeChar, size_cons,
        ← ih]
      rfl

theorem splitAt_zero (text : List Char) : splitAt 0 text = some ([], text) := by
  cases text with
  | nil => rfl
  | cons symbol text => rfl

theorem splitAt_zero_iff (text left right : List Char) :
    splitAt 0 text = some (left, right) ↔ text = left ++ right ∧ size left = 0 := by
  rw [splitAt_zero, Option.some.injEq, Prod.mk.injEq]
  constructor
  · rintro ⟨rfl, rfl⟩
    exact ⟨rfl, rfl⟩
  · rintro ⟨whole, empty⟩
    obtain rfl := size_eq_zero empty
    exact ⟨rfl, whole⟩

theorem splitAt_iff (offset : Nat) (text left right : List Char) :
    splitAt offset text = some (left, right) ↔ text = left ++ right ∧ size left = offset := by
  induction text generalizing offset left with
  | nil =>
      by_cases zero : offset = 0
      · rw [zero, splitAt_zero_iff]
      · simp only [splitAt, zero, ↓reduceIte]
        refine iff_of_false (by simp) ?_
        rintro ⟨whole, rfl⟩
        obtain ⟨rfl, rfl⟩ := List.nil_eq_append_iff.mp whole
        exact zero rfl
  | cons symbol text ih =>
      by_cases zero : offset = 0
      · rw [zero, splitAt_zero_iff]
      · simp only [splitAt, zero, ↓reduceIte]
        cases left with
        | nil =>
            refine iff_of_false ?_ ?_
            · split <;> simp
            · rintro ⟨_, rfl⟩
              exact zero rfl
        | cons first left =>
            rw [size_cons, List.cons_append, List.cons.injEq]
            by_cases fits : symbol.utf8Size ≤ offset
            · simp only [fits, ↓reduceIte, Option.map_eq_some_iff, Prod.mk.injEq, List.cons.injEq,
                Prod.exists]
              constructor
              · rintro ⟨rest, after, found, ⟨rfl, rfl⟩, rfl⟩
                obtain ⟨rfl, sized⟩ := (ih _ _).mp found
                exact ⟨⟨rfl, rfl⟩, by omega⟩
              · rintro ⟨⟨rfl, rfl⟩, sized⟩
                exact ⟨left, right, (ih _ _).mpr ⟨rfl, by omega⟩, ⟨rfl, rfl⟩, rfl⟩
            · simp only [fits, ↓reduceIte]
              refine iff_of_false (by simp) ?_
              rintro ⟨⟨rfl, rfl⟩, sized⟩
              omega

theorem splitAt_offset (text : List Char) (position : Nat) :
    splitAt (offset text position) text = some (text.take position, text.drop position) :=
  (splitAt_iff _ _ _ _).mpr ⟨(List.take_append_drop position text).symm, rfl⟩

theorem slice_offset (text : List Char) (start stop : Nat) (order : start ≤ stop) :
    slice (offset text start) (offset text stop) text = some ((text.take stop).drop start) := by
  have inner : offset text start = offset (text.take stop) start := by
    rw [offset, offset, List.take_take, Nat.min_eq_left order]
  rw [slice, splitAt_offset, Option.bind_some, inner, splitAt_offset]
  rfl

theorem offset_congr (left right : List Char)
    (same : left.map Char.utf8Size = right.map Char.utf8Size) (position : Nat) :
    offset left position = offset right position := by
  induction left generalizing right position with
  | nil => rw [List.map_eq_nil_iff.mp same.symm]
  | cons symbol left ih =>
      obtain ⟨other, right, rfl, size, sizes⟩ := List.map_eq_cons_iff.mp same.symm
      cases position with
      | zero => rfl
      | succ position =>
          have rest := ih right sizes.symm position
          rw [offset, offset] at rest ⊢
          rw [List.take_succ_cons, List.take_succ_cons, size_cons, size_cons, size, rest]

theorem encode_cons (symbol : Char) (text : List Char) :
    encode (symbol :: text) = String.utf8EncodeChar symbol ++ encode text := List.flatMap_cons

theorem encode_append (left right : List Char) :
    encode (left ++ right) = encode left ++ encode right := List.flatMap_append

theorem encode_inj {left right : List Char} (same : encode left = encode right) :
    left = right := by
  have bytes : (String.ofList left).toByteArray = (String.ofList right).toByteArray := by
    rw [String.toByteArray_ofList, String.toByteArray_ofList, List.utf8Encode, List.utf8Encode]
    exact congrArg List.toByteArray same
  exact String.ofList_injective (String.toByteArray_inj.mp bytes)

theorem encodeChar_ascii {symbol : Char} (ascii : Ascii symbol) :
    String.utf8EncodeChar symbol = [byte symbol] := by
  have small : symbol.val.toNat ≤ 127 := Nat.le_of_lt_succ ascii
  rw [String.utf8EncodeChar]
  exact if_pos small

theorem encodeChar_high {symbol : Char} (wide : ¬Ascii symbol) :
    ∀ part ∈ String.utf8EncodeChar symbol, 128 ≤ part.toNat := by
  have large : ¬symbol.val.toNat ≤ 127 := fun small => wide (Nat.lt_succ_of_le small)
  intro part member
  rw [String.utf8EncodeChar] at member
  simp only [large, ↓reduceIte] at member
  split at member
  · simp only [List.mem_cons, List.not_mem_nil, or_false] at member
    rcases member with rfl | rfl <;> simp only [UInt8.toNat_ofNat'] <;> omega
  · split at member
    · simp only [List.mem_cons, List.not_mem_nil, or_false] at member
      rcases member with rfl | rfl | rfl <;> simp only [UInt8.toNat_ofNat'] <;> omega
    · simp only [List.mem_cons, List.not_mem_nil, or_false] at member
      rcases member with rfl | rfl | rfl | rfl <;> simp only [UInt8.toNat_ofNat'] <;> omega

theorem utf8Size_ascii {symbol : Char} (ascii : Ascii symbol) : symbol.utf8Size = 1 := by
  rw [← String.length_utf8EncodeChar, encodeChar_ascii ascii]
  rfl

theorem byte_toNat {symbol : Char} (ascii : Ascii symbol) : (byte symbol).toNat = symbol.toNat := by
  unfold Ascii at ascii
  rw [byte, UInt8.toNat_ofNat']
  omega

theorem byte_inj {left right : Char} (leftAscii : Ascii left) (rightAscii : Ascii right)
    (same : byte left = byte right) : left = right := by
  have values := congrArg UInt8.toNat same
  rw [byte_toNat leftAscii, byte_toNat rightAscii] at values
  exact Char.toNat_inj.mp values

theorem byte_mem_encodeChar {symbol : Char} (ascii : Ascii symbol) (other : Char)
    (member : byte symbol ∈ String.utf8EncodeChar other) : other = symbol := by
  by_cases plain : Ascii other
  · rw [encodeChar_ascii plain, List.mem_singleton] at member
    exact (byte_inj ascii plain member).symm
  · have high := encodeChar_high plain _ member
    rw [byte_toNat ascii] at high
    exact absurd ascii (Nat.not_lt.mpr high)

theorem byte_mem_encode {symbol : Char} (ascii : Ascii symbol) (text : List Char) :
    byte symbol ∈ encode text ↔ symbol ∈ text := by
  rw [encode, List.mem_flatMap]
  constructor
  · rintro ⟨other, inside, member⟩
    obtain rfl := byte_mem_encodeChar ascii other member
    exact inside
  · intro inside
    exact ⟨symbol, inside, by rw [encodeChar_ascii ascii]; exact List.mem_singleton_self _⟩

theorem encode_eq_append_byte {symbol : Char} (ascii : Ascii symbol) (text : List Char)
    (left right : List UInt8) (same : encode text = left ++ byte symbol :: right) :
    ∃ before after, text = before ++ symbol :: after ∧
      encode before = left ∧ encode after = right := by
  induction text generalizing left with
  | nil => simp [encode] at same
  | cons other text ih =>
      rw [encode_cons] at same
      rcases List.append_eq_append_iff.mp same with ⟨rest, begins, ends⟩ | ⟨rest, begins, ends⟩
      · obtain ⟨before, after, rfl, earlier, later⟩ := ih rest ends
        exact ⟨other :: before, after, rfl, by rw [encode_cons, earlier, begins], later⟩
      · cases rest with
        | nil =>
            obtain ⟨before, after, rfl, earlier, later⟩ := ih [] ends.symm
            rw [List.append_nil] at begins
            refine ⟨other :: before, after, rfl, ?_, later⟩
            rw [encode_cons, earlier, begins, List.append_nil]
        | cons first rest =>
            obtain ⟨rfl, follows⟩ := List.cons.inj ends
            have member : byte symbol ∈ String.utf8EncodeChar other := by
              rw [begins]
              simp
            obtain rfl := byte_mem_encodeChar ascii other member
            rw [encodeChar_ascii ascii] at begins
            have lengths := congrArg List.length begins
            simp only [List.length_append, List.length_cons, List.length_nil] at lengths
            have none : left = [] := List.eq_nil_of_length_eq_zero (by omega)
            have last : rest = [] := List.eq_nil_of_length_eq_zero (by omega)
            subst none last
            exact ⟨[], text, rfl, rfl, follows.symm⟩

theorem encode_eq_append_ascii (pattern : List Char) (ascii : ∀ symbol ∈ pattern, Ascii symbol)
    (text : List Char) (right : List UInt8) (same : encode text = encode pattern ++ right) :
    ∃ after, text = pattern ++ after ∧ encode after = right := by
  induction pattern generalizing text with
  | nil => exact ⟨text, rfl, same⟩
  | cons symbol pattern ih =>
      have plain := ascii symbol List.mem_cons_self
      rw [encode_cons, encodeChar_ascii plain] at same
      obtain ⟨before, rest, rfl, none, later⟩ :=
        encode_eq_append_byte plain text [] (encode pattern ++ right) same
      have empty : before = [] := by
        apply size_eq_zero
        rw [← encode_length, none]
        rfl
      obtain ⟨after, rfl, ends⟩ :=
        ih (fun other member => ascii other (List.mem_cons_of_mem _ member)) rest later
      exact ⟨after, by rw [empty]; rfl, ends⟩

/-- An ASCII pattern stands in the bytes of a text only where it stands in the text. -/
theorem encode_eq_append_pattern (pattern : List Char) (nonempty : pattern ≠ [])
    (ascii : ∀ symbol ∈ pattern, Ascii symbol) (text : List Char) (left right : List UInt8)
    (same : encode text = left ++ encode pattern ++ right) :
    ∃ before after, text = before ++ pattern ++ after ∧
      encode before = left ∧ encode after = right := by
  obtain ⟨symbol, rest, rfl⟩ := List.exists_cons_of_ne_nil nonempty
  have plain := ascii symbol List.mem_cons_self
  rw [encode_cons, encodeChar_ascii plain, List.append_assoc] at same
  obtain ⟨before, later, rfl, earlier, follows⟩ :=
    encode_eq_append_byte plain text left (encode rest ++ right) same
  obtain ⟨after, rfl, ends⟩ := encode_eq_append_ascii rest
    (fun other member => ascii other (List.mem_cons_of_mem _ member)) later right follows
  exact ⟨before, after, by simp, earlier, ends⟩

end Utf8
