import Mathlib.Data.List.Forall2
import TextTemplate.Template.Basic

/-!
# Slices of a text

A byte offset cuts a text only between two characters.  This module cuts texts
at byte offsets, takes the slice of a range of bytes, and says when ranges cover
a text without gaps.

Main results:

- Theorem `Text.byteLength_toList`: the bytes counted here are the bytes of the
  string in UTF-8.
- Theorem `Text.splitAtByte?_eq_some_iff`: a text is cut exactly at the offsets
  that are byte lengths of its beginnings.
- Theorem `ByteRange.slice?_eq_some_iff`: the slice of a range is the part of the
  text that lies between its two offsets.
-/

namespace TextTemplate

namespace Text

/-! ## Byte lengths -/

/-- The bytes of the characters are the bytes of the string made of them. -/
theorem utf8ByteSize_ofList (text : List Char) :
    (String.ofList text).utf8ByteSize = byteLength text := by
  induction text with
  | nil => rfl
  | cons c rest ih =>
      rw [String.ofList_cons, String.utf8ByteSize_append, String.utf8ByteSize_singleton, ih,
        byteLength_cons]

/-- The length of a text in bytes is the size of its encoding. -/
theorem byteLength_toList (source : String) :
    byteLength source.toList = source.utf8ByteSize := by
  rw [← utf8ByteSize_ofList, String.ofList_toList]

@[simp] theorem byteLength_eq_zero_iff {text : List Char} :
    byteLength text = 0 ↔ text = [] := by
  cases text with
  | nil => simp
  | cons c rest =>
      have hpos := c.utf8Size_pos
      simp only [byteLength_cons, reduceCtorEq, iff_false]
      omega

theorem byteLength_pos {text : List Char} (h : text ≠ []) : 0 < byteLength text := by
  rw [Nat.pos_iff_ne_zero]
  intro hzero
  exact h (byteLength_eq_zero_iff.mp hzero)

/-- The functions that count bytes down go past a character to the text behind it. -/
theorem exists_byteLength_cons_eq (c : Char) (rest : List Char) :
    ∃ offset, byteLength (c :: rest) = offset + 1 ∧ c.utf8Size ≤ offset + 1 ∧
      offset + 1 - c.utf8Size = byteLength rest := by
  have hpos := c.utf8Size_pos
  refine ⟨c.utf8Size + byteLength rest - 1, ?_, ?_, ?_⟩
  · rw [byteLength_cons]
    omega
  · omega
  · omega

/-- Of two beginnings of a text the one with fewer bytes is the shorter one. -/
theorem isPrefix_of_byteLength_le {text before other : List Char} (hbefore : before <+: text)
    (hother : other <+: text) (hle : byteLength before ≤ byteLength other) :
    before <+: other := by
  rcases List.prefix_or_prefix_of_prefix hbefore hother with h | h
  · exact h
  · rcases h with ⟨more, rfl⟩
    have hmore : byteLength more = 0 := by
      rw [byteLength_append] at hle
      omega
    obtain rfl : more = [] := byteLength_eq_zero_iff.mp hmore
    simp

/-! ## Cutting a text at a byte offset -/

/-- A text is split where its first part ends. -/
theorem splitAtByte?_append (before behind : List Char) :
    splitAtByte? (before ++ behind) (byteLength before) = some (before, behind) := by
  induction before with
  | nil => simp [splitAtByte?]
  | cons c rest ih =>
      rcases exists_byteLength_cons_eq c rest with ⟨offset, hoffset, hle, hsub⟩
      rw [hoffset, List.cons_append, splitAtByte?, if_pos hle, hsub, ih]
      rfl

/-- The cut of a text gives its parts, and the first one ends at the offset. -/
theorem splitAtByte?_eq_some_iff {text before behind : List Char} {offset : Nat} :
    splitAtByte? text offset = some (before, behind) ↔
      text = before ++ behind ∧ byteLength before = offset := by
  constructor
  · intro h
    induction text generalizing offset before with
    | nil =>
        cases offset with
        | zero => simp_all [splitAtByte?]
        | succ offset => simp [splitAtByte?] at h
    | cons c rest ih =>
        cases offset with
        | zero =>
            simp only [splitAtByte?, Option.some.injEq, Prod.mk.injEq] at h
            rcases h with ⟨rfl, rfl⟩
            simp
        | succ offset =>
            rw [splitAtByte?] at h
            split at h
            next hle =>
              rcases Option.map_eq_some_iff.mp h with ⟨⟨first, second⟩, hsplit, hparts⟩
              simp only [Prod.mk.injEq] at hparts
              rcases hparts with ⟨rfl, rfl⟩
              rcases ih hsplit with ⟨hrest, hlength⟩
              rw [hrest, byteLength_cons, hlength]
              exact ⟨rfl, by omega⟩
            next => simp at h
  · rintro ⟨rfl, rfl⟩
    exact splitAtByte?_append before behind

end Text

/-! ## Slices and covers -/

namespace ByteRange

/-- The slice of a range is what lies between its two offsets. -/
theorem slice?_eq_some_iff {range : ByteRange} {source part : String} :
    range.slice? source = some part ↔
      ∃ before behind, source.toList = before ++ (part.toList ++ behind) ∧
        Text.byteLength before = range.start ∧
        range.start + Text.byteLength part.toList = range.stop := by
  constructor
  · intro h
    rw [slice?] at h
    split at h
    next hle =>
      split at h
      · simp at h
      next before behind hbefore =>
        rcases Option.map_eq_some_iff.mp h with ⟨⟨text, rest⟩, hsplit, rfl⟩
        rcases Text.splitAtByte?_eq_some_iff.mp hbefore with ⟨hsource, hstart⟩
        rcases Text.splitAtByte?_eq_some_iff.mp hsplit with ⟨rfl, hlength⟩
        refine ⟨before, rest, ?_, hstart, ?_⟩
        · simpa using hsource
        · simp only [String.toList_ofList]
          omega
    next => simp at h
  · rintro ⟨before, behind, hsource, hstart, hstop⟩
    have hbehind : range.stop - range.start = Text.byteLength part.toList := by omega
    rw [slice?, if_pos (by omega), hsource, ← hstart, Text.splitAtByte?_append, hstart, hbehind]
    simp [Text.splitAtByte?_append]

/-- Ranges that are not empty and cover the bytes from `start` to `stop`, each of
them beginning where the one before it ends. -/
def Cover (start stop : Nat) : List ByteRange → Prop
  | [] => start = stop
  | range :: rest => range.start = start ∧ range.start < range.stop ∧ Cover range.stop stop rest

end ByteRange

end TextTemplate
