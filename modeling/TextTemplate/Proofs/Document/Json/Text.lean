import TextTemplate.Document.Json.Basic

/-!
# Texts that are written as JSON documents

Whatever characters a text is made of, the document that is written for it is
read as that text again.  The law is proved for one character first: each is
written in a form from which one unit is taken, and that unit means the
character.

Main results:

- Definition `Json.TextUnit.Means`: a unit of a written text stands for a character.
- Theorem `Json.readUnits?_encodeChar`: one written character is taken off as one
  unit that means it.
- Theorem `Json.readText?_encode`: a text between its quotes is taken off a document
  as it was.
- Theorem `Json.read?_encodeText`: the document of a text is read as the text.
-/

namespace TextTemplate.Json

/-! ## One character -/

/-- A unit stands for a character by being it, or by its number. -/
def TextUnit.Means : TextUnit → Char → Prop
  | .char d, c => d = c
  | .code n, c => n = c.toNat

/-- No character has the number of half a surrogate pair. -/
theorem not_surrogate_toNat (c : Char) :
    isLeading c.toNat = false ∧ isTrailing c.toNat = false := by
  have hvalid : c.toNat < 0xD800 ∨ 0xDFFF < c.toNat ∧ c.toNat < 0x110000 := c.valid
  simp only [isLeading, isTrailing, Bool.and_eq_false_iff, decide_eq_false_iff_not]
  omega

/-- A unit that means a character is joined to nothing behind it. -/
theorem joinUnits?_cons {unit : TextUnit} {c : Char} (hmeans : unit.Means c)
    (units : List TextUnit) :
    joinUnits? (unit :: units) = (joinUnits? units).map (c :: ·) := by
  cases unit with
  | char d =>
      obtain rfl : d = c := hmeans
      rw [joinUnits?]
  | code n =>
      obtain rfl : n = c.toNat := hmeans
      obtain ⟨hleading, htrailing⟩ := not_surrogate_toNat c
      match units with
      | [] => simp [joinUnits?, hleading, htrailing]
      | .char d :: rest => simp [joinUnits?, hleading, htrailing]
      | .code m :: rest => simp [joinUnits?, hleading, htrailing]

/-- A control character is written with four digits that spell its number. -/
theorem controlEscape_digits {c : Char} (hcontrol : c.toNat < 0x20) :
    ∃ c₁ c₂ c₃ c₄, controlEscape c = ['\\', 'u', c₁, c₂, c₃, c₄] ∧
      hexNumber? [c₁, c₂, c₃, c₄] = some c.toNat := by
  -- Thirty-two characters are few enough to look at each of them.
  have hall : ∀ n < 0x20,
      let digits := List.replicate (4 - (Nat.toDigits 16 n).length) '0' ++ Nat.toDigits 16 n
      digits.length = 4 ∧ hexNumber? digits = some n := by decide
  obtain ⟨hlength, hnumber⟩ := hall c.toNat hcontrol
  match hdigits : List.replicate (4 - (Nat.toDigits 16 c.toNat).length) '0' ++
      Nat.toDigits 16 c.toNat, hlength with
  | [c₁, c₂, c₃, c₄], _ =>
      rw [hdigits] at hnumber
      exact ⟨c₁, c₂, c₃, c₄, by simp [controlEscape, hdigits], hnumber⟩

/-- An escape of one letter is taken off as the character that it means. -/
theorem readUnits?_escape {letter c : Char} (hletter : escaped? letter = some c)
    (rest : List Char) :
    readUnits? ('\\' :: letter :: rest) =
      (readUnits? rest).map fun read => (.char c :: read.1, read.2) := by
  have hu : letter ≠ 'u' := by
    rintro rfl
    simp [escaped?] at hletter
  rw [readUnits?.eq_4]
  · rw [hletter]
    cases readUnits? rest <;> rfl
  · intro _ _ _ _ _ h
    exact absurd h hu

/-- A character that needs no escape is taken off as itself. -/
theorem readUnits?_plain {c : Char} (hquote : c ≠ '"') (hbackslash : c ≠ '\\')
    (hprintable : ¬c.toNat < 0x20) (rest : List Char) :
    readUnits? (c :: rest) =
      (readUnits? rest).map fun read => (.char c :: read.1, read.2) := by
  rw [readUnits?.eq_5]
  · simp only [beq_iff_eq, hbackslash, hprintable, Bool.or_eq_true, decide_eq_true_eq, or_self,
      if_false]
    cases readUnits? rest <;> rfl
  · exact hquote
  · exact fun _ _ _ _ _ h => absurd h hbackslash
  · exact fun _ _ h => absurd h hbackslash

/-- A character that needs no escape is written as itself. -/
theorem encodeChar_plain {c : Char} (hquote : c ≠ '"') (hbackslash : c ≠ '\\')
    (hprintable : ¬c.toNat < 0x20) : encodeChar c = [c] := by
  unfold encodeChar
  split
  case h_8 => exact if_neg hprintable
  -- The characters with an escape of one letter are the two excluded ones and controls.
  all_goals contradiction

/-- One written character is taken off as one unit that means it. -/
theorem readUnits?_encodeChar (c : Char) :
    ∃ unit : TextUnit, unit.Means c ∧ ∀ rest,
      readUnits? (encodeChar c ++ rest) =
        (readUnits? rest).map fun read => (unit :: read.1, read.2) := by
  unfold encodeChar
  split
  case h_8 hquote hbackslash _ _ _ _ _ =>
    split
    next hcontrol =>
      obtain ⟨c₁, c₂, c₃, c₄, hescape, hnumber⟩ := controlEscape_digits hcontrol
      refine ⟨.code c.toNat, rfl, fun rest => ?_⟩
      simp only [hescape, List.cons_append, List.nil_append, readUnits?, hnumber]
      cases readUnits? rest <;> rfl
    next hprintable => exact ⟨.char c, rfl, readUnits?_plain hquote hbackslash hprintable⟩
  -- The seven characters with an escape of one letter.
  all_goals exact ⟨.char _, rfl, readUnits?_escape rfl⟩

/-! ## A whole text -/

/-- A text between its quotes is taken off a document as it was. -/
theorem readText?_encode (text : String) (rest : List Char) :
    readText? (text.toList.flatMap encodeChar ++ '"' :: rest) = some (text, rest) := by
  have hunits : ∀ chars : List Char, ∃ units,
      readUnits? (chars.flatMap encodeChar ++ '"' :: rest) = some (units, rest) ∧
        joinUnits? units = some chars := by
    intro chars
    induction chars with
    | nil => exact ⟨[], by simp [readUnits?], rfl⟩
    | cons c chars ih =>
        obtain ⟨units, hread, hjoin⟩ := ih
        obtain ⟨unit, hmeans, hchar⟩ := readUnits?_encodeChar c
        refine ⟨unit :: units, ?_, ?_⟩
        · rw [List.flatMap_cons, List.append_assoc, hchar, hread, Option.map_some]
        · rw [joinUnits?_cons hmeans, hjoin, Option.map_some]
  obtain ⟨units, hread, hjoin⟩ := hunits text.toList
  simp [readText?, hread, hjoin]

/-- A text in which nothing is escaped stands in the document as it is. -/
theorem encodeText_plain {text : String}
    (h : ∀ c ∈ text.toList, c ≠ '"' ∧ c ≠ '\\' ∧ ¬c.toNat < 0x20) :
    encodeText text = "\"" ++ text ++ "\"" := by
  have hchars : text.toList.flatMap encodeChar = text.toList := by
    rw [List.flatMap_def, List.map_congr_left fun c hc =>
      encodeChar_plain (h c hc).1 (h c hc).2.1 (h c hc).2.2, ← List.flatMap_def]
    exact List.flatMap_singleton' _
  rw [encodeText, hchars, ← String.toList_inj]
  simp

namespace Token

theorem ofText?_space {c : Char} (h : isSpace c = true) (rest : List Char) :
    ofText? (c :: rest) = ofText? rest := by
  rw [ofText?, if_pos h]

theorem ofText?_token {c : Char} (h : ¬ isSpace c = true) {rest behind : List Char} {token : Token}
    (hread : read? c rest = some (token, behind)) :
    ofText? (c :: rest) = (ofText? behind).map (token :: ·) := by
  rw [ofText?, if_neg h]
  split
  next hnone =>
    rw [hread] at hnone
    contradiction
  next hsome =>
    rw [hread] at hsome
    cases hsome
    rfl

end Token

/-- The document of a text consists of one token. -/
theorem ofText?_encodeText (text : String) :
    Token.ofText? (encodeText text).toList = some [.scalar (.text text)] := by
  have hread : Token.read? '"' (text.toList.flatMap encodeChar ++ ['"']) =
      some (.scalar (.text text), []) := by
    simp [Token.read?, Token.readQuoted?, readText?_encode]
  rw [encodeText, String.toList_ofList, List.cons_append,
    Token.ofText?_token (by decide) hread, Token.ofText?]
  rfl

/-- The document of a text is read as the text. -/
theorem read?_encodeText (text : String) :
    read? (encodeText text) = some (.text text) := by
  simp [read?, ofText?_encodeText, Assembly.step, Assembly.beginValue, Assembly.result?]

end TextTemplate.Json
