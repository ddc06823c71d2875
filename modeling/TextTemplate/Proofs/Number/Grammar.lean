import Mathlib.Data.Option.Basic
import TextTemplate.Proofs.Number.Literal

/-!
# The grammar of number literals

A literal for a number has an optional sign in front.  Behind the sign of a whole number there are
digits alone.  Behind that of a floating-point number there are digits, with at most one point
among or around them and at most one exponent behind them, or one of the words for infinity and
for what is not a number, in small letters or capitals.  The readers of both accept these
literals and no other texts.

Main results:

- Theorem `Decimal.int64?_eq_some_iff`: what is read as a whole number of 64 signed bits.
- Definition `FloatLiteral.IsLiteral`: the literals of a floating-point number.
- Theorem `FloatLiteral.read?_eq_some_iff`: these are the texts that are read.
-/

namespace TextTemplate

namespace Decimal

/-! ## Signs -/

/-- What may stand in front of a number, and whether it makes the number negative. -/
inductive IsSign : List Char → Bool → Prop
  | absent : IsSign [] false
  | plus : IsSign ['+'] false
  | minus : IsSign ['-'] true

/-- A text is its sign and what is behind it. -/
theorem exists_isSign (text : List Char) :
    ∃ sign, IsSign sign (unsigned text).1 ∧ text = sign ++ (unsigned text).2 := by
  unfold unsigned
  split
  next rest => exact ⟨['-'], .minus, rfl⟩
  next rest => exact ⟨['+'], .plus, rfl⟩
  next => exact ⟨[], .absent, rfl⟩

/-- A sign is found in front of a text that has none itself. -/
theorem unsigned_append {sign rest : List Char} {negative : Bool} (hsign : IsSign sign negative)
    (hrest : unsigned rest = (false, rest)) : unsigned (sign ++ rest) = (negative, rest) := by
  cases hsign with
  | absent => exact hrest
  | plus => rfl
  | minus => rfl

/-- A text has no sign if its first character is none. -/
theorem unsigned_cons {c : Char} (hplus : c ≠ '+') (hminus : c ≠ '-') (rest : List Char) :
    unsigned (c :: rest) = (false, c :: rest) := by
  unfold unsigned
  split
  next h => exact absurd (List.cons.inj h).1 hminus
  next h => exact absurd (List.cons.inj h).1 hplus
  next => rfl

/-! ## Whole numbers -/

/-- A literal is a sign and digits. -/
theorem isLiteral_iff {text : List Char} {n : ℤ} :
    IsLiteral text n ↔
      isRun (unsigned text).2 = true ∧
        signed (unsigned text).1 (value (unsigned text).2) = n := by
  constructor
  · intro h
    obtain ⟨negative, digits, hunsigned, hnonempty, hdigits, rfl⟩ := h.exists_unsigned
    rw [hunsigned]
    exact ⟨isRun_eq_true_iff.mpr ⟨hnonempty, hdigits⟩, rfl⟩
  · rintro ⟨hrun, rfl⟩
    obtain ⟨hnonempty, hdigits⟩ := isRun_eq_true_iff.mp hrun
    obtain ⟨sign, hsign, htext⟩ := exists_isSign text
    generalize unsigned text = parts at *
    rcases parts with ⟨negative, digits⟩
    subst htext
    cases hsign with
    | absent => exact .plain hnonempty hdigits
    | plus => exact .plus hnonempty hdigits
    | minus => exact .minus hnonempty hdigits

/-- A number of 64 signed bits is read from the literals that stand for it, and from nothing
else. -/
theorem int64?_eq_some_iff {text : List Char} {n : Int64} :
    int64? text = some n ↔ IsLiteral text n.toInt := by
  constructor
  · intro h
    unfold int64? at h
    dsimp only at h
    split at h
    next hrun =>
      unfold toInt64? at h
      split at h
      next hrange =>
        obtain ⟨word, hword, hvalue⟩ := exists_toInt64? hrange
        rw [toInt64?, if_pos hrange, h] at hword
        cases hword
        exact isLiteral_iff.mpr ⟨hrun, hvalue.symm⟩
      next => contradiction
    next => contradiction
  · intro h
    rw [int64?_of_isLiteral h, toInt64?_toInt]

/-- What is no literal of a whole number of 64 bits is not read as one. -/
theorem int64?_eq_none_iff {text : List Char} :
    int64? text = none ↔ ∀ n : Int64, ¬ IsLiteral text n.toInt := by
  simp only [← int64?_eq_some_iff, Option.eq_none_iff_forall_ne_some]

/-! ## Digits in front -/

/-- The digits in front of a text end where something else begins. -/
theorem leading_append {digits rest : List Char} (hdigits : ∀ c ∈ digits, c.isDigit = true)
    (hrest : ∀ c ∈ rest.head?, c.isDigit = false) :
    leading (digits ++ rest) = digits ∧ afterLeading (digits ++ rest) = rest := by
  rw [leading, afterLeading, List.takeWhile_append_of_pos hdigits,
    List.dropWhile_append_of_pos hdigits]
  cases rest with
  | nil => exact ⟨List.append_nil digits, rfl⟩
  | cons c rest =>
      have hc : ¬ c.isDigit = true := by simp [hrest c rfl]
      rw [List.takeWhile_cons_of_neg hc, List.dropWhile_cons_of_neg hc, List.append_nil]
      exact ⟨rfl, rfl⟩

theorem isDigit_of_mem_leading {text : List Char} : ∀ c ∈ leading text, c.isDigit = true :=
  fun _ hc => List.mem_takeWhile_imp hc

end Decimal

namespace FloatLiteral

open Decimal (IsSign unsigned)

/-! ## Exponents -/

/-- What may stand behind the digits of a number, and the power of ten that it stands for. -/
inductive IsExponent : List Char → ℤ → Prop
  | absent : IsExponent [] 0
  | written {e : Char} {literal : List Char} {n : ℤ} (he : e = 'e' ∨ e = 'E')
      (h : Decimal.IsLiteral literal n) : IsExponent (e :: literal) n

/-- An exponent is read where there is one, and as this one. -/
theorem readExponent?_eq_some_iff {text : List Char} {n : ℤ} :
    readExponent? text = some n ↔ IsExponent text n := by
  cases text with
  | nil =>
      constructor
      · intro h
        cases h
        exact .absent
      · intro h
        cases h
        rfl
  | cons e literal =>
      have hread : readExponent? (e :: literal) = some n ↔
          (e = 'e' ∨ e = 'E') ∧ Decimal.IsLiteral literal n := by
        simp only [readExponent?, Decimal.isLiteral_iff, Bool.and_eq_true, Bool.or_eq_true,
          beq_iff_eq, Option.ite_none_right_eq_some, Option.some.injEq, and_assoc]
      rw [hread]
      constructor
      · rintro ⟨he, h⟩
        exact .written he h
      · intro h
        cases h with
        | written he h => exact ⟨he, h⟩

/-- An exponent begins with a letter. -/
theorem IsExponent.head? {text : List Char} {n : ℤ} (h : IsExponent text n) :
    ∀ c ∈ text.head?, c.isDigit = false ∧ c ≠ '.' := by
  cases h with
  | absent => simp
  | written he =>
      rintro c ⟨⟩
      rcases he with rfl | rfl <;> decide

/-! ## Digits and a point -/

/-- The digits of a number with an exponent or without one: its significand, and the power of ten
that it is to be taken times.  There is a digit before the point or behind it. -/
inductive IsMagnitude : List Char → Nat → ℤ → Prop
  | whole {digits exponent : List Char} {n : ℤ} (hnonempty : digits ≠ [])
      (hdigits : ∀ c ∈ digits, c.isDigit = true) (hexponent : IsExponent exponent n) :
      IsMagnitude (digits ++ exponent) (Decimal.value digits) n
  | point {whole fraction exponent : List Char} {n : ℤ} (hnonempty : whole ++ fraction ≠ [])
      (hdigits : ∀ c ∈ whole ++ fraction, c.isDigit = true) (hexponent : IsExponent exponent n) :
      IsMagnitude (whole ++ '.' :: (fraction ++ exponent)) (Decimal.value (whole ++ fraction))
        (n - fraction.length)

/-- Digits that no point follows have no fraction. -/
theorem readDigits_whole {digits rest : List Char} (hdigits : ∀ c ∈ digits, c.isDigit = true)
    (hrest : ∀ c ∈ rest.head?, c.isDigit = false ∧ c ≠ '.') :
    readDigits (digits ++ rest) = (digits, [], rest) := by
  obtain ⟨hleading, hafter⟩ := Decimal.leading_append hdigits fun c hc => (hrest c hc).1
  unfold readDigits
  rw [hafter, hleading]
  split
  next => exact absurd rfl (hrest '.' rfl).2
  next => rfl

/-- Digits around a point are told apart by it. -/
theorem readDigits_point {whole fraction rest : List Char}
    (hdigits : ∀ c ∈ whole ++ fraction, c.isDigit = true)
    (hrest : ∀ c ∈ rest.head?, c.isDigit = false) :
    readDigits (whole ++ '.' :: (fraction ++ rest)) = (whole, fraction, rest) := by
  have hpoint : ∀ c ∈ ('.' :: (fraction ++ rest)).head?, c.isDigit = false := by
    rintro c ⟨⟩
    rfl
  obtain ⟨hleading, hafter⟩ :=
    Decimal.leading_append (fun c hc => hdigits c (List.mem_append_left _ hc)) hpoint
  obtain ⟨hleading', hafter'⟩ :=
    Decimal.leading_append (fun c hc => hdigits c (List.mem_append_right _ hc)) hrest
  unfold readDigits
  rw [hafter, hleading]
  exact congrArg₂ (fun fraction rest => (whole, fraction, rest)) hleading' hafter'

/-- The parts of a text, with a point between the first two or without one. -/
theorem readDigits_cases (text : List Char) :
    ∃ whole fraction rest, readDigits text = (whole, fraction, rest) ∧
      (∀ c ∈ whole ++ fraction, c.isDigit = true) ∧
      (fraction = [] ∧ text = whole ++ rest ∨ text = whole ++ '.' :: (fraction ++ rest)) := by
  have htext : Decimal.leading text ++ Decimal.afterLeading text = text :=
    List.takeWhile_append_dropWhile
  unfold readDigits
  split
  next rest hafter =>
    refine ⟨_, _, _, rfl, ?_, .inr ?_⟩
    · intro c hc
      rcases List.mem_append.mp hc with hc | hc
      · exact Decimal.isDigit_of_mem_leading c hc
      · exact Decimal.isDigit_of_mem_leading c hc
    · have hrest : Decimal.leading rest ++ Decimal.afterLeading rest = rest :=
        List.takeWhile_append_dropWhile
      rw [hrest, ← hafter, htext]
  next =>
    refine ⟨_, _, _, rfl, ?_, .inl ⟨rfl, htext.symm⟩⟩
    rw [List.append_nil]
    exact Decimal.isDigit_of_mem_leading

/-- A number is read where there is a magnitude, and is rounded from it. -/
theorem readNumber?_eq_some_iff {negative : Bool} {text : List Char} {x : Binary64} :
    readNumber? negative text = some x ↔
      ∃ significand exponent, IsMagnitude text significand exponent ∧
        Binary64.ofDecimal negative significand exponent = x := by
  constructor
  · intro h
    obtain ⟨whole, fraction, rest, hread, hdigits, htext⟩ := readDigits_cases text
    unfold readNumber? at h
    rw [hread] at h
    dsimp only at h
    split at h
    next => contradiction
    next hnonempty =>
      rw [List.isEmpty_iff] at hnonempty
      obtain ⟨n, hexponent, hx⟩ := Option.map_eq_some_iff.mp h
      rw [readExponent?_eq_some_iff] at hexponent
      rcases htext with ⟨rfl, rfl⟩ | rfl
      · rw [List.append_nil] at hnonempty hdigits hx
        rw [List.length_nil, Nat.cast_zero, sub_zero] at hx
        exact ⟨_, _, .whole hnonempty hdigits hexponent, hx⟩
      · exact ⟨_, _, .point hnonempty hdigits hexponent, hx⟩
  · rintro ⟨significand, exponent, h, rfl⟩
    unfold readNumber?
    cases h with
    | whole hnonempty hdigits hexponent =>
        rw [readDigits_whole hdigits hexponent.head?]
        simp [hnonempty, readExponent?_eq_some_iff.mpr hexponent]
    | point hnonempty hdigits hexponent =>
        rw [readDigits_point hdigits fun c hc => (hexponent.head? c hc).1]
        dsimp only
        rw [if_neg (by simpa using hnonempty), readExponent?_eq_some_iff.mpr hexponent]
        rfl

/-! ## Words -/

/-- A text is a word, in small letters or capitals. -/
def Spells (text : List Char) (word : String) : Prop :=
  String.ofList (text.map Char.toLower) = word

/-- The words that stand for a number, and the number for each sign. -/
inductive IsWord : List Char → (Bool → Binary64) → Prop
  | infinity {text : List Char} (h : Spells text "inf" ∨ Spells text "infinity") :
      IsWord text Binary64.infinity
  | nan {text : List Char} (h : Spells text "nan") : IsWord text fun _ => Binary64.nan

/-- A word for a number is read as this number. -/
theorem readWord?_eq_some_iff {negative : Bool} {text : List Char} {x : Binary64} :
    readWord? negative text = some x ↔ ∃ number, IsWord text number ∧ number negative = x := by
  unfold readWord?
  dsimp only
  constructor
  · intro h
    split at h
    next hnan => exact ⟨_, .nan (beq_iff_eq.mp hnan), Option.some.inj h⟩
    next =>
      split at h
      next hinfinity =>
        rw [Bool.or_eq_true, beq_iff_eq, beq_iff_eq] at hinfinity
        exact ⟨_, .infinity hinfinity, Option.some.inj h⟩
      next => contradiction
  · rintro ⟨number, hword, rfl⟩
    cases hword with
    | infinity h =>
        rcases h with h | h
        all_goals
          rw [h]
          rfl
    | nan h =>
        rw [h]
        rfl

/-- A text that is a word begins with the first letter of the word. -/
theorem Spells.exists_cons {text : List Char} {letter : Char} {letters : List Char}
    (h : Spells text (String.ofList (letter :: letters))) :
    ∃ c rest, text = c :: rest ∧ c.toLower = letter := by
  cases text with
  | nil => exact absurd (String.ofList_inj.mp h).symm (List.cons_ne_nil _ _)
  | cons c rest => exact ⟨c, rest, rfl, (List.cons.inj (String.ofList_inj.mp h)).1⟩

theorem toLower_of_isDigit {c : Char} (h : c.isDigit = true) : c.toLower = c := by
  have hnine : '9'.toNat = 57 := rfl
  rw [Char.isDigit_iff_toNat, hnine] at h
  unfold Char.toLower
  rw [dif_neg]
  rintro ⟨hcapital, -⟩
  have hcapital : 65 ≤ c.toNat := hcapital
  omega

/-- A word begins with a letter, and not with a sign, a digit or a point. -/
theorem IsWord.exists_cons {text : List Char} {number : Bool → Binary64} (h : IsWord text number) :
    ∃ c rest, text = c :: rest ∧ c.isDigit = false ∧ c ≠ '.' ∧ c ≠ '+' ∧ c ≠ '-' := by
  have hletter : ∃ c rest, text = c :: rest ∧ c.toLower ∈ ['i', 'n'] := by
    cases h with
    | infinity h =>
        rcases h with h | h
        · obtain ⟨c, rest, htext, hc⟩ := Spells.exists_cons h
          exact ⟨c, rest, htext, hc ▸ by simp⟩
        · obtain ⟨c, rest, htext, hc⟩ := Spells.exists_cons h
          exact ⟨c, rest, htext, hc ▸ by simp⟩
    | nan h =>
        obtain ⟨c, rest, htext, hc⟩ := Spells.exists_cons h
        exact ⟨c, rest, htext, hc ▸ by simp⟩
  obtain ⟨c, rest, htext, hc⟩ := hletter
  refine ⟨c, rest, htext, ?_, ?_, ?_, ?_⟩
  · by_contra hdigit
    rw [Bool.not_eq_false] at hdigit
    rw [toLower_of_isDigit hdigit] at hc
    rcases List.mem_pair.mp hc with rfl | rfl <;> contradiction
  all_goals
    rintro rfl
    exact absurd hc (by decide)

/-! ## Literals -/

/-- The literals of a floating-point number: digits that are rounded, or a word, with a sign in
front or without one. -/
inductive IsLiteral : List Char → Binary64 → Prop
  | number {sign magnitude : List Char} {negative : Bool} {significand : Nat} {exponent : ℤ}
      (hsign : IsSign sign negative) (h : IsMagnitude magnitude significand exponent) :
      IsLiteral (sign ++ magnitude) (Binary64.ofDecimal negative significand exponent)
  | word {sign text : List Char} {negative : Bool} {number : Bool → Binary64}
      (hsign : IsSign sign negative) (h : IsWord text number) :
      IsLiteral (sign ++ text) (number negative)

/-- A number begins with a digit or a point. -/
theorem IsMagnitude.exists_cons {text : List Char} {significand : Nat} {exponent : ℤ}
    (h : IsMagnitude text significand exponent) :
    ∃ c rest, text = c :: rest ∧ (c.isDigit = true ∨ c = '.') := by
  cases h with
  | @whole digits exponent n hnonempty hdigits hexponent =>
      cases digits with
      | nil => contradiction
      | cons c digits => exact ⟨c, _, rfl, .inl (hdigits c List.mem_cons_self)⟩
  | @point whole fraction exponent n hnonempty hdigits hexponent =>
      cases whole with
      | nil => exact ⟨'.', _, rfl, .inr rfl⟩
      | cons c whole => exact ⟨c, _, rfl, .inl (hdigits c List.mem_cons_self)⟩

theorem IsMagnitude.unsigned {text : List Char} {significand : Nat} {exponent : ℤ}
    (h : IsMagnitude text significand exponent) : unsigned text = (false, text) := by
  obtain ⟨c, rest, rfl, hc⟩ := h.exists_cons
  refine Decimal.unsigned_cons ?_ ?_ rest
  all_goals
    rintro rfl
    exact absurd hc (by decide)

theorem IsWord.unsigned {text : List Char} {number : Bool → Binary64} (h : IsWord text number) :
    unsigned text = (false, text) := by
  obtain ⟨c, rest, rfl, -, -, hplus, hminus⟩ := h.exists_cons
  exact Decimal.unsigned_cons hplus hminus rest

/-- A word is no number. -/
theorem IsWord.readNumber?_eq_none {text : List Char} {number : Bool → Binary64}
    (h : IsWord text number) (negative : Bool) : readNumber? negative text = none := by
  rw [Option.eq_none_iff_forall_ne_some]
  intro x hx
  obtain ⟨significand, exponent, hmagnitude, -⟩ := readNumber?_eq_some_iff.mp hx
  obtain ⟨c, rest, htext, hdigit, hpoint, -⟩ := h.exists_cons
  obtain ⟨c', rest', htext', hc⟩ := hmagnitude.exists_cons
  obtain ⟨rfl, -⟩ := List.cons.inj (htext.symm.trans htext')
  rcases hc with hc | hc
  · rw [hdigit] at hc
    contradiction
  · contradiction

/-- A floating-point number is read from the literals that stand for it, and from nothing else. -/
theorem read?_eq_some_iff {text : List Char} {x : Binary64} :
    read? text = some x ↔ IsLiteral text x := by
  constructor
  · intro h
    obtain ⟨sign, hsign, htext⟩ := Decimal.exists_isSign text
    unfold read? at h
    dsimp only at h
    rw [htext]
    rcases (Option.orElse_eq_some _ _ _).mp h with h | ⟨-, h⟩
    · obtain ⟨significand, exponent, hmagnitude, rfl⟩ := readNumber?_eq_some_iff.mp h
      exact .number hsign hmagnitude
    · obtain ⟨number, hword, rfl⟩ := readWord?_eq_some_iff.mp h
      exact .word hsign hword
  · intro h
    unfold read?
    cases h with
    | number hsign h =>
        rw [Decimal.unsigned_append hsign h.unsigned]
        exact (Option.orElse_eq_some _ _ _).mpr (.inl (readNumber?_eq_some_iff.mpr ⟨_, _, h, rfl⟩))
    | word hsign h =>
        rw [Decimal.unsigned_append hsign h.unsigned]
        exact (Option.orElse_eq_some _ _ _).mpr
          (.inr ⟨h.readNumber?_eq_none _, readWord?_eq_some_iff.mpr ⟨_, h, rfl⟩⟩)

/-- What is no literal is not read. -/
theorem read?_eq_none_iff {text : List Char} :
    read? text = none ↔ ∀ x, ¬ IsLiteral text x := by
  simp only [← read?_eq_some_iff, Option.eq_none_iff_forall_ne_some]

end FloatLiteral

end TextTemplate
