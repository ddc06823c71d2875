/-!
# Blank characters

White space in the sense of the Unicode property White_Space, and the text that
is left when it is cut off at both ends.

Main results:

- `Text.trim` cuts leading and trailing blanks.
- `Text.trim_eq_self`: everything is left where no character is blank.
-/

namespace TextTemplate.Text

/-- The characters with the property White_Space. -/
def isBlank (c : Char) : Bool :=
  let n := c.toNat
  (0x09 ≤ n && n ≤ 0x0D) || n == 0x20 || n == 0x85 || n == 0xA0 || n == 0x1680 ||
    (0x2000 ≤ n && n ≤ 0x200A) || n == 0x2028 || n == 0x2029 || n == 0x202F ||
    n == 0x205F || n == 0x3000

/-- The text without the blanks at its end. -/
def trimEnd (text : List Char) : List Char :=
  (text.reverse.dropWhile isBlank).reverse

/-- The text without the blanks at either end. -/
def trim (text : List Char) : List Char :=
  trimEnd (text.dropWhile isBlank)

/-- Trimming leaves a text without blanks as it is. -/
theorem trim_eq_self {text : List Char} (h : ∀ c ∈ text, isBlank c = false) :
    trim text = text := by
  have hdrop : ∀ chars : List Char, (∀ c ∈ chars, isBlank c = false) →
      chars.dropWhile isBlank = chars := by
    intro chars hchars
    cases chars with
    | nil => rfl
    | cons c rest => simp [hchars c List.mem_cons_self]
  have hreverse : ∀ c ∈ text.reverse, isBlank c = false := by
    simpa using h
  rw [trim, hdrop text h, trimEnd, hdrop text.reverse hreverse, List.reverse_reverse]

end TextTemplate.Text
