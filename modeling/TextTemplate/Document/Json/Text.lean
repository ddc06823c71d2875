/-!
# Texts in JSON

A text stands in double quotes.  A backslash begins an escape; characters outside
the first plane may be written as two escapes, one for each half of their
surrogate pair.

Main results:

- `Json.encodeText` writes a text.
- `Json.readText?` takes a text off the front of a document, behind its first quote.
-/

namespace TextTemplate.Json

/-! ### Writing -/

/-- A control character as an escape of four hexadecimal digits. -/
def controlEscape (c : Char) : List Char :=
  let digits := Nat.toDigits 16 c.toNat
  ['\\', 'u'] ++ List.replicate (4 - digits.length) '0' ++ digits

/-- The form of one character between double quotes. -/
def encodeChar (c : Char) : List Char :=
  match c with
  | '"' => ['\\', '"']
  | '\\' => ['\\', '\\']
  | '\x08' => ['\\', 'b']
  | '\t' => ['\\', 't']
  | '\n' => ['\\', 'n']
  | '\x0c' => ['\\', 'f']
  | '\r' => ['\\', 'r']
  | c => if c.toNat < 0x20 then controlEscape c else [c]

/-- The text in double quotes. -/
def encodeText (text : String) : String :=
  String.ofList ('"' :: text.toList.flatMap encodeChar ++ ['"'])

/-! ### Reading -/

/-- A character of a text as it is written: itself, or a number of 16 bits. -/
inductive TextUnit
  | char (c : Char)
  | code (n : Nat)
deriving DecidableEq, Repr

/-- The value of a hexadecimal digit, in small letters or capitals. -/
def hexValue? (c : Char) : Option Nat :=
  if c.isDigit then some (c.toNat - '0'.toNat)
  else if 'a' ≤ c ∧ c ≤ 'f' then some (c.toNat - 'a'.toNat + 10)
  else if 'A' ≤ c ∧ c ≤ 'F' then some (c.toNat - 'A'.toNat + 10)
  else none

/-- The value of hexadecimal digits. -/
def hexNumber? (digits : List Char) : Option Nat :=
  digits.foldlM (fun n c => (hexValue? c).map (16 * n + ·)) 0

/-- The character meant by a one-letter escape. -/
def escaped? (c : Char) : Option Char :=
  match c with
  | '"' => some '"'
  | '\\' => some '\\'
  | '/' => some '/'
  | 'b' => some '\x08'
  | 'f' => some '\x0c'
  | 'n' => some '\n'
  | 'r' => some '\r'
  | 't' => some '\t'
  | _ => none

/-- Takes the units up to the closing quote, and the quote. -/
def readUnits? : List Char → Option (List TextUnit × List Char)
  | [] => none
  | '"' :: rest => some ([], rest)
  | '\\' :: 'u' :: a :: b :: c :: d :: rest => do
      let code ← hexNumber? [a, b, c, d]
      let (units, behind) ← readUnits? rest
      some (.code code :: units, behind)
  | '\\' :: c :: rest => do
      let char ← escaped? c
      let (units, behind) ← readUnits? rest
      some (.char char :: units, behind)
  | c :: rest =>
      if c == '\\' || c.toNat < 0x20 then none
      else do
        let (units, behind) ← readUnits? rest
        some (.char c :: units, behind)

/-- The first half of a surrogate pair. -/
def isLeading (n : Nat) : Bool := 0xD800 ≤ n && n ≤ 0xDBFF

/-- The second half of a surrogate pair. -/
def isTrailing (n : Nat) : Bool := 0xDC00 ≤ n && n ≤ 0xDFFF

/-- The character of a surrogate pair. -/
def ofPair (leading trailing : Nat) : Char :=
  Char.ofNat (0x10000 + (leading - 0xD800) * 0x400 + (trailing - 0xDC00))

/-- Puts surrogate pairs together; a half without the other one is refused. -/
def joinUnits? : List TextUnit → Option (List Char)
  | [] => some []
  | .char c :: rest => (joinUnits? rest).map (c :: ·)
  | .code m :: .code n :: rest =>
      if isLeading m then
        if isTrailing n then (joinUnits? rest).map (ofPair m n :: ·) else none
      else if isTrailing m then none
      else (joinUnits? (.code n :: rest)).map (Char.ofNat m :: ·)
  | .code n :: rest =>
      if isLeading n || isTrailing n then none
      else (joinUnits? rest).map (Char.ofNat n :: ·)

/-- Takes a text and its closing quote off the front of a document. -/
def readText? (document : List Char) : Option (String × List Char) := do
  let (units, rest) ← readUnits? document
  let text ← joinUnits? units
  some (String.ofList text, rest)

/-- Reading takes at least the closing quote. -/
theorem length_lt_of_readUnits? {document rest : List Char} {units : List TextUnit}
    (h : readUnits? document = some (units, rest)) : rest.length < document.length := by
  fun_induction readUnits? document generalizing units rest with
  | case1 => simp at h
  | case2 behind =>
      simp only [Option.some.injEq, Prod.mk.injEq] at h
      obtain ⟨_, rfl⟩ := h
      simp
  | case3 a b c d behind ih =>
      simp only [Option.bind_eq_bind, Option.bind_eq_some_iff, Prod.exists, Option.some.injEq,
        Prod.mk.injEq] at h
      obtain ⟨_, _, _, _, hunits, _, rfl⟩ := h
      have := ih hunits
      simp only [List.length_cons]
      omega
  | case4 c behind _ ih =>
      simp only [Option.bind_eq_bind, Option.bind_eq_some_iff, Prod.exists, Option.some.injEq,
        Prod.mk.injEq] at h
      obtain ⟨_, _, _, _, hunits, _, rfl⟩ := h
      have := ih hunits
      simp only [List.length_cons]
      omega
  | case5 => simp at h
  | case6 c behind _ _ _ _ ih =>
      simp only [Option.bind_eq_bind, Option.bind_eq_some_iff, Prod.exists, Option.some.injEq,
        Prod.mk.injEq] at h
      obtain ⟨_, _, hunits, _, rfl⟩ := h
      have := ih hunits
      simp only [List.length_cons]
      omega

/-- Reading takes at least the closing quote. -/
theorem length_lt_of_readText? {document rest : List Char} {text : String}
    (h : readText? document = some (text, rest)) : rest.length < document.length := by
  simp only [readText?, Option.bind_eq_bind, Option.bind_eq_some_iff, Prod.exists,
    Option.some.injEq, Prod.mk.injEq] at h
  obtain ⟨_, _, hunits, _, _, _, rfl⟩ := h
  exact length_lt_of_readUnits? hunits

end TextTemplate.Json
