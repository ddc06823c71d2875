import Mathlib.Algebra.Order.Ring.Int
import TextTemplate.Parameter.Definition
import TextTemplate.Proofs.Text.HexDigits

/-!
# Rendering bytes

Bytes are rendered by their hexadecimal digits, and the options decide about the letters and
about a `0x` in front.  Options may be set any number of times and in any order: of the calls of
each kind the last one counts.  Whatever the options are, the bytes can be read again from the
text that is rendered for them.

Main results:

- Definition `Hex.run`: the bytes after calls that set options.
- Definition `Hex.Decides`: how an option is left by calls.
- Theorem `Hex.decode?_render`: the bytes are read again from their rendering.
- Theorem `Hex.render_history`: the rendering after any calls.
- Theorem `Hex.showsInteger_render`: a whole number is shown with its sign, in as many digits as
  it needs.
- Theorem `Hex.ShowsInteger.unique`: no two numbers have the same digits.
-/

namespace TextTemplate.Hex

/-! ## Options -/

/-- A call that sets an option. -/
inductive Call
  | uppercase (on : Bool)
  | prefixed (on : Bool)
deriving DecidableEq, Repr

/-- The bytes after a call. -/
def after (value : Hex) : Call → Hex
  | .uppercase on => value.withUppercase on
  | .prefixed on => value.withPrefix on

/-- The bytes after calls, one after the other. -/
def run (value : Hex) (calls : List Call) : Hex := calls.foldl after value

theorem run_concat (value : Hex) (calls : List Call) (call : Call) :
    value.run (calls ++ [call]) = (value.run calls).after call := by
  simp [run]

/-- How an option is left by calls: the last call of its kind decides, and without any it is
off. -/
inductive Decides (kind : Bool → Call) : List Call → Bool → Prop
  | last {before later : List Call} (on : Bool) (h : ∀ other, kind other ∉ later) :
      Decides kind (before ++ kind on :: later) on
  | never {calls : List Call} (h : ∀ on, kind on ∉ calls) : Decides kind calls false

/-- A call of another kind decides nothing. -/
theorem Decides.concat {kind : Bool → Call} {calls : List Call} {on : Bool} {call : Call}
    (h : Decides kind calls on) (hkind : ∀ other, kind other ≠ call) :
    Decides kind (calls ++ [call]) on := by
  have hconcat : ∀ later, (∀ other, kind other ∉ later) →
      ∀ other, kind other ∉ later ++ [call] := by
    intro later hlater other hmem
    rcases List.mem_append.mp hmem with hmem | hmem
    · exact hlater other hmem
    · exact hkind other (List.mem_singleton.mp hmem)
  cases h with
  | last on hlater =>
      rw [List.append_assoc, List.cons_append]
      exact Decides.last on (hconcat _ hlater)
  | never hnever => exact Decides.never (hconcat _ hnever)

/-- The last call of a kind decides at once. -/
theorem Decides.self (kind : Bool → Call) (calls : List Call) (on : Bool) :
    Decides kind (calls ++ [kind on]) on :=
  Decides.last on (by simp)

theorem bytes_run (value : Hex) (calls : List Call) : (value.run calls).bytes = value.bytes := by
  induction calls using List.reverseRecOn with
  | nil => rfl
  | append_singleton calls call ih =>
      rw [run_concat, ← ih]
      cases call <;> rfl

/-- Both options are as the last calls say. -/
theorem decides_run {value : Hex} (huppercase : value.uppercase = false)
    (hprefixed : value.prefixed = false) (calls : List Call) :
    Decides .uppercase calls (value.run calls).uppercase ∧
      Decides .prefixed calls (value.run calls).prefixed := by
  induction calls using List.reverseRecOn with
  | nil =>
      constructor
      · rw [run, List.foldl_nil, huppercase]
        exact Decides.never (by simp)
      · rw [run, List.foldl_nil, hprefixed]
        exact Decides.never (by simp)
  | append_singleton calls call ih =>
      rw [run_concat]
      cases call with
      | uppercase on => exact ⟨Decides.self .uppercase calls on, ih.2.concat (by simp)⟩
      | prefixed on => exact ⟨ih.1.concat (by simp), Decides.self .prefixed calls on⟩

/-! ## Rendering -/

/-- The bytes that are read from a text, behind its `0x` if it has one. -/
def decode? (text : String) : Option (List UInt8) :=
  HexDigits.decode? (HexDigits.behindPrefix text.toList)

theorem render_eq (value : Hex) :
    value.render = (if value.prefixed then "0x" else "") ++
      String.ofList (HexDigits.encode value.letters value.bytes) := by
  unfold render
  split
  · rw [← String.toList_inj]
    simp
  · simp

/-- Behind its `0x` a rendering has the digits of the bytes. -/
theorem behindPrefix_render (value : Hex) :
    HexDigits.behindPrefix value.render.toList = HexDigits.encode value.letters value.bytes := by
  unfold render
  rw [String.toList_ofList]
  split
  · rfl
  · exact HexDigits.behindPrefix_encode _ _

/-- The bytes are read again from their rendering. -/
theorem decode?_render (value : Hex) : decode? value.render = some value.bytes := by
  rw [decode?, behindPrefix_render, HexDigits.decode?_encode]

/-- Other bytes are rendered otherwise, with the same options or with other ones. -/
theorem bytes_eq_of_render_eq {value other : Hex} (h : other.render = value.render) :
    other.bytes = value.bytes := by
  have hdecode := decode?_render other
  rw [h, decode?_render] at hdecode
  exact (Option.some.inj hdecode).symm

/-- Bytes are rendered after any calls by two digits for each of them, in capitals where the
last calls leave one of the options on, and behind a `0x` where they leave that option on.  They
are read again from there, so other bytes are rendered otherwise, and a text has the bytes of
its encoding. -/
theorem render_history (bytes : List UInt8) (calls : List Call) :
    ∃ value : Hex, ({ bytes := bytes } : Hex).run calls = value ∧
      Decides .uppercase calls value.uppercase ∧ Decides .prefixed calls value.prefixed ∧
      (∃ digits, value.render = (if value.prefixed then "0x" else "") ++ String.ofList digits ∧
        HexDigits.IsPairs (if value.uppercase ∨ value.prefixed then .upper else .lower) bytes
          digits ∧
        HexDigits.decode? digits = some bytes) ∧
      (∀ other : Hex, other.render = value.render → other.bytes = bytes) ∧
      ∀ text : String, decode? ((ofText text).run calls).render = some text.toUTF8.toList := by
  refine ⟨_, rfl, ?_⟩
  set value := ({ bytes := bytes } : Hex).run calls
  have hbytes : value.bytes = bytes := bytes_run _ calls
  have hletters : value.letters = if value.uppercase ∨ value.prefixed then .upper else .lower := by
    simp [letters]
  have hdecides : Decides .uppercase calls value.uppercase ∧
      Decides .prefixed calls value.prefixed := decides_run rfl rfl calls
  refine ⟨hdecides.1, hdecides.2, ?_, ?_, ?_⟩
  · refine ⟨HexDigits.encode value.letters bytes, ?_, ?_, HexDigits.decode?_encode _ _⟩
    · rw [render_eq, hbytes]
    · rw [← hletters]
      exact HexDigits.isPairs_encode _ _
  · intro other h
    rw [bytes_eq_of_render_eq h, hbytes]
  · intro text
    rw [decode?_render, bytes_run]
    rfl

/-- Capitals are not turned off while there is a `0x`. -/
example : (({ bytes := [0x0B] } : Hex).run [.prefixed true, .uppercase false]).render = "0x0B" := by
  decide

/-! ## Whole numbers -/

/-- A text shows a whole number in two's complement: by eight digits if 32 bits are enough for
the number, and by sixteen digits otherwise. -/
def ShowsInteger (text : String) (n : Int) : Prop :=
  if -2 ^ 31 ≤ n ∧ n < 2 ^ 31 then
    (HexDigits.behindPrefix text.toList).length = 8 ∧
      HexDigits.signed? 32 (HexDigits.behindPrefix text.toList) = some n
  else
    (HexDigits.behindPrefix text.toList).length = 16 ∧
      HexDigits.signed? 64 (HexDigits.behindPrefix text.toList) = some n

/-- The digits of a word tell its width and its value. -/
theorem behindPrefix_render_word {value : Hex} (count : Nat) (word : BitVec (8 * count))
    (h : value.bytes = bigEndian count word.toNat) :
    (HexDigits.behindPrefix value.render.toList).length = 2 * count ∧
      HexDigits.signed? (8 * count) (HexDigits.behindPrefix value.render.toList) =
        some word.toInt := by
  rw [behindPrefix_render, h, HexDigits.length_encode, length_bigEndian, HexDigits.signed?_encode]
  exact ⟨rfl, rfl⟩

/-- Bytes that come from a whole number show it, with any options. -/
theorem showsInteger_render {value : Hex} {n : Int64}
    (h : value.bytes = (HexSource.integer n).toHex.bytes) : ShowsInteger value.render n.toInt := by
  unfold ShowsInteger
  by_cases hnarrow : -2 ^ 31 ≤ n.toInt ∧ n.toInt < 2 ^ 31
  · have hword : (Int32.ofInt n.toInt).toBitVec.toInt = n.toInt :=
      Int32.toInt_ofInt_of_le hnarrow.1 hnarrow.2
    have hsource : (HexSource.integer n).toHex = ofInt32 (Int32.ofInt n.toInt) := if_pos hnarrow
    rw [hsource] at h
    rw [if_pos hnarrow, ← hword]
    exact behindPrefix_render_word 4 (Int32.ofInt n.toInt).toBitVec h
  · have hsource : (HexSource.integer n).toHex = ofInt64 n := if_neg hnarrow
    rw [hsource] at h
    rw [if_neg hnarrow]
    exact behindPrefix_render_word 8 n.toBitVec h

/-- Texts with the same digits show the same number. -/
theorem ShowsInteger.unique {text other : String} {n m : Int} (h : ShowsInteger text n)
    (hother : ShowsInteger other m)
    (hdigits : HexDigits.behindPrefix text.toList = HexDigits.behindPrefix other.toList) :
    n = m := by
  unfold ShowsInteger at h hother
  rw [hdigits] at h
  -- Eight digits are never sixteen, so both numbers are read with the same width.
  split at h <;> split at hother
  · exact Option.some.inj (h.2.symm.trans hother.2)
  · omega
  · omega
  · exact Option.some.inj (h.2.symm.trans hother.2)

end TextTemplate.Hex
