import TextTemplate.Text.Uppercase

/-!
# The uppercase table is closed

A character that comes out of the uppercase mapping is its own uppercase form: nothing in
the image of the table is changed by the table.

Whether two long lists of code points have a common member is decided by marking the
members of each as the bits of one number; the lists are apart when the two numbers have no
bit in common.

Main results:

- Definition `Uppercase.changing` and definition `Uppercase.images`: the code points that the
  table changes, and those it changes them to.
- Theorem `Uppercase.not_mem_changing_of_mem_images`: no code point is in both lists.
- Theorem `Uppercase.ofCode_of_mem_ofCode`: an image stays as it is.
- Theorem `Uppercase.ofChar_of_mem_ofChar`: so does a character of an uppercase form.
-/

namespace TextTemplate.Uppercase

/-! ## Numbers as sets of code points -/

/-- The number whose bits are the listed places. -/
def marks (codes : List Nat) : Nat := codes.foldr (fun code mask => 1 <<< code ||| mask) 0

/-- The marks of codes are set at these codes. -/
theorem testBit_marks {codes : List Nat} {code : Nat} :
    (marks codes).testBit code = true ↔ code ∈ codes := by
  induction codes with
  | nil => simp [marks]
  | cons other codes ih =>
      rw [marks, List.foldr_cons, ← marks, Nat.testBit_or, Bool.or_eq_true, ih, List.mem_cons,
        Nat.one_shiftLeft, Nat.testBit_two_pow, decide_eq_true_eq, eq_comm]

/-- Lists whose marks share no bit have no member in common. -/
theorem not_mem_of_marks {codes others : List Nat} (hapart : marks codes &&& marks others = 0)
    {code : Nat} (hcode : code ∈ codes) : code ∉ others := by
  intro hother
  have hbit : (marks codes &&& marks others).testBit code = true := by
    rw [Nat.testBit_and, testBit_marks.mpr hcode, testBit_marks.mpr hother, Bool.and_true]
  rw [hapart, Nat.zero_testBit] at hbit
  exact Bool.false_ne_true hbit

/-! ## The code points of the table -/

/-- The code points that a run covers. -/
def Run.places (run : Run) : List Nat :=
  (List.range ((run.last - run.first) / run.step + 1)).map fun k => run.first + run.step * k

theorem Run.mem_places {run : Run} {code : Nat} (h : run.covers code = true) :
    code ∈ run.places := by
  simp only [Run.covers, Bool.and_eq_true, decide_eq_true_eq, beq_iff_eq] at h
  obtain ⟨⟨hfirst, hlast⟩, hgrid⟩ := h
  have hdistance : run.step * ((code - run.first) / run.step) = code - run.first :=
    Nat.mul_div_cancel' (Nat.dvd_of_mod_eq_zero hgrid)
  have hcount : (code - run.first) / run.step ≤ (run.last - run.first) / run.step :=
    Nat.div_le_div_right (Nat.sub_le_sub_right hlast _)
  refine List.mem_map.mpr ⟨(code - run.first) / run.step, ?_, ?_⟩
  · exact List.mem_range.mpr (Nat.lt_succ_of_le hcount)
  · rw [hdistance]
    exact Nat.add_sub_cancel' hfirst

/-- The code points that the table changes. -/
def changing : List Nat := runs.flatMap Run.places ++ expansions.map (·.1)

/-- The code points that the table changes others to. -/
def images : List Nat :=
  (runs.flatMap fun run => run.places.map run.image) ++ expansions.flatMap (·.2)

/-- No image changes once more. -/
theorem not_mem_changing_of_mem_images {code : Nat} (h : code ∈ images) : code ∉ changing := by
  have hapart : marks images &&& marks changing = 0 := by decide +kernel
  exact not_mem_of_marks hapart h

/-- Images are codes of characters. -/
theorem isValidChar_of_mem_images {code : Nat} (h : code ∈ images) : code.isValidChar := by
  have hall : (images.all fun code => decide code.isValidChar) = true := by decide +kernel
  exact of_decide_eq_true (List.all_eq_true.mp hall code h)

/-! ## Code points that stay -/

theorem mem_changing_of_covers {run : Run} {code : Nat} (hrun : run ∈ runs)
    (hcovers : run.covers code = true) : code ∈ changing :=
  List.mem_append_left _ (List.mem_flatMap.mpr ⟨run, hrun, Run.mem_places hcovers⟩)

/-- An entry that is found stands in the list. -/
theorem mem_of_lookup {code : Nat} {codes : List Nat} {entries : List (Nat × List Nat)}
    (h : entries.lookup code = some codes) : (code, codes) ∈ entries := by
  induction entries with
  | nil => exact nomatch h
  | cons entry entries ih =>
      rw [List.lookup_cons] at h
      split at h
      next hcode =>
        obtain rfl := Option.some.inj h
        rw [beq_iff_eq.mp hcode]
        exact List.mem_cons_self
      next => exact List.mem_cons_of_mem _ (ih h)

/-- The three ways in which a code point is mapped: by a run, by an expansion, or not at all. -/
theorem ofCode_cases (code : Nat) :
    (∃ run ∈ runs, run.covers code = true ∧ ofCode code = [run.image code]) ∨
      (∃ codes, (code, codes) ∈ expansions ∧ ofCode code = codes) ∨
      ofCode code = [code] := by
  rw [ofCode]
  split
  next run hrun =>
    have hcovers : run.covers code = true := by simpa using List.find?_some hrun
    exact .inl ⟨run, List.mem_of_find?_eq_some hrun, hcovers, rfl⟩
  next =>
    split
    next codes hcodes => exact .inr (.inl ⟨codes, mem_of_lookup hcodes, rfl⟩)
    next => exact .inr (.inr rfl)

/-- A code point that the table does not change stays as it is. -/
theorem ofCode_of_not_mem_changing {code : Nat} (h : code ∉ changing) : ofCode code = [code] := by
  rcases ofCode_cases code with ⟨run, hrun, hcovers, -⟩ | ⟨codes, hcodes, -⟩ | hself
  · exact absurd (mem_changing_of_covers hrun hcovers) h
  · exact absurd (List.mem_append_right _ (List.mem_map.mpr ⟨_, hcodes, rfl⟩)) h
  · exact hself

/-- What a code point becomes is an image of the table, or the code point itself where it
stays. -/
theorem mem_images_of_mem_ofCode {code image : Nat} (h : image ∈ ofCode code) :
    image ∈ images ∨ image = code ∧ ofCode code = [code] := by
  rcases ofCode_cases code with ⟨run, hrun, hcovers, hcode⟩ | ⟨codes, hcodes, hcode⟩ | hself
  · rw [hcode, List.mem_singleton] at h
    refine .inl (List.mem_append_left _ (List.mem_flatMap.mpr ⟨run, hrun, ?_⟩))
    exact List.mem_map.mpr ⟨code, Run.mem_places hcovers, h.symm⟩
  · rw [hcode] at h
    exact .inl (List.mem_append_right _ (List.mem_flatMap.mpr ⟨_, hcodes, h⟩))
  · rw [hself, List.mem_singleton] at h
    exact .inr ⟨h, hself⟩

/-- The uppercase form of a code point is made of code points that stay as they are. -/
theorem ofCode_of_mem_ofCode {code image : Nat} (h : image ∈ ofCode code) :
    ofCode image = [image] := by
  rcases mem_images_of_mem_ofCode h with himage | ⟨rfl, hself⟩
  · exact ofCode_of_not_mem_changing (not_mem_changing_of_mem_images himage)
  · exact hself

/-- A character becomes code points of characters. -/
theorem isValidChar_of_mem_ofCode {c : Char} {image : Nat} (h : image ∈ ofCode c.toNat) :
    image.isValidChar := by
  rcases mem_images_of_mem_ofCode h with himage | ⟨rfl, -⟩
  · exact isValidChar_of_mem_images himage
  · exact c.valid

/-! ## Characters and texts -/

/-- The uppercase form of a character is made of characters that stay as they are. -/
theorem ofChar_of_mem_ofChar {c d : Char} (h : d ∈ ofChar c) : ofChar d = [d] := by
  obtain ⟨image, himage, rfl⟩ := List.mem_map.mp h
  have hcode : (Char.ofNat image).toNat = image := by
    rw [Char.ofNat, dif_pos (isValidChar_of_mem_ofCode himage)]
    rfl
  rw [ofChar, hcode, ofCode_of_mem_ofCode himage]
  rfl

end TextTemplate.Uppercase
