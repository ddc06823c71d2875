import TextTemplate.Proofs.Document.Json.Number
import TextTemplate.Proofs.Document.Json.Text

/-!
# Cutting JSON into tokens

A token is taken off the front of a text.  What is behind it has no part in it, except that a
number goes on as long as it can.  A text inside of an object is therefore cut in the same way
whatever else the object holds: the mark behind it, a comma or a closing brace, ends its last
token.

Main results:

- Theorem `Json.readText?_taken`: a text in quotes ends at its closing quote.
- Definition `Json.Token.Follows`: a text that ends a token just as another one does.
- Theorem `Json.Token.read?_taken`: what a token takes off a text.
- Theorem `Json.Token.ofText?_inside`: a text in front of a mark is cut for itself.
-/

namespace TextTemplate.Json

/-! ## Texts -/

/-- The units of a text end at the closing quote, and nothing behind it has a part in them. -/
theorem readUnits?_taken {document rest : List Char} {units : List TextUnit}
    (h : readUnits? document = some (units, rest)) :
    ∃ taken, document = taken ++ '"' :: rest ∧
      ∀ more, readUnits? (taken ++ '"' :: more) = some (units, more) := by
  fun_induction readUnits? document generalizing units rest with
  | case1 => contradiction
  | case2 behind =>
      cases h
      exact ⟨[], rfl, fun more => by rw [List.nil_append, readUnits?]⟩
  | case3 a b c d behind ih =>
      simp only [Option.bind_eq_bind, Option.bind_eq_some_iff, Prod.exists] at h
      obtain ⟨code, hcode, units, rest', hunits, h⟩ := h
      cases h
      obtain ⟨taken, rfl, hmore⟩ := ih hunits
      refine ⟨'\\' :: 'u' :: a :: b :: c :: d :: taken, rfl, fun more => ?_⟩
      simp [readUnits?, hcode, hmore]
  | case4 letter behind hnot ih =>
      simp only [Option.bind_eq_bind, Option.bind_eq_some_iff, Prod.exists] at h
      obtain ⟨c, hletter, units, rest', hunits, h⟩ := h
      cases h
      obtain ⟨taken, rfl, hmore⟩ := ih hunits
      refine ⟨'\\' :: letter :: taken, rfl, fun more => ?_⟩
      rw [List.cons_append, List.cons_append, readUnits?_escape hletter, hmore, Option.map_some]
  | case5 => contradiction
  | case6 c behind hquote hescape hbackslash hplain ih =>
      simp only [Option.bind_eq_bind, Option.bind_eq_some_iff, Prod.exists] at h
      obtain ⟨units, rest', hunits, h⟩ := h
      cases h
      obtain ⟨taken, rfl, hmore⟩ := ih hunits
      rw [Bool.or_eq_true, not_or, beq_iff_eq, decide_eq_true_eq] at hplain
      refine ⟨c :: taken, rfl, fun more => ?_⟩
      rw [List.cons_append, readUnits?_plain hquote hplain.1 hplain.2, hmore, Option.map_some]

/-- A text is read up to its closing quote, whatever stands behind it. -/
theorem readText?_taken {document rest : List Char} {text : String}
    (h : readText? document = some (text, rest)) :
    ∃ taken, document = taken ++ '"' :: rest ∧
      ∀ more, readText? (taken ++ '"' :: more) = some (text, more) := by
  simp only [readText?, Option.bind_eq_bind, Option.bind_eq_some_iff, Prod.exists] at h
  obtain ⟨units, rest', hunits, chars, hchars, h⟩ := h
  cases h
  obtain ⟨taken, rfl, hmore⟩ := readUnits?_taken hunits
  exact ⟨taken, rfl, fun more => by simp [readText?, hmore, hchars]⟩

namespace Token

/-! ## One token -/

/-- A mark that ends a member of an object. -/
def IsMark (c : Char) : Prop := c = ',' ∨ c = '}'

/-- A text ends a token that is in front of it just as another text does: it begins in the same
way, or with a mark. -/
def Follows (more rest : List Char) : Prop :=
  more.head? = rest.head? ∨ ∃ mark, IsMark mark ∧ more.head? = some mark

/-- No mark could still belong to a number. -/
theorem IsMark.ends {mark : Char} (h : IsMark mark) (numeral : Numeral) {more : List Char}
    (hmore : more.head? = some mark) : numeral.Ends more := by
  have hhead : ∀ c ∈ more.head?, c.isDigit = false ∧ (c ≠ 'e' ∧ c ≠ 'E') ∧ c ≠ '.' := by
    intro c hc
    rw [hmore] at hc
    obtain rfl := Option.some.inj hc
    rcases h with rfl | rfl <;> decide
  exact ⟨fun c hc => (hhead c hc).1, fun _ c hc => (hhead c hc).2.1,
    fun _ _ c hc => (hhead c hc).2.2⟩

/-- What follows in the place of another text ends the same numbers. -/
theorem Follows.ends {more rest : List Char} (h : Follows more rest) {numeral : Numeral}
    (hrest : numeral.Ends rest) : numeral.Ends more := by
  rcases h with h | ⟨mark, hmark, h⟩
  · obtain ⟨hdigits, hexponent, hfraction⟩ := hrest
    refine ⟨?_, ?_, ?_⟩
    · rwa [Numeral.EndsDigits, h]
    · rwa [Numeral.EndsExponent, h]
    · rwa [Numeral.EndsFraction, h]
  · exact hmark.ends numeral h

theorem readWord?_taken {word rest behind : List Char} {value : Value} {token : Token}
    (h : readWord? word value rest = some (token, behind)) :
    rest = word ++ behind ∧ ∀ more, readWord? word value (word ++ more) = some (token, more) := by
  unfold readWord? at *
  split at h
  next hprefix =>
    cases h
    obtain ⟨behind, rfl⟩ := List.isPrefixOf_iff_prefix.mp hprefix
    refine ⟨by rw [List.drop_left], fun more => ?_⟩
    rw [if_pos (List.isPrefixOf_iff_prefix.mpr (List.prefix_append word more)), List.drop_left]
  next => contradiction

/-- A text in quotes takes what is up to its closing quote, whatever goes on behind it. -/
theorem readQuoted?_taken {rest behind : List Char} {token : Token}
    (h : readQuoted? rest = some (token, behind)) :
    ∃ taken, rest = taken ++ '"' :: behind ∧
      ∀ more, readQuoted? (taken ++ '"' :: more) = some (token, more) := by
  simp only [readQuoted?, Option.bind_eq_bind, Option.bind_eq_some_iff, Prod.exists] at h
  obtain ⟨text, rest', htext, h⟩ := h
  cases h
  obtain ⟨taken, rfl, hmore⟩ := readText?_taken htext
  exact ⟨taken, rfl, fun more => by simp [readQuoted?, hmore]⟩

/-- A number takes its characters, the last of which is a digit, and takes the same ones where
another text follows. -/
theorem readNumber?_taken {text behind : List Char} {token : Token}
    (h : readNumber? text = some (token, behind)) :
    ∃ taken c, text = taken ++ behind ∧ taken.getLast? = some c ∧ c.isDigit = true ∧
      ∀ more, Follows more behind → readNumber? (taken ++ more) = some (token, more) := by
  simp only [readNumber?, Option.bind_eq_bind, Option.bind_eq_some_iff, Prod.exists] at h
  obtain ⟨numeral, rest, hread, value, hvalue, h⟩ := h
  cases h
  obtain ⟨taken, htext, hwritten, hends⟩ := Numeral.read?_eq_some_iff.mp hread
  obtain ⟨c, hlast, hdigit⟩ := hwritten.exists_digit
  refine ⟨taken, c, htext, hlast, hdigit, fun more hmore => ?_⟩
  have hmore := Numeral.read?_eq_some_iff.mpr ⟨taken, rfl, hwritten, hmore.ends hends⟩
  simp [readNumber?, hmore, hvalue]

/-- What a token takes off a text, and that it takes the same off another one that goes on like
it.  The closing brace of an object belongs to no token in front of it. -/
theorem read?_taken {c : Char} {rest behind : List Char} {token : Token}
    (h : read? c rest = some (token, behind)) :
    ∃ taken, rest = taken ++ behind ∧ taken.getLast? ≠ some '}' ∧
      ∀ more, Follows more behind → read? c (taken ++ more) = some (token, more) := by
  unfold read? at h
  split at h
  case h_7 =>
    obtain ⟨taken, rfl, hmore⟩ := readQuoted?_taken h
    refine ⟨taken ++ ['"'], by simp, by simp, fun more _ => ?_⟩
    rw [List.append_assoc]
    exact hmore more
  case h_8 =>
    obtain ⟨hrest, hmore⟩ := readWord?_taken h
    exact ⟨_, hrest, by decide, fun more _ => hmore more⟩
  case h_9 =>
    obtain ⟨hrest, hmore⟩ := readWord?_taken h
    exact ⟨_, hrest, by decide, fun more _ => hmore more⟩
  case h_10 =>
    obtain ⟨hrest, hmore⟩ := readWord?_taken h
    exact ⟨_, hrest, by decide, fun more _ => hmore more⟩
  case h_11 =>
    obtain ⟨taken, d, htext, hlast, hdigit, hmore⟩ := readNumber?_taken h
    cases taken with
    | nil => contradiction
    | cons first taken =>
        obtain ⟨rfl, rfl⟩ := List.cons.inj htext
        refine ⟨taken, rfl, ?_, fun more hfollows => ?_⟩
        · intro hbrace
          rw [List.getLast?_cons, hbrace] at hlast
          cases hlast
          contradiction
        · unfold read?
          split
          case h_11 => exact hmore more hfollows
          all_goals contradiction
  all_goals
    cases h
    exact ⟨[], rfl, by simp, fun more _ => rfl⟩

/-! ## Marks and scalars -/

/-- The character that a token consists of; a scalar is no such mark. -/
def mark? : Token → Option Char
  | openList => some '['
  | closeList => some ']'
  | openTable => some '{'
  | closeTable => some '}'
  | colon => some ':'
  | comma => some ','
  | scalar _ => none

/-- A floating-point number is no table. -/
theorem table?_of_float? {negative : Bool} {significand : Nat} {exponent : Int} {value : Value}
    (h : Numeral.float? negative significand exponent = some value) : value.table? = none := by
  simp only [Numeral.float?, Option.bind_eq_bind, Option.bind_eq_some_iff] at h
  obtain ⟨rounded, -, scaled, -, h⟩ := h
  cases h
  rfl

/-- A number is no table. -/
theorem table?_of_numeral {numeral : Numeral} {value : Value} (h : numeral.value? = some value) :
    value.table? = none := by
  have hwhole : ∀ negative significand, Numeral.wholeValue? negative significand = some value →
      value.table? = none := by
    intro negative significand hvalue
    unfold Numeral.wholeValue? at hvalue
    split at hvalue
    · cases hvalue
      rfl
    · split at hvalue
      · exact table?_of_float? hvalue
      · cases hvalue
        rfl
  unfold Numeral.value? at h
  dsimp only at h
  split at h
  · split at h
    · split at h
      · contradiction
      · exact table?_of_float? h
    · exact table?_of_float? h
  · split at h
    · exact hwhole _ _ h
    · exact table?_of_float? h

/-- A token is a mark and takes nothing else off the text, or it is a scalar and no table. -/
theorem read?_cases {c : Char} {rest behind : List Char} {token : Token}
    (h : read? c rest = some (token, behind)) :
    (token.mark? = some c ∧ rest = behind) ∨
      ∃ value, token = .scalar value ∧ value.table? = none := by
  have hword : ∀ {word : List Char} {value : Value}, value.table? = none →
      readWord? word value rest = some (token, behind) →
      ∃ value, token = .scalar value ∧ value.table? = none := by
    intro word value hvalue hread
    unfold readWord? at hread
    split at hread
    · cases hread
      exact ⟨value, rfl, hvalue⟩
    · contradiction
  unfold read? at h
  split at h
  case h_7 =>
    simp only [readQuoted?, Option.bind_eq_bind, Option.bind_eq_some_iff, Prod.exists] at h
    obtain ⟨text, rest', -, h⟩ := h
    cases h
    exact .inr ⟨_, rfl, rfl⟩
  case h_8 | h_9 | h_10 => exact .inr (hword rfl h)
  case h_11 =>
    simp only [readNumber?, Option.bind_eq_bind, Option.bind_eq_some_iff, Prod.exists] at h
    obtain ⟨numeral, rest', -, value, hvalue, h⟩ := h
    cases h
    exact .inr ⟨value, rfl, table?_of_numeral hvalue⟩
  all_goals
    cases h
    exact .inl ⟨rfl, rfl⟩

/-- A token with a mark is read from this mark and takes nothing else off the text. -/
theorem eq_of_read?_mark {c mark : Char} {rest behind : List Char} {token : Token}
    (h : read? c rest = some (token, behind)) (hmark : token.mark? = some mark) :
    c = mark ∧ rest = behind := by
  rcases read?_cases h with ⟨hc, hrest⟩ | ⟨value, rfl, -⟩
  · exact ⟨Option.some.inj (hc.symm.trans hmark), hrest⟩
  · contradiction

/-! ## All tokens -/

/-- Characters that stand between tokens. -/
def IsSpaces (text : List Char) : Prop := ∀ c ∈ text, isSpace c = true

theorem isSpaces_nil : IsSpaces [] := by simp [IsSpaces]

/-- Spaces in front of a text are passed over. -/
theorem ofText?_spaces {spaces : List Char} (h : IsSpaces spaces) (text : List Char) :
    ofText? (spaces ++ text) = ofText? text := by
  induction spaces with
  | nil => rfl
  | cons c spaces ih =>
      obtain ⟨hc, hspaces⟩ := List.forall_mem_cons.mp h
      rw [List.cons_append, ofText?_space hc, ih hspaces]

/-- The first token stands behind nothing but spaces. -/
theorem exists_read?_of_ofText? {text : List Char} {token : Token} {tokens : List Token}
    (h : ofText? text = some (token :: tokens)) :
    ∃ spaces c rest behind, text = spaces ++ c :: rest ∧ IsSpaces spaces ∧
      read? c rest = some (token, behind) ∧ ofText? behind = some tokens := by
  fun_induction ofText? text with
  | case1 => cases h
  | case2 c rest hspace ih =>
      obtain ⟨spaces, d, rest', behind, rfl, hspaces, hread, hbehind⟩ := ih h
      exact ⟨c :: spaces, d, rest', behind, rfl, List.forall_mem_cons.mpr ⟨hspace, hspaces⟩,
        hread, hbehind⟩
  | case3 => contradiction
  | case4 c rest hspace first behind hread ih =>
      obtain ⟨others, hothers, htokens⟩ := Option.map_eq_some_iff.mp h
      cases htokens
      exact ⟨[], c, rest, behind, rfl, isSpaces_nil, hread, hothers⟩

/-- A mark that comes first stands behind nothing but spaces. -/
theorem exists_spaces_of_mark {text : List Char} {token : Token} {tokens : List Token}
    {mark : Char} (h : ofText? text = some (token :: tokens)) (hmark : token.mark? = some mark) :
    ∃ spaces rest, text = spaces ++ mark :: rest ∧ IsSpaces spaces ∧
      ofText? rest = some tokens := by
  obtain ⟨spaces, c, rest, behind, rfl, hspaces, hread, hbehind⟩ := exists_read?_of_ofText? h
  obtain ⟨rfl, rfl⟩ := eq_of_read?_mark hread hmark
  exact ⟨spaces, rest, rfl, hspaces, hbehind⟩

/-- A text without tokens is nothing but spaces. -/
theorem isSpaces_of_ofText? {text : List Char} (h : ofText? text = some []) : IsSpaces text := by
  fun_induction ofText? text with
  | case1 => exact isSpaces_nil
  | case2 c rest hspace ih => exact List.forall_mem_cons.mpr ⟨hspace, ih h⟩
  | case3 => contradiction
  | case4 => simp at h

/-- No token of a text is a table by itself. -/
theorem table?_of_mem {text : List Char} {tokens : List Token} (h : ofText? text = some tokens)
    {value : Value} (hmem : .scalar value ∈ tokens) : value.table? = none := by
  fun_induction ofText? text generalizing tokens with
  | case1 =>
      cases h
      contradiction
  | case2 c rest hspace ih => exact ih h hmem
  | case3 => contradiction
  | case4 c rest hspace token behind hread ih =>
      obtain ⟨others, hothers, rfl⟩ := Option.map_eq_some_iff.mp h
      rcases List.mem_cons.mp hmem with rfl | hmem
      · rcases read?_cases hread with ⟨hmark, -⟩ | ⟨value', hvalue, htable⟩
        · contradiction
        · cases hvalue
          exact htable
      · exact ih hothers hmem

/-! ## Parts of a text -/

/-- A text is cut for itself in front of every mark, into these tokens. -/
def Cuts (text : List Char) (tokens : List Token) : Prop :=
  ∀ ⦃mark : Char⦄ ⦃more : List Char⦄, IsMark mark → more.head? = some mark →
    ofText? (text ++ more) = (ofText? more).map (tokens ++ ·)

/-- Spaces are cut into no tokens. -/
theorem cuts_spaces {spaces : List Char} (h : IsSpaces spaces) : Cuts spaces [] := by
  intro mark more hmark hhead
  simp [ofText?_spaces h]

/-- A space in front of a text changes nothing. -/
theorem Cuts.space {c : Char} {text : List Char} {tokens : List Token} (hspace : isSpace c = true)
    (h : Cuts text tokens) : Cuts (c :: text) tokens := by
  intro mark more hmark hhead
  rw [List.cons_append, ofText?_space hspace, h hmark hhead]

/-- A token that is taken off in front of a text which is cut for itself. -/
theorem Cuts.token {c : Char} {taken text behind : List Char} {token : Token}
    {tokens : List Token} (hspace : ¬ isSpace c = true)
    (hread : ∀ more, Follows more (text ++ behind) → read? c (taken ++ more) = some (token, more))
    (h : Cuts text tokens) : Cuts (c :: (taken ++ text)) (token :: tokens) := by
  intro mark more hmark hhead
  have hfollows : Follows (text ++ more) (text ++ behind) := by
    cases text with
    | nil => exact .inr ⟨mark, hmark, hhead⟩
    | cons d text => exact .inl rfl
  rw [List.cons_append, List.append_assoc, ofText?_token hspace (hread _ hfollows),
    h hmark hhead, Option.map_map]
  rfl

/-- A text that is cut in front of a closing brace is cut for itself. -/
theorem ofText?_inside {text : List Char} {tokens : List Token}
    (h : ofText? (text ++ ['}']) = some tokens) :
    ∃ inside, tokens = inside ++ [.closeTable] ∧ Cuts text inside := by
  generalize hwhole : text ++ ['}'] = whole at h
  fun_induction ofText? whole generalizing text tokens with
  | case1 => exact absurd hwhole (List.append_ne_nil_of_right_ne_nil _ (List.cons_ne_nil _ _))
  | case2 c rest hspace ih =>
      cases text with
      | nil =>
          obtain ⟨rfl, -⟩ := List.cons.inj hwhole
          contradiction
      | cons first text =>
          obtain ⟨rfl, hrest⟩ := List.cons.inj hwhole
          obtain ⟨inside, htokens, hcuts⟩ := ih hrest h
          exact ⟨inside, htokens, hcuts.space hspace⟩
  | case3 => contradiction
  | case4 c rest hspace token behind hread ih =>
      cases text with
      | nil =>
          obtain ⟨rfl, rfl⟩ := List.cons.inj hwhole
          cases hread
          rw [ofText?] at h
          cases h
          exact ⟨[], rfl, cuts_spaces isSpaces_nil⟩
      | cons first text =>
          obtain ⟨rfl, hrest⟩ := List.cons.inj hwhole
          obtain ⟨taken, htaken, hlast, hmore⟩ := read?_taken hread
          rcases List.eq_nil_or_concat' behind with rfl | ⟨left, brace, rfl⟩
          · rw [List.append_nil] at htaken
            rw [← htaken, ← hrest] at hlast
            simp at hlast
          · rw [← List.append_assoc, ← hrest] at htaken
            obtain ⟨rfl, hbrace⟩ := List.append_inj' htaken rfl
            cases hbrace
            obtain ⟨others, hothers, htokens⟩ := Option.map_eq_some_iff.mp h
            obtain ⟨inside, rfl, hcuts⟩ := ih rfl hothers
            exact ⟨token :: inside, htokens.symm, hcuts.token hspace hmore⟩

/-- Tokens in front of a mark are those of the text in front of it, which is cut for itself. -/
theorem exists_cuts_of_mark {whole : List Char} {first second : List Token} {token : Token}
    {mark : Char} (hmark : token.mark? = some mark)
    (h : ofText? whole = some (first ++ token :: second)) :
    ∃ text rest, whole = text ++ mark :: rest ∧ Cuts text first ∧ ofText? rest = some second := by
  fun_induction ofText? whole generalizing first with
  | case1 => simp at h
  | case2 c rest hspace ih =>
      obtain ⟨text, rest', rfl, hcuts, hsecond⟩ := ih h
      exact ⟨c :: text, rest', rfl, hcuts.space hspace, hsecond⟩
  | case3 => contradiction
  | case4 c rest hspace other behind hread ih =>
      obtain ⟨others, hothers, htokens⟩ := Option.map_eq_some_iff.mp h
      cases first with
      | nil =>
          obtain ⟨rfl, rfl⟩ := List.cons.inj htokens
          obtain ⟨rfl, rfl⟩ := eq_of_read?_mark hread hmark
          exact ⟨[], rest, rfl, cuts_spaces isSpaces_nil, hothers⟩
      | cons second' first =>
          obtain ⟨rfl, rfl⟩ := List.cons.inj htokens
          obtain ⟨text, rest', rfl, hcuts, hsecond⟩ := ih hothers
          obtain ⟨taken, rfl, -, hmore⟩ := read?_taken hread
          exact ⟨c :: (taken ++ text), rest', by simp, hcuts.token hspace hmore, hsecond⟩

/-- Two texts with a comma between them are cut each for itself. -/
theorem Cuts.append {first second : List Char} {tokens others : List Token}
    (hfirst : Cuts first tokens) (hsecond : Cuts second others) :
    Cuts (first ++ ',' :: second) (tokens ++ .comma :: others) := by
  intro mark more hmark hhead
  rw [List.append_assoc, hfirst (.inl rfl) rfl, List.cons_append,
    ofText?_token (by decide) rfl, hsecond hmark hhead, Option.map_map, Option.map_map]
  simp [Function.comp_def]

/-- A comma among the tokens of a text stands between two texts. -/
theorem Cuts.exists_append {text : List Char} {tokens others : List Token}
    (h : Cuts text (tokens ++ .comma :: others)) :
    ∃ first second, text = first ++ ',' :: second ∧ Cuts first tokens ∧ Cuts second others := by
  have hwhole : ofText? (text ++ ['}']) = some (tokens ++ .comma :: (others ++ [.closeTable])) := by
    rw [h (.inr rfl) rfl, ofText?_token (by decide) rfl, ofText?]
    simp
  obtain ⟨first, rest, hrest, hfirst, hothers⟩ := exists_cuts_of_mark rfl hwhole
  rcases List.eq_nil_or_concat' rest with rfl | ⟨second, brace, rfl⟩
  · rw [ofText?] at hothers
    simp at hothers
  · rw [← List.cons_append, ← List.append_assoc] at hrest
    obtain ⟨rfl, hbrace⟩ := List.append_inj' hrest rfl
    cases hbrace
    obtain ⟨inside, hinside, hsecond⟩ := ofText?_inside hothers
    obtain ⟨rfl, -⟩ := List.append_inj' hinside rfl
    exact ⟨first, second, rfl, hfirst, hsecond⟩

/-- A text in braces, with spaces around them. -/
theorem Cuts.braced {before inside behind : List Char} {tokens : List Token}
    (h : Cuts inside tokens) (hbefore : IsSpaces before) (hbehind : IsSpaces behind) :
    ofText? (before ++ '{' :: (inside ++ '}' :: behind)) =
      some (.openTable :: (tokens ++ [.closeTable])) := by
  have hnone : ofText? behind = some [] := by
    rw [← List.append_nil behind, ofText?_spaces hbehind, ofText?]
  rw [ofText?_spaces hbefore, ofText?_token (by decide) rfl, h (.inr rfl) rfl,
    ofText?_token (by decide) rfl, hnone]
  rfl

end Token

end TextTemplate.Json
