import TextTemplate.Formatter
import TextTemplate.Proofs.Template.Rendering

/-!
# Runs of a formatter

A formatter answers calls one after the other.  The rules below say what each call
answers and what it leaves behind; from them a whole run follows, whatever calls
it is made of.

Main results:

- Definition `Formatter.Answers`: the possible answers to a formatting call, each
  with the one state in which it is given.
- Theorem `Formatter.call_answers`: every formatting call follows these rules.
- Theorem `Formatter.run_open`: as long as no call has closed the formatter, the
  destination holds what it held at first and the renderings of the calls that
  succeeded.
- Theorem `Formatter.run_all_or_nothing`: the properties of whole runs.
-/

namespace TextTemplate

/-- The destination once some texts have been added. -/
def Destination.addAll (destination : Destination) (texts : List String) : Destination :=
  { destination with
    text := destination.text ++ String.join texts
    additions := destination.additions ++ texts }

theorem Destination.addAll_nil (destination : Destination) :
    destination.addAll [] = destination := by
  simp [addAll]

/-- Adding a text and then others is adding them all. -/
theorem Destination.addAll_of_append? {destination next : Destination} {text : String}
    (h : destination.append? text = some next) (texts : List String) :
    next.addAll texts = destination.addAll (text :: texts) := by
  unfold append? at h
  split at h
  · cases h
    simp [addAll, String.append_assoc]
  · contradiction

namespace Formatter

variable {κ : Type}

/-! ## Calls and replies -/

/-- A call on a formatter. -/
inductive Call (κ : Type)
  /-- Parses and appends in the locale of the formatter. -/
  | format (template : String) (parameters : ParameterSet κ)
  /-- Parses and appends in a locale of its own. -/
  | formatIn (locale : Locale) (template : String) (parameters : ParameterSet κ)
  /-- Appends a parsed template in the locale of the formatter. -/
  | formatParsed (template : Template) (parameters : ParameterSet κ)
  /-- Asks for the destination. -/
  | output
  /-- Releases the destination. -/
  | close

/-- The rendering that a formatting call asks for. -/
structure Request (κ : Type) where
  template : Except ParseError Template
  parameters : ParameterSet κ
  locale : Locale

/-- The request of a call, if it is a formatting call.  The locale is that of the
formatter. -/
def Call.request? (locale : Locale) : Call κ → Option (Request κ)
  | format template parameters => some ⟨Template.parse template, parameters, locale⟩
  | formatIn own template parameters => some ⟨Template.parse template, parameters, own⟩
  | formatParsed template parameters => some ⟨.ok template, parameters, locale⟩
  | output => none
  | close => none

/-- What a call gives back. -/
inductive Reply
  | formatted (result : Except TemplateError Unit)
  | destination (result : Except TemplateError Destination)
  | released (destination : Option Destination)

/-- The error that a call gives back, if it fails. -/
def Reply.error? : Reply → Option TemplateError
  | formatted (.error error) => some error
  | formatted (.ok _) => none
  | destination (.error error) => some error
  | destination (.ok _) => none
  | released _ => none

/-- What every call gives back once the destination has been released. -/
def Call.refusal : Call κ → Reply
  | format .. => .formatted (.error .closed)
  | formatIn .. => .formatted (.error .closed)
  | formatParsed .. => .formatted (.error .closed)
  | output => .destination (.error .closed)
  | close => .released none

/-- A call formats, asks for the destination, or closes. -/
theorem Call.cases_request (call : Call κ) (locale : Locale) :
    (∃ request, call.request? locale = some request) ∨ call = .output ∨ call = .close := by
  cases call with
  | format template parameters => exact Or.inl ⟨_, rfl⟩
  | formatIn own template parameters => exact Or.inl ⟨_, rfl⟩
  | formatParsed template parameters => exact Or.inl ⟨_, rfl⟩
  | output => exact Or.inr (Or.inl rfl)
  | close => exact Or.inr (Or.inr rfl)

variable [CustomValue κ]

/-- Answers one call. -/
def call (formatter : Formatter) : Call κ → Reply × Formatter
  | .format template parameters =>
      (formatter.format template parameters).map .formatted id
  | .formatIn locale template parameters =>
      (formatter.formatIn locale template parameters).map .formatted id
  | .formatParsed template parameters =>
      (formatter.formatParsed template parameters).map .formatted id
  | .output => (.destination formatter.output, formatter)
  | .close => formatter.close.map .released id

/-- Answers calls one after the other. -/
def run (formatter : Formatter) : List (Call κ) → List Reply × Formatter
  | [] => ([], formatter)
  | first :: rest =>
      let answered := formatter.call first
      let last := answered.2.run rest
      (answered.1 :: last.1, last.2)

/-! ## The rules of a formatting call -/

/-- The answer to a request and the formatter that is left.  Each rule holds where
those before it do not: a formatter that is closed, a template that cannot be
parsed, a parameter that is missing, a text that is refused. -/
inductive Answers (formatter : Formatter) (request : Request κ) :
    Except TemplateError Unit → Formatter → Prop
  | closed : formatter.destination = none → Answers formatter request (.error .closed) formatter
  | unparsed {destination : Destination} {error : ParseError} :
      formatter.destination = some destination → request.template = .error error →
      Answers formatter request (.error (.parse error)) formatter
  | missing {destination : Destination} {template : Template} {name : String} :
      formatter.destination = some destination → request.template = .ok template →
      template.render request.parameters request.locale = .error (.missingParameter name) →
      Answers formatter request (.error (.missingParameter name)) formatter
  | refused {destination : Destination} {template : Template} {text : String} :
      formatter.destination = some destination → request.template = .ok template →
      template.render request.parameters request.locale = .ok text →
      destination.append? text = none →
      Answers formatter request (.error .write) formatter
  | written {destination next : Destination} {template : Template} {text : String} :
      formatter.destination = some destination → request.template = .ok template →
      template.render request.parameters request.locale = .ok text →
      destination.append? text = some next →
      Answers formatter request (.ok ()) { formatter with destination := some next }

/-- Appending a template is answered as these rules say. -/
theorem append_answers (formatter : Formatter) (locale : Locale) (template : Template)
    (parameters : ParameterSet κ) :
    Answers formatter ⟨.ok template, parameters, locale⟩
      (formatter.append locale template parameters).1
      (formatter.append locale template parameters).2 := by
  unfold append
  split
  next hclosed => exact .closed hclosed
  next destination hopen =>
    split
    next error hrender =>
      rcases Segment.exists_missing_of_renderAll hrender with ⟨name, rfl⟩
      exact .missing hopen rfl hrender
    next text hrender =>
      split
      next hrefused => exact .refused hopen rfl hrender hrefused
      next next hadded => exact .written hopen rfl hrender hadded

/-- Formatting a text is answered as these rules say. -/
theorem formatIn_answers (formatter : Formatter) (locale : Locale) (template : String)
    (parameters : ParameterSet κ) :
    Answers formatter ⟨Template.parse template, parameters, locale⟩
      (formatter.formatIn locale template parameters).1
      (formatter.formatIn locale template parameters).2 := by
  unfold formatIn isClosed
  cases hdestination : formatter.destination with
  | none => exact .closed hdestination
  | some destination =>
      rw [Option.isNone_some, if_neg Bool.false_ne_true, Template.read]
      cases hparse : Template.parse template with
      | error error => exact .unparsed hdestination rfl
      | ok parsed => exact append_answers formatter locale parsed parameters

/-- Every formatting call follows the rules. -/
theorem call_answers {formatter : Formatter} {call : Call κ} {request : Request κ}
    (h : call.request? formatter.locale = some request) :
    ∃ result next, formatter.call call = (.formatted result, next) ∧
      Answers formatter request result next := by
  cases call with
  | format template parameters =>
      cases h
      exact ⟨_, _, rfl, formatIn_answers formatter formatter.locale template parameters⟩
  | formatIn locale template parameters =>
      cases h
      exact ⟨_, _, rfl, formatIn_answers formatter locale template parameters⟩
  | formatParsed template parameters =>
      cases h
      exact ⟨_, _, rfl, append_answers formatter formatter.locale template parameters⟩
  | output => cases h
  | close => cases h

/-- A request that fails leaves the formatter as it was. -/
theorem Answers.eq_of_error {formatter next : Formatter} {request : Request κ}
    {error : TemplateError} (h : Answers formatter request (.error error) next) :
    next = formatter := by
  cases h with
  | closed => rfl
  | unparsed => rfl
  | missing => rfl
  | refused => rfl

/-- A closed formatter refuses every request. -/
theorem Answers.of_closed {formatter next : Formatter} {request : Request κ}
    {result : Except TemplateError Unit} (h : Answers formatter request result next)
    (hclosed : formatter.destination = none) : result = .error .closed ∧ next = formatter := by
  cases h with
  | closed => exact ⟨rfl, rfl⟩
  | unparsed hopen => rw [hclosed] at hopen; contradiction
  | missing hopen => rw [hclosed] at hopen; contradiction
  | refused hopen => rw [hclosed] at hopen; contradiction
  | written hopen => rw [hclosed] at hopen; contradiction

theorem Answers.locale_eq {formatter next : Formatter} {request : Request κ}
    {result : Except TemplateError Unit} (h : Answers formatter request result next) :
    next.locale = formatter.locale := by
  cases h <;> rfl

/-! ## One call -/

/-- No call changes the locale. -/
theorem locale_call (formatter : Formatter) (call : Call κ) :
    (formatter.call call).2.locale = formatter.locale := by
  rcases call.cases_request formatter.locale with ⟨request, hrequest⟩ | rfl | rfl
  · rcases call_answers hrequest with ⟨result, next, hcall, hanswers⟩
    rw [hcall]
    exact hanswers.locale_eq
  · rfl
  · rfl

/-- A call that fails leaves the formatter as it was. -/
theorem call_eq_of_error {formatter : Formatter} {call : Call κ} {error : TemplateError}
    (h : (formatter.call call).1.error? = some error) : (formatter.call call).2 = formatter := by
  rcases call.cases_request formatter.locale with ⟨request, hrequest⟩ | rfl | rfl
  · rcases call_answers hrequest with ⟨result, next, hcall, hanswers⟩
    rw [hcall] at h ⊢
    cases result with
    | ok done => contradiction
    | error other => exact hanswers.eq_of_error
  · rfl
  · contradiction

/-- A closed formatter refuses every call and stays closed. -/
theorem call_of_closed {formatter : Formatter} (h : formatter.destination = none)
    (call : Call κ) : formatter.call call = (call.refusal, formatter) := by
  have hanswer : ∀ request, call.request? formatter.locale = some request →
      formatter.call call = (.formatted (.error .closed), formatter) := by
    intro request hrequest
    rcases call_answers hrequest with ⟨result, next, hcall, hanswers⟩
    rcases hanswers.of_closed h with ⟨rfl, rfl⟩
    exact hcall
  cases call with
  | format template parameters => exact hanswer _ rfl
  | formatIn own template parameters => exact hanswer _ rfl
  | formatParsed template parameters => exact hanswer _ rfl
  | output =>
      rw [Formatter.call, output, h]
      rfl
  | close =>
      rcases formatter with ⟨destination, locale⟩
      cases h
      rfl

/-! ## Whole runs -/

/-- The texts that the successful formatting calls of a run have appended, in
order: each is the rendering of the template of the call with its parameters and
in its locale. -/
inductive Appended (locale : Locale) : List (Call κ) → List Reply → List String → Prop
  | nil : Appended locale [] [] []
  | written {call : Call κ} {calls : List (Call κ)} {replies : List Reply}
      {texts : List String} {request : Request κ} {template : Template} {text : String} :
      call.request? locale = some request → request.template = .ok template →
      template.render request.parameters request.locale = .ok text →
      Appended locale calls replies texts →
      Appended locale (call :: calls) (.formatted (.ok ()) :: replies) (text :: texts)
  | skipped {call : Call κ} {calls : List (Call κ)} {reply : Reply} {replies : List Reply}
      {texts : List String} :
      reply ≠ .formatted (.ok ()) → Appended locale calls replies texts →
      Appended locale (call :: calls) (reply :: replies) texts

/-- The locale stays the same, whatever is called. -/
theorem locale_run (formatter : Formatter) (calls : List (Call κ)) :
    (formatter.run calls).2.locale = formatter.locale := by
  induction calls generalizing formatter with
  | nil => rfl
  | cons call calls ih => rw [run, ih, locale_call]

theorem destination_run_of_closed {formatter : Formatter} (h : formatter.destination = none)
    (calls : List (Call κ)) : (formatter.run calls).2.destination = none := by
  induction calls generalizing formatter with
  | nil => exact h
  | cons call calls ih =>
      rw [run]
      apply ih
      rw [call_of_closed h]
      exact h

/-- A run with a closing call ends closed. -/
theorem destination_run_of_close_mem {formatter : Formatter} {calls : List (Call κ)}
    (h : Call.close ∈ calls) : (formatter.run calls).2.destination = none := by
  induction calls generalizing formatter with
  | nil => contradiction
  | cons call calls ih =>
      rw [run]
      rcases List.mem_cons.mp h with rfl | hrest
      · exact destination_run_of_closed rfl calls
      · exact ih hrest

/-- Without a closing call, a run adds the renderings of its successful calls to the
destination, and nothing else happens to it. -/
theorem run_open {formatter : Formatter} {destination : Destination} {calls : List (Call κ)}
    (hopen : formatter.destination = some destination) (hcalls : Call.close ∉ calls) :
    ∃ texts, Appended formatter.locale calls (formatter.run calls).1 texts ∧
      (formatter.run calls).2.destination = some (destination.addAll texts) := by
  -- Each call either leaves the destination alone or adds one rendering to it.
  induction calls generalizing formatter destination with
  | nil => exact ⟨[], .nil, by rw [Destination.addAll_nil]; exact hopen⟩
  | cons call calls ih =>
      rw [List.mem_cons, not_or] at hcalls
      rcases hcalls with ⟨hcall, hrest⟩
      rw [run, ← locale_call formatter call]
      rcases call.cases_request formatter.locale with ⟨request, hrequest⟩ | rfl | rfl
      · rcases call_answers hrequest with ⟨result, next, hanswer, hanswers⟩
        rw [hanswer]
        cases result with
        | error error =>
            rw [hanswers.eq_of_error]
            rcases ih hopen hrest with ⟨texts, happended, hdestination⟩
            exact ⟨texts, .skipped (by simp) happended, hdestination⟩
        | ok done =>
            cases hanswers with
            | @written current next template text hcurrent htemplate hrender hadded =>
                rw [hopen, Option.some.injEq] at hcurrent
                subst hcurrent
                have hnext : (Formatter.mk (some next) formatter.locale).destination = some next :=
                  rfl
                rcases ih hnext hrest with ⟨texts, happended, hdestination⟩
                rw [Destination.addAll_of_append? hadded] at hdestination
                exact ⟨text :: texts, .written hrequest htemplate hrender happended, hdestination⟩
      · rcases ih hopen hrest with ⟨texts, happended, hdestination⟩
        exact ⟨texts, .skipped nofun happended, hdestination⟩
      · exact absurd rfl hcall

/-- Whole runs are all or nothing.  No run changes the locale.  As long as no call
has closed the formatter, the destination is the one at first with the renderings
of the successful calls added in order; a closing call then gives it back.  After
a closing call every call is refused and nothing changes.  At any time, a call that
fails changes nothing, and a formatting call follows the rules. -/
theorem run_all_or_nothing (destination : Destination) (locale : Locale)
    (calls : List (Call κ)) :
    let outcome := (onto destination locale).run calls
    outcome.2.locale = locale ∧
      (Call.close ∉ calls →
        ∃ texts, Appended locale calls outcome.1 texts ∧
          outcome.2.destination = some (destination.addAll texts) ∧
          outcome.2.call (.output : Call κ) =
            (.destination (.ok (destination.addAll texts)), outcome.2) ∧
          outcome.2.call (.close : Call κ) =
            (.released (some (destination.addAll texts)), ⟨none, locale⟩) ∧
          outcome.2.release = .ok (destination.addAll texts)) ∧
      (Call.close ∈ calls →
        outcome.2.destination = none ∧ outcome.2.release = .error .closed ∧
          ∀ call : Call κ, outcome.2.call call = (call.refusal, outcome.2)) ∧
      (∀ (call : Call κ) (error : TemplateError),
        (outcome.2.call call).1.error? = some error → (outcome.2.call call).2 = outcome.2) ∧
      ∀ (call : Call κ) (request : Request κ), call.request? locale = some request →
        ∃ result next, outcome.2.call call = (.formatted result, next) ∧
          Answers outcome.2 request result next := by
  intro outcome
  have hlocale : outcome.2.locale = locale := locale_run (onto destination locale) calls
  refine ⟨hlocale, ?_, ?_, ?_, ?_⟩
  · intro hcalls
    have hstart : (onto destination locale).destination = some destination := rfl
    rcases run_open hstart hcalls with ⟨texts, happended, hdestination⟩
    change outcome.2.destination = _ at hdestination
    refine ⟨texts, happended, hdestination, ?_, ?_, ?_⟩
    · rw [call, output, hdestination]
    · rw [← hlocale, ← hdestination]
      rfl
    · rw [release, output, hdestination]
  · intro hcalls
    have hclosed : outcome.2.destination = none := destination_run_of_close_mem hcalls
    refine ⟨hclosed, ?_, call_of_closed hclosed⟩
    rw [release, output, hclosed]
  · intro call error herror
    exact call_eq_of_error herror
  · intro call request hrequest
    rw [← hlocale] at hrequest
    exact call_answers hrequest

/-- Of three calls one is written, one ends in opening braces and one does
not fit; closing gives back what the first one wrote. -/
theorem run_all_or_nothing_refused_write :
    let calls : List (Call Empty) :=
      [.format "b" .empty, .format "\x7b\x7b" .empty, .format "cd" .empty]
    let outcome := (onto (.bounded 3 "a") .root).run calls
    Call.close ∉ calls ∧
      outcome.1.map Reply.error? =
        [none, some (.parse ⟨.trailing, 0, "\x7b\x7b"⟩), some .write] ∧
      ∃ texts, Appended .root calls outcome.1 texts ∧
        outcome.2.release = .ok ((Destination.bounded 3 "a").addAll texts) ∧
        outcome.2.destination.map Destination.text = some "ab" := by
  intro calls outcome
  have hcalls : Call.close ∉ calls := by simp [calls]
  rcases (run_all_or_nothing (.bounded 3 "a") .root calls).2.1 hcalls with
    ⟨texts, happended, -, -, -, hrelease⟩
  exact ⟨hcalls, by decide +kernel, texts, happended, hrelease, by decide +kernel⟩

end Formatter

end TextTemplate
