import Scenario.Message

/-!
# Message templates, from text to message

Two scanners read a template. `Template.parse` decides whether a text is one;
it pairs every percent sign with the character after it, and so does `fill`,
which writes the message straight from the text, in one pass over the text
and the arguments. That both pair percent signs in the same way is what makes
messages compositional: behind a template that was accepted, `fill` is always
at the start of a pair, and has used up as many arguments as the template
takes (`fill_append`).

The grammar is stated apart from both scanners (`Template.WellFormed`), with
what stands in front of the first offence for a text that is refused
(`Template.Refused`).
-/

namespace Scenario

namespace Template

/-! ## The grammar -/

/-- The characters that may follow a percent sign. -/
def letters : List Char := ['s', 'd', 'v', 'q', '%']

/-- A text of other characters than percent signs, and of verbs. -/
inductive WellFormed : List Char → Prop
  | nil : WellFormed []
  | literal {c : Char} {rest : List Char} (hc : c ≠ '%') (hrest : WellFormed rest) :
      WellFormed (c :: rest)
  | verb {c : Char} {rest : List Char} (hc : c ∈ letters) (hrest : WellFormed rest) :
      WellFormed ('%' :: c :: rest)

/-- How many bytes characters take. -/
def byteLength : List Char → Nat
  | [] => 0
  | c :: rest => c.utf8Size + byteLength rest

/-- A text with an offence, counted in bytes from a start: a percent sign
before another character, or at the end. -/
inductive Refused (code : String) (start : Nat) : List Char → TemplateError → Prop
  | verb {before rest : List Char} {c : Char} (hbefore : WellFormed before) (hc : c ∉ letters) :
      Refused code start (before ++ '%' :: c :: rest)
        (.unsupportedVerb code c (start + byteLength before))
  | dangling {before : List Char} (hbefore : WellFormed before) :
      Refused code start (before ++ ['%']) (.danglingPercent code)

theorem ofLetter?_eq_some_iff {c : Char} {verb : Verb} :
    Verb.ofLetter? c = some verb ↔ verb.letter = c := by
  constructor
  · intro h
    unfold Verb.ofLetter? at h
    split at h
    · next hc => cases h; exact hc.symm
    · split at h
      · next hc => cases h; exact hc.symm
      · split at h
        · next hc => cases h; exact hc.symm
        · split at h
          · next hc => cases h; exact hc.symm
          · cases h
  · rintro rfl
    cases verb <;> rfl

theorem mem_letters_iff {c : Char} : c ∈ letters ↔ c = '%' ∨ ∃ verb : Verb, verb.letter = c := by
  constructor
  · intro hc
    simp only [letters, List.mem_cons, List.not_mem_nil, or_false] at hc
    rcases hc with rfl | rfl | rfl | rfl | rfl
    · exact .inr ⟨.string, rfl⟩
    · exact .inr ⟨.decimal, rfl⟩
    · exact .inr ⟨.value, rfl⟩
    · exact .inr ⟨.quoted, rfl⟩
    · exact .inl rfl
  · rintro (rfl | ⟨verb, rfl⟩)
    · decide
    · cases verb <;> decide

theorem letter_ne_percent (verb : Verb) : verb.letter ≠ '%' := by
  cases verb <;> decide

theorem utf8Size_of_mem_letters {c : Char} (h : c ∈ letters) : c.utf8Size = 1 := by
  simp only [letters, List.mem_cons, List.not_mem_nil, or_false] at h
  rcases h with rfl | rfl | rfl | rfl | rfl <;> rfl

/-! ## Reading a template -/

theorem parseFrom_literal {c : Char} (hc : c ≠ '%') (code : String) (position : Nat)
    (rest : List Char) :
    parseFrom code position (c :: rest) =
      (parseFrom code (position + c.utf8Size) rest).map (TemplatePart.literal c :: ·) := by
  rw [parseFrom]
  · rfl
  · simp [hc]
  · simp [hc]

theorem parseFrom_percent (code : String) (position : Nat) (rest : List Char) :
    parseFrom code position ('%' :: '%' :: rest) =
      (parseFrom code (position + 2) rest).map (TemplatePart.percent :: ·) := by
  rw [parseFrom, if_pos rfl]
  rfl

theorem parseFrom_verb (verb : Verb) (code : String) (position : Nat) (rest : List Char) :
    parseFrom code position ('%' :: verb.letter :: rest) =
      (parseFrom code (position + 2) rest).map (TemplatePart.argument verb :: ·) := by
  rw [parseFrom, if_neg (letter_ne_percent verb), ofLetter?_eq_some_iff.mpr rfl]
  rfl

theorem parseFrom_unsupported {c : Char} (hc : c ∉ letters) (code : String) (position : Nat)
    (rest : List Char) :
    parseFrom code position ('%' :: c :: rest) = .error (.unsupportedVerb code c position) := by
  rw [mem_letters_iff, not_or] at hc
  have hverb : Verb.ofLetter? c = none := by
    rw [Option.eq_none_iff_forall_not_mem]
    exact fun verb hverb => hc.2 ⟨verb, ofLetter?_eq_some_iff.mp hverb⟩
  rw [parseFrom, if_neg hc.1, hverb]

/-- No literal character is a percent sign. -/
def Plain (t : Template) : Prop :=
  ∀ c, TemplatePart.literal c ∈ t → c ≠ '%'

theorem Plain.tail {part : TemplatePart} {t : Template} (h : Plain (part :: t)) : Plain t :=
  fun c hc => h c (List.mem_cons_of_mem _ hc)

theorem plain_cons {part : TemplatePart} {t : Template} (ht : Plain t)
    (hpart : ∀ c, part = .literal c → c ≠ '%') : Plain (part :: t) := by
  intro c hc
  rcases List.mem_cons.mp hc with heq | hlater
  · exact hpart c heq.symm
  · exact ht c hlater

/-- What is read in front does not depend on what follows. -/
theorem exists_parseFrom_append {before : List Char} (h : WellFormed before) :
    ∃ t : Template, t.Plain ∧ t.flatMap partChars = before ∧
      ∀ code position rest, parseFrom code position (before ++ rest) =
        (parseFrom code (position + byteLength before) rest).map (t ++ ·) := by
  induction h with
  | nil =>
      refine ⟨[], (fun c hc => by cases hc), rfl, fun code position rest => ?_⟩
      show parseFrom code position rest = (parseFrom code position rest).map id
      cases parseFrom code position rest <;> rfl
  | @literal c before hc _ ih =>
      obtain ⟨t, ht, htext, hread⟩ := ih
      refine ⟨.literal c :: t, plain_cons ht ?_, ?_, fun code position rest => ?_⟩
      · rintro _ ⟨⟩
        exact hc
      · rw [List.flatMap_cons, htext]
        rfl
      · have hlength : position + byteLength (c :: before) =
            position + c.utf8Size + byteLength before := by
          rw [byteLength, Nat.add_assoc]
        rw [List.cons_append, parseFrom_literal hc, hread, hlength]
        cases parseFrom code _ rest <;> rfl
  | @verb c before hc _ ih =>
      obtain ⟨t, ht, htext, hread⟩ := ih
      have hlength (position : Nat) : position + byteLength ('%' :: c :: before) =
          position + 2 + byteLength before := by
        have hpercent : Char.utf8Size '%' = 1 := rfl
        rw [byteLength, byteLength, hpercent, utf8Size_of_mem_letters hc]
        omega
      rcases mem_letters_iff.mp hc with rfl | ⟨verb, rfl⟩
      · refine ⟨.percent :: t, plain_cons ht (by rintro _ ⟨⟩), ?_, fun code position rest => ?_⟩
        · rw [List.flatMap_cons, htext]
          rfl
        · rw [List.cons_append, List.cons_append, parseFrom_percent, hread, hlength]
          cases parseFrom code _ rest <;> rfl
      · refine ⟨.argument verb :: t, plain_cons ht (by rintro _ ⟨⟩), ?_,
          fun code position rest => ?_⟩
        · rw [List.flatMap_cons, htext]
          rfl
        · rw [List.cons_append, List.cons_append, parseFrom_verb, hread, hlength]
          cases parseFrom code _ rest <;> rfl

/-- A template of the grammar is read as parts with its text. -/
theorem parseFrom_of_wellFormed {cs : List Char} (h : WellFormed cs) (code : String)
    (position : Nat) :
    ∃ t : Template, parseFrom code position cs = .ok t ∧ t.Plain ∧ t.flatMap partChars = cs := by
  obtain ⟨t, ht, htext, hread⟩ := exists_parseFrom_append h
  have hall := hread code position []
  rw [List.append_nil, parseFrom, Except.map, List.append_nil] at hall
  exact ⟨t, hall, ht, htext⟩

/-- A text with an offence is refused for it. -/
theorem parseFrom_of_refused {code : String} {start : Nat} {cs : List Char}
    {error : TemplateError} (h : Refused code start cs error) :
    parseFrom code start cs = .error error := by
  cases h with
  | verb hbefore hc =>
      obtain ⟨t, -, -, hread⟩ := exists_parseFrom_append hbefore
      rw [hread, parseFrom_unsupported hc]
      rfl
  | dangling hbefore =>
      obtain ⟨t, -, -, hread⟩ := exists_parseFrom_append hbefore
      rw [hread]
      rfl

theorem Refused.literal {code : String} {start : Nat} {c : Char} {rest : List Char}
    {error : TemplateError} (hc : c ≠ '%') (h : Refused code (start + c.utf8Size) rest error) :
    Refused code start (c :: rest) error := by
  cases h with
  | @verb before after d hbefore hd =>
      have hoffence : Refused code start (c :: before ++ '%' :: d :: after) _ :=
        .verb (.literal hc hbefore) hd
      rwa [byteLength, ← Nat.add_assoc] at hoffence
  | dangling hbefore => exact .dangling (.literal hc hbefore)

theorem Refused.pair {code : String} {start : Nat} {c : Char} {rest : List Char}
    {error : TemplateError} (hc : c ∈ letters) (h : Refused code (start + 2) rest error) :
    Refused code start ('%' :: c :: rest) error := by
  cases h with
  | @verb before after d hbefore hd =>
      have hoffence : Refused code start ('%' :: c :: before ++ '%' :: d :: after) _ :=
        .verb (.verb hc hbefore) hd
      have hpercent : Char.utf8Size '%' = 1 := rfl
      rwa [byteLength, byteLength, hpercent, utf8Size_of_mem_letters hc, ← Nat.add_assoc,
        ← Nat.add_assoc] at hoffence
  | dangling hbefore => exact .dangling (.verb hc hbefore)

/-- Every text is a template or has an offence. -/
theorem wellFormed_or_refused (code : String) (start : Nat) (cs : List Char) :
    WellFormed cs ∨ ∃ error, Refused code start cs error := by
  match cs with
  | [] => exact .inl .nil
  | c :: rest =>
      by_cases hc : c = '%'
      · subst hc
        match rest with
        | [] => exact .inr ⟨_, .dangling .nil⟩
        | d :: rest =>
            by_cases hd : d ∈ letters
            · rcases wellFormed_or_refused code (start + 2) rest with hrest | ⟨error, herror⟩
              · exact .inl (.verb hd hrest)
              · exact .inr ⟨error, herror.pair hd⟩
            · exact .inr ⟨_, .verb .nil hd⟩
      · rcases wellFormed_or_refused code (start + c.utf8Size) rest with hrest | ⟨error, herror⟩
        · exact .inl (.literal hc hrest)
        · exact .inr ⟨error, herror.literal hc⟩

/-- What is read has the text that was given, and none of its literal
characters is a percent sign. -/
theorem of_parse_eq_ok {code text : String} {t : Template} (h : parse code text = .ok t) :
    WellFormed text.toList ∧ t.Plain ∧ t.text = text := by
  rcases wellFormed_or_refused code 0 text.toList with hgood | ⟨error, herror⟩
  · obtain ⟨read, hparse, hplain, htext⟩ := parseFrom_of_wellFormed hgood code 0
    rw [parse, hparse] at h
    cases h
    refine ⟨hgood, hplain, ?_⟩
    rw [Template.text, htext, String.ofList_toList]
  · rw [parse, parseFrom_of_refused herror] at h
    cases h

/-! ## Writing a message -/

/-- An argument as the character after a percent sign asks for it. -/
def inserted (c : Char) : Option String → List Char
  | none => "<missing>".toList
  | some arg => if c = 'q' then '\'' :: arg.toList ++ ['\''] else arg.toList

/-- The message of a text, in one pass over the text and the arguments. -/
def fill : List Char → List String → List Char
  | [], _ => []
  | [c], _ => [c]
  | c :: d :: rest, args =>
    if c ≠ '%' then c :: fill (d :: rest) args
    else if d = '%' then '%' :: fill rest args
    else inserted d args.head? ++ fill rest args.tail

theorem fill_literal {c : Char} (hc : c ≠ '%') (rest : List Char) (args : List String) :
    fill (c :: rest) args = c :: fill rest args := by
  cases rest with
  | nil => rfl
  | cons d rest => rw [fill, if_pos hc]

theorem fill_percent (rest : List Char) (args : List String) :
    fill ('%' :: '%' :: rest) args = '%' :: fill rest args := by
  rw [fill, if_neg (not_not_intro rfl), if_pos rfl]

theorem fill_verb (verb : Verb) (rest : List Char) (args : List String) :
    fill ('%' :: verb.letter :: rest) args =
      inserted verb.letter args.head? ++ fill rest args.tail := by
  rw [fill, if_neg (not_not_intro rfl), if_neg (letter_ne_percent verb)]

theorem render_literal (c : Char) (t : Template) (args : List String) :
    render (.literal c :: t) args = c :: render t args := rfl

theorem render_percent (t : Template) (args : List String) :
    render (.percent :: t) args = '%' :: render t args := rfl

theorem render_argument (verb : Verb) (t : Template) (args : List String) :
    render (.argument verb :: t) args =
      inserted verb.letter args.head? ++ render t args.tail := by
  cases args with
  | nil => rfl
  | cons arg args => cases verb <;> rfl

/-- Behind a template the text is filled as if it stood alone, with the
arguments that the template leaves. -/
theorem fill_append {t : Template} (ht : t.Plain) (second : List Char) (args : List String) :
    fill (t.flatMap partChars ++ second) args = t.render args ++ fill second (args.drop t.arity) := by
  induction t generalizing args with
  | nil => rfl
  | cons part t ih =>
      have hrest := ih ht.tail
      rw [List.flatMap_cons, List.append_assoc]
      cases part with
      | literal c =>
          have hc := ht c List.mem_cons_self
          rw [partChars, List.singleton_append, fill_literal hc, hrest, render_literal]
          rfl
      | percent =>
          rw [partChars, List.cons_append, List.singleton_append, fill_percent, hrest,
            render_percent]
          rfl
      | argument verb =>
          have hdrop : args.drop (arity (.argument verb :: t)) = args.tail.drop (arity t) := by
            rw [List.drop_tail]
            rfl
          rw [partChars, List.cons_append, List.singleton_append, fill_verb, hrest,
            render_argument, hdrop, List.append_assoc]

/-! ## The parts of a message -/

/-- A character of the template, or an argument by its place. -/
inductive MessagePart
  | own (c : Char)
  | argument (verb : Verb) (place : Nat)

/-- The parts of the message of a template; arguments are counted from a
place on. -/
def messageParts (place : Nat) : Template → List MessagePart
  | [] => []
  | .literal c :: rest => .own c :: messageParts place rest
  | .percent :: rest => .own '%' :: messageParts place rest
  | .argument verb :: rest => .argument verb place :: messageParts (place + 1) rest

namespace MessagePart

def place? : MessagePart → Option Nat
  | own _ => none
  | argument _ place => some place

def written (args : List String) : MessagePart → List Char
  | own c => [c]
  | argument verb place => inserted verb.letter args[place]?

end MessagePart

/-- The parts of a message do not depend on the arguments. -/
theorem render_eq_messageParts (t : Template) (place : Nat) (args : List String) :
    t.render (args.drop place) =
      (t.messageParts place).flatMap (MessagePart.written args) := by
  induction t generalizing place with
  | nil => rfl
  | cons part t ih =>
      cases part with
      | literal c =>
          rw [render_literal, ih, messageParts, List.flatMap_cons]
          rfl
      | percent =>
          rw [render_percent, ih, messageParts, List.flatMap_cons]
          rfl
      | argument verb =>
          rw [render_argument, List.head?_drop, List.tail_drop, ih, messageParts,
            List.flatMap_cons]
          rfl

/-- Every argument has one place, in order. -/
theorem places_messageParts (t : Template) (place : Nat) :
    (t.messageParts place).filterMap MessagePart.place? = List.range' place t.arity := by
  induction t generalizing place with
  | nil => rfl
  | cons part t ih =>
      cases part with
      | literal c => exact ih place
      | percent => exact ih place
      | argument verb => exact congrArg (place :: ·) (ih (place + 1))

end Template

open Template (WellFormed Refused MessagePart fill of_parse_eq_ok fill_append)

namespace MessageTable

/-! ## Tables -/

/-- The table after some calls of `insert`, one after the other. A call that
is refused changes nothing. -/
def insertEach (table : MessageTable) (texts : List (String × String)) : MessageTable :=
  texts.foldl (fun table (code, text) => (table.insert code text).toOption.getD table) table

theorem insertEach_cons (table : MessageTable) (code text : String)
    (texts : List (String × String)) :
    table.insertEach ((code, text) :: texts) =
      ((table.insert code text).toOption.getD table).insertEach texts := rfl

/-- Every text of the library is a template. -/
theorem standard_texts :
    ∀ entry ∈ standardTexts, (standard.get? entry.1).map Template.text = some entry.2 := by
  decide +kernel

/-- The table holds what was read from templates. -/
def Holds (table : MessageTable) : Prop :=
  ∀ code t, table.get? code = some t → WellFormed t.text.toList ∧ t.Plain

theorem holds_empty : empty.Holds := fun _ _ h => by cases h

theorem Holds.insert {table next : MessageTable} {code text : String} (h : table.Holds)
    (hnext : table.insert code text = .ok next) : next.Holds := by
  intro other t ht
  unfold MessageTable.insert at hnext
  split at hnext
  · next read hread =>
      cases hnext
      rw [get?, OrderedMap.get?_insert] at ht
      split at ht
      · cases ht
        obtain ⟨hgood, hplain, htext⟩ := of_parse_eq_ok hread
        rw [htext]
        exact ⟨hgood, hplain⟩
      · exact h other t ht
  · cases hnext

theorem Holds.insertEach {table : MessageTable} (h : table.Holds)
    (texts : List (String × String)) : (table.insertEach texts).Holds := by
  induction texts generalizing table with
  | nil => exact h
  | cons entry texts ih =>
      obtain ⟨code, text⟩ := entry
      rw [insertEach_cons]
      refine ih ?_
      cases hinsert : table.insert code text with
      | error => exact h
      | ok next => exact h.insert hinsert

theorem holds_standard : standard.Holds :=
  holds_empty.insertEach standardTexts

/-- A template that is accepted replaces the one of its code. -/
theorem insert_of_wellFormed (table : MessageTable) (code : String) {text : String}
    (h : WellFormed text.toList) :
    ∃ next t, table.insert code text = .ok next ∧ next.get? code = some t ∧ t.text = text ∧
      ∀ other, other ≠ code → next.get? other = table.get? other := by
  obtain ⟨t, hparse, -, htext⟩ := Template.parseFrom_of_wellFormed h code 0
  refine ⟨⟨table.templates.insert code t⟩, t, ?_, ?_, ?_, ?_⟩
  · rw [insert, Template.parse, hparse]
  · exact table.templates.get?_insert_self code t
  · rw [Template.text, htext, String.ofList_toList]
  · intro other hother
    exact (table.templates.get?_insert code other t).trans (if_neg hother)

theorem insert_of_refused {code text : String} {error : TemplateError}
    (h : Refused code 0 text.toList error) (table : MessageTable) :
    table.insert code text = .error error := by
  rw [insert, Template.parse, Template.parseFrom_of_refused h]

theorem insertEach_of_refused {table : MessageTable} {code text : String} {error : TemplateError}
    (h : table.insert code text = .error error) : table.insertEach [(code, text)] = table := by
  rw [insertEach_cons, h]
  rfl

/-- **Templates and messages.** Whatever is inserted into an empty table or
that of the library, every template in force is one of the grammar, and its
message is filled in one pass over its text. The message consists of
characters of the template and of arguments, each at one place that does not
depend on the arguments; and text behind the template is filled as if it
stood alone, with the arguments that the template leaves. A call of `insert`
is refused exactly for an offence against the grammar, and then it changes
nothing. -/
theorem templates_compose {start : MessageTable} (hstart : start = .empty ∨ start = .standard)
    (texts : List (String × String)) :
    let table := start.insertEach texts
    (∀ code t, table.get? code = some t →
      WellFormed t.text.toList ∧
        (∀ args, table.render code args = String.ofList (fill t.text.toList args)) ∧
        (t.messageParts 0).filterMap MessagePart.place? = List.range t.arity ∧
        (∀ args, fill t.text.toList args =
          (t.messageParts 0).flatMap (MessagePart.written args)) ∧
        ∀ second args, fill (t.text.toList ++ second) args =
          fill t.text.toList args ++ fill second (args.drop t.arity)) ∧
      ∀ code text,
        (WellFormed text.toList →
          ∃ next t, table.insert code text = .ok next ∧ next.get? code = some t ∧
            t.text = text ∧ ∀ other, other ≠ code → next.get? other = table.get? other) ∧
        (¬WellFormed text.toList →
          ∃ error, table.insert code text = .error error ∧ Refused code 0 text.toList error ∧
            table.insertEach [(code, text)] = table) := by
  intro table
  have hholds : table.Holds := by
    rcases hstart with rfl | rfl
    · exact holds_empty.insertEach texts
    · exact holds_standard.insertEach texts
  constructor
  · intro code t ht
    obtain ⟨hgood, hplain⟩ := hholds code t ht
    have htext : t.text.toList = t.flatMap Template.partChars := String.toList_ofList
    have hrender (args : List String) : fill t.text.toList args = t.render args := by
      have hall := fill_append hplain [] args
      rw [List.append_nil] at hall
      rw [htext, hall]
      exact List.append_nil _
    refine ⟨hgood, ?_, ?_, ?_, ?_⟩
    · intro args
      rw [MessageTable.render, ht, hrender]
    · rw [t.places_messageParts 0, List.range_eq_range']
    · intro args
      rw [hrender]
      exact t.render_eq_messageParts 0 args
    · intro second args
      rw [hrender, htext]
      exact fill_append hplain second args
  · intro code text
    refine ⟨table.insert_of_wellFormed code, ?_⟩
    intro hbad
    rcases Template.wellFormed_or_refused code 0 text.toList with hgood | ⟨error, hrefused⟩
    · exact absurd hgood hbad
    · have herror := insert_of_refused hrefused table
      exact ⟨error, herror, hrefused, insertEach_of_refused herror⟩

/-- A pair of percent signs does not begin a verb, and a percent sign in an
argument begins none. The second call of `insert` is refused. -/
theorem templates_compose_share :
    let table := empty.insertEach [("SHARE", "%%s: %q %d%%"), ("SHARE", "%n")]
    let t : Template := [.percent, .literal 's', .literal ':', .literal ' ', .argument .quoted,
      .literal ' ', .argument .decimal, .percent]
    (table.get? "SHARE" = some t ∧ table.render "SHARE" ["%s"] = "%s: '%s' <missing>%") ∧
      ∀ second args, fill (t.text.toList ++ second) args =
        fill t.text.toList args ++ fill second (args.drop t.arity) := by
  intro table t
  have hget : table.get? "SHARE" = some t := by decide +kernel
  obtain ⟨hstored, -⟩ := templates_compose (.inl rfl) [("SHARE", "%%s: %q %d%%"), ("SHARE", "%n")]
  obtain ⟨-, -, -, -, happend⟩ := hstored "SHARE" t hget
  exact ⟨⟨hget, by decide +kernel⟩, happend⟩

end MessageTable

end Scenario
