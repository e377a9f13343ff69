import Scenario.Proofs.Reference

/-!
# Texts cut at their references

A text is cut at its references if it is written as stretches with a
reference after each but the last, and these are all the references it has,
wherever one may stand in it (`Cut.Of`). There is exactly one such cut
(`Cut.of_iff`), and replacing references fills it: each reference becomes the
text of its value, or stays, and the stretches stay (`Store.substitute_fills`).

Two facts carry both parts. No reference begins inside another, since a
reference has no brace between its own (`Piece.openings_reference`); and a
character at which no reference begins belongs to the stretch before the next
one. They are the two steps of `Piece.text_induction`.
-/

namespace Scenario

open Scenario.Text

namespace Piece

/-! ## Openings -/

/-- Every `${` of a text from left to right: what stands before it and what
stands after it. -/
def openings : List Char → List (List Char × List Char)
  | [] => []
  | c :: cs =>
    ((dropStart? ['$', '\x7b'] (c :: cs)).map fun rest => ([], rest)).toList ++
      (openings cs).map fun (start, rest) => (c :: start, rest)

theorem openings_cons_of_none {c : Char} {cs : List Char}
    (h : dropStart? ['$', '\x7b'] (c :: cs) = none) :
    openings (c :: cs) = (openings cs).map fun (start, rest) => (c :: start, rest) := by
  rw [openings, h]
  rfl

theorem mem_openings {text start rest : List Char} :
    (start, rest) ∈ openings text ↔ text = start ++ '$' :: '\x7b' :: rest := by
  induction text generalizing start with
  | nil => simp [openings]
  | cons c cs ih =>
      cases start with
      | nil => simp [openings, dropStart?_eq_some_iff]
      | cons s start =>
          have hhere : (s :: start, rest) ∉
              ((dropStart? ['$', '\x7b'] (c :: cs)).map fun rest => ([], rest)).toList := by
            simp
          have hlater : (s :: start, rest) ∈ ((openings cs).map fun (start, rest) =>
              (c :: start, rest)) ↔ c = s ∧ (start, rest) ∈ openings cs := by
            simp [and_comm]
          rw [openings, List.mem_append, or_iff_right hhere, hlater, ih, List.cons_append,
            List.cons.injEq]

/-- A stretch without braces and the brace after it have no opening. -/
theorem openings_append_closing {inside : List Char} (h : ∀ c ∈ inside, isBrace c = false)
    (rest : List Char) :
    openings (inside ++ '\x7d' :: rest) =
      (openings rest).map fun (start, after) => (inside ++ '\x7d' :: start, after) := by
  induction inside with
  | nil => exact openings_cons_of_none (by simp [dropStart?])
  | cons c inside ih =>
      have hnone : dropStart? ['$', '\x7b'] (c :: (inside ++ '\x7d' :: rest)) = none := by
        rw [dropStart?_eq_none_iff]
        rintro ⟨after, heq⟩
        cases inside with
        | nil => simp at heq
        | cons d inside =>
            have hd := h d (List.mem_cons_of_mem _ List.mem_cons_self)
            simp only [List.cons_append, List.nil_append, List.cons.injEq] at heq
            obtain ⟨-, rfl, -⟩ := heq
            cases hd
      rw [List.cons_append, openings_cons_of_none hnone,
        ih fun d hd => h d (List.mem_cons_of_mem _ hd), List.map_map]
      rfl

/-- The next opening after one that begins a reference comes after that
reference. -/
theorem openings_reference {inside : List Char} (h : ∀ c ∈ inside, isBrace c = false)
    (rest : List Char) :
    openings ((reference inside).chars ++ rest) =
      ([], inside ++ '\x7d' :: rest) ::
        (openings rest).map fun (start, after) => ((reference inside).chars ++ start, after) := by
  have hbrace : dropStart? ['$', '\x7b'] ('\x7b' :: (inside ++ '\x7d' :: rest)) = none := by
    simp [dropStart?]
  have htext : (reference inside).chars ++ rest = '$' :: '\x7b' :: (inside ++ '\x7d' :: rest) := by
    simp [chars]
  rw [htext, openings, openings_cons_of_none hbrace, openings_append_closing h]
  simp [dropStart?, chars]

/-! ## References at a place -/

/-- A reference stands in a text after `start`: `${`, `inside` without braces,
and `}`. -/
def ReferenceAt (text start inside : List Char) : Prop :=
  (∀ c ∈ inside, isBrace c = false) ∧ start ++ (reference inside).chars <+: text

theorem referenceAt_iff {text start inside : List Char} :
    ReferenceAt text start inside ↔
      (∀ c ∈ inside, isBrace c = false) ∧
        ∃ rest, (start, inside ++ '\x7d' :: rest) ∈ openings text := by
  refine and_congr_right fun _ => exists_congr fun rest => ?_
  rw [mem_openings, eq_comm]
  simp [chars]

theorem referenceAt_cons {c : Char} {cs start inside : List Char}
    (h : ∀ i, ¬ReferenceAt (c :: cs) [] i) :
    ReferenceAt (c :: cs) start inside ↔
      ∃ later, start = c :: later ∧ ReferenceAt cs later inside := by
  constructor
  · intro hat
    cases start with
    | nil => exact absurd hat (h inside)
    | cons s start =>
        obtain ⟨hbrace, hstarts⟩ := hat
        rw [List.cons_append, List.cons_prefix_cons] at hstarts
        exact ⟨start, by rw [hstarts.1], hbrace, hstarts.2⟩
  · rintro ⟨later, rfl, hbrace, hstarts⟩
    exact ⟨hbrace, List.cons_prefix_cons.mpr ⟨rfl, hstarts⟩⟩

/-- What stands before the first closing brace is determined by the text. -/
theorem closing_inj {inside inside' rest rest' : List Char}
    (h : ∀ c ∈ inside, isBrace c = false) (h' : ∀ c ∈ inside', isBrace c = false)
    (heq : inside ++ '\x7d' :: rest = inside' ++ '\x7d' :: rest') :
    inside = inside' ∧ rest = rest' := by
  have hclosing := closing?_append h rest
  rw [heq, closing?_append h' rest'] at hclosing
  injection hclosing with hpair
  exact ⟨(congrArg Prod.fst hpair).symm, (congrArg Prod.snd hpair).symm⟩

/-- At most one reference stands at a place. -/
theorem ReferenceAt.unique {text start inside other : List Char}
    (h : ReferenceAt text start inside) (h' : ReferenceAt text start other) : inside = other := by
  obtain ⟨hbrace, rest, rfl⟩ := h
  obtain ⟨hbrace', rest', heq⟩ := h'
  have hinside : inside ++ '\x7d' :: rest = other ++ '\x7d' :: rest' := by
    simpa [chars, eq_comm] using heq
  exact (closing_inj hbrace hbrace' hinside).1

theorem referenceAt_append {inside : List Char} (h : ∀ c ∈ inside, isBrace c = false)
    {rest start other : List Char} :
    ReferenceAt ((reference inside).chars ++ rest) start other ↔
      (start = [] ∧ other = inside) ∨
        ∃ later, start = (reference inside).chars ++ later ∧ ReferenceAt rest later other := by
  rw [referenceAt_iff, openings_reference h]
  constructor
  · rintro ⟨hbrace, after, hmem⟩
    rcases List.mem_cons.mp hmem with heq | hmem
    · injection heq with hstart hinside
      exact .inl ⟨hstart, (closing_inj hbrace h hinside).1⟩
    · obtain ⟨⟨later, _⟩, hlater, heq⟩ := List.mem_map.mp hmem
      injection heq with hstart hafter
      subst hafter
      exact .inr ⟨later, hstart.symm, referenceAt_iff.mpr ⟨hbrace, after, hlater⟩⟩
  · rintro (⟨rfl, rfl⟩ | ⟨later, rfl, hat⟩)
    · exact ⟨h, rest, List.mem_cons_self⟩
    · obtain ⟨hbrace, after, hmem⟩ := referenceAt_iff.mp hat
      exact ⟨hbrace, after, List.mem_cons_of_mem _ (List.mem_map.mpr ⟨_, hmem, rfl⟩)⟩

/-- Induction along the references of a text. -/
theorem text_induction {motive : List Char → Prop} (nil : motive [])
    (reference : ∀ inside rest, (∀ c ∈ inside, isBrace c = false) → motive rest →
      motive ((Piece.reference inside).chars ++ rest))
    (other : ∀ c cs, (∀ inside, ¬ReferenceAt (c :: cs) [] inside) → motive cs →
      motive (c :: cs)) : ∀ text, motive text
  | [] => nil
  | c :: cs => by
      by_cases h : ∃ inside, ReferenceAt (c :: cs) [] inside
      · obtain ⟨inside, hbrace, rest, htext⟩ := h
        have hshorter : rest.length < (c :: cs).length := by
          rw [← htext]
          simp only [chars, List.nil_append, List.length_append, List.length_cons]
          omega
        rw [← htext]
        exact reference inside rest hbrace (text_induction nil reference other rest)
      · exact other c cs (not_exists.mp h) (text_induction nil reference other cs)
termination_by text => text.length
decreasing_by
  · exact hshorter
  · exact Nat.lt_succ_self cs.length

/-! ## Pieces -/

theorem ofText_append_reference {inside : List Char} (h : ∀ c ∈ inside, isBrace c = false)
    (rest : List Char) :
    ofText ((reference inside).chars ++ rest) = .reference inside :: ofText rest := by
  rw [← ofText_reference h]
  simp [chars]

/-- Where no reference begins there is a dangling opening or a character. -/
theorem ofText_cons_of_not_referenceAt {c : Char} {cs : List Char}
    (h : ∀ inside, ¬ReferenceAt (c :: cs) [] inside) :
    (∃ rest, c :: cs = '$' :: '\x7b' :: rest ∧ ofText (c :: cs) = .dangling rest :: ofText rest) ∨
      (dropStart? ['$', '\x7b'] (c :: cs) = none ∧ ofText (c :: cs) = .literal c :: ofText cs) := by
  cases hdrop : dropStart? ['$', '\x7b'] (c :: cs) with
  | some rest =>
      have htext : c :: cs = '$' :: '\x7b' :: rest := dropStart?_eq_some_iff.mp hdrop
      refine .inl ⟨rest, htext, ?_⟩
      rw [htext, ofText]
      split
      · next inside after hclosing =>
          obtain ⟨hbrace, hrest⟩ := closing?_eq_some_iff.mp hclosing
          refine absurd ⟨hbrace, after, ?_⟩ (h inside)
          simp [htext, hrest, chars]
      · rfl
  | none =>
      refine .inr ⟨rfl, ?_⟩
      rw [ofText]
      rintro rest rfl rfl
      simp [dropStart?] at hdrop

end Piece

/-- A text in parts: stretches with a reference after each but the last. -/
structure Cut where
  /-- Each stretch with the inside of the reference after it. -/
  references : List (List Char × List Char)
  last : List Char
  deriving Repr, DecidableEq

namespace Cut

/-- The text with something in place of each reference. -/
def filled (value : List Char → List Char) (cut : Cut) : List Char :=
  (cut.references.flatMap fun (before, inside) => before ++ value inside) ++ cut.last

def text (cut : Cut) : List Char :=
  cut.filled fun inside => (Piece.reference inside).chars

/-- One of the references has `inside` between its braces, and the text before
it is `start`. -/
def Has (cut : Cut) (start inside : List Char) : Prop :=
  ∃ earlier before later, cut.references = earlier ++ (before, inside) :: later ∧
    start = text ⟨earlier, before⟩

/-- The cut puts a text together, and its references are all that stand
anywhere in that text. -/
structure Of (cut : Cut) (text : List Char) : Prop where
  text_eq : cut.text = text
  has_iff : ∀ start inside, cut.Has start inside ↔ Piece.ReferenceAt text start inside

/-! ## Cuts from pieces -/

/-- The cut with one more reference in front. -/
def afterReference (inside : List Char) (cut : Cut) : Cut :=
  ⟨([], inside) :: cut.references, cut.last⟩

/-- The cut with more text in front. -/
def afterStretch (stretch : List Char) (cut : Cut) : Cut :=
  match cut.references with
  | [] => ⟨[], stretch ++ cut.last⟩
  | (before, inside) :: later => ⟨(stretch ++ before, inside) :: later, cut.last⟩

def ofPieces : List Piece → Cut
  | [] => ⟨[], []⟩
  | .reference inside :: pieces => (ofPieces pieces).afterReference inside
  | piece :: pieces => (ofPieces pieces).afterStretch piece.chars

def ofText (text : List Char) : Cut :=
  ofPieces (Piece.ofText text)

theorem filled_afterReference (value : List Char → List Char) (inside : List Char) (cut : Cut) :
    (cut.afterReference inside).filled value = value inside ++ cut.filled value := by
  simp [afterReference, filled]

theorem filled_afterStretch (value : List Char → List Char) (stretch : List Char) (cut : Cut) :
    (cut.afterStretch stretch).filled value = stretch ++ cut.filled value := by
  unfold afterStretch
  split
  · next h => simp [filled, h]
  · next h => simp [filled, h]

theorem afterStretch_append (first second : List Char) (cut : Cut) :
    cut.afterStretch (first ++ second) = (cut.afterStretch second).afterStretch first := by
  obtain ⟨references, last⟩ := cut
  cases references <;> simp [afterStretch]

/-- Filling a cut replaces the references among the pieces. -/
theorem filled_ofPieces (value : List Char → List Char) (pieces : List Piece) :
    (ofPieces pieces).filled value =
      pieces.flatMap fun
        | .reference inside => value inside
        | piece => piece.chars := by
  induction pieces with
  | nil => rfl
  | cons piece pieces ih =>
      rw [List.flatMap_cons, ← ih]
      cases piece with
      | reference inside => exact filled_afterReference value inside _
      | literal c => exact filled_afterStretch value [c] _
      | dangling rest => exact filled_afterStretch value ['$', '\x7b'] _

theorem text_ofText (text : List Char) : (ofText text).text = text := by
  have hpiece : (fun
      | .reference inside => (Piece.reference inside).chars
      | piece => piece.chars) = Piece.chars := by
    funext piece
    cases piece <;> rfl
  rw [Cut.text, ofText, filled_ofPieces, hpiece, Piece.ofText_chars]

theorem ofText_append_reference {inside : List Char} (h : ∀ c ∈ inside, Piece.isBrace c = false)
    (rest : List Char) :
    ofText ((Piece.reference inside).chars ++ rest) = (ofText rest).afterReference inside := by
  rw [ofText, Piece.ofText_append_reference h]
  rfl

theorem ofText_cons {c : Char} {cs : List Char}
    (h : ∀ inside, ¬Piece.ReferenceAt (c :: cs) [] inside) :
    ofText (c :: cs) = (ofText cs).afterStretch [c] := by
  rcases Piece.ofText_cons_of_not_referenceAt h with ⟨rest, htext, hpieces⟩ | ⟨-, hpieces⟩
  · injection htext with hc hcs
    subst hc hcs
    have hbrace : ofText ('\x7b' :: rest) = (ofText rest).afterStretch ['\x7b'] := by
      rw [ofText, Piece.ofText_cons_of_ne (by decide)]
      rfl
    rw [ofText, hpieces, hbrace, ← afterStretch_append]
    rfl
  · rw [ofText, hpieces]
    rfl

/-! ## The references of a cut -/

theorem not_has_nil (last start inside : List Char) : ¬Has ⟨[], last⟩ start inside := by
  rintro ⟨earlier, before, later, heq, -⟩
  simp at heq

theorem has_cons {before inside last start other : List Char}
    {later : List (List Char × List Char)} :
    Has ⟨(before, inside) :: later, last⟩ start other ↔
      (start = before ∧ other = inside) ∨
        ∃ rest, start = before ++ ((Piece.reference inside).chars ++ rest) ∧
          Has ⟨later, last⟩ rest other := by
  constructor
  · rintro ⟨earlier, stretch, after, heq, rfl⟩
    cases earlier with
    | nil =>
        injection heq with hfirst
        injection hfirst with hbefore hinside
        exact .inl ⟨hbefore.symm, hinside.symm⟩
    | cons first earlier =>
        injection heq with hfirst hlater
        subst hfirst
        exact .inr ⟨text ⟨earlier, stretch⟩, by simp [text, filled], earlier, stretch, after,
          hlater, rfl⟩
  · rintro (⟨rfl, rfl⟩ | ⟨rest, rfl, earlier, stretch, after, heq, rfl⟩)
    · exact ⟨[], start, later, rfl, rfl⟩
    · refine ⟨(before, inside) :: earlier, stretch, after, ?_, by simp [text, filled]⟩
      exact congrArg ((before, inside) :: ·) heq

/-- Text in front moves the references. -/
theorem has_afterStretch {stretch : List Char} {cut : Cut} {start inside : List Char} :
    (cut.afterStretch stretch).Has start inside ↔
      ∃ later, start = stretch ++ later ∧ cut.Has later inside := by
  obtain ⟨references, last⟩ := cut
  cases references with
  | nil => simp [afterStretch, not_has_nil]
  | cons first later =>
      obtain ⟨before, first⟩ := first
      simp only [afterStretch, has_cons, List.append_assoc]
      constructor
      · rintro (⟨rfl, rfl⟩ | ⟨rest, rfl, hrest⟩)
        · exact ⟨before, rfl, .inl ⟨rfl, rfl⟩⟩
        · exact ⟨_, rfl, .inr ⟨rest, rfl, hrest⟩⟩
      · rintro ⟨_, rfl, ⟨rfl, rfl⟩ | ⟨rest, rfl, hrest⟩⟩
        · exact .inl ⟨rfl, rfl⟩
        · exact .inr ⟨rest, rfl, hrest⟩

theorem of_afterReference {inside rest : List Char} {cut : Cut}
    (h : ∀ c ∈ inside, Piece.isBrace c = false) :
    (cut.afterReference inside).Of ((Piece.reference inside).chars ++ rest) ↔ cut.Of rest := by
  have hhas : ∀ start other, (cut.afterReference inside).Has start other ↔
      (start = [] ∧ other = inside) ∨
        ∃ later, start = (Piece.reference inside).chars ++ later ∧ cut.Has later other :=
    fun start other => has_cons
  have htext : (cut.afterReference inside).text =
      (Piece.reference inside).chars ++ cut.text := filled_afterReference _ inside cut
  constructor
  · rintro ⟨heq, hiff⟩
    refine ⟨List.append_cancel_left (htext.symm.trans heq), fun later other => ?_⟩
    have hplace := hiff ((Piece.reference inside).chars ++ later) other
    rw [hhas, Piece.referenceAt_append h] at hplace
    simpa [Piece.chars] using hplace
  · rintro ⟨rfl, hiff⟩
    refine ⟨htext, fun start other => ?_⟩
    rw [hhas, Piece.referenceAt_append h]
    exact or_congr_right (exists_congr fun later => and_congr_right fun _ => hiff later other)

theorem of_afterStretch {c : Char} {cs : List Char} {cut : Cut}
    (h : ∀ inside, ¬Piece.ReferenceAt (c :: cs) [] inside) :
    (cut.afterStretch [c]).Of (c :: cs) ↔ cut.Of cs := by
  have htext : (cut.afterStretch [c]).text = c :: cut.text := filled_afterStretch _ [c] cut
  constructor
  · rintro ⟨heq, hiff⟩
    refine ⟨(List.cons.inj (htext.symm.trans heq)).2, fun later inside => ?_⟩
    have hplace := hiff (c :: later) inside
    rw [has_afterStretch, Piece.referenceAt_cons h] at hplace
    simpa using hplace
  · rintro ⟨rfl, hiff⟩
    refine ⟨htext, fun start inside => ?_⟩
    rw [has_afterStretch, Piece.referenceAt_cons h]
    exact exists_congr fun later => and_congr_right fun _ => hiff later inside

/-! ## The cut of a text -/

theorem of_ofText (text : List Char) : (ofText text).Of text := by
  induction text using Piece.text_induction with
  | nil =>
      rw [ofText, Piece.ofText]
      refine ⟨rfl, fun start inside => iff_of_false (not_has_nil _ _ _) ?_⟩
      rintro ⟨-, hstarts⟩
      simp [Piece.chars] at hstarts
  | reference inside rest hbrace ih =>
      rw [ofText_append_reference hbrace]
      exact (of_afterReference hbrace).mpr ih
  | other c cs hnone ih =>
      rw [ofText_cons hnone]
      exact (of_afterStretch hnone).mpr ih

/-- Nothing stands before a reference that begins the text. -/
theorem eq_afterReference_of_has {cut : Cut} {inside : List Char} (h : cut.Has [] inside) :
    ∃ later : Cut, cut = later.afterReference inside := by
  obtain ⟨references, last⟩ := cut
  cases references with
  | nil => exact absurd h (not_has_nil _ _ _)
  | cons first later =>
      obtain ⟨before, other⟩ := first
      rcases has_cons.mp h with ⟨rfl, rfl⟩ | ⟨rest, heq, -⟩
      · exact ⟨⟨later, last⟩, rfl⟩
      · simp [Piece.chars] at heq

/-- A text that begins with no reference begins with a stretch. -/
theorem eq_afterStretch_of_not_has {cut : Cut} {c : Char} {cs : List Char}
    (h : ∀ inside, ¬cut.Has [] inside) (htext : cut.text = c :: cs) :
    ∃ later : Cut, cut = later.afterStretch [c] := by
  obtain ⟨references, last⟩ := cut
  cases references with
  | nil =>
      have hlast : last = c :: cs := htext
      exact ⟨⟨[], cs⟩, by rw [hlast]; rfl⟩
  | cons first later =>
      obtain ⟨before, inside⟩ := first
      cases before with
      | nil => exact absurd (has_cons.mpr (.inl ⟨rfl, rfl⟩)) (h inside)
      | cons d before =>
          have hd : d = c := by
            simp only [text, filled, List.flatMap_cons, List.cons_append] at htext
            exact (List.cons.inj htext).1
          exact ⟨⟨(before, inside) :: later, last⟩, by rw [hd]; rfl⟩

theorem eq_ofText {text : List Char} {cut : Cut} (h : cut.Of text) : cut = ofText text := by
  induction text using Piece.text_induction generalizing cut with
  | nil =>
      obtain ⟨references, last⟩ := cut
      cases references with
      | nil =>
          have hlast : last = [] := h.text_eq
          rw [hlast, ofText, Piece.ofText]
          rfl
      | cons first later =>
          have htext := h.text_eq
          simp [text, filled, Piece.chars] at htext
  | reference inside rest hbrace ih =>
      have hfirst : cut.Has [] inside :=
        (h.has_iff [] inside).mpr ((Piece.referenceAt_append hbrace).mpr (.inl ⟨rfl, rfl⟩))
      obtain ⟨later, rfl⟩ := eq_afterReference_of_has hfirst
      rw [ofText_append_reference hbrace, ih ((of_afterReference hbrace).mp h)]
  | other c cs hnone ih =>
      have hfirst : ∀ inside, ¬cut.Has [] inside := fun inside hhas =>
        hnone inside ((h.has_iff [] inside).mp hhas)
      obtain ⟨later, rfl⟩ := eq_afterStretch_of_not_has hfirst h.text_eq
      rw [ofText_cons hnone, ih ((of_afterStretch hnone).mp h)]

/-- A text has exactly one cut. -/
theorem of_iff {text : List Char} {cut : Cut} : cut.Of text ↔ cut = ofText text :=
  ⟨eq_ofText, fun h => h ▸ of_ofText text⟩

end Cut

/-! ## Replacing references -/

namespace Piece

/-- An opening begins a reference exactly if the next brace after it closes. -/
theorem exists_referenceAt_iff {text start rest : List Char}
    (h : text = start ++ '$' :: '\x7b' :: rest) :
    (∃ inside, ReferenceAt text start inside) ↔ rest.find? isBrace = some '\x7d' := by
  have hclose : isBrace '\x7d' = true := by decide
  rw [List.find?_eq_some_iff_append]
  constructor
  · rintro ⟨inside, hbrace, after, heq⟩
    rw [h] at heq
    have hrest : rest = inside ++ '\x7d' :: after := by
      simpa [chars, eq_comm] using heq
    exact ⟨hclose, inside, after, hrest, fun c hc => by rw [hbrace c hc]; rfl⟩
  · rintro ⟨-, inside, after, hrest, hbrace⟩
    exact ⟨inside, fun c hc => by simpa using hbrace c hc, after, by simp [h, hrest, chars]⟩

end Piece

namespace Store

/-- What stands in place of a reference: the text of its value, or the
reference itself if it has none. -/
def replacement (env : Environment) (store : Store) (inside : List Char) : List Char :=
  match store.resolve env (String.ofList inside) with
  | .ok value => value.display.toList
  | .error _ => (Piece.reference inside).chars

theorem substitute_eq (env : Environment) (store : Store) (template : String) :
    store.substitute env template =
      String.ofList ((Cut.ofText template.toList).filled (store.replacement env)) := by
  have hpiece : store.pieceText env = fun
      | .reference inside => store.replacement env inside
      | piece => piece.chars := by
    funext piece
    cases piece with
    | reference inside =>
        cases hresolve : store.resolve env (String.ofList inside) <;>
          simp only [pieceText, replacement, hresolve]
    | literal c => rfl
    | dangling rest => rfl
  rw [substitute, Cut.ofText, Cut.filled_ofPieces, hpiece]

/-- **Replacing references.** A text has exactly one cut at its references,
one begins at an opening exactly if the next brace after it closes, and
substitution fills the cut: what is put in is not looked at again, and the
stretches between references stay as they are. -/
theorem substitute_fills (env : Environment) (store : Store) (template : String) :
    ∃ cut : Cut, (∀ other : Cut, other.Of template.toList ↔ other = cut) ∧
      (∀ start rest, template.toList = start ++ '$' :: '\x7b' :: rest →
        ((∃ inside, cut.Has start inside) ↔ rest.find? Piece.isBrace = some '\x7d')) ∧
      store.substitute env template = String.ofList (cut.filled (store.replacement env)) := by
  refine ⟨Cut.ofText template.toList, fun other => Cut.of_iff, fun start rest htext => ?_,
    store.substitute_eq env template⟩
  rw [← Piece.exists_referenceAt_iff htext]
  exact exists_congr fun inside => (Cut.of_ofText template.toList).has_iff start inside

/-- The reference inside a dangling one is replaced, and the one in its value
is not. -/
example :
    substitute (fun _ => none) (.ofList [("x", .string "$\x7by\x7d"), ("y", .bool true)])
        "$\x7ba $\x7bx\x7d\x7d $\x7bz\x7d $\x7b" =
      "$\x7ba $\x7by\x7d\x7d $\x7bz\x7d $\x7b" := by
  decide +kernel

end Store

end Scenario
