import Mathlib.Data.List.Forall2
import Scenario.Proofs.Cut
import Scenario.Store.Diagnosis

/-!
# What a diagnosis accounts for

A text is diagnosed unless every opening in it begins a reference that
resolves, and a diagnosis has one attempt for each opening: first the
references of the cut of the text, in their order, then the openings that
begin none (`Store.diagnose_accounts`). The status of an attempt says where
its expression fails, by the rules for the meaning of an expression
(`ReferenceAttempt.Describes`).

Cutting into pieces gives the references and the malformed openings in two
lists; both are tied to the text by induction along its references
(`Piece.dangling_ofText`, `Cut.insides_ofPieces`).
-/

namespace Scenario

open Scenario.Text

namespace ReferenceAttempt

/-! ## Attempts -/

/-- The attempt is about an expression, and its status says what became of
it. -/
structure Describes (env : Environment) (store : Store) (expression : String)
    (a : ReferenceAttempt) : Prop where
  expression_eq : a.expression = expression
  resolved_iff : a.status = .resolved ↔ ∃ value, store.resolve env expression = .ok value
  unresolved_iff : a.status = .unresolved ↔
    (∃ root, (Unresolved.unknown root).AppliesTo env store expression) ∨
      ∃ name, (Unresolved.environment name).AppliesTo env store expression
  incomplete_iff : a.status = .incomplete ↔
    ∃ root failure, (Unresolved.path root failure).AppliesTo env store expression
  expressionError_iff : a.status = .expressionError ↔
    Unresolved.empty.AppliesTo env store expression

theorem describes_ofExpression (env : Environment) (store : Store) (expression : String) :
    (ofExpression env store expression).Describes env store expression := by
  cases hresolve : store.resolve env expression with
  | ok value =>
      rw [ofExpression, hresolve]
      constructor <;> simp [← Store.resolve_eq_error_iff, hresolve]
  | error failure =>
      rw [ofExpression, hresolve]
      cases failure <;> constructor <;> simp [ofFailure, ← Store.resolve_eq_error_iff, hresolve]

theorem failed_ofExpression {env : Environment} {store : Store} {expression : String} :
    (ofExpression env store expression).failed = false ↔
      ∃ value, store.resolve env expression = .ok value := by
  rw [← (describes_ofExpression env store expression).resolved_iff, failed, bne_eq_false_iff_eq]

end ReferenceAttempt

/-! ## Openings that begin no reference -/

namespace Piece

/-- What follows each opening whose next brace does not close it. -/
def malformed (text : List Char) : List (List Char) :=
  ((openings text).map Prod.snd).filter fun rest => rest.find? isBrace != some '\x7d'

theorem mem_malformed {text rest : List Char} :
    rest ∈ malformed text ↔
      (∃ start, text = start ++ '$' :: '\x7b' :: rest) ∧ rest.find? isBrace ≠ some '\x7d' := by
  simp [malformed, ← mem_openings]

theorem map_snd_openings_cons (c : Char) (cs : List Char) :
    (openings (c :: cs)).map Prod.snd =
      (dropStart? ['$', '\x7b'] (c :: cs)).toList ++ (openings cs).map Prod.snd := by
  rw [openings, List.map_append, List.map_map]
  cases dropStart? ['$', '\x7b'] (c :: cs) <;> rfl

theorem map_snd_openings_reference {inside : List Char} (h : ∀ c ∈ inside, isBrace c = false)
    (rest : List Char) :
    (openings ((reference inside).chars ++ rest)).map Prod.snd =
      (inside ++ '\x7d' :: rest) :: (openings rest).map Prod.snd := by
  rw [openings_reference h, List.map_cons, List.map_map]
  rfl

theorem malformed_reference {inside : List Char} (h : ∀ c ∈ inside, isBrace c = false)
    (rest : List Char) : malformed ((reference inside).chars ++ rest) = malformed rest := by
  have hclosed : (inside ++ '\x7d' :: rest).find? isBrace = some '\x7d' := by
    rw [List.find?_eq_some_iff_append]
    exact ⟨by decide, inside, rest, rfl, fun c hc => by rw [h c hc]; rfl⟩
  rw [malformed, map_snd_openings_reference h, List.filter_cons_of_neg (by simp [hclosed])]
  rfl

theorem malformed_cons {c : Char} {cs : List Char}
    (h : ∀ inside, ¬ReferenceAt (c :: cs) [] inside) :
    malformed (c :: cs) = (dropStart? ['$', '\x7b'] (c :: cs)).toList ++ malformed cs := by
  have hopen : ∀ rest ∈ (dropStart? ['$', '\x7b'] (c :: cs)).toList,
      (rest.find? isBrace != some '\x7d') = true := by
    intro rest hrest
    have hdrop : dropStart? ['$', '\x7b'] (c :: cs) = some rest := Option.mem_toList.mp hrest
    have htext : c :: cs = [] ++ '$' :: '\x7b' :: rest := by
      rw [dropStart?_eq_some_iff.mp hdrop]
      rfl
    rw [bne_iff_ne, ne_eq, ← exists_referenceAt_iff htext, not_exists]
    exact h
  rw [malformed, map_snd_openings_cons, List.filter_append, List.filter_eq_self.mpr hopen]
  rfl

/-- The dangling pieces of a text are its malformed openings. -/
theorem dangling_ofText (text : List Char) :
    (ofText text).filterMap (fun
      | .dangling rest => some rest
      | _ => none) = malformed text := by
  induction text using text_induction with
  | nil =>
      rw [ofText]
      rfl
  | reference inside rest hbrace ih =>
      rw [ofText_append_reference hbrace, malformed_reference hbrace, ← ih]
      rfl
  | other c cs hnone ih =>
      rw [malformed_cons hnone, ← ih]
      rcases ofText_cons_of_not_referenceAt hnone with ⟨rest, htext, hpieces⟩ | ⟨hdrop, hpieces⟩
      · rw [hpieces, dropStart?_eq_some_iff.mpr htext]
        injection htext with hc hcs
        rw [hcs, ofText_cons_of_ne (by decide)]
        rfl
      · rw [hpieces, hdrop]
        rfl

end Piece

namespace Cut

def insides (cut : Cut) : List (List Char) :=
  cut.references.map Prod.snd

def stretches (cut : Cut) : List (List Char) :=
  cut.references.map Prod.fst ++ [cut.last]

theorem insides_afterStretch (stretch : List Char) (cut : Cut) :
    (cut.afterStretch stretch).insides = cut.insides := by
  obtain ⟨references, last⟩ := cut
  cases references <;> rfl

theorem mem_insides {cut : Cut} {inside : List Char} :
    inside ∈ cut.insides ↔ ∃ start, cut.Has start inside := by
  constructor
  · intro h
    obtain ⟨⟨before, _⟩, hmem, rfl⟩ := List.mem_map.mp h
    obtain ⟨earlier, later, heq⟩ := List.append_of_mem hmem
    exact ⟨_, earlier, before, later, heq, rfl⟩
  · rintro ⟨start, earlier, before, later, heq, -⟩
    rw [insides, heq]
    simp

theorem insides_ofPieces (pieces : List Piece) :
    (ofPieces pieces).insides = pieces.filterMap fun
      | .reference inside => some inside
      | _ => none := by
  induction pieces with
  | nil => rfl
  | cons piece pieces ih =>
      cases piece with
      | reference inside => exact congrArg (inside :: ·) ih
      | literal c => exact (insides_afterStretch [c] _).trans ih
      | dangling rest => exact (insides_afterStretch ['$', '\x7b'] _).trans ih

/-- Each opening begins a reference or is malformed. -/
theorem length_openings (text : List Char) :
    (Piece.openings text).length =
      (ofText text).insides.length + (Piece.malformed text).length := by
  induction text using Piece.text_induction with
  | nil =>
      rw [ofText, Piece.ofText]
      rfl
  | reference inside rest hbrace ih =>
      rw [ofText_append_reference hbrace, Piece.malformed_reference hbrace,
        Piece.openings_reference hbrace, List.length_cons, List.length_map, ih]
      simp only [insides, afterReference, List.map_cons, List.length_cons]
      omega
  | other c cs hnone ih =>
      have hsnd := congrArg List.length (Piece.map_snd_openings_cons c cs)
      rw [List.length_map, List.length_append, List.length_map] at hsnd
      rw [hsnd, ih, ofText_cons hnone, insides_afterStretch, Piece.malformed_cons hnone,
        List.length_append]
      omega

theorem stretches_afterStretch (stretch : List Char) (cut : Cut) :
    ∃ first others, cut.stretches = first :: others ∧ first <+: cut.text ∧
      (cut.afterStretch stretch).stretches = (stretch ++ first) :: others := by
  obtain ⟨references, last⟩ := cut
  cases references with
  | nil => exact ⟨last, [], rfl, List.prefix_rfl, rfl⟩
  | cons first later =>
      obtain ⟨before, inside⟩ := first
      refine ⟨before, later.map Prod.fst ++ [last], rfl, ?_, rfl⟩
      rw [text, filled, List.flatMap_cons, List.append_assoc, List.append_assoc]
      exact List.prefix_append _ _

/-- Malformed openings stand in the stretches between references. -/
theorem malformed_eq_nil_iff {text : List Char} :
    Piece.malformed text = [] ↔
      ∀ stretch ∈ (ofText text).stretches, ¬['$', '\x7b'] <:+: stretch := by
  induction text using Piece.text_induction with
  | nil =>
      rw [ofText, Piece.ofText]
      simp [Piece.malformed, Piece.openings, stretches, ofPieces]
  | reference inside rest hbrace ih =>
      rw [ofText_append_reference hbrace, Piece.malformed_reference hbrace, ih]
      simp [stretches, afterReference]
  | other c cs hnone ih =>
      obtain ⟨first, others, hstretches, hstarts, hafter⟩ :=
        stretches_afterStretch [c] (ofText cs)
      rw [text_ofText] at hstarts
      have hbegins : dropStart? ['$', '\x7b'] (c :: cs) = none ↔
          ¬['$', '\x7b'] <+: c :: first := by
        rw [dropStart?_eq_none_iff, not_iff_not]
        constructor
        · rintro ⟨rest, htext⟩
          obtain ⟨rfl, rfl⟩ : '$' = c ∧ '\x7b' :: rest = cs := by simpa using htext
          -- the brace after the dollar sign is in the same stretch
          have hbrace : ofText ('\x7b' :: rest) = (ofText rest).afterStretch ['\x7b'] :=
            ofText_cons fun inside hat => by simpa [Piece.chars] using hat.2
          obtain ⟨later, _, -, -, hlater⟩ := stretches_afterStretch ['\x7b'] (ofText rest)
          rw [← hbrace, hstretches] at hlater
          injection hlater with hfirst
          exact ⟨later, by rw [hfirst]; rfl⟩
        · intro hfirst
          exact hfirst.trans (List.cons_prefix_cons.mpr ⟨rfl, hstarts⟩)
      rw [Piece.malformed_cons hnone, ofText_cons hnone, hafter, List.append_eq_nil_iff, ih,
        hstretches, Option.toList_eq_nil_iff, hbegins]
      simp only [List.forall_mem_cons, List.singleton_append, List.infix_cons_iff, not_or,
        and_assoc]

end Cut

namespace Store

/-! ## Diagnoses -/

theorem attempts_eq (env : Environment) (store : Store) (template : String) :
    store.attempts env template =
      ((Cut.ofText template.toList).insides.map fun inside =>
        ReferenceAttempt.ofExpression env store (String.ofList inside)) ++
      ((Piece.malformed template.toList).map fun rest =>
        ReferenceAttempt.ofDangling (String.ofList rest)) := by
  rw [Cut.ofText, Cut.insides_ofPieces, ← Piece.dangling_ofText, List.map_filterMap,
    List.map_filterMap, attempts]
  congr 1 <;> refine congrArg (List.filterMap · _) (funext fun piece => ?_) <;>
    cases piece <;> rfl

theorem diagnose_eq_none_iff {env : Environment} {store : Store} {template : String} :
    store.diagnose env template = none ↔
      Piece.malformed template.toList = [] ∧
        ∀ inside ∈ (Cut.ofText template.toList).insides,
          ∃ value, store.resolve env (String.ofList inside) = .ok value := by
  have hattempts : store.diagnose env template = none ↔
      ∀ a ∈ store.attempts env template, a.failed = false := by
    unfold diagnose
    simp
  rw [hattempts, attempts_eq, List.forall_mem_append, List.forall_mem_map, List.forall_mem_map,
    and_comm, List.eq_nil_iff_forall_not_mem]
  refine and_congr (forall_congr' fun rest => ?_)
    (forall₂_congr fun inside _ => ReferenceAttempt.failed_ofExpression)
  exact ⟨fun h hmem => Bool.noConfusion (h hmem), fun h hmem => absurd hmem h⟩

end Store

/-- The attempts of a diagnosis in terms of the text: those of its references
in order, then one for each malformed opening. -/
structure Diagnosis.Accounts (env : Environment) (store : Store) (template : String) (cut : Cut)
    (d : Diagnosis) : Prop where
  template_eq : d.template = template
  length_eq : d.attempts.length = (Piece.openings template.toList).length
  attempts_eq : ∃ references malformed, d.attempts = references ++ malformed ∧
    List.Forall₂ (fun inside a => a.Describes env store (String.ofList inside))
      cut.insides references ∧
    List.Forall₂ (fun rest a => a.expression = String.ofList rest ∧ a.status = .expressionError)
      (Piece.malformed template.toList) malformed

namespace Store

variable {env : Environment} {store : Store} {template : String}

theorem diagnose_eq_none_iff_openings :
    store.diagnose env template = none ↔
      ∀ start rest, template.toList = start ++ '$' :: '\x7b' :: rest →
        ∃ inside value, Piece.ReferenceAt template.toList start inside ∧
          store.resolve env (String.ofList inside) = .ok value := by
  have hplaces := (Cut.of_ofText template.toList).has_iff
  rw [diagnose_eq_none_iff]
  constructor
  · rintro ⟨hmalformed, hinsides⟩ start rest htext
    have hclosed : rest.find? Piece.isBrace = some '\x7d' := by
      by_contra hopen
      rw [List.eq_nil_iff_forall_not_mem] at hmalformed
      exact hmalformed rest (Piece.mem_malformed.mpr ⟨⟨start, htext⟩, hopen⟩)
    obtain ⟨inside, hat⟩ := (Piece.exists_referenceAt_iff htext).mpr hclosed
    obtain ⟨value, hvalue⟩ :=
      hinsides inside (Cut.mem_insides.mpr ⟨start, (hplaces start inside).mpr hat⟩)
    exact ⟨inside, value, hat, hvalue⟩
  · intro h
    refine ⟨List.eq_nil_iff_forall_not_mem.mpr fun rest hmem => ?_, fun inside hinside => ?_⟩
    · obtain ⟨⟨start, htext⟩, hopen⟩ := Piece.mem_malformed.mp hmem
      obtain ⟨inside, -, hat, -⟩ := h start rest htext
      exact hopen ((Piece.exists_referenceAt_iff htext).mp ⟨inside, hat⟩)
    · obtain ⟨start, hhas⟩ := Cut.mem_insides.mp hinside
      have hat := (hplaces start inside).mp hhas
      obtain ⟨-, rest, hopening⟩ := Piece.referenceAt_iff.mp hat
      obtain ⟨other, value, hother, hvalue⟩ := h start _ (Piece.mem_openings.mp hopening)
      exact ⟨value, hat.unique hother ▸ hvalue⟩

theorem accounts_of_diagnose {d : Diagnosis} (h : store.diagnose env template = some d) :
    d.Accounts env store template (Cut.ofText template.toList) := by
  obtain rfl : d = ⟨template, store.attempts env template⟩ := by
    unfold diagnose at h
    dsimp only at h
    split at h
    · exact (Option.some.inj h).symm
    · cases h
  refine ⟨rfl, ?_, _, _, store.attempts_eq env template, ?_, ?_⟩
  · rw [Cut.length_openings, store.attempts_eq env template, List.length_append, List.length_map,
      List.length_map]
  · rw [List.forall₂_map_right_iff, List.forall₂_same]
    exact fun inside _ => ReferenceAttempt.describes_ofExpression env store _
  · rw [List.forall₂_map_right_iff, List.forall₂_same]
    exact fun rest _ => ⟨rfl, rfl⟩

/-- **Diagnosing a text.** There is a diagnosis unless every opening begins a
reference that resolves, which is to say that the stretches between references
have no opening and all references are replaced. A diagnosis accounts for each
opening once. -/
theorem diagnose_accounts (env : Environment) (store : Store) (template : String) :
    ∃ cut : Cut, cut.Of template.toList ∧
      (store.diagnose env template = none ↔
        ∀ start rest, template.toList = start ++ '$' :: '\x7b' :: rest →
          ∃ inside value, Piece.ReferenceAt template.toList start inside ∧
            store.resolve env (String.ofList inside) = .ok value) ∧
      (store.diagnose env template = none ↔
        (∀ stretch ∈ cut.stretches, ¬['$', '\x7b'] <:+: stretch) ∧
          ∀ inside ∈ cut.insides, ∃ value, store.resolve env (String.ofList inside) = .ok value) ∧
      ∀ d, store.diagnose env template = some d → d.Accounts env store template cut := by
  refine ⟨Cut.ofText template.toList, Cut.of_ofText _, diagnose_eq_none_iff_openings, ?_,
    fun d => accounts_of_diagnose⟩
  rw [diagnose_eq_none_iff, Cut.malformed_eq_nil_iff]

end Store

end Scenario
