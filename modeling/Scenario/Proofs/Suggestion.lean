import Mathlib.Data.List.Perm.Subperm
import Scenario.Proofs.ByteOrder
import Scenario.Proofs.EditDistance
import Scenario.Proofs.LowerCase
import Scenario.Proofs.Occurrence

/-!
# The names that are suggested

A name is suggested if it qualifies and no five others are better
(`Best`). The candidates come in any order and may be repeated. Sorting them
brings repeated names together, since the rank of a name depends on nothing
but the name: of two ranks with one name, neither comes before the other. So
what is left of the sorted candidates is strictly sorted
(`pairwise_dropRepeated`), and its first five names are better than the rest.

Five names that are better than all others are determined by the names there
are to choose from (`Best.unique`), and so the order of the candidates and
how often they are repeated makes no difference. Main statement:
`names_best`.
-/

namespace Scenario

open Scenario.Text

namespace Suggestion

/-! ## What is suggested -/

/-- How far a name is from the one that is wanted, in lower case. -/
def distance (target name : String) : Nat :=
  levenshtein (lowercase target.toList) (lowercase name.toList)

/-- A name that may be suggested: another one that is near, or that contains
the one that is wanted or is contained in it. -/
def Qualifies (target name : String) : Prop :=
  name ≠ target ∧
    (distance target name ≤ 2 ∨
      name ≠ "" ∧
        (lowercase target.toList <:+: lowercase name.toList ∨
          lowercase name.toList <:+: lowercase target.toList))

/-- Nearer names come before others, and equally near ones are in the order
of their bytes. -/
def Before (target left right : String) : Prop :=
  distance target left < distance target right ∨
    distance target left = distance target right ∧ bytes left < bytes right

/-- The best five of the candidates that qualify, the best first. -/
structure Best (target : String) (candidates names : List String) : Prop where
  sorted : names.Pairwise (Before target)
  length_le : names.length ≤ 5
  qualified : ∀ name ∈ names, name ∈ candidates ∧ Qualifies target name
  /-- A name is left out only for five better ones. -/
  omitted : ∀ name ∈ candidates, Qualifies target name → name ∉ names →
    names.length = 5 ∧ ∀ better ∈ names, Before target better name

section

variable {target : String}

theorem before_irrefl (name : String) : ¬Before target name name := by
  rintro (hlt | ⟨-, hlt⟩)
  · exact Nat.lt_irrefl _ hlt
  · exact List.lt_irrefl _ hlt

theorem before_asymm {left right : String} (h : Before target left right) :
    ¬Before target right left := by
  rintro (hlt | ⟨heq, hlt⟩) <;> rcases h with hlt' | ⟨heq', hlt'⟩
  · omega
  · omega
  · omega
  · exact List.lt_asymm hlt hlt'

variable {candidates names others : List String}

theorem Best.nodup (h : Best target candidates names) : names.Nodup := by
  refine h.sorted.imp fun {left right} hbefore => ?_
  rintro rfl
  exact before_irrefl left hbefore

/-- Nothing that is left out of the one choice is in the other. -/
theorem Best.subset (h : Best target candidates names) (h' : Best target candidates others) :
    names ⊆ others := by
  intro name hname
  by_contra hout
  obtain ⟨hcandidate, hqualifies⟩ := h.qualified name hname
  obtain ⟨hfive, hbetter⟩ := h'.omitted name hcandidate hqualifies hout
  -- the five better ones are in both, and with this one they are six
  have hsubset : others ⊆ names := by
    intro other hother
    by_contra hmissing
    obtain ⟨hcandidate, hqualifies⟩ := h'.qualified other hother
    have hworse := (h.omitted other hcandidate hqualifies hmissing).2 name hname
    exact before_asymm hworse (hbetter other hother)
  have hperm := (h'.nodup.subperm hsubset).perm_of_length_le (hfive ▸ h.length_le)
  exact hout (hperm.mem_iff.mpr hname)

/-- The best five are determined. -/
theorem Best.unique (h : Best target candidates names) (h' : Best target candidates others) :
    names = others := by
  have hperm : names.Perm others :=
    (List.perm_ext_iff_of_nodup h.nodup h'.nodup).mpr fun name =>
      ⟨fun hname => h.subset h' hname, fun hname => h'.subset h hname⟩
  exact hperm.eq_of_pairwise (fun _ _ _ _ hbefore hafter => absurd hafter (before_asymm hbefore))
    h.sorted h'.sorted

/-- Only which candidates there are makes a difference. -/
theorem Best.of_mem_iff (h : Best target candidates names)
    (hmem : ∀ name, name ∈ candidates ↔ name ∈ others) : Best target others names where
  sorted := h.sorted
  length_le := h.length_le
  qualified name hname := by
    rw [← hmem]
    exact h.qualified name hname
  omitted name hother := h.omitted name ((hmem name).mpr hother)

end

/-! ## Ranks -/

/-- The rank of a name. -/
def rankOf (target name : String) : Ranked :=
  ⟨distance target name, name⟩

theorem Ranked.atMost_iff {a b : Ranked} :
    a.atMost b = true ↔ a.distance < b.distance ∨ a.distance = b.distance ∧ a.name ≤ b.name := by
  simp only [atMost, Bool.or_eq_true, decide_eq_true_eq, Bool.and_eq_true, beq_iff_eq,
    Bool.not_eq_true', decide_eq_false_iff_not, not_lt]

theorem Ranked.atMost_total (a b : Ranked) : (a.atMost b || b.atMost a) = true := by
  rw [Bool.or_eq_true, atMost_iff, atMost_iff]
  have hname := le_total a.name b.name
  have hdistance := lt_trichotomy a.distance b.distance
  tauto

theorem Ranked.atMost_trans (a b c : Ranked) (hab : a.atMost b = true) (hbc : b.atMost c = true) :
    a.atMost c = true := by
  rw [atMost_iff] at *
  rcases hab with hab | ⟨hab, hname⟩ <;> rcases hbc with hbc | ⟨hbc, hname'⟩
  · exact .inl (hab.trans hbc)
  · exact .inl (hbc ▸ hab)
  · exact .inl (hab ▸ hbc)
  · exact .inr ⟨hab.trans hbc, hname.trans hname'⟩

theorem Ranked.atMost_antisymm {a b : Ranked} (hab : a.atMost b = true) (hba : b.atMost a = true) :
    a = b := by
  rw [atMost_iff] at *
  obtain ⟨distance, name⟩ := a
  obtain ⟨distance', name'⟩ := b
  dsimp only at hab hba
  rcases hab with hab | ⟨rfl, hname⟩
  · omega
  · rcases hba with hba | ⟨-, hname'⟩
    · omega
    · rw [le_antisymm hname hname']

theorem dropRepeated_subset (ranks : List Ranked) : dropRepeated ranks ⊆ ranks := by
  fun_induction dropRepeated ranks with
  | case1 => exact List.Subset.refl _
  | case2 r => exact List.Subset.refl _
  | case3 a b rest _ ih =>
      exact List.Subset.trans ih (List.cons_subset_cons a (List.subset_cons_self b rest))
  | case4 a b rest _ ih => exact List.cons_subset_cons a ih

/-- What is left of sorted ranks is strictly sorted. -/
theorem pairwise_dropRepeated {ranks : List Ranked}
    (h : ranks.Pairwise fun a b => a.atMost b = true) :
    (dropRepeated ranks).Pairwise fun a b => a.atMost b = true ∧ a ≠ b := by
  fun_induction dropRepeated ranks with
  | case1 => exact .nil
  | case2 r => exact List.pairwise_singleton _ r
  | case3 a b rest _ ih =>
      exact ih (h.sublist ((List.sublist_cons_self b rest).cons_cons a))
  | case4 a b rest hname ih =>
      obtain ⟨hfirst, hrest⟩ := List.pairwise_cons.mp h
      refine List.pairwise_cons.mpr ⟨fun c hc => ?_, ih hrest⟩
      have hc := dropRepeated_subset _ hc
      refine ⟨hfirst c hc, ?_⟩
      rintro rfl
      -- a rank that comes again has no other in between
      rcases List.mem_cons.mp hc with rfl | hlater
      · exact hname rfl
      · have hback := (List.pairwise_cons.mp hrest).1 a hlater
        have hsame := Ranked.atMost_antisymm (hfirst b List.mem_cons_self) hback
        exact hname (congrArg Ranked.name hsame)

/-- No rank is lost: the name determines it, so ranks with one name are the
same. -/
theorem mem_dropRepeated {target : String} {ranks : List Ranked}
    (h : ∀ rank ∈ ranks, rank = rankOf target rank.name) {rank : Ranked} (hrank : rank ∈ ranks) :
    rank ∈ dropRepeated ranks := by
  fun_induction dropRepeated ranks with
  | case1 => exact hrank
  | case2 r => exact hrank
  | case3 a b rest hname ih =>
      have hsame : b = a := by
        rw [h a List.mem_cons_self, h b (List.mem_cons_of_mem a List.mem_cons_self), hname]
      rw [hsame] at h hrank
      refine ih (fun other hother => h other (List.mem_cons_of_mem a hother)) ?_
      rcases List.mem_cons.mp hrank with rfl | hlater
      · exact List.mem_cons_self
      · exact hlater
  | case4 a b rest _ ih =>
      rcases List.mem_cons.mp hrank with rfl | hlater
      · exact List.mem_cons_self
      · exact List.mem_cons_of_mem a
          (ih (fun other hother => h other (List.mem_cons_of_mem a hother)) hlater)

theorem rank?_eq_some_iff {target name : String} {rank : Ranked} :
    rank? (lower target.toList) name = some rank ↔
      (distance target name ≤ 2 ∨
        name ≠ "" ∧ (lowercase target.toList <:+: lowercase name.toList ∨
          lowercase name.toList <:+: lowercase target.toList)) ∧
        rankOf target name = rank := by
  have hempty : (!(lowercase name.toList).isEmpty) = true ↔ name ≠ "" := by
    rw [Bool.not_eq_true', List.isEmpty_eq_false_iff, ← lower_eq_lowercase]
    exact lower_toList_ne_nil
  rw [rank?, editDistance_eq_levenshtein, lower_eq_lowercase, lower_eq_lowercase, ← distance]
  simp only [Bool.or_eq_true, decide_eq_true_eq, Bool.and_eq_true, occursIn_iff, hempty,
    Option.ite_none_right_eq_some, Option.some.injEq]
  rw [and_comm (b := name ≠ "")]
  rfl

/-- The ranks of the candidates that qualify. -/
def ranksOf (target : String) (candidates : List String) : List Ranked :=
  (candidates.filter (· != target)).filterMap (rank? (lower target.toList))

/-- The candidates that qualify, the best first and each only once. -/
def ranking (target : String) (candidates : List String) : List String :=
  (dropRepeated ((ranksOf target candidates).mergeSort Ranked.atMost)).map Ranked.name

theorem names_eq {target : String} (h : target ≠ "") (candidates : List String) :
    names target candidates = (ranking target candidates).take 5 := by
  have hlower : (lower target.toList).isEmpty = false := by
    rw [List.isEmpty_eq_false_iff]
    exact lower_toList_ne_nil.mpr h
  rw [names, ranking, hlower, ← List.map_take]
  rfl

section

variable {target : String} {candidates : List String}

theorem mem_ranksOf {rank : Ranked} :
    rank ∈ ranksOf target candidates ↔
      ∃ name ∈ candidates, Qualifies target name ∧ rankOf target name = rank := by
  simp only [ranksOf, List.mem_filterMap, List.mem_filter, bne_iff_ne, rank?_eq_some_iff,
    Qualifies, and_assoc]

theorem eq_rankOf {rank : Ranked} (h : rank ∈ ranksOf target candidates) :
    rank = rankOf target rank.name := by
  obtain ⟨name, -, -, rfl⟩ := mem_ranksOf.mp h
  rfl

theorem before_of_atMost {left right : String}
    (h : (rankOf target left).atMost (rankOf target right) = true)
    (hne : rankOf target left ≠ rankOf target right) : Before target left right := by
  rcases Ranked.atMost_iff.mp h with hlt | ⟨heq, hle⟩
  · exact .inl hlt
  · refine .inr ⟨heq, lt_iff_bytes_lt.mp (lt_of_le_of_ne hle ?_)⟩
    rintro rfl
    exact hne rfl

theorem ranking_sorted (target : String) (candidates : List String) :
    (ranking target candidates).Pairwise (Before target) := by
  have hsorted := List.pairwise_mergeSort Ranked.atMost_trans Ranked.atMost_total
    (ranksOf target candidates)
  have hstrict := pairwise_dropRepeated hsorted
  rw [ranking, List.pairwise_map]
  refine hstrict.imp_of_mem fun {a b} ha hb h => ?_
  have hrank {rank : Ranked}
      (h : rank ∈ dropRepeated ((ranksOf target candidates).mergeSort Ranked.atMost)) :
      rank = rankOf target rank.name :=
    eq_rankOf (List.mem_mergeSort.mp (dropRepeated_subset _ h))
  rw [hrank ha, hrank hb] at h
  exact before_of_atMost h.1 h.2

theorem mem_ranking {name : String} :
    name ∈ ranking target candidates ↔ name ∈ candidates ∧ Qualifies target name := by
  rw [ranking, List.mem_map]
  constructor
  · rintro ⟨rank, hrank, rfl⟩
    have hmem := List.mem_mergeSort.mp (dropRepeated_subset _ hrank)
    obtain ⟨name, hname, hqualifies, rfl⟩ := mem_ranksOf.mp hmem
    exact ⟨hname, hqualifies⟩
  · rintro ⟨hname, hqualifies⟩
    have hmem : rankOf target name ∈ ranksOf target candidates :=
      mem_ranksOf.mpr ⟨name, hname, hqualifies, rfl⟩
    refine ⟨rankOf target name, ?_, rfl⟩
    exact mem_dropRepeated (fun rank hrank => eq_rankOf (List.mem_mergeSort.mp hrank))
      (List.mem_mergeSort.mpr hmem)

/-- The first five of all are the best five. -/
theorem best_take (target : String) (candidates : List String) :
    Best target candidates ((ranking target candidates).take 5) := by
  have hsorted := ranking_sorted target candidates
  refine ⟨hsorted.sublist (List.take_sublist _ _), List.length_take_le 5 _, ?_, ?_⟩
  · intro name hname
    exact mem_ranking.mp (List.mem_of_mem_take hname)
  · intro name hname hqualifies hout
    have hmem := mem_ranking.mpr ⟨hname, hqualifies⟩
    rw [← List.take_append_drop 5 (ranking target candidates)] at hmem hsorted
    have hlater := (List.mem_append.mp hmem).resolve_left hout
    have hlength := List.length_pos_of_mem hlater
    rw [List.length_drop] at hlength
    have hbefore := (List.pairwise_append.mp hsorted).2.2
    refine ⟨?_, fun better hbetter => hbefore better hbetter name hlater⟩
    rw [List.length_take]
    omega

/-- Two names that differ in the case of ASCII letters only are one name in
lower case. -/
theorem qualifies_of_toLower_eq {name : String} (hne : name ≠ target)
    (h : name.toLower = target.toLower) : Qualifies target name ∧ distance target name = 0 := by
  have htoList (s : String) : s.toLower.toList = s.toList.map Char.toLower := String.toList_map
  have hlower : lowercase name.toList = lowercase target.toList := by
    rw [← lowercase_map_toLower name.toList, ← htoList, h, htoList, lowercase_map_toLower]
  have hdistance : distance target name = 0 := by rw [distance, hlower, levenshtein_self]
  exact ⟨⟨hne, .inl (by omega)⟩, hdistance⟩

end

/-- **The names that are suggested.** They are the best five of the
candidates that qualify, and all of them if there are no more. No name comes
twice, the one that is wanted does not come, and it makes no difference in
which order the candidates are given and how often. A name that differs from
the one that is wanted in the case of ASCII letters only is as near as a name
can be. -/
theorem names_best (target : String) (candidates : List String) (h : target ≠ "") :
    Best target candidates (names target candidates) ∧
      (names target candidates).Nodup ∧
      target ∉ names target candidates ∧
      ((names target candidates).length < 5 →
        ∀ name ∈ candidates, Qualifies target name → name ∈ names target candidates) ∧
      (∀ others, Best target candidates others → others = names target candidates) ∧
      (∀ others, (∀ name, name ∈ candidates ↔ name ∈ others) →
        names target others = names target candidates) ∧
      ∀ name, name ≠ target → name.toLower = target.toLower →
        Qualifies target name ∧ distance target name = 0 := by
  have hbest (candidates : List String) : Best target candidates (names target candidates) := by
    rw [names_eq h]
    exact best_take target candidates
  refine ⟨hbest candidates, (hbest candidates).nodup, ?_, ?_, ?_, ?_, ?_⟩
  · intro htarget
    exact ((hbest candidates).qualified target htarget).2.1 rfl
  · intro hfew name hname hqualifies
    by_contra hout
    exact Nat.ne_of_lt hfew ((hbest candidates).omitted name hname hqualifies hout).1
  · exact fun others hothers => hothers.unique (hbest candidates)
  · exact fun others hmem => (hbest others).unique ((hbest candidates).of_mem_iff hmem)
  · exact fun name hne hsame => qualifies_of_toLower_eq hne hsame

/-- Six names are near enough, one of them only because lower case is
compared; the farthest is left out, and one that is given twice comes
once. -/
theorem names_best_rate :
    let candidates :=
      ["tare", "rates", "Rate", "RATE", "date", "rates", "speed", "crate", "RATES"]
    ("Rate" ≠ "" ∧ names "Rate" candidates = ["RATE", "RATES", "crate", "date", "rates"]) ∧
      Best "Rate" candidates (names "Rate" candidates) ∧
      (names "Rate" candidates).Nodup ∧
      "Rate" ∉ names "Rate" candidates ∧
      ((names "Rate" candidates).length < 5 →
        ∀ name ∈ candidates, Qualifies "Rate" name → name ∈ names "Rate" candidates) ∧
      (∀ others, Best "Rate" candidates others → others = names "Rate" candidates) ∧
      (∀ others, (∀ name, name ∈ candidates ↔ name ∈ others) →
        names "Rate" others = names "Rate" candidates) ∧
      ∀ name, name ≠ "Rate" → name.toLower = "Rate".toLower →
        Qualifies "Rate" name ∧ distance "Rate" name = 0 := by
  intro candidates
  have htarget : "Rate" ≠ "" := by decide
  have hsorted : (ranksOf "Rate" candidates).mergeSort Ranked.atMost =
      [⟨0, "RATE"⟩, ⟨1, "RATES"⟩, ⟨1, "crate"⟩, ⟨1, "date"⟩, ⟨1, "rates"⟩, ⟨1, "rates"⟩,
        ⟨2, "tare"⟩] := by
    refine ((List.mergeSort_perm _ _).trans ?_).eq_of_pairwise
      (fun _ _ _ _ => Ranked.atMost_antisymm)
      (List.pairwise_mergeSort Ranked.atMost_trans Ranked.atMost_total _) ?_
    · decide +kernel
    · decide +kernel
  have hnames : names "Rate" candidates = ["RATE", "RATES", "crate", "date", "rates"] := by
    rw [names_eq htarget, ranking, hsorted]
    simp [dropRepeated]
  exact ⟨⟨htarget, hnames⟩, names_best "Rate" candidates htarget⟩

end Suggestion

end Scenario
