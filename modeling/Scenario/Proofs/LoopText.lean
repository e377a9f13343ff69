import Scenario.Proofs.Pause

/-!
# What a loop runs over, as a text

A written integer is read back (`Text.integer?_toString`), and has only digits
and a sign, so that a range is split at its two points and not before. A written
list is cut at its commas, and an item that has no comma, and nothing to be
trimmed at its ends, comes out as it went in (`LoopSpec.listItems_intercalate`).

A reference that stands for a string is read by the same reader as a text
without references, trimmed or not; so it does not matter which of the two a
specification is, nor whether it is well formed. Main statement:
`LoopSpec.parse_written`.
-/

namespace Scenario

open Scenario.Text

namespace Text

/-! ## Written integers -/

theorem isDigit_eq_true_iff {c : Char} : isDigit c = true ↔ '0' ≤ c ∧ c ≤ '9' := by
  rw [isDigit, Bool.and_eq_true, decide_eq_true_eq, decide_eq_true_eq]

theorem digits?_eq_ofDigitChars {cs : List Char} (h : ∀ c ∈ cs, isDigit c = true) (value : Nat) :
    digits? value cs = some (Nat.ofDigitChars 10 cs value) := by
  induction cs generalizing value with
  | nil => rfl
  | cons c cs ih =>
      rw [List.forall_mem_cons] at h
      obtain ⟨hc, hcs⟩ := h
      have hdigit : digit? c = some (c.toNat - '0'.toNat) := by
        rw [digit?, if_pos (isDigit_eq_true_iff.mp hc)]
      rw [digits?, hdigit, Nat.ofDigitChars_cons]
      exact ih hcs _

theorem isDigit_of_mem_toDigits {n : Nat} {c : Char} (hc : c ∈ Nat.toDigits 10 n) :
    isDigit c = true := by
  have hdigit := Nat.isDigit_of_mem_toDigits (by decide) (by decide) hc
  rw [Char.isDigit, Bool.and_eq_true, decide_eq_true_eq, decide_eq_true_eq] at hdigit
  exact isDigit_eq_true_iff.mpr hdigit

theorem unsigned?_toDigits (n : Nat) : unsigned? (Nat.toDigits 10 n) = some n := by
  obtain ⟨c, cs, hdigits⟩ := List.exists_cons_of_ne_nil (Nat.toDigits_ne_nil (n := n) (b := 10))
  rw [hdigits, unsigned?, ← hdigits, digits?_eq_ofDigitChars fun _ => isDigit_of_mem_toDigits,
    Nat.ofDigitChars_ten_toDigits]
  exact nofun

theorem toList_toString_int (i : Int) :
    (toString i).toList =
      if i < 0 then '-' :: Nat.toDigits 10 i.natAbs else Nat.toDigits 10 i.natAbs := by
  cases i with
  | ofNat n => simp [Int.toString_eq_repr, Int.repr, Nat.toList_repr]
  | negSucc n => simp [Int.toString_eq_repr, Int.repr, Nat.toList_repr]

/-- A character of a written integer. -/
def isIntegral (c : Char) : Bool :=
  isDigit c || c == '-'

theorem isIntegral_of_mem_toString {i : Int} : ∀ c ∈ (toString i).toList, isIntegral c = true := by
  intro c hc
  rw [isIntegral, Bool.or_eq_true, beq_iff_eq]
  rw [toList_toString_int] at hc
  split at hc
  · rcases List.mem_cons.mp hc with hsign | hdigit
    · exact .inr hsign
    · exact .inl (isDigit_of_mem_toDigits hdigit)
  · exact .inl (isDigit_of_mem_toDigits hc)

theorem isBlank_of_isIntegral {c : Char} (h : isIntegral c = true) : isBlank c = false := by
  rw [isIntegral, Bool.or_eq_true, beq_iff_eq] at h
  rcases h with hdigit | rfl
  · obtain ⟨hfirst, hlast⟩ := isDigit_eq_true_iff.mp hdigit
    have hlow : 48 ≤ c.toNat := hfirst
    have hhigh : c.toNat ≤ 57 := hlast
    simp only [isBlank, Bool.or_eq_false_iff, Bool.and_eq_false_iff, decide_eq_false_iff_not,
      beq_eq_false_iff_ne]
    omega
  · decide

theorem not_mem_of_isIntegral {cs : List Char} {c : Char} (h : ∀ c ∈ cs, isIntegral c = true)
    (hc : isIntegral c = false) : c ∉ cs := by
  intro hmem
  rw [h c hmem] at hc
  cases hc

theorem guard_eq_some {o : Option Int} {i : Int} {p : Int → Prop} [DecidablePred p]
    (ho : o = some i) (hp : p i) : (do let i ← o; if p i then some i else none) = some i := by
  subst ho
  exact if_pos hp

theorem integer?_sign {digits : List Char} {n : Nat} (h : unsigned? digits = some n)
    (hrange : (n : Int) ≤ 0x8000000000000000) : integer? ('-' :: digits) = some (-(n : Int)) := by
  have hin : -0x8000000000000000 ≤ -(n : Int) ∧ -(n : Int) < 0x8000000000000000 := by omega
  have hread : (unsigned? digits).map (fun n => -(n : Int)) = some (-(n : Int)) := by
    rw [h]
    rfl
  exact guard_eq_some hread hin

theorem integer?_digits {digits : List Char} {n : Nat} (h : unsigned? digits = some n)
    (hrange : (n : Int) < 0x8000000000000000) : integer? digits = some (n : Int) := by
  have hin : -0x8000000000000000 ≤ (n : Int) ∧ (n : Int) < 0x8000000000000000 := by omega
  have hread : (unsigned? digits).map Int.ofNat = some (n : Int) := by
    rw [h]
    rfl
  have hdigits := isDigit_of_unsigned? h
  unfold integer?
  split
  · exact absurd (hdigits '-' List.mem_cons_self) (by decide)
  · exact absurd (hdigits '+' List.mem_cons_self) (by decide)
  · exact guard_eq_some hread hin

theorem integer?_toString (i : Int64) : integer? (toString i.toInt).toList = some i.toInt := by
  have hlow := i.le_toInt
  have hhigh := i.toInt_lt
  have hdigits := unsigned?_toDigits i.toInt.natAbs
  rw [toList_toString_int]
  split
  · next hnegative =>
      have hvalue : -(i.toInt.natAbs : Int) = i.toInt := by omega
      rw [integer?_sign hdigits (by omega), hvalue]
  · next hnatural =>
      have hvalue : (i.toInt.natAbs : Int) = i.toInt := by omega
      rw [integer?_digits hdigits (by omega), hvalue]

/-! ## Texts to be trimmed and cut -/

theorem trimWhere_eq_self {p : Char → Bool} {cs : List Char}
    (hhead : ∀ c, cs.head? = some c → p c = false)
    (hlast : ∀ c, cs.getLast? = some c → p c = false) : trimWhere p cs = cs := by
  have hstart : cs.dropWhile p = cs := by
    cases cs with
    | nil => rfl
    | cons c rest => exact List.dropWhile_cons_of_neg (by simp [hhead c rfl])
  rw [trimWhere, hstart, dropEndWhile_eq, List.rdropWhile_eq_self_iff]
  intro hne
  rw [hlast _ (List.getLast?_eq_some_getLast hne)]
  exact Bool.false_ne_true

theorem trim_of_no_blank {cs : List Char} (h : ∀ c ∈ cs, isBlank c = false) : trim cs = cs :=
  trimWhere_eq_self (fun c hc => h c (List.mem_of_head? hc))
    (fun c hc => h c (List.mem_of_getLast? hc))

theorem trim_trim (cs : List Char) : trim (trim cs) = trim cs := by
  refine trim_eq_self_iff.mpr ⟨?_, List.rdropWhile_idempotent _ _⟩
  obtain ⟨rest, hrest⟩ : trim cs <+: cs.dropWhile isBlank := List.rdropWhile_prefix _ _
  cases htrim : trim cs with
  | nil => rfl
  | cons c tail =>
      have hstart : cs.dropWhile isBlank = c :: (tail ++ rest) := by
        rw [← hrest, htrim, List.cons_append]
      exact List.dropWhile_cons_of_neg (by simp [head_dropWhile_isBlank hstart])

theorem splitAt_of_not_mem {separator : Char} {part : List Char} (h : separator ∉ part) :
    splitAt separator part = [part] :=
  splitWhere_of_forall fun _ hc => beq_eq_false_iff_ne.mpr fun heq => h (heq ▸ hc)

theorem splitAt_append {separator : Char} {part : List Char} (h : separator ∉ part)
    (rest : List Char) :
    splitAt separator (part ++ separator :: rest) = part :: splitAt separator rest := by
  have hsplit := splitWhere_append_cons (p := (· == separator)) (beq_self_eq_true separator) part
    rest
  have hpart : splitWhere (· == separator) part = [part] := splitAt_of_not_mem h
  rw [splitAt, hsplit, hpart]
  rfl

/-- Texts between commas are cut apart again; all but the first keep the
blank before them. -/
theorem splitAt_intercalate {part : List Char} {parts : List (List Char)}
    (h : ∀ text ∈ part :: parts, ',' ∉ text) :
    splitAt ',' ([',', ' '].intercalate (part :: parts)) = part :: parts.map (' ' :: ·) := by
  induction parts generalizing part with
  | nil =>
      rw [List.intercalate_singleton]
      exact splitAt_of_not_mem (h part List.mem_cons_self)
  | cons next parts ih =>
      have hblank : ' ' :: [',', ' '].intercalate (next :: parts) =
          [',', ' '].intercalate ((' ' :: next) :: parts) := by
        cases parts <;> simp [List.intercalate]
      have hrest : ∀ text ∈ (' ' :: next) :: parts, ',' ∉ text := by
        rw [List.forall_mem_cons, List.forall_mem_cons] at h
        rw [List.forall_mem_cons]
        refine ⟨?_, h.2.2⟩
        simpa using h.2.1
      rw [List.intercalate_cons_cons, List.append_assoc, List.cons_append, List.cons_append,
        List.nil_append, splitAt_append (h part List.mem_cons_self), hblank, ih hrest]
      rfl

/-- Between commas a part without a comma or a blank does not arise. -/
theorem not_infix_intercalate {part : List Char} {parts : List (List Char)} (hcomma : ',' ∉ part)
    (hblank : ' ' ∉ part) (hne : part ≠ []) (h : ∀ text ∈ parts, ¬part <:+: text) :
    ¬part <:+: [',', ' '].intercalate parts := by
  have hinside : ',' ∉ part.tail.dropLast := fun hmem =>
    hcomma (List.mem_of_mem_tail (List.mem_of_mem_dropLast hmem))
  induction parts with
  | nil => simpa [List.intercalate] using hne
  | cons text parts ih =>
      rw [List.forall_mem_cons] at h
      cases parts with
      | nil =>
          rw [List.intercalate_singleton]
          exact h.1
      | cons next parts =>
          rw [List.intercalate_cons_cons, List.append_assoc, List.cons_append, List.cons_append,
            List.nil_append]
          intro hinfix
          rcases infix_of_infix_append_cons hinside hinfix with hleft | hright
          · exact h.1 (infix_of_infix_concat hcomma hleft)
          · exact ih h.2 (infix_of_infix_cons hblank (infix_of_infix_cons hcomma hright))

end Text

namespace LoopSpec

/-! ## Texts without references -/

theorem ofText_trimmed (text : String) : ofText (trimmed text) = ofText text := by
  unfold ofText
  rw [trimmed, String.toList_ofList, trim_trim]

/-- A text without references is read alike wherever it stands. -/
theorem parse_eq_ofText {text : String} (h : Validation.hasReference text = false)
    (env : Environment) (store : Store) : parse env store text = ofText text := by
  rw [parse_of_plain h, ofText_trimmed]

theorem hasReference_of_not_mem {text : String} (h : '$' ∉ text.toList) :
    Validation.hasReference text = false :=
  occursIn_eq_false_iff.mpr fun hoccurs => h (List.IsInfix.subset hoccurs List.mem_cons_self)

/-- A reference is read as the text that it stands for. -/
theorem parse_reference {env : Environment} {store : Store} {x text : String}
    (hx : Validation.hasReference x = false) (h : store.resolve env x = .ok (.string text)) :
    parse env store ("$\x7b" ++ x ++ "\x7d") = ofText text := by
  have hlist : ("$\x7b" ++ x ++ "\x7d").toList = ['$', '\x7b'] ++ x.toList ++ ['\x7d'] := by simp
  have htrim : trimmed ("$\x7b" ++ x ++ "\x7d") = "$\x7b" ++ x ++ "\x7d" := by
    have hopen : trim ['$', '\x7b'] = ['$', '\x7b'] := by decide
    have hclose : trim ['\x7d'] = ['\x7d'] := by decide
    rw [trimmed, hlist, trim_append_append hopen (List.cons_ne_nil _ _) hclose
      (List.cons_ne_nil _ _), ← hlist, String.ofList_toList]
  have hinside : reference? ("$\x7b" ++ x ++ "\x7d").toList = some x.toList := by
    rw [hlist]
    have hplain : occursIn ['$', '\x7b'] x.toList = false := hx
    simp [reference?, hplain]
  unfold parse
  dsimp only
  rw [htrim, hinside]
  dsimp only
  rw [String.ofList_toList, h]
  rfl

/-! ## Counts and ranges -/

theorem bracketed?_of_not_mem {cs : List Char} (h : '[' ∉ cs) : bracketed? cs = none := by
  unfold bracketed?
  split
  · exact absurd List.mem_cons_self h
  · rfl

theorem ofText_integer (i : Int64) :
    ofText (toString i.toInt) =
      if i.toInt < 0 then .error (.negativeCount i.toInt) else .ok (.count i.toInt.toNat) := by
  have hchars := isIntegral_of_mem_toString (i := i.toInt)
  have hread := integer?_toString i
  have hempty : ¬(toString i.toInt).toList.isEmpty = true := by
    intro hnil
    rw [List.isEmpty_iff.mp hnil] at hread
    cases hread
  have htrim : trim (toString i.toInt).toList = (toString i.toInt).toList :=
    trim_of_no_blank fun c hc => isBlank_of_isIntegral (hchars c hc)
  have hbracket : bracketed? (toString i.toInt).toList = none :=
    bracketed?_of_not_mem (not_mem_of_isIntegral hchars (by decide))
  have hpoints : splitFirst? ['.', '.'] (toString i.toInt).toList = none := by
    rw [splitFirst?_eq_none_iff]
    intro hinfix
    exact not_mem_of_isIntegral hchars (by decide) (List.IsInfix.subset hinfix List.mem_cons_self)
  unfold ofText
  rw [htrim, if_neg hempty, hbracket, hpoints, hread]

theorem ofText_points {left right : List Char} {i j : Int}
    (hleft : ∀ c ∈ left, isIntegral c = true) (hright : ∀ c ∈ right, isIntegral c = true)
    (hi : integer? left = some i) (hj : integer? right = some j) :
    ofText (String.ofList (left ++ ['.', '.'] ++ right)) = .ok (.range i j) := by
  have htrim : trim (left ++ ['.', '.'] ++ right) = left ++ ['.', '.'] ++ right := by
    refine trim_of_no_blank fun c hc => ?_
    rw [List.mem_append, List.mem_append] at hc
    rcases hc with (hc | hc) | hc
    · exact isBlank_of_isIntegral (hleft c hc)
    · rw [List.mem_pair, or_self] at hc
      rw [hc]
      decide
    · exact isBlank_of_isIntegral (hright c hc)
  have hempty : ¬(left ++ ['.', '.'] ++ right).isEmpty = true := by simp
  have hbracket : bracketed? (left ++ ['.', '.'] ++ right) = none := by
    refine bracketed?_of_not_mem fun hc => ?_
    rw [List.mem_append, List.mem_append] at hc
    rcases hc with (hc | hc) | hc
    · exact not_mem_of_isIntegral hleft (by decide) hc
    · exact absurd hc (by decide)
    · exact not_mem_of_isIntegral hright (by decide) hc
  -- the left end has no point, so no two of them begin before the written ones
  have hfirst : ¬['.', '.'] <:+: left ++ ['.', '.'].dropLast := by
    intro hinfix
    have hcount := hinfix.sublist.count_le '.'
    rw [List.count_append, List.count_eq_zero_of_not_mem
      (not_mem_of_isIntegral hleft (by decide))] at hcount
    exact absurd hcount (by decide)
  unfold ofText
  rw [String.toList_ofList, htrim, if_neg hempty, hbracket,
    splitFirst?_append (List.cons_ne_nil _ _) hfirst]
  dsimp only
  rw [trim_of_no_blank fun c hc => isBlank_of_isIntegral (hleft c hc),
    trim_of_no_blank fun c hc => isBlank_of_isIntegral (hright c hc), hi, hj]

theorem toList_range (start stop : Int) :
    (toString start ++ ".." ++ toString stop).toList =
      (toString start).toList ++ ['.', '.'] ++ (toString stop).toList := by
  simp

theorem ofText_range (start stop : Int64) :
    ofText (toString start.toInt ++ ".." ++ toString stop.toInt) =
      .ok (.range start.toInt stop.toInt) := by
  have htext : toString start.toInt ++ ".." ++ toString stop.toInt =
      String.ofList
        ((toString start.toInt).toList ++ ['.', '.'] ++ (toString stop.toInt).toList) := by
    rw [← toList_range, String.ofList_toList]
  rw [htext]
  exact ofText_points isIntegral_of_mem_toString isIntegral_of_mem_toString
    (integer?_toString start) (integer?_toString stop)

/-! ## Lists -/

/-- A text that an item of a written list can be. -/
structure IsItem (item : String) : Prop where
  ne_empty : item ≠ ""
  no_comma : ',' ∉ item.toList
  no_reference : Validation.hasReference item = false
  trimmed_eq : trimmed item = item
  no_quote : ∀ quote ∈ ['"', '\''],
    item.toList.head? ≠ some quote ∧ item.toList.getLast? ≠ some quote

/-- The list of some items as a text. -/
def written (items : List String) : String :=
  "[" ++ ", ".intercalate items ++ "]"

theorem toList_written (items : List String) :
    (written items).toList =
      ['['] ++ [',', ' '].intercalate (items.map String.toList) ++ [']'] := by
  simp [written, String.toList_intercalate]

theorem IsItem.trim_eq {item : String} (h : IsItem item) :
    trimWhere (fun c => c == '"' || c == '\'') (trim item.toList) = item.toList := by
  have hother : ∀ c, (item.toList.head? = some c ∨ item.toList.getLast? = some c) →
      (c == '"' || c == '\'') = false := by
    intro c hc
    rw [Bool.or_eq_false_iff, beq_eq_false_iff_ne, beq_eq_false_iff_ne]
    constructor
    · rintro rfl
      exact hc.elim (h.no_quote _ (by simp)).1 (h.no_quote _ (by simp)).2
    · rintro rfl
      exact hc.elim (h.no_quote _ (by simp)).1 (h.no_quote _ (by simp)).2
  rw [trim_toList_of_trimmed h.trimmed_eq]
  exact trimWhere_eq_self (fun c hc => hother c (.inl hc)) (fun c hc => hother c (.inr hc))

theorem listItems_intercalate {items : List String} (h : ∀ item ∈ items, IsItem item) :
    listItems ([',', ' '].intercalate (items.map String.toList)) = items.map .string := by
  have hblank : isBlank ' ' = true := by decide
  have hkept : (items.map String.toList).filterMap (fun item =>
      if item.isEmpty then none else some (Json.string (String.ofList item))) =
        items.map .string := by
    rw [List.filterMap_map, ← List.filterMap_eq_map]
    refine List.filterMap_congr fun item hitem => ?_
    simp [(h item hitem).ne_empty]
  cases items with
  | nil => rfl
  | cons item items =>
      have hcomma : ∀ text ∈ item.toList :: items.map String.toList, ',' ∉ text := by
        rw [← List.map_cons, List.forall_mem_map]
        exact fun item hitem => (h item hitem).no_comma
      have htexts : ∀ item' ∈ items, trimWhere (fun c => c == '"' || c == '\'')
          (trim (' ' :: item'.toList)) = item'.toList := by
        intro item' hitem'
        rw [trim_cons_of_blank hblank]
        exact (h item' (List.mem_cons_of_mem _ hitem')).trim_eq
      have hparts : (splitAt ',' ([',', ' '].intercalate ((item :: items).map String.toList))).map
          (fun item => trimWhere (fun c => c == '"' || c == '\'') (trim item)) =
            (item :: items).map String.toList := by
        rw [List.map_cons, splitAt_intercalate hcomma, List.map_cons,
          (h item List.mem_cons_self).trim_eq, List.map_map, List.map_map]
        exact congrArg _ (List.map_congr_left htexts)
      rw [listItems, hparts]
      exact hkept

theorem ofText_written {items : List String} (h : ∀ item ∈ items, IsItem item) :
    ofText (written items) = .ok (.items (items.map .string)) := by
  have hopen : trim ['['] = ['['] := by decide
  have hclose : trim [']'] = [']'] := by decide
  have htrim : trim (written items).toList = (written items).toList := by
    rw [toList_written]
    exact trim_append_append hopen (List.cons_ne_nil _ _) hclose (List.cons_ne_nil _ _) _
  have hempty : ¬(written items).toList.isEmpty = true := by
    rw [toList_written]
    simp
  have hbracket : bracketed? (written items).toList =
      some ([',', ' '].intercalate (items.map String.toList)) := by
    rw [toList_written]
    simp [bracketed?]
  unfold ofText
  rw [htrim, if_neg hempty, hbracket]
  dsimp only
  rw [listItems_intercalate h]

theorem hasReference_written {items : List String} (h : ∀ item ∈ items, IsItem item) :
    Validation.hasReference (written items) = false := by
  have hitems : ∀ text ∈ items.map String.toList, ¬['$', '\x7b'] <:+: text := by
    rw [List.forall_mem_map]
    exact fun item hitem => occursIn_eq_false_iff.mp (h item hitem).no_reference
  have hinner : ¬['$', '\x7b'] <:+: [',', ' '].intercalate (items.map String.toList) :=
    not_infix_intercalate (by decide) (by decide) (by decide) hitems
  refine occursIn_eq_false_iff.mpr fun hinfix => hinner ?_
  rw [toList_written, List.append_assoc, List.singleton_append] at hinfix
  exact infix_of_infix_concat (by decide) (infix_of_infix_cons (by decide) hinfix)

/-- **What a written specification says.** Ranges, counts and lists are read
as what was written, for all 64-bit bounds and all items; and a reference that
stands for a text without references gives what the text itself gives, be it a
loop or the reason for none. -/
theorem parse_written (env : Environment) (store : Store) :
    (∀ start stop : Int64,
      parse env store (toString start.toInt ++ ".." ++ toString stop.toInt) =
        .ok (.range start.toInt stop.toInt)) ∧
    (∀ n : Int64, parse env store (toString n.toInt) =
      if n.toInt < 0 then .error (.negativeCount n.toInt) else .ok (.count n.toInt.toNat)) ∧
    (∀ items : List String, (∀ item ∈ items, IsItem item) →
      parse env store (written items) = .ok (.items (items.map .string))) ∧
    ∀ x text : String, Validation.hasReference x = false → Validation.hasReference text = false →
      store.resolve env x = .ok (.string text) →
      parse env store ("$\x7b" ++ x ++ "\x7d") = parse env store text := by
  have hdollar : ∀ i : Int, '$' ∉ (toString i).toList := fun i =>
    not_mem_of_isIntegral isIntegral_of_mem_toString (by decide)
  refine ⟨fun start stop => ?_, fun n => ?_, fun items hitems => ?_, fun x text hx htext h => ?_⟩
  · have hplain : '$' ∉ (toString start.toInt ++ ".." ++ toString stop.toInt).toList := by
      rw [toList_range, List.mem_append, List.mem_append]
      rintro ((hc | hc) | hc)
      · exact hdollar _ hc
      · exact absurd hc (by decide)
      · exact hdollar _ hc
    rw [parse_eq_ofText (hasReference_of_not_mem hplain)]
    exact ofText_range start stop
  · rw [parse_eq_ofText (hasReference_of_not_mem (hdollar _))]
    exact ofText_integer n
  · rw [parse_eq_ofText (hasReference_written hitems)]
    exact ofText_written hitems
  · rw [parse_reference hx h, parse_eq_ofText htext]

/-- The bounds of all 64-bit integers, items that look like a range, a bracket
and an inner quote, and a malformed text in a variable. -/
theorem parse_written_edges :
    let store : Store := .ofList [("bounds", .string " 1..x ")]
    (∀ item ∈ ["1..2", "]", "it's"], IsItem item) ∧
      Validation.hasReference "bounds" = false ∧ Validation.hasReference " 1..x " = false ∧
      store.resolve (fun _ => none) "bounds" = .ok (.string " 1..x ") ∧
      parse (fun _ => none) store "-9223372036854775808..9223372036854775807" =
        .ok (.range (-9223372036854775808) 9223372036854775807) ∧
      parse (fun _ => none) store "[1..2, ], it's]" =
        .ok (.items [.string "1..2", .string "]", .string "it's"]) ∧
      parse (fun _ => none) store "$\x7bbounds\x7d" = parse (fun _ => none) store " 1..x " := by
  intro store
  have hitems : ∀ item ∈ ["1..2", "]", "it's"], IsItem item := by
    rw [List.forall_mem_cons, List.forall_mem_cons, List.forall_mem_singleton]
    refine ⟨⟨?_, ?_, ?_, ?_, by simp⟩, ⟨?_, ?_, ?_, ?_, by simp⟩, ⟨?_, ?_, ?_, ?_, by simp⟩⟩ <;>
      decide +kernel
  have hname : Validation.hasReference "bounds" = false := by decide +kernel
  have htext : Validation.hasReference " 1..x " = false := by decide +kernel
  have hresolve : store.resolve (fun _ => none) "bounds" = .ok (.string " 1..x ") :=
    Store.resolve_of_get? (by decide +kernel) rfl _
  have hbounds : toString Int64.minValue.toInt ++ ".." ++ toString Int64.maxValue.toInt =
      "-9223372036854775808..9223372036854775807" := by decide +kernel
  have hwritten : written ["1..2", "]", "it's"] = "[1..2, ], it's]" := by decide +kernel
  obtain ⟨hrange, -, hlist, hreference⟩ := parse_written (fun _ => none) store
  have hwidest := hrange Int64.minValue Int64.maxValue
  have hodd := hlist _ hitems
  rw [hbounds, Int64.toInt_minValue, Int64.toInt_maxValue] at hwidest
  rw [hwritten] at hodd
  exact ⟨hitems, hname, htext, hresolve, hwidest, hodd,
    hreference "bounds" " 1..x " hname htext hresolve⟩

end LoopSpec

end Scenario
