import Scenario.Condition
import Scenario.Proofs.Reference

/-!
# Comparing two variables

The references of a condition are replaced before its operator is looked
for, so what a variable holds is searched for operators too. The condition
`${x} op ${y}` is the values with `op` between them, and it is split there
exactly if `op` governs the values (`Operator.split?_written_iff`): no
operator that is looked for before `op` occurs in either of them, and `op`
itself not in the left one. Words count as operators only between blanks,
and the blank next to `op` is one of those.

If `op` governs the values, the condition is the comparison of the two
(`Condition.evaluate_comparing`); otherwise a value can move the split, and
the condition may say something else (`Condition.value_moves_operator`).
-/

namespace Scenario

open Scenario.Text

namespace Operator

/-! ## Operators and their marks -/

/-- The operators that are looked for before one. -/
def earlier (op : Operator) : List Operator :=
  scanOrder.takeWhile (· != op)

/-- The blank beside a symbol that is not part of its mark. -/
def margin (op : Operator) : List Char :=
  if op.isWord then [] else [' ']

/-- Two texts with an operator between them. -/
def written (op : Operator) (left right : List Char) : List Char :=
  left ++ ' ' :: (op.symbol.toList ++ ' ' :: right)

theorem scanOrder_eq (op : Operator) : ∃ later, scanOrder = op.earlier ++ op :: later := by
  refine ⟨(scanOrder.dropWhile (· != op)).tail, ?_⟩
  cases op <;> rfl

theorem earlier_eq {op : Operator} {before after : List Operator}
    (h : scanOrder = before ++ op :: after) : op.earlier = before := by
  have hnodup : scanOrder.Nodup := by decide
  have hother : ∀ other ∈ before, (other != op) = true := by
    rw [h, List.nodup_append] at hnodup
    intro other hbefore
    exact bne_iff_ne.mpr (hnodup.2.2 other hbefore op List.mem_cons_self)
  have hself : ¬(op != op) = true := by simp
  rw [earlier, h, List.takeWhile_append_of_pos hother,
    List.takeWhile_cons_of_neg (p := (· != op)) hself, List.append_nil]

theorem mark_ne_nil (op : Operator) : op.mark ≠ [] := by
  cases op <;> decide

/-- A mark has blanks at its ends at most. -/
theorem blank_not_mem_mark (op : Operator) : ' ' ∉ op.mark.tail.dropLast := by
  cases op <;> decide

theorem margin_mark (op : Operator) :
    op.margin ++ op.mark ++ op.margin = ' ' :: (op.symbol.toList ++ [' ']) := by
  cases op <;> rfl

/-- The symbol of an operator is not read as an earlier one. -/
theorem not_infix_symbol (op : Operator) :
    ∀ other ∈ op.earlier, ¬other.mark <:+: ' ' :: (op.symbol.toList ++ [' ']) := by
  have hsearch : ∀ other ∈ op.earlier,
      occursIn other.mark (' ' :: (op.symbol.toList ++ [' '])) = false := by
    cases op <;> decide
  exact fun other hother => occursIn_eq_false_iff.mp (hsearch other hother)

/-- An operator does not occur before its end. -/
theorem not_infix_margin (op : Operator) : ¬op.mark <:+: op.margin ++ op.mark.dropLast := by
  rw [← occursIn_eq_false_iff]
  cases op <;> rfl

/-- A text is split at the first occurrence of an operator, if no earlier
operator occurs anywhere. -/
theorem split?_eq_some_iff {op : Operator} {text left right : List Char} :
    split? text = some (op, left, right) ↔
      (∀ other ∈ op.earlier, ¬other.mark <:+: text) ∧
        splitFirst? op.mark text = some (left, right) := by
  rw [split?, List.findSome?_eq_some_iff]
  constructor
  · rintro ⟨before, found, after, horder, hfound, hbefore⟩
    obtain ⟨⟨l, r⟩, hsplit, heq⟩ := Option.map_eq_some_iff.mp hfound
    cases heq
    rw [earlier_eq horder]
    refine ⟨fun other hother => ?_, hsplit⟩
    rw [← splitFirst?_eq_none_iff]
    exact Option.map_eq_none_iff.mp (hbefore other hother)
  · rintro ⟨hearlier, hsplit⟩
    obtain ⟨later, horder⟩ := op.scanOrder_eq
    refine ⟨op.earlier, op, later, horder, by rw [hsplit]; rfl, fun other hother => ?_⟩
    rw [splitFirst?_eq_none_iff.mpr (hearlier other hother)]
    rfl

/-! ## Which operator governs -/

/-- Neither text has an operator that is found before `op` is found between
them. -/
structure Governs (op : Operator) (left right : List Char) : Prop where
  left_free : ∀ other ∈ op.earlier ++ [op], ¬other.mark <:+: left ++ [' ']
  right_free : ∀ other ∈ op.earlier, ¬other.mark <:+: ' ' :: right

theorem written_eq (op : Operator) (left right : List Char) :
    op.written left right = (left ++ op.margin) ++ op.mark ++ (op.margin ++ right) := by
  calc op.written left right
      = left ++ (' ' :: (op.symbol.toList ++ [' '])) ++ right := by simp [written]
    _ = left ++ (op.margin ++ op.mark ++ op.margin) ++ right := by rw [margin_mark]
    _ = _ := by simp only [List.append_assoc]

/-- An operator in a comparison is in one of the texts, or it is found in
the symbol between them. -/
theorem infix_of_infix_written {op other : Operator} {left right : List Char}
    (h : other.mark <:+: op.written left right) :
    other.mark <:+: left ++ [' '] ∨ other.mark <:+: ' ' :: (op.symbol.toList ++ [' ']) ∨
      other.mark <:+: ' ' :: right := by
  rcases infix_of_infix_append_cons other.blank_not_mem_mark h with hleft | hrest
  · exact .inl hleft
  · rw [← List.cons_append] at hrest
    exact .inr (infix_of_infix_append_cons other.blank_not_mem_mark hrest)

/-- The first occurrence of the operator is the written one exactly if the
left text has none. -/
theorem not_infix_before_iff {op : Operator} {left : List Char} :
    ¬op.mark <:+: (left ++ op.margin) ++ op.mark.dropLast ↔ ¬op.mark <:+: left ++ [' '] := by
  obtain ⟨rest, hrest⟩ : ∃ rest, op.margin ++ op.mark.dropLast = ' ' :: rest :=
    ⟨(op.margin ++ op.mark.dropLast).tail, by cases op <;> rfl⟩
  rw [List.append_assoc, hrest, not_iff_not]
  constructor
  · intro h
    rcases infix_of_infix_append_cons op.blank_not_mem_mark h with hleft | hmark
    · exact hleft
    · exact absurd (hrest ▸ hmark) op.not_infix_margin
  · intro h
    rw [List.append_cons]
    exact h.trans (List.prefix_append _ rest).isInfix

/-- A comparison is split at the operator between its texts exactly if that
operator governs them. -/
theorem split?_written_iff {op : Operator} {left right : List Char} :
    split? (op.written left right) = some (op, left ++ op.margin, op.margin ++ right) ↔
      op.Governs left right := by
  rw [split?_eq_some_iff, splitFirst?_eq_some_iff op.mark_ne_nil, not_infix_before_iff]
  have hleft : left ++ [' '] <:+: op.written left right :=
    ⟨[], op.symbol.toList ++ ' ' :: right, by simp [written]⟩
  have hright : ' ' :: right <:+: op.written left right :=
    ⟨left ++ ' ' :: op.symbol.toList, [], by simp [written]⟩
  constructor
  · rintro ⟨hearlier, -, hself⟩
    refine ⟨fun other hother => ?_, fun other hother h => hearlier other hother (h.trans hright)⟩
    rcases List.mem_append.mp hother with hother | hother
    · exact fun h => hearlier other hother (h.trans hleft)
    · rwa [List.mem_singleton.mp hother]
  · intro h
    refine ⟨fun other hother hinfix => ?_, op.written_eq left right,
      h.left_free op (List.mem_append_right _ (List.mem_singleton_self op))⟩
    rcases infix_of_infix_written hinfix with hinfix | hinfix | hinfix
    · exact h.left_free other (List.mem_append_left _ hother) hinfix
    · exact op.not_infix_symbol other hother hinfix
    · exact h.right_free other hother hinfix

end Operator

namespace Condition

/-! ## Operands -/

/-- A value that is an operand as it stands. -/
structure IsOperand (value : String) : Prop where
  ne_empty : value ≠ ""
  trimmed_eq : trimmed value = value
  no_quote : ∀ c ∈ value.toList, c ≠ '"' ∧ c ≠ '\''

instance (value : String) : Decidable (IsOperand value) :=
  decidable_of_iff
    (value ≠ "" ∧ trimmed value = value ∧
      (value.toList.all fun c => c != '"' && c != '\'') = true)
    ⟨fun h => ⟨h.1, h.2.1, by simpa using h.2.2⟩,
      fun h => ⟨h.ne_empty, h.trimmed_eq, by simpa using h.no_quote⟩⟩

theorem IsOperand.trim_eq {value : String} (h : IsOperand value) :
    trim value.toList = value.toList :=
  trim_toList_of_trimmed h.trimmed_eq

theorem IsOperand.toList_ne_nil {value : String} (h : IsOperand value) : value.toList ≠ [] := by
  intro hnil
  exact h.ne_empty (String.toList_inj.mp hnil)

theorem unquote_of_no_quote {operand : List Char} (h : ∀ c ∈ operand, c ≠ '"' ∧ c ≠ '\'') :
    unquote operand = operand := by
  rcases operand with _ | ⟨first, _ | ⟨second, rest⟩⟩
  · rfl
  · rfl
  · obtain ⟨hdouble, hsingle⟩ := h first List.mem_cons_self
    simp [unquote, hdouble, hsingle]

/-- What has a blank inside is no truth value. -/
theorem literal?_eq_none_of_blank {condition : String} (h : ' ' ∈ condition.toList) :
    literal? condition = none := by
  have hblank : ' ' ∈ (loweredAscii condition).toList := by
    rw [loweredAscii, String.toList_ofList]
    exact List.mem_map.mpr ⟨' ', h, rfl⟩
  have hne : ∀ word : String, ' ' ∉ word.toList → loweredAscii condition ≠ word := by
    rintro word hword rfl
    exact hword hblank
  unfold literal?
  dsimp only
  rw [if_neg, if_neg]
  · exact not_or.mpr ⟨hne _ (by decide), hne _ (by decide)⟩
  · exact not_or.mpr ⟨hne _ (by decide), hne _ (by decide)⟩

theorem trim_left {op : Operator} {text : List Char} (htrim : trim text = text)
    (hne : text ≠ []) : trim (text ++ op.margin) = text := by
  have hblank : isBlank ' ' = true := by decide
  unfold Operator.margin
  split
  · rw [List.append_nil, htrim]
  · exact trim_concat_of_blank hblank htrim hne

theorem trim_right {op : Operator} {text : List Char} (htrim : trim text = text) :
    trim (op.margin ++ text) = text := by
  have hblank : isBlank ' ' = true := by decide
  unfold Operator.margin
  split
  · rw [List.nil_append, htrim]
  · rw [List.singleton_append, trim_cons_of_blank hblank, htrim]

/-- A comparison of two trimmed texts is decided by the operator that governs
them, on the operands that are left without their quotes. -/
theorem evaluateText_of_governs {op : Operator} {left right : List Char}
    (hleft : trim left = left) (hleftNe : left ≠ []) (hright : trim right = right)
    (hrightNe : right ≠ []) (h : op.Governs left right) :
    evaluateText (String.ofList (op.written left right)) =
      if (unquote left).isEmpty && (unquote right).isEmpty then
        .error (.missingOperand op (String.ofList (op.written left right)))
      else .ok (op.apply (String.ofList (unquote left)) (String.ofList (unquote right))) := by
  have htrim : trimmed (String.ofList (op.written left right)) =
      String.ofList (op.written left right) := by
    rw [trimmed, String.toList_ofList]
    refine congrArg String.ofList ?_
    have hends := trim_append_append hleft hleftNe hright hrightNe
      (' ' :: (op.symbol.toList ++ [' ']))
    simpa [Operator.written] using hends
  have hblank : ' ' ∈ (String.ofList (op.written left right)).toList := by
    simp [Operator.written]
  have hempty : (String.ofList (op.written left right)).isEmpty = false := by
    rw [← Bool.not_eq_true, String.isEmpty_iff]
    intro hnil
    rw [hnil] at hblank
    cases hblank
  unfold evaluateText
  dsimp only
  rw [htrim, hempty, if_neg Bool.false_ne_true, literal?_eq_none_of_blank hblank]
  dsimp only
  rw [String.toList_ofList, Operator.split?_written_iff.mpr h]
  dsimp only
  rw [trim_left hleft hleftNe, trim_right hright]

/-- A comparison of two operands is what its operator says of them, if the
operator governs them. -/
theorem evaluateText_written {op : Operator} {left right : String} (hleft : IsOperand left)
    (hright : IsOperand right) (h : op.Governs left.toList right.toList) :
    evaluateText (String.ofList (op.written left.toList right.toList)) =
      .ok (op.apply left right) := by
  have hleftEmpty : left.toList.isEmpty = false := by
    simpa using hleft.toList_ne_nil
  rw [evaluateText_of_governs hleft.trim_eq hleft.toList_ne_nil hright.trim_eq
      hright.toList_ne_nil h,
    unquote_of_no_quote hleft.no_quote, unquote_of_no_quote hright.no_quote, hleftEmpty,
    Bool.false_and, if_neg Bool.false_ne_true, String.ofList_toList, String.ofList_toList]

/-! ## Two variables -/

/-- The condition that compares two variables. -/
def comparing (x : String) (op : Operator) (y : String) : String :=
  "$\x7b" ++ x ++ "\x7d " ++ op.symbol ++ " $\x7b" ++ y ++ "\x7d"

theorem substitute_comparing {store : Store} {op : Operator} {x y left right : String}
    (hx : IsSpellable x) (hy : IsSpellable y) (hleft : store.get? x = some (.string left))
    (hright : store.get? y = some (.string right)) (env : Environment) :
    store.substitute env (comparing x op y) =
      String.ofList (op.written left.toList right.toList) := by
  have htext : (comparing x op y).toList =
      '$' :: '\x7b' :: (x.toList ++ '\x7d' :: ((' ' :: (op.symbol.toList ++ [' '])) ++
        '$' :: '\x7b' :: (y.toList ++ '\x7d' :: []))) := by
    simp [comparing]
  have hsymbol : '$' ∉ ' ' :: (op.symbol.toList ++ [' ']) := by
    cases op <;> decide
  rw [Store.substitute, htext, Piece.ofText_reference hx.no_brace,
    Piece.ofText_append_of_plain hsymbol, Piece.ofText_reference hy.no_brace, Piece.ofText,
    List.flatMap_cons, List.flatMap_append, Store.flatMap_pieceText_literal, List.flatMap_cons,
    List.flatMap_nil, Store.pieceText_of_get? hx hleft, Store.pieceText_of_get? hy hright]
  simp [Operator.written, Json.display]

/-- **Comparing two variables.** If the operator governs what two variables
hold, the condition that compares them is what the operator says of their
values. The text that replaces their references is split at the operator
between them under no other circumstances. -/
theorem evaluate_comparing {store : Store} {x y left right : String} (env : Environment)
    (op : Operator) (hx : IsSpellable x) (hy : IsSpellable y)
    (hxHolds : store.get? x = some (.string left)) (hyHolds : store.get? y = some (.string right))
    (hleft : IsOperand left) (hright : IsOperand right) :
    (op.Governs left.toList right.toList →
        evaluate env store (comparing x op y) = .ok (op.apply left right)) ∧
      (Operator.split? (store.substitute env (comparing x op y)).toList =
          some (op, left.toList ++ op.margin, op.margin ++ right.toList) ↔
        op.Governs left.toList right.toList) := by
  have htext : store.substitute env (comparing x op y) =
      String.ofList (op.written left.toList right.toList) :=
    substitute_comparing hx hy hxHolds hyHolds env
  refine ⟨fun h => ?_, ?_⟩
  · rw [evaluate, htext]
    exact evaluateText_written hleft hright h
  · rw [htext, String.toList_ofList]
    exact Operator.split?_written_iff

/-- Two titles with a word that is an operator, but a later one than `==`. -/
def titles : Store :=
  .ofList [("book.title", .string "it contains all"), ("wanted", .string "it contains all")]

/-- The titles are compared with each other. -/
theorem evaluate_comparing_titles :
    (IsSpellable "book.title" ∧ IsSpellable "wanted" ∧
      titles.get? "book.title" = some (.string "it contains all") ∧
      titles.get? "wanted" = some (.string "it contains all") ∧ IsOperand "it contains all") ∧
    (Operator.equal.Governs "it contains all".toList "it contains all".toList →
      evaluate (fun _ => none) titles (comparing "book.title" .equal "wanted") =
        .ok (Operator.equal.apply "it contains all" "it contains all")) ∧
    (Operator.split? (titles.substitute (fun _ => none)
          (comparing "book.title" .equal "wanted")).toList =
        some (.equal, "it contains all".toList ++ [' '], ' ' :: "it contains all".toList) ↔
      Operator.equal.Governs "it contains all".toList "it contains all".toList) ∧
    Operator.equal.Governs "it contains all".toList "it contains all".toList := by
  have hbook : IsSpellable "book.title" := by decide +kernel
  have hwanted : IsSpellable "wanted" := by decide +kernel
  have hoperand : IsOperand "it contains all" := by decide +kernel
  have hgoverns : Operator.equal.Governs "it contains all".toList "it contains all".toList :=
    ⟨by decide +kernel, by decide +kernel⟩
  have hholds : titles.get? "book.title" = some (.string "it contains all") := by rfl
  have hholds' : titles.get? "wanted" = some (.string "it contains all") := by rfl
  obtain ⟨hvalue, hsplit⟩ := evaluate_comparing (fun _ => none) .equal hbook hwanted hholds
    hholds' hoperand hoperand
  exact ⟨⟨hbook, hwanted, hholds, hholds', hoperand⟩, hvalue, hsplit, hgoverns⟩

/-- Two equal values are found unequal, because `>` is looked for before
`==` and occurs in them; and a variable named like one of the environment
cannot be referred to at all. -/
theorem value_moves_operator :
    let tags : Store := .ofList [("x", .string "<b>"), ("y", .string "<b>")]
    let hosts : Store := .ofList [("ENV:TF_HOST", .string "a"), ("y", .string "a")]
    (IsSpellable "x" ∧ IsSpellable "y" ∧ IsOperand "<b>" ∧
        tags.get? "x" = some (.string "<b>") ∧ tags.get? "y" = some (.string "<b>") ∧
        evaluate (fun _ => none) tags (comparing "x" .equal "y") = .ok false ∧
        Operator.equal.apply "<b>" "<b>" = true) ∧
      (IsOperand "a" ∧
        hosts.get? "ENV:TF_HOST" = some (.string "a") ∧ hosts.get? "y" = some (.string "a") ∧
        evaluate (fun _ => none) hosts (comparing "ENV:TF_HOST" .equal "y") = .ok false ∧
        Operator.equal.apply "a" "a" = true) := by
  have hx : IsSpellable "x" := by decide +kernel
  have hy : IsSpellable "y" := by decide +kernel
  have htag : IsOperand "<b>" := by decide +kernel
  have hhost : IsOperand "a" := by decide +kernel
  exact ⟨⟨hx, hy, htag, rfl, rfl, by decide +kernel, by decide +kernel⟩,
    hhost, rfl, rfl, by decide +kernel, by decide +kernel⟩

end Condition

end Scenario
