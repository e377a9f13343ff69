import Scenario.Action.Builtin
import Scenario.Proofs.Comparison

/-!
# Operands written into a condition

An operator is looked for in the whole text of a condition, operands
included. Operands without any symbol leave it where it is written
(`Operator.governs_of_noSymbol`): every mark is a symbol, with a blank on
either side at most, and a symbol has no blank inside, so a mark that occurs
next to the blank beside an operand occurs in the operand.

Bare operands are then compared as they stand, and `assert` passes or fails
alike on the three parts and on the condition they make
(`Condition.assert_comparison`). Between quotes an operand may be any other
text, blanks at its ends and quotes inside included; but quotes are removed
before a missing operand is looked for, so two empty operands are taken for
missing ones whatever the operator (`Condition.evaluateText_enquoted`).
-/

namespace Scenario

open Scenario.Text

/-- No operator is spelled anywhere in a text. For `>=` and `<=` that is so
because `>` and `<` are not. -/
def HasNoSymbol (text : List Char) : Prop :=
  ∀ op : Operator, ¬op.symbol.toList <:+: text

instance (text : List Char) : Decidable (HasNoSymbol text) :=
  decidable_of_iff (∀ op ∈ Operator.scanOrder, occursIn op.symbol.toList text = false)
    ⟨fun h op => occursIn_eq_false_iff.mp (h op (by cases op <;> decide)),
      fun h op _ => occursIn_eq_false_iff.mpr (h op)⟩

namespace Operator

theorem blank_not_mem_symbol (op : Operator) : ' ' ∉ op.symbol.toList := by
  cases op <;> decide

theorem quote_not_mem_symbol (op : Operator) : '"' ∉ op.symbol.toList := by
  cases op <;> decide

theorem symbol_infix_mark (op : Operator) : op.symbol.toList <:+: op.mark := by
  unfold mark
  split
  · exact ⟨[' '], [' '], rfl⟩
  · exact List.infix_rfl

theorem ofSymbol?_symbol (op : Operator) : ofSymbol? op.symbol = some op := by
  cases op <;> decide +kernel

/-- An operator between texts without symbols is the one that is found. -/
theorem governs_of_noSymbol (op : Operator) {left right : List Char} (hleft : HasNoSymbol left)
    (hright : HasNoSymbol right) : op.Governs left right := by
  constructor
  · intro other _ hinfix
    exact hleft other (infix_of_infix_concat other.blank_not_mem_symbol
      (other.symbol_infix_mark.trans hinfix))
  · intro other _ hinfix
    exact hright other (infix_of_infix_cons other.blank_not_mem_symbol
      (other.symbol_infix_mark.trans hinfix))

end Operator

namespace Condition

/-- The condition that compares two operands. -/
def comparison (left : String) (op : Operator) (right : String) : String :=
  left ++ " " ++ op.symbol ++ " " ++ right

theorem comparison_eq (left : String) (op : Operator) (right : String) :
    comparison left op right = String.ofList (op.written left.toList right.toList) := by
  rw [← String.toList_inj, String.toList_ofList]
  simp [comparison, Operator.written]

/-! ## Bare operands -/

/-- An operand that needs no quotes. -/
structure IsBare (operand : String) : Prop extends IsOperand operand where
  no_symbol : HasNoSymbol operand.toList

instance (operand : String) : Decidable (IsBare operand) :=
  decidable_of_iff (IsOperand operand ∧ HasNoSymbol operand.toList)
    ⟨fun h => ⟨h.1, h.2⟩, fun h => ⟨h.toIsOperand, h.no_symbol⟩⟩

theorem evaluateText_comparison (op : Operator) {left right : String} (hleft : IsBare left)
    (hright : IsBare right) :
    evaluateText (comparison left op right) = .ok (op.apply left right) := by
  rw [comparison_eq]
  exact evaluateText_written hleft.toIsOperand hright.toIsOperand
    (op.governs_of_noSymbol hleft.no_symbol hright.no_symbol)

theorem status_verdict (holds : Bool) (failure : Failure) (options : OrderedMap Json) :
    (Builtin.verdict holds failure options).status = if holds then .passed else .failed := by
  unfold Builtin.verdict
  cases holds
  · cases options.get? "message" <;> rfl
  · rfl

section Assert

variable {σ : Type} (table : MessageTable) (options : OrderedMap Json) (store : Store) (state : σ)

/-- Operands around a symbol pass or fail as its operator says of them. -/
theorem status_assert_operands (op : Operator) (left right : String) :
    (Builtin.assert table [.string left, .string op.symbol, .string right]
      options store state).1.status = if op.apply left right then .passed else .failed := by
  simp only [Builtin.assert, Action.pure, Builtin.assertComparison, Json.display_string,
    op.ofSymbol?_symbol, status_verdict]

/-- A condition that can be evaluated passes or fails with its value. -/
theorem status_assert_condition {condition : String} {holds : Bool}
    (h : evaluateText condition = .ok holds) :
    (Builtin.assert table [.string condition] options store state).1.status =
      if holds then .passed else .failed := by
  simp only [Builtin.assert, Action.pure, Builtin.assertCondition, Json.display_string, h,
    status_verdict]

end Assert

/-- **Comparing bare operands.** The comparison of two bare operands is what
its operator says of them, and so is the verdict of `assert`, on the operands
around the symbol as well as on the condition. -/
theorem assert_comparison {σ : Type} (op : Operator) {left right : String}
    (hleft : IsBare left) (hright : IsBare right) :
    evaluateText (comparison left op right) = .ok (op.apply left right) ∧
      ∀ (table : MessageTable) (options : OrderedMap Json) (store : Store) (state : σ),
        (Builtin.assert table [.string left, .string op.symbol, .string right]
            options store state).1.status =
          (if op.apply left right then .passed else .failed) ∧
        (Builtin.assert table [.string (comparison left op right)] options store state).1.status =
          (Builtin.assert table [.string left, .string op.symbol, .string right]
            options store state).1.status := by
  have hvalue : evaluateText (comparison left op right) = .ok (op.apply left right) :=
    evaluateText_comparison op hleft hright
  refine ⟨hvalue, fun table options store state => ?_⟩
  have hoperands := status_assert_operands table options store state op left right
  have hcondition := status_assert_condition table options store state hvalue
  exact ⟨hoperands, hcondition.trans hoperands.symm⟩

/-- Operands that end and begin like symbols, beside `>=`. -/
theorem assert_comparison_edges :
    (IsBare "x!" ∧ IsBare "=5") ∧ evaluateText "x! >= =5" = .ok true ∧
      (Builtin.assert (σ := Unit) .empty [.string "x!", .string ">=", .string "=5"]
        .empty .empty ()).1.status = .passed ∧
      (Builtin.assert (σ := Unit) .empty [.string "x! >= =5"] .empty .empty ()).1.status =
        .passed := by
  have hleft : IsBare "x!" := by decide +kernel
  have hright : IsBare "=5" := by decide +kernel
  have htext : comparison "x!" .atLeast "=5" = "x! >= =5" := by decide +kernel
  have hsymbol : Operator.atLeast.symbol = ">=" := rfl
  have happly : Operator.atLeast.apply "x!" "=5" = true := by decide +kernel
  obtain ⟨hvalue, hverdict⟩ := assert_comparison (σ := Unit) .atLeast hleft hright
  obtain ⟨hoperands, hcondition⟩ := hverdict .empty .empty .empty ()
  rw [hsymbol, happly, if_pos rfl] at hoperands
  rw [htext, hsymbol, hoperands] at hcondition
  rw [htext, happly] at hvalue
  exact ⟨⟨hleft, hright⟩, hvalue, hoperands, hcondition⟩

/-! ## Quoted operands -/

/-- An operand between double quotes. -/
def enquote (operand : String) : String :=
  "\"" ++ operand ++ "\""

theorem toList_enquote (operand : String) :
    (enquote operand).toList = '"' :: (operand.toList ++ ['"']) := by
  simp [enquote]

theorem trim_enquote (operand : String) :
    trim (enquote operand).toList = (enquote operand).toList := by
  have hquote : trim ['"'] = ['"'] := by decide
  rw [toList_enquote]
  exact trim_append_append hquote (List.cons_ne_nil _ _) hquote (List.cons_ne_nil _ _)
    operand.toList

theorem unquote_enquote (operand : String) :
    unquote (enquote operand).toList = operand.toList := by
  rw [toList_enquote]
  cases operand.toList with
  | nil => rfl
  | cons c cs =>
      have hlast : (c :: (cs ++ ['"'])).getLast? = some '"' := by
        rw [← List.cons_append, List.getLast?_concat]
      have hdrop : (c :: (cs ++ ['"'])).dropLast = c :: cs := by
        rw [← List.cons_append, List.dropLast_concat]
      simp [unquote, hlast, hdrop]

theorem hasNoSymbol_enquote {operand : String} (h : HasNoSymbol operand.toList) :
    HasNoSymbol (enquote operand).toList := by
  intro op hinfix
  rw [toList_enquote] at hinfix
  exact h op (infix_of_infix_concat op.quote_not_mem_symbol
    (infix_of_infix_cons op.quote_not_mem_symbol hinfix))

/-- **Comparing quoted operands.** The comparison of two quoted operands
without symbols is what its operator says of what stands between the quotes,
unless that is nothing on both sides: then the operands count as missing. -/
theorem evaluateText_enquoted (op : Operator) {left right : String}
    (hleft : HasNoSymbol left.toList) (hright : HasNoSymbol right.toList) :
    evaluateText (comparison (enquote left) op (enquote right)) =
      if left = "" ∧ right = "" then
        .error (.missingOperand op (comparison (enquote left) op (enquote right)))
      else .ok (op.apply left right) := by
  have hne : ∀ operand, (enquote operand).toList ≠ [] := fun operand => by
    rw [toList_enquote]; exact List.cons_ne_nil _ _
  have hempty : (left.toList.isEmpty && right.toList.isEmpty) = true ↔ left = "" ∧ right = "" := by
    simp [String.toList_eq_nil_iff]
  rw [comparison_eq, evaluateText_of_governs (trim_enquote left) (hne left) (trim_enquote right)
      (hne right) (op.governs_of_noSymbol (hasNoSymbol_enquote hleft) (hasNoSymbol_enquote hright)),
    unquote_enquote, unquote_enquote, String.ofList_toList, String.ofList_toList]
  simp only [hempty]

/-- A quoted word against an empty quoted operand, which is no missing one. -/
theorem evaluateText_enquoted_word :
    (HasNoSymbol " ok ".toList ∧ HasNoSymbol "".toList) ∧
      evaluateText (comparison (enquote " ok ") .contains (enquote "")) = .ok true := by
  have hleft : HasNoSymbol " ok ".toList := by decide +kernel
  have hright : HasNoSymbol "".toList := by decide +kernel
  have happly : Operator.contains.apply " ok " "" = true := by decide +kernel
  have hword : ¬(" ok " = "" ∧ "" = "") := by decide
  refine ⟨⟨hleft, hright⟩, ?_⟩
  rw [evaluateText_enquoted .contains hleft hright, if_neg hword, happly]

/-- Two empty quoted operands are not compared, although they are equal, and
although `assert` compares them if it takes them one by one. -/
theorem empty_operands_missing :
    (HasNoSymbol "".toList ∧ Operator.equal.apply "" "" = true) ∧
      evaluateText "\"\" == \"\"" = .error (.missingOperand .equal "\"\" == \"\"") ∧
      evaluate (fun _ => none) (.ofList [("name", .string "")]) "\"$\x7bname\x7d\" == \"\"" =
        .error (.missingOperand .equal "\"\" == \"\"") ∧
      (Builtin.assert (σ := Unit) .empty [.string "", .string "==", .string ""]
        .empty .empty ()).1.status = .passed := by
  refine ⟨⟨by decide +kernel, by decide +kernel⟩, by decide +kernel, by decide +kernel, ?_⟩
  decide +kernel

end Condition

end Scenario
