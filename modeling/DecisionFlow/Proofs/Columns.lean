import DecisionFlow.Expression.Datum
import DecisionFlow.Proofs.HitPolicies

set_option autoImplicit false

/-! # Columns of blank conditions

The conditions and the results of a row stand in one list, and the number of input columns says
where the results begin. A new input column moves them by one place, in the rows that are long
enough to have a cell in it; where that cell is blank, the column has no say in which rows match. -/

namespace DecisionFlow

/-! ## Positions in a row -/

section

variable {α : Type} {l : List α} {a : α} {position n : Nat}

/-- An element among the first ones is one more of them. -/
theorem take_succ_insertIdx (h : position ≤ n) :
    (l.insertIdx position a).take (n + 1) = (l.take n).insertIdx position a := by
  induction l generalizing position n with
  | nil => cases position <;> simp
  | cons b l ih =>
    cases position with
    | zero => simp
    | succ position =>
      obtain ⟨n, rfl⟩ := Nat.exists_eq_succ_of_ne_zero (Nat.ne_zero_of_lt h)
      simp [ih (Nat.le_of_succ_le_succ h)]

/-- What stands behind the first elements stays the same when there is one more of them. A list that
    ends before the position has nothing there, with or without it. -/
theorem drop_succ_insertIdx (h : position ≤ n) :
    (l.insertIdx position a).drop (n + 1) = l.drop n := by
  induction l generalizing position n with
  | nil => cases position <;> simp
  | cons b l ih =>
    cases position with
    | zero => simp
    | succ position =>
      obtain ⟨n, rfl⟩ := Nat.exists_eq_succ_of_ne_zero (Nat.ne_zero_of_lt h)
      simp [ih (Nat.le_of_succ_le_succ h)]

end

/-! ## Conditions of a row -/

section

variable {cell : Json} {condition : String} {context : Value}

theorem Row.holds_cons_of_holds (htext : Cell.text cell = .ok condition)
    (h : Expression.holds condition context = true) (cells : List Json) :
    Row.holds context (cell :: cells) = Row.holds context cells := by
  rw [holds_cons_of_text_eq_ok htext]
  exact if_pos h

theorem Row.holds_cons_of_not_holds (htext : Cell.text cell = .ok condition)
    (h : ¬Expression.holds condition context = true) (cells : List Json) :
    Row.holds context (cell :: cells) = .ok false := by
  rw [holds_cons_of_text_eq_ok htext]
  exact if_neg h

end

/-! ## Blank cells -/

theorem Cell.isBlank_eq_true_iff {cell : Json} :
    Cell.isBlank cell = .ok true ↔
      ∃ condition, Cell.text cell = .ok condition ∧ Text.trim condition.toList = [] := by
  rw [Cell.isBlank, map_eq_ok_iff]
  simp only [Cell.isBlankText, @eq_comm Bool true, List.isEmpty_iff]

theorem Row.holds_cons_of_isBlank {cell : Json} (h : Cell.isBlank cell = .ok true)
    (context : Value) (cells : List Json) :
    Row.holds context (cell :: cells) = Row.holds context cells := by
  obtain ⟨condition, htext, hblank⟩ := Cell.isBlank_eq_true_iff.1 h
  exact holds_cons_of_holds htext (Expression.holds_of_blank hblank context) cells

/-- A blank condition is passed over wherever it stands, be it before or after a condition that
    fails or does not hold. -/
theorem Row.holds_insertIdx {cell : Json} (h : Cell.isBlank cell = .ok true) (context : Value)
    (cells : List Json) (position : Nat) :
    Row.holds context (cells.insertIdx position cell) = Row.holds context cells := by
  induction cells generalizing position with
  | nil =>
    cases position with
    | zero => exact holds_cons_of_isBlank h context []
    | succ position => rfl
  | cons first cells ih =>
    cases position with
    | zero => exact holds_cons_of_isBlank h context (first :: cells)
    | succ position => rw [List.insertIdx_succ_cons, holds, holds, ih]

/-! ## A new column -/

namespace Table

/-- The table with a further input column at a position, and the same cell in that column in every
    row that reaches the position; a shorter row stays as it is. -/
def insertInput (t : Table) (position : Nat) (column : Column) (cell : Json) : Table :=
  { t with
    inputs := t.inputs.insertIdx position column
    rules := t.rules.map (·.insertIdx position cell) }

variable {t : Table} {position : Nat} {column : Column} {cell : Json}

theorem length_inputs_insertInput (h : position ≤ t.inputs.length) :
    (t.insertInput position column cell).inputs.length = t.inputs.length + 1 :=
  List.length_insertIdx_of_le_length h column

theorem conditions_insertInput (h : position ≤ t.inputs.length) (row : List Json) :
    (t.insertInput position column cell).conditions (row.insertIdx position cell) =
      (t.conditions row).insertIdx position cell := by
  rw [conditions, length_inputs_insertInput h, take_succ_insertIdx h, conditions]

theorem results_insertInput (h : position ≤ t.inputs.length) (row : List Json) :
    (t.insertInput position column cell).results (row.insertIdx position cell) =
      t.results row := by
  rw [results, length_inputs_insertInput h, drop_succ_insertIdx h, results]
  rfl

theorem hit?_insertInput (h : position ≤ t.inputs.length) (hblank : Cell.isBlank cell = .ok true)
    (context : Value) (row : List Json) :
    (t.insertInput position column cell).hit? context (row.insertIdx position cell) =
      t.hit? context row := by
  rw [hit?, conditions_insertInput h, Row.holds_insertIdx hblank, results_insertInput h, hit?]

/-- An input column with blank cells makes no difference, wherever it stands among the input
    columns: in every context and under every policy the table has the same value as without it,
    or fails with the same fault. -/
theorem evaluate_insertInput (t : Table) {position : Nat} (h : position ≤ t.inputs.length)
    (column : Column) {cell : Json} (hblank : Cell.isBlank cell = .ok true) (context : Value) :
    (t.insertInput position column cell).evaluate context = t.evaluate context := by
  have hrow : ∀ row, (t.insertInput position column cell).hit? context
      (row.insertIdx position cell) = t.hit? context row := hit?_insertInput h hblank context
  have hhits : (t.insertInput position column cell).hits context
      (t.insertInput position column cell).rules = t.hits context t.rules := hits_map hrow
  have hfirst : (t.insertInput position column cell).firstHit? context
      (t.insertInput position column cell).rules = t.firstHit? context t.rules :=
    firstHit?_map hrow
  rw [evaluate, hhits, hfirst, evaluate]
  rfl

end Table

/-! ## A sample -/

/-- A table with a row that ends before its condition, one with a condition, and one without. -/
def Sample.parcels : Table :=
  ⟨"collect", [⟨"", "", "", "express"⟩], [⟨"", "", "", "cost"⟩],
    [[], [.str "express", .str "high"], [.null, .str "low"]]⟩

/-- Behind the only input column, a further one moves the results of two of the rows. -/
theorem Table.evaluate_insertInput_parcels :
    1 ≤ Sample.parcels.inputs.length ∧ Cell.isBlank (.str " ") = .ok true ∧
      (Sample.parcels.insertInput 1 ⟨"", "", "", "weight"⟩ (.str " ")).rules =
        [[], [.str "express", .str " ", .str "high"], [.null, .str " ", .str "low"]] ∧
      (Sample.parcels.insertInput 1 ⟨"", "", "", "weight"⟩ (.str " ")).evaluate
          (.obj [("express", .bool false)]) =
        .ok (.list [.obj [], .obj [("cost", .str "low")]]) := by
  have hposition : 1 ≤ Sample.parcels.inputs.length := by decide
  have hblank : Cell.isBlank (.str " ") = .ok true := by rfl
  refine ⟨hposition, hblank, rfl, ?_⟩
  rw [evaluate_insertInput Sample.parcels hposition _ hblank]
  rfl

end DecisionFlow
