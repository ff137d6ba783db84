/-
What a query of one join means: comparisons with NULL, the rows that meet every
condition, the order they come in.

A comparison is TRUE, FALSE or UNKNOWN, and only a TRUE one lets a row through; a column
that may be NULL is an `Option`. A table is listed in any order, as a database may keep it;
an `ORDER BY` on a column without ties orders strictly, and leaves nothing to that.
-/
import Mathlib.Data.List.Basic
import Mathlib.Data.List.Nodup
import Mathlib.Data.List.Sort

set_option autoImplicit false

namespace TradeLogistics.SqlQuery

/-! ## 1. Comparisons -/

/-- The value of a condition; `none` is UNKNOWN. -/
abbrev Truth := Option Bool

/-- `AND`. -/
def Truth.and : Truth → Truth → Truth
  | some false, _ => some false
  | _, some false => some false
  | some true, some true => some true
  | _, _ => none

/-- `x = y`: UNKNOWN when a side is NULL. -/
def eq {α : Type*} [DecidableEq α] (x y : Option α) : Truth :=
  match x, y with
  | some a, some b => some (a = b)
  | _, _ => none

/-- `x IS NOT DISTINCT FROM y`: two NULLs are the same. -/
def isNotDistinctFrom {α : Type*} [DecidableEq α] (x y : Option α) : Bool :=
  match x, y with
  | some a, some b => a = b
  | none, none => true
  | _, _ => false

theorem Truth.and_eq_true {s t : Truth} : s.and t = some true ↔ s = some true ∧ t = some true := by
  rcases s with _ | _ | _ <;> rcases t with _ | _ | _ <;> decide

theorem eq_eq_true {α : Type*} [DecidableEq α] {x : Option α} {b : α} :
    eq x (some b) = some true ↔ x = some b := by
  cases x with
  | none => simp [eq]
  | some a => simp [eq]

theorem isNotDistinctFrom_iff {α : Type*} [DecidableEq α] {x y : Option α} :
    isNotDistinctFrom x y = true ↔ x = y := by
  cases x <;> cases y <;> simp [isNotDistinctFrom]

/-! ## 2. `WHERE` -/

section Where

variable {ρ : Type*}

/-- The rows for which all conditions are TRUE. -/
def meeting (conditions : List (ρ → Truth)) (rows : List ρ) : List ρ :=
  rows.filter fun row =>
    conditions.foldr (fun condition rest => (condition row).and rest) (some true) = some true

theorem mem_meeting {conditions : List (ρ → Truth)} {rows : List ρ} {row : ρ} :
    row ∈ meeting conditions rows
      ↔ row ∈ rows ∧ ∀ condition ∈ conditions, condition row = some true := by
  rw [meeting, List.mem_filter, decide_eq_true_eq]
  refine and_congr_right fun _ => ?_
  induction conditions with
  | nil => simp
  | cons condition conditions ih => rw [List.foldr_cons, Truth.and_eq_true, ih, List.forall_mem_cons]

end Where

/-! ## 3. `JOIN` -/

section Join

variable {α β κ : Type*}

/-- The pairs for which the condition of the join is TRUE. -/
def join (on : α → β → Truth) (xs : List α) (ys : List β) : List (α × β) :=
  xs.flatMap fun x => (ys.filter fun y => on x y = some true).map fun y => (x, y)

theorem mem_join {on : α → β → Truth} {xs : List α} {ys : List β} {x : α} {y : β} :
    (x, y) ∈ join on xs ys ↔ x ∈ xs ∧ y ∈ ys ∧ on x y = some true := by
  simp [join]

/-- A key of the right side is one of the joined rows, when a right row has one partner. -/
theorem nodup_join {on : α → β → Truth} {xs : List α} {ys : List β} {key : β → κ}
    (hxs : xs.Pairwise fun x x' => ∀ y, on x y = some true → on x' y ≠ some true)
    (hys : (ys.map key).Nodup) : ((join on xs ys).map fun row => key row.2).Nodup := by
  have hkeys : (join on xs ys).map (fun row => key row.2)
      = xs.flatMap fun x => (ys.filter fun y => on x y = some true).map key := by
    rw [join, List.map_flatMap]
    congr 1
    funext x
    rw [List.map_map]
    rfl
  rw [hkeys, List.nodup_flatMap]
  refine ⟨fun x _ => (List.filter_sublist.map key).nodup hys, hxs.imp ?_⟩
  intro x x' hpartner k hk hk'
  obtain ⟨y, hy, rfl⟩ := List.mem_map.mp hk
  obtain ⟨y', hy', hsame⟩ := List.mem_map.mp hk'
  rw [List.mem_filter, decide_eq_true_eq] at hy hy'
  have heq : y' = y := List.inj_on_of_nodup_map hys hy'.1 hy.1 hsame
  rw [heq] at hy'
  exact hpartner y hy.2 hy'.2

end Join

/-! ## 4. `ORDER BY` -/

section Order

variable {ρ ι : Type*} [LinearOrder ι]

/-- The rows in ascending order of a column. -/
def orderBy (key : ρ → ι) (rows : List ρ) : List ρ :=
  rows.mergeSort fun row other => decide (key row ≤ key other)

theorem mem_orderBy {key : ρ → ι} {rows : List ρ} {row : ρ} :
    row ∈ orderBy key rows ↔ row ∈ rows :=
  (List.mergeSort_perm rows _).mem_iff

/-- Rows that are in order stay as they are. -/
theorem orderBy_of_ordered {key : ρ → ι} {rows : List ρ}
    (h : rows.Pairwise fun row other => key row ≤ key other) : orderBy key rows = rows := by
  apply List.mergeSort_of_pairwise
  simpa using h

/-- A column without ties orders strictly. -/
theorem orderBy_strict {key : ρ → ι} {rows : List ρ} (h : (rows.map key).Nodup) :
    (orderBy key rows).Pairwise fun row other => key row < key other := by
  have hle : (orderBy key rows).Pairwise fun row other => key row ≤ key other := by
    have htrans : ∀ a b c : ρ, decide (key a ≤ key b) = true → decide (key b ≤ key c) = true →
        decide (key a ≤ key c) = true := by
      intro a b c hab hbc
      rw [decide_eq_true_eq] at hab hbc ⊢
      exact hab.trans hbc
    have htotal : ∀ a b : ρ, (decide (key a ≤ key b) || decide (key b ≤ key a)) = true := by
      intro a b
      rw [Bool.or_eq_true, decide_eq_true_eq, decide_eq_true_eq]
      exact le_total (key a) (key b)
    refine (List.pairwise_mergeSort htrans htotal rows).imp fun hrow => ?_
    rwa [decide_eq_true_eq] at hrow
  have hne : (orderBy key rows).Pairwise fun row other => key row ≠ key other := by
    have hkeys : ((orderBy key rows).map key).Nodup :=
      ((List.mergeSort_perm rows _).map key).nodup_iff.mpr h
    exact List.pairwise_map.mp hkeys
  exact (hle.and hne).imp fun hrow => lt_of_le_of_ne hrow.1 hrow.2

end Order

end TradeLogistics.SqlQuery
