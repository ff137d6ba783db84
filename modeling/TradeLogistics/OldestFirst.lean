/-
Taking the first few of a list, oldest first.

Elements are good or bad, and of an arrangement by age only the first `n` are taken;
elements of one age may stand in any order. Whether a good element is among those taken
whatever the order is decided by one number: how many bad elements are at least as old as
every good one. With fewer than `n` of these, the oldest good element has a place left in
every arrangement. With `n` or more, an arrangement that puts them first takes nothing else.
-/
import Mathlib.Data.List.Sort

set_option autoImplicit false

namespace TradeLogistics.OldestFirst

section

variable {α β : Type*} [LinearOrder β] (age : α → β) (good : α → Bool)

/-- A list in the order of age, those of one age in any order. -/
def Arrangement (l order : List α) : Prop :=
  order.Perm l ∧ order.Pairwise fun a b => age a ≤ age b

/-- A bad element that is at least as old as every good one. -/
def isAhead (l : List α) (a : α) : Bool :=
  !good a && l.all fun b => !good b || decide (age a ≤ age b)

def ahead (l : List α) : List α := l.filter (isAhead age good l)

variable {age good} {l order : List α} {n : ℕ}

theorem isAhead_iff {a : α} :
    isAhead age good l a = true
      ↔ good a = false ∧ ∀ b ∈ l, good b = true → age a ≤ age b := by
  simp only [isAhead, Bool.and_eq_true, Bool.not_eq_true', List.all_eq_true, Bool.or_eq_true,
    decide_eq_true_eq]
  constructor
  · rintro ⟨hbad, hold⟩
    refine ⟨hbad, fun b hb hgood => ?_⟩
    rcases hold b hb with hb' | hle
    · rw [hgood] at hb'
      cases hb'
    · exact hle
  · rintro ⟨hbad, hold⟩
    refine ⟨hbad, fun b hb => ?_⟩
    cases hgood : good b with
    | false => exact .inl rfl
    | true => exact .inr (hold b hb hgood)

/-! ## 1. Fewer ahead than are taken -/

/-- Up to the first good element an arrangement has only elements that are ahead. -/
theorem first_good (horder : Arrangement age l order) (hgood : ∃ a ∈ l, good a = true) :
    ∃ front a rest, order = front ++ a :: rest ∧ good a = true
      ∧ ∀ b ∈ front, isAhead age good l b = true := by
  obtain ⟨hperm, hsorted⟩ := horder
  obtain ⟨a₀, hmem, ha₀⟩ := hgood
  have hsome : (order.find? good).isSome = true := by
    rw [List.find?_isSome]
    exact ⟨a₀, hperm.mem_iff.mpr hmem, ha₀⟩
  obtain ⟨a, hfind⟩ := Option.isSome_iff_exists.mp hsome
  obtain ⟨hgood, front, rest, rfl, hfront⟩ := List.find?_eq_some_iff_append.mp hfind
  refine ⟨front, a, rest, rfl, hgood, fun b hb => ?_⟩
  rw [isAhead_iff]
  have hbad : good b = false := by simpa using hfront b hb
  refine ⟨hbad, fun c hc hgoodc => ?_⟩
  rw [List.pairwise_append] at hsorted
  -- a good element is not in front, so it stands behind
  rcases List.mem_append.mp (hperm.mem_iff.mpr hc) with hcfront | hcrest
  · have hbadc : good c = false := by simpa using hfront c hcfront
    rw [hgoodc] at hbadc
    cases hbadc
  · exact hsorted.2.2 b hb c hcrest

theorem good_taken (horder : Arrangement age l order) (hgood : ∃ a ∈ l, good a = true)
    (h : (ahead age good l).length < n) : ∃ a ∈ order.take n, good a = true := by
  obtain ⟨front, a, rest, rfl, hgooda, hfront⟩ := first_good horder hgood
  have hcount : front.length ≤ (ahead age good l).length := by
    calc front.length = front.countP (isAhead age good l) :=
          (List.countP_eq_length.mpr hfront).symm
      _ ≤ (front ++ a :: rest).countP (isAhead age good l) := by
          rw [List.countP_append]
          exact Nat.le_add_right _ _
      _ = l.countP (isAhead age good l) := horder.1.countP_eq _
      _ = (ahead age good l).length := List.countP_eq_length_filter
  refine ⟨a, ?_, hgooda⟩
  rw [List.take_append, List.mem_append]
  have hplace : n - front.length = n - front.length - 1 + 1 := by omega
  rw [hplace, List.take_succ_cons]
  exact .inr List.mem_cons_self

/-! ## 2. As many ahead as are taken -/

theorem sorted_insertionSort (l : List α) :
    (l.insertionSort fun a b => age a ≤ age b).Pairwise fun a b => age a ≤ age b := by
  have : Std.Total fun a b : α => age a ≤ age b := ⟨fun a b => le_total (age a) (age b)⟩
  have : IsTrans α fun a b => age a ≤ age b := ⟨fun _ _ _ => le_trans⟩
  exact List.pairwise_insertionSort _ l

/-- Whoever is not ahead is at least as old as no one who is. -/
theorem ahead_le {a b : α} (ha : isAhead age good l a = true) (hb : b ∈ l)
    (hnot : ¬ isAhead age good l b = true) : age a ≤ age b := by
  obtain ⟨-, hold⟩ := isAhead_iff.mp ha
  cases hgood : good b with
  | true => exact hold b hb hgood
  | false =>
      -- a good element is older than `b`, and `a` is as old as that one
      rw [isAhead_iff] at hnot
      push Not at hnot
      obtain ⟨c, hc, hgoodc, hlt⟩ := hnot hgood
      exact (hold c hc hgoodc).trans hlt.le

variable (age good l) in
/-- The arrangement that puts those ahead first. -/
def aheadFirst : List α :=
  ((ahead age good l).insertionSort fun a b => age a ≤ age b)
    ++ (l.filter fun a => !isAhead age good l a).insertionSort fun a b => age a ≤ age b

theorem aheadFirst_arrangement : Arrangement age l (aheadFirst age good l) := by
  constructor
  · refine List.Perm.trans ?_ (List.filter_append_perm (isAhead age good l) l)
    exact (List.perm_insertionSort _ _).append (List.perm_insertionSort _ _)
  · refine List.pairwise_append.mpr
      ⟨sorted_insertionSort _, sorted_insertionSort _, fun a ha b hb => ?_⟩
    rw [List.mem_insertionSort] at ha hb
    obtain ⟨hb, hnot⟩ := List.mem_filter.mp hb
    exact ahead_le (List.mem_filter.mp ha).2 hb (by simpa using hnot)

theorem aheadFirst_take (h : n ≤ (ahead age good l).length) :
    ∀ a ∈ (aheadFirst age good l).take n, good a = false := by
  intro a ha
  rw [aheadFirst, List.take_append_of_le_length (by rwa [List.length_insertionSort])] at ha
  have hmem := (List.mem_insertionSort _).mp (List.mem_of_mem_take ha)
  exact (isAhead_iff.mp (List.mem_filter.mp hmem).2).1

/-- **A good element is taken in every arrangement** exactly when fewer bad ones are ahead of
all the good ones than are taken. -/
theorem good_taken_iff (hgood : ∃ a ∈ l, good a = true) :
    (∀ order, Arrangement age l order → ∃ a ∈ order.take n, good a = true)
      ↔ (ahead age good l).length < n := by
  constructor
  · intro h
    by_contra hmany
    obtain ⟨a, ha, hgooda⟩ := h _ aheadFirst_arrangement
    rw [aheadFirst_take (not_lt.mp hmany) a ha] at hgooda
    cases hgooda
  · exact fun h order horder => good_taken horder hgood h

end

end TradeLogistics.OldestFirst
