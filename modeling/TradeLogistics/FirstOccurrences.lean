/-
The first occurrences of a list by a key, in order.

`firstOccurrences key xs` keeps the entries whose key no entry before them has. It is
stated by position, since that is what is meant; a loop that appends what it has not kept
yet computes the same list (`foldl_keep`), and the proofs go by the last entry
(`firstOccurrences_concat`), as such a loop does.
-/
import Mathlib.Data.List.Basic
import Mathlib.Data.List.Induction
import Mathlib.Data.List.Nodup
import Mathlib.Order.Basic

set_option autoImplicit false

namespace TradeLogistics.FirstOccurrences

variable {α κ : Type*} [DecidableEq κ]

/-- The entries whose key none of the entries before them has. -/
def firstOccurrences (key : α → κ) (xs : List α) : List α :=
  (List.range xs.length).filterMap fun i =>
    xs[i]?.filter fun x => decide (key x ∉ (xs.take i).map key)

/-- What a loop keeps that looks for the key among the entries it has kept. -/
def keep (key : α → κ) (kept : List α) (x : α) : List α :=
  if key x ∈ kept.map key then kept else kept ++ [x]

variable (key : α → κ)

@[simp] theorem firstOccurrences_nil : firstOccurrences key [] = [] := rfl

/-- One more entry is kept when its key is new, and changes nothing about the others. -/
theorem firstOccurrences_concat (xs : List α) (x : α) :
    firstOccurrences key (xs ++ [x])
      = firstOccurrences key xs ++ (if key x ∈ xs.map key then [] else [x]) := by
  rw [firstOccurrences, List.length_append, List.length_singleton, List.range_succ,
    List.filterMap_append]
  congr 1
  · -- the positions of `xs` see `xs` and what stands before them in it
    refine List.filterMap_congr fun i hi => ?_
    have hlt : i < xs.length := List.mem_range.mp hi
    rw [List.getElem?_append_left hlt, List.take_append_of_le_length (Nat.le_of_lt hlt)]
  · by_cases hx : key x ∈ xs.map key
    · rw [if_pos hx]
      simp [Option.filter, hx]
    · rw [if_neg hx]
      simp [Option.filter, hx]

/-- No key is lost. -/
theorem mem_map_firstOccurrences {xs : List α} {k : κ} :
    k ∈ (firstOccurrences key xs).map key ↔ k ∈ xs.map key := by
  induction xs using List.reverseRecOn with
  | nil => rfl
  | append_singleton xs x ih =>
      rw [firstOccurrences_concat, List.map_append, List.map_append, List.mem_append,
        List.mem_append, ih]
      by_cases hx : key x ∈ xs.map key
      · rw [if_pos hx, List.map_singleton, List.mem_singleton]
        constructor
        · rintro (hk | hk)
          · exact .inl hk
          · cases hk
        · rintro (hk | rfl)
          · exact .inl hk
          · exact .inl hx
      · rw [if_neg hx]

/-- **The loop.** Looking among the entries kept so far comes to looking among all the
entries seen so far, because no key is lost. -/
theorem foldl_keep (xs : List α) : xs.foldl (keep key) [] = firstOccurrences key xs := by
  induction xs using List.reverseRecOn with
  | nil => rfl
  | append_singleton xs x ih =>
      rw [List.foldl_append, ih, List.foldl_cons, List.foldl_nil, firstOccurrences_concat, keep]
      by_cases hx : key x ∈ xs.map key
      · rw [if_pos ((mem_map_firstOccurrences key).mpr hx), if_pos hx, List.append_nil]
      · rw [if_neg (mt (mem_map_firstOccurrences key).mp hx), if_neg hx]

/-- What is kept stands in the order of the list. -/
theorem firstOccurrences_sublist (xs : List α) : (firstOccurrences key xs).Sublist xs := by
  induction xs using List.reverseRecOn with
  | nil => exact List.Sublist.refl []
  | append_singleton xs x ih =>
      rw [firstOccurrences_concat]
      refine ih.append ?_
      split
      · exact List.nil_sublist [x]
      · exact List.Sublist.refl [x]

/-- No key is kept twice. -/
theorem nodup_firstOccurrences (xs : List α) : ((firstOccurrences key xs).map key).Nodup := by
  induction xs using List.reverseRecOn with
  | nil => exact List.nodup_nil
  | append_singleton xs x ih =>
      rw [firstOccurrences_concat]
      by_cases hx : key x ∈ xs.map key
      · rw [if_pos hx, List.append_nil]
        exact ih
      · rw [if_neg hx, List.map_append, List.map_singleton]
        refine List.nodup_append.mpr ⟨ih, List.nodup_singleton _, ?_⟩
        intro a ha b hb hab
        rw [List.mem_singleton.mp hb] at hab
        rw [hab] at ha
        exact hx ((mem_map_firstOccurrences key).mp ha)

/-- An entry is kept exactly when it stands somewhere with nothing of its key before it. -/
theorem mem_firstOccurrences {xs : List α} {x : α} :
    x ∈ firstOccurrences key xs
      ↔ ∃ before after, xs = before ++ x :: after ∧ key x ∉ before.map key := by
  induction xs using List.reverseRecOn with
  | nil => simp
  | append_singleton xs y ih =>
      rw [firstOccurrences_concat, List.mem_append, ih]
      constructor
      · rintro (⟨before, after, rfl, hx⟩ | hx)
        · exact ⟨before, after ++ [y], by rw [List.append_assoc, List.cons_append], hx⟩
        · split at hx
          · cases hx
          · next hy =>
              rw [List.mem_singleton.mp hx]
              exact ⟨xs, [], rfl, hy⟩
      · rintro ⟨before, after, hsplit, hx⟩
        -- it is the new entry, or stands before it
        rcases List.eq_nil_or_concat after with rfl | ⟨after, z, rfl⟩
        · obtain ⟨rfl, hyx⟩ := List.append_inj' hsplit rfl
          obtain rfl : y = x := (List.cons.inj hyx).1
          rw [if_neg hx]
          exact .inr (List.mem_singleton_self y)
        · refine .inl ⟨before, after, ?_, hx⟩
          have hsame : xs ++ [y] = (before ++ x :: after) ++ [z] := by
            rw [hsplit, List.concat_eq_append, List.append_assoc, List.cons_append]
          exact (List.append_inj' hsame rfl).1

/-- The first occurrences among values of the entries are values of first occurrences. -/
theorem firstOccurrences_map {β : Type*} (f : β → α) (ys : List β) :
    (firstOccurrences (fun y => key (f y)) ys).map f = firstOccurrences key (ys.map f) := by
  induction ys using List.reverseRecOn with
  | nil => rfl
  | append_singleton ys y ih =>
      rw [firstOccurrences_concat, List.map_append, ih, List.map_append, List.map_singleton,
        firstOccurrences_concat, List.map_map]
      congr 1
      exact apply_ite (List.map f) _ _ _

/-- Behind other entries, what has a key of theirs is not kept. -/
theorem firstOccurrences_append (xs ys : List α) :
    firstOccurrences key (xs ++ ys) = firstOccurrences key xs
      ++ firstOccurrences key (ys.filter fun y => decide (key y ∉ xs.map key)) := by
  induction ys using List.reverseRecOn with
  | nil => simp
  | append_singleton ys y ih =>
      rw [← List.append_assoc, firstOccurrences_concat, ih, List.append_assoc, List.filter_append]
      congr 1
      by_cases hxs : key y ∈ xs.map key
      · have hall : key y ∈ (xs ++ ys).map key := by
          rw [List.map_append]
          exact List.mem_append_left _ hxs
        have hdropped : [y].filter (fun y => decide (key y ∉ xs.map key)) = [] := by
          rw [List.filter_singleton, decide_eq_false (not_not_intro hxs), cond_false]
        rw [if_pos hall, hdropped, List.append_nil, List.append_nil]
      · -- it is kept unless an entry of its key stands between, which is then not dropped
        have hbetween : key y ∈ (xs ++ ys).map key
            ↔ key y ∈ (ys.filter fun y => decide (key y ∉ xs.map key)).map key := by
          rw [List.map_append, List.mem_append, or_iff_right hxs, List.mem_map, List.mem_map]
          constructor
          · rintro ⟨z, hz, hsame⟩
            refine ⟨z, List.mem_filter.mpr ⟨hz, ?_⟩, hsame⟩
            rw [decide_eq_true_eq, hsame]
            exact hxs
          · rintro ⟨z, hz, hsame⟩
            exact ⟨z, (List.mem_filter.mp hz).1, hsame⟩
        have hkept : [y].filter (fun y => decide (key y ∉ xs.map key)) = [y] := by
          rw [List.filter_singleton, decide_eq_true hxs, cond_true]
        rw [hkept, firstOccurrences_concat]
        simp only [hbetween]

/-- Entries that have one key are kept by the first of them. -/
theorem firstOccurrences_of_same {k : κ} (xs : List α) (h : ∀ x ∈ xs, key x = k) :
    firstOccurrences key xs = xs.take 1 := by
  induction xs using List.reverseRecOn with
  | nil => rfl
  | append_singleton xs x ih =>
      rw [firstOccurrences_concat, ih fun y hy => h y (List.mem_append_left _ hy)]
      cases xs with
      | nil => simp
      | cons y ys =>
          have hsame : key x ∈ (y :: ys).map key := by
            rw [h x (by simp), ← h y (by simp)]
            exact List.mem_map_of_mem List.mem_cons_self
          rw [if_pos hsame]
          simp

/-- Groups of different keys, one after another, are kept by their first entries. -/
theorem firstOccurrences_flatMap {β : Type*} {k : β → κ} {group : β → List α} (ys : List β)
    (hgroup : ∀ y ∈ ys, ∀ x ∈ group y, key x = k y) (hys : (ys.map k).Nodup) :
    firstOccurrences key (ys.flatMap group) = ys.flatMap fun y => (group y).take 1 := by
  induction ys using List.reverseRecOn with
  | nil => rfl
  | append_singleton ys y ih =>
      rw [List.map_append, List.nodup_append] at hys
      have hone := hgroup y (by simp)
      have hnew : (group y).filter (fun x => decide (key x ∉ (ys.flatMap group).map key))
          = group y := by
        rw [List.filter_eq_self]
        intro x hx
        rw [decide_eq_true_eq, List.mem_map]
        rintro ⟨z, hz, hsame⟩
        obtain ⟨y', hy', hz⟩ := List.mem_flatMap.mp hz
        -- the key is that of another group, and of this one
        apply hys.2.2 (k y') (List.mem_map_of_mem hy') (k y) (by simp)
        rw [← hgroup y' (List.mem_append_left _ hy') z hz, hsame, hone x hx]
      rw [List.flatMap_append, List.flatMap_singleton, List.flatMap_append, List.flatMap_singleton,
        firstOccurrences_append, hnew, firstOccurrences_of_same key (group y) hone,
        ih (fun y' hy' => hgroup y' (List.mem_append_left _ hy')) hys.1]

/-- In a list ordered by a rank, the first of a key is the least of it. -/
theorem firstOccurrences_least {ι : Type*} [Preorder ι] {rank : α → ι} {xs : List α}
    (hxs : xs.Pairwise fun x y => rank x < rank y) {x y : α}
    (hx : x ∈ firstOccurrences key xs) (hy : y ∈ xs) (hkey : key y = key x) :
    rank x ≤ rank y := by
  obtain ⟨before, after, rfl, hnew⟩ := (mem_firstOccurrences key).mp hx
  rcases List.mem_append.mp hy with hy | hy
  · exact absurd (hkey ▸ List.mem_map_of_mem hy) hnew
  · rcases List.mem_cons.mp hy with rfl | hy
    · exact le_refl _
    · have hafter := (List.pairwise_append.mp hxs).2.1
      exact ((List.pairwise_cons.mp hafter).1 y hy).le

end TradeLogistics.FirstOccurrences
