/-
What a database session writes back.

A session loads rows, the program mutates its copies and appends new ones, and the
flush compares what was loaded with what is there now: it updates, by key, the columns
that changed and inserts the rows that are new. A column nobody touched is not
written, whatever the table holds in it by then, which is all the difference between
a session working on a copy and one working on the table.

Rows are of an arbitrary type with a key. How two versions of a row and the stored one
combine is a parameter, `merge`; `column` is the one rule there is for each of its
columns. The lemmas are the two shapes a program's changes take: rows appended, and
one row replaced.
-/
import Mathlib.Data.List.Basic

set_option autoImplicit false

namespace TradeLogistics.UnitOfWork

/-- One column after a flush: what the program left there if it changed it, else what
the table holds. -/
def column {α : Type*} [DecidableEq α] (loaded after stored : α) : α :=
  if after = loaded then stored else after

@[simp] theorem column_self {α : Type*} [DecidableEq α] (loaded stored : α) :
    column loaded loaded stored = stored := if_pos rfl

theorem column_of_ne {α : Type*} [DecidableEq α] {loaded after stored : α} (h : after ≠ loaded) :
    column loaded after stored = after := if_neg h

/-- A session that loaded what the table still holds writes what the program left. -/
@[simp] theorem column_current {α : Type*} [DecidableEq α] (loaded after : α) :
    column loaded after loaded = after := by
  by_cases h : after = loaded
  · rw [column, if_pos h, h]
  · rw [column, if_neg h]

/-- What the program left is what the table holds afterwards, unless it left the column as
it was and somebody else did not. -/
theorem column_eq_after_iff {α : Type*} [DecidableEq α] {loaded after stored : α} :
    column loaded after stored = after ↔ (after = loaded → stored = loaded) := by
  unfold column
  by_cases h : after = loaded
  · rw [if_pos h]
    exact ⟨fun hs _ => hs.trans h, fun hs => (hs h).trans h.symm⟩
  · rw [if_neg h]
    exact iff_of_true rfl fun he => absurd he h

section Rows

variable {ρ : Type*}

section Changes

variable [DecidableEq ρ]

/-- The loaded rows the program changed, each with what it made of it. -/
def dirty (loaded after : List ρ) : List (ρ × ρ) :=
  (loaded.zip after).filter fun r => r.1 != r.2

theorem dirty_append (loaded new : List ρ) : dirty loaded (loaded ++ new) = [] := by
  induction loaded with
  | nil => rfl
  | cons r rs ih => simpa [dirty] using ih

end Changes

/-- The rows the program added. -/
def added (loaded after : List ρ) : List ρ := after.drop loaded.length

@[simp] theorem added_append (loaded new : List ρ) : added loaded (loaded ++ new) = new := by
  simp [added]

theorem added_of_length {loaded after : List ρ} (h : after.length = loaded.length) :
    added loaded after = [] := by
  rw [added, ← h, List.drop_length]

variable {κ : Type*} [DecidableEq κ] (key : ρ → κ) (merge : ρ → ρ → ρ → ρ)

/-- The stored rows once the changed ones are updated by key. -/
def update (changes : List (ρ × ρ)) (stored : List ρ) : List ρ :=
  stored.map fun row =>
    match changes.find? fun r => key r.1 == key row with
    | some (loaded, after) => merge loaded after row
    | none => row

@[simp] theorem update_nil (stored : List ρ) : update key merge [] stored = stored := by
  simp [update]

theorem update_singleton (loaded after : ρ) (stored : List ρ) :
    update key merge [(loaded, after)] stored
      = stored.map fun row => if key loaded = key row then merge loaded after row else row := by
  simp only [update]
  refine List.map_congr_left fun row _ => ?_
  by_cases h : key loaded = key row
  · simp [h]
  · simp [h]

end Rows

end TradeLogistics.UnitOfWork
