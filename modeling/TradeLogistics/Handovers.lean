/-
Things handed over, each at most once.

One side declares what it has to say under an identifier. A carrier offers identifiers to
the other side, as often as it likes and in any order, and the other side takes what was
declared under an identifier it was offered, once. That is all an outbox, a broker and an
inbox are for, and it names none of them.

The machine below is the statement of that purpose; the two results are what it gives in
every state it reaches, and what any later state still has. A system with many more states
is held to it by a function that says which state of the machine it is in, and the rule
that what one step of it does is a step of the machine or nothing.
-/
import TradeLogistics.Runs
import Mathlib.Data.List.Nodup
import Mathlib.Data.Set.Insert
import Mathlib.Logic.Relation

set_option autoImplicit false

namespace TradeLogistics.Handovers

open TradeLogistics.Runs Relation

/-! ## 1. Refinement -/

section Refinement

variable {S L A : Type*} {step : S → L → Option S} {Inv : S → Prop} {abstraction : S → A}
  {Step : A → A → Prop}

/-- **The refinement rule.** Where a step is seen as a step of the machine or not at all, a
run is seen as steps of the machine. -/
theorem run_refines
    (hstep : ∀ s l s', Inv s → step s l = some s' →
      Inv s' ∧ ReflGen Step (abstraction s) (abstraction s')) :
    ∀ {ls : List L} {s t : S}, Inv s → run step s ls = some t →
      Inv t ∧ ReflTransGen Step (abstraction s) (abstraction t) := by
  intro ls
  induction ls with
  | nil =>
      intro s t hs hrun
      rw [run_nil, Option.some.injEq] at hrun
      exact hrun ▸ ⟨hs, ReflTransGen.refl⟩
  | cons l ls ih =>
      intro s t hs hrun
      obtain ⟨s', hl, hls⟩ := (run_cons_eq_some step).mp hrun
      obtain ⟨hs', hseen⟩ := hstep s l s' hs hl
      obtain ⟨ht, hrest⟩ := ih hs' hls
      exact ⟨ht, hseen.to_reflTransGen.trans hrest⟩

end Refinement

/-! ## 2. The machine -/

/-- What was declared and what was taken, each under its identifier and in order, and the
identifiers that were offered. -/
@[ext] structure Board (ι α : Type*) where
  declared : List (ι × α)
  offered : Set ι
  taken : List (ι × α)

namespace Board

variable {ι α : Type*}

/-- Nothing declared yet. -/
def empty : Board ι α := ⟨[], ∅, []⟩

inductive Step : Board ι α → Board ι α → Prop where
  /-- Something new is declared. -/
  | declare {b : Board ι α} (i : ι) (a : α) (hnew : i ∉ b.declared.map Prod.fst) :
      Step b { b with declared := b.declared ++ [(i, a)] }
  /-- What was declared is offered, once more or for the first time. -/
  | offer {b : Board ι α} (i : ι) (hdeclared : i ∈ b.declared.map Prod.fst) :
      Step b { b with offered := insert i b.offered }
  /-- What was offered is taken as it was declared. -/
  | take {b : Board ι α} (i : ι) (a : α) (hdeclared : (i, a) ∈ b.declared)
      (hoffered : i ∈ b.offered) (hfirst : i ∉ b.taken.map Prod.fst) :
      Step b { b with taken := b.taken ++ [(i, a)] }

/-- Identifiers are declared once and taken at most once; what is offered was declared, and
what is taken was offered and is what was declared. -/
structure Orderly (b : Board ι α) : Prop where
  declared_once : (b.declared.map Prod.fst).Nodup
  taken_once : (b.taken.map Prod.fst).Nodup
  offered_declared : ∀ i ∈ b.offered, i ∈ b.declared.map Prod.fst
  taken_offered : ∀ i ∈ b.taken.map Prod.fst, i ∈ b.offered
  taken_declared : b.taken ⊆ b.declared

/-- Nothing declared, offered or taken is ever given back. -/
structure Before (b b' : Board ι α) : Prop where
  declared : b.declared <+: b'.declared
  offered : b.offered ⊆ b'.offered
  taken : b.taken <+: b'.taken

theorem empty_orderly : (empty : Board ι α).Orderly where
  declared_once := List.nodup_nil
  taken_once := List.nodup_nil
  offered_declared := fun _ h => absurd h (Set.notMem_empty _)
  taken_offered := fun _ h => absurd h List.not_mem_nil
  taken_declared := List.Subset.refl []

theorem Before.refl (b : Board ι α) : b.Before b :=
  ⟨List.prefix_rfl, Set.Subset.rfl, List.prefix_rfl⟩

theorem Before.trans {a b c : Board ι α} (hab : a.Before b) (hbc : b.Before c) : a.Before c :=
  ⟨hab.declared.trans hbc.declared, hab.offered.trans hbc.offered, hab.taken.trans hbc.taken⟩

/-- A list of distinct identifiers stays one when a new one is added. -/
theorem nodup_concat {l : List (ι × α)} {i : ι} {a : α} (h : (l.map Prod.fst).Nodup)
    (hnew : i ∉ l.map Prod.fst) : ((l ++ [(i, a)]).map Prod.fst).Nodup := by
  rw [List.map_append, List.map_singleton, ← List.concat_eq_append]
  exact List.Nodup.concat hnew h

/-- **One step** keeps order, and gives nothing back. -/
theorem Step.orderly {b b' : Board ι α} (hstep : Step b b') (h : b.Orderly) :
    b'.Orderly ∧ b.Before b' := by
  cases hstep with
  | declare i a hnew =>
      refine ⟨⟨nodup_concat h.declared_once hnew, h.taken_once, fun j hj => ?_, h.taken_offered,
        fun x hx => List.mem_append_left _ (h.taken_declared hx)⟩,
        List.prefix_append _ _, Set.Subset.rfl, List.prefix_rfl⟩
      rw [List.map_append]
      exact List.mem_append_left _ (h.offered_declared j hj)
  | offer i hdeclared =>
      refine ⟨⟨h.declared_once, h.taken_once, fun j hj => ?_,
        fun j hj => Set.mem_insert_of_mem i (h.taken_offered j hj), h.taken_declared⟩,
        List.prefix_rfl, Set.subset_insert i _, List.prefix_rfl⟩
      rcases Set.mem_insert_iff.mp hj with rfl | hj
      · exact hdeclared
      · exact h.offered_declared j hj
  | take i a hdeclared hoffered hfirst =>
      refine ⟨⟨h.declared_once, nodup_concat h.taken_once hfirst, h.offered_declared,
        fun j hj => ?_, fun x hx => ?_⟩, List.prefix_rfl, Set.Subset.rfl, List.prefix_append _ _⟩
      · rw [List.map_append, List.mem_append, List.map_singleton, List.mem_singleton] at hj
        rcases hj with hj | rfl
        · exact h.taken_offered j hj
        · exact hoffered
      · rcases List.mem_append.mp hx with hx | hx
        · exact h.taken_declared hx
        · rw [List.mem_singleton.mp hx]
          exact hdeclared

/-- **Any number of steps** keeps order, and gives nothing back. -/
theorem orderly_of_steps {b b' : Board ι α} (hsteps : ReflTransGen Step b b') (h : b.Orderly) :
    b'.Orderly ∧ b.Before b' := by
  induction hsteps with
  | refl => exact ⟨h, Before.refl b⟩
  | tail _ hstep ih =>
      obtain ⟨horderly, hbefore⟩ := ih
      obtain ⟨horderly', hnext⟩ := hstep.orderly horderly
      exact ⟨horderly', hbefore.trans hnext⟩

end Board

end TradeLogistics.Handovers
