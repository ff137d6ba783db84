/-
Runs of a labelled step function, and threads over a shared state.

Everything concurrent in this development is the same picture: some parties, each
with a private state, act one atomic action at a time on a state they share, in
any order. This file is that picture once, over arbitrary types, together with
the two arguments every concurrency result below makes with it:

* an invariant that one step keeps holds in every state a run reaches, and for
  threads the one-step obligation splits into what the acting thread must keep and
  what the others must survive (a guarantee the assertions are stable under);
* where the invariant is only kept by the *admissible* steps, a run has a good
  transition everywhere exactly when every step it takes is admissible, provided
  the first inadmissible step is visibly bad.

The second one is what turns a one-step analysis into an exact statement about
whole runs: neither direction is an induction any caller repeats.
-/
import Mathlib.Logic.Function.Basic
import Mathlib.Data.List.Basic

set_option autoImplicit false

namespace TradeLogistics.Runs

/-! ## 1. Runs

A step function is partial: `none` means the action is not enabled in that state. -/

section Runs

variable {S L : Type*} (step : S → L → Option S)

/-- Take the labelled steps in order; `none` as soon as one is not enabled. -/
def run : S → List L → Option S
  | s, [] => some s
  | s, l :: ls => (step s l).bind fun s' => run s' ls

@[simp] theorem run_nil (s : S) : run step s [] = some s := rfl

theorem run_cons (s : S) (l : L) (ls : List L) :
    run step s (l :: ls) = (step s l).bind fun s' => run step s' ls := rfl

/-- A run of one step more is the step, then the rest. -/
theorem run_cons_eq_some {s t : S} {l : L} {ls : List L} :
    run step s (l :: ls) = some t ↔ ∃ s', step s l = some s' ∧ run step s' ls = some t := by
  rw [run_cons, Option.bind_eq_some_iff]

theorem run_append (s : S) (ls ms : List L) :
    run step s (ls ++ ms) = (run step s ls).bind fun s' => run step s' ms := by
  induction ls generalizing s with
  | nil => rfl
  | cons l ls ih =>
      rw [List.cons_append, run_cons, run_cons, Option.bind_assoc]
      exact Option.bind_congr fun s' _ => ih s'

/-- **The invariant rule.** What one step keeps, a run keeps. -/
theorem run_inv {Inv : S → Prop}
    (hstep : ∀ s l s', Inv s → step s l = some s' → Inv s') :
    ∀ {ls : List L} {s t : S}, Inv s → run step s ls = some t → Inv t := by
  intro ls
  induction ls with
  | nil =>
      intro s t hs hrun
      rw [run_nil, Option.some.injEq] at hrun
      exact hrun ▸ hs
  | cons l ls ih =>
      intro s t hs hrun
      obtain ⟨s', hl, hls⟩ := (run_cons_eq_some step).mp hrun
      exact ih (hstep s l s' hs hl) hls

/-- A run is no longer than a rank that every step lowers. -/
theorem run_length_le {Inv : S → Prop} {rank : S → ℕ}
    (hstep : ∀ s l s', Inv s → step s l = some s' → Inv s' ∧ rank s' < rank s) :
    ∀ {ls : List L} {s t : S}, Inv s → run step s ls = some t → ls.length + rank t ≤ rank s := by
  intro ls
  induction ls with
  | nil =>
      intro s t _ hrun
      rw [run_nil, Option.some.injEq] at hrun
      simp [hrun]
  | cons l ls ih =>
      intro s t hs hrun
      obtain ⟨s', hl, hls⟩ := (run_cons_eq_some step).mp hrun
      obtain ⟨hs', hlt⟩ := hstep s l s' hs hl
      have hle := ih hs' hls
      rw [List.length_cons]
      omega

/-! ## 2. What holds along a run -/

/-- Every transition a run takes satisfies `P`: the state before, the label, the
state after. -/
def Along (P : S → L → S → Prop) : S → List L → Prop
  | _, [] => True
  | s, l :: ls => ∀ s', step s l = some s' → P s l s' ∧ Along P s' ls

/-- What holds along a run holds of the last step it takes. -/
theorem along_last {P : S → L → S → Prop} {l : L} {t : S} :
    ∀ {ls : List L} {s : S}, Along step P s (ls ++ [l]) → run step s (ls ++ [l]) = some t →
      ∃ s', run step s ls = some s' ∧ P s' l t := by
  intro ls
  induction ls with
  | nil =>
      intro s ha hrun
      obtain ⟨t', hl, ht⟩ := (run_cons_eq_some step).mp hrun
      rw [run_nil, Option.some.injEq] at ht
      exact ⟨s, rfl, ht ▸ (ha t' hl).1⟩
  | cons m ls ih =>
      intro s ha hrun
      obtain ⟨s₁, hm, hls⟩ := (run_cons_eq_some step).mp hrun
      obtain ⟨s', hs', hp⟩ := ih (ha s₁ hm).2 hls
      exact ⟨s', (run_cons_eq_some step).mpr ⟨s₁, hm, hs'⟩, hp⟩

/-- What holds along a run holds along the rest of it. -/
theorem along_drop {P : S → L → S → Prop} {ls ms : List L} :
    ∀ {s t : S}, Along step P s (ls ++ ms) → run step s ls = some t → Along step P t ms := by
  induction ls with
  | nil =>
      intro s t ha hrun
      rw [run_nil, Option.some.injEq] at hrun
      exact hrun ▸ ha
  | cons l ls ih =>
      intro s t ha hrun
      obtain ⟨s', hl, hls⟩ := (run_cons_eq_some step).mp hrun
      exact ih (ha s' hl).2 hls

/-- A reflexive and transitive relation that holds along a run relates its ends. -/
theorem along_rel {R : S → S → Prop} (hrefl : ∀ s, R s s)
    (htrans : ∀ a b c, R a b → R b c → R a c) {ls : List L} :
    ∀ {s t : S}, Along step (fun s _ s' => R s s') s ls → run step s ls = some t → R s t := by
  induction ls with
  | nil =>
      intro s t _ hrun
      rw [run_nil, Option.some.injEq] at hrun
      exact hrun ▸ hrefl s
  | cons l ls ih =>
      intro s t ha hrun
      obtain ⟨s', hl, hls⟩ := (run_cons_eq_some step).mp hrun
      obtain ⟨hfirst, hrest⟩ := ha s' hl
      exact htrans s s' t hfirst (ih hrest hls)

theorem along_mono {P Q : S → L → S → Prop} (h : ∀ s l s', P s l s' → Q s l s') :
    ∀ {ls : List L} {s : S}, Along step P s ls → Along step Q s ls := by
  intro ls
  induction ls with
  | nil => intro s _; exact trivial
  | cons l ls ih =>
      intro s ha s' hl
      obtain ⟨hp, hrest⟩ := ha s' hl
      exact ⟨h s l s' hp, ih hrest⟩

/-- Whatever an invariant makes true of each step is true all along a run. -/
theorem along_of_inv {Inv : S → Prop} {P : S → L → S → Prop}
    (hstep : ∀ s l s', Inv s → step s l = some s' → P s l s' ∧ Inv s') :
    ∀ {ls : List L} {s : S}, Inv s → Along step P s ls := by
  intro ls
  induction ls with
  | nil => intro s _; exact trivial
  | cons l ls ih =>
      intro s hs s' hl
      obtain ⟨hp, hs'⟩ := hstep s l s' hs hl
      exact ⟨hp, ih hs'⟩

/-- What the admissible steps keep holds at the end of a run that takes no others. -/
theorem run_inv_along {Inv : S → Prop} {P : S → L → S → Prop}
    (hstep : ∀ s l s', Inv s → step s l = some s' → P s l s' → Inv s') :
    ∀ {ls : List L} {s t : S}, Inv s → Along step P s ls → run step s ls = some t → Inv t := by
  intro ls
  induction ls with
  | nil =>
      intro s t hs _ hrun
      rw [run_nil, Option.some.injEq] at hrun
      exact hrun ▸ hs
  | cons l ls ih =>
      intro s t hs ha hrun
      obtain ⟨s', hl, hls⟩ := (run_cons_eq_some step).mp hrun
      obtain ⟨hp, hrest⟩ := ha s' hl
      exact ih (hstep s l s' hs hl hp) hrest hls

/-- A step function that carries more along, and shows the same states, takes the same
runs. -/
theorem along_map {T : Type*} {step' : T → L → Option T} {shown : T → S}
    (h : ∀ t l, (step' t l).map shown = step (shown t) l) {P : S → L → S → Prop} :
    ∀ {ls : List L} {t : T}, Along step P (shown t) ls
      ↔ Along step' (fun t l t' => P (shown t) l (shown t')) t ls := by
  intro ls
  induction ls with
  | nil => intro t; exact Iff.rfl
  | cons l ls ih =>
      intro t
      constructor
      · intro ha t' hl
        obtain ⟨hp, hrest⟩ := ha (shown t') (by rw [← h, hl, Option.map_some])
        exact ⟨hp, ih.mp hrest⟩
      · intro ha s' hl
        rw [← h, Option.map_eq_some_iff] at hl
        obtain ⟨t', hl, rfl⟩ := hl
        obtain ⟨hp, hrest⟩ := ha t' hl
        exact ⟨hp, ih.mpr hrest⟩

/-- **The exactness rule.** If admissible steps keep the invariant and are good, and
a good step from a state satisfying the invariant was admissible, then a run is good
all along exactly when it is admissible all along. The induction is on the run: up to
the first inadmissible step the invariant holds, and that step is not good. -/
theorem along_exact (Inv : S → Prop) (Good : S → L → S → Prop) (Adm : S → L → Prop)
    (hgood : ∀ s l s', Inv s → step s l = some s' → Adm s l → Good s l s' ∧ Inv s')
    (hadm : ∀ s l s', Inv s → step s l = some s' → Good s l s' → Adm s l) :
    ∀ {ls : List L} {s : S}, Inv s →
      (Along step Good s ls ↔ Along step (fun s l _ => Adm s l) s ls) := by
  intro ls
  induction ls with
  | nil => intro s _; exact Iff.rfl
  | cons l ls ih =>
      intro s hs
      constructor
      · intro h s' hl
        obtain ⟨hg, hrest⟩ := h s' hl
        have ha : Adm s l := hadm s l s' hs hl hg
        exact ⟨ha, (ih (hgood s l s' hs hl ha).2).mp hrest⟩
      · intro h s' hl
        obtain ⟨ha, hrest⟩ := h s' hl
        obtain ⟨hg, hs'⟩ := hgood s l s' hs hl ha
        exact ⟨hg, (ih hs').mpr hrest⟩

end Runs

/-! ## 3. Threads over a shared state -/

section Threads

variable {ι σ κ α : Type*} [DecidableEq ι]

/-- The state of all parties: what they share, and what each keeps to itself. -/
structure Config (ι σ κ : Type*) where
  shared : σ
  locals : ι → κ

/-- What one atomic action of a thread does: from the shared state and the thread's
own, the next two, or `none` when the action is not enabled. -/
abbrev Action (ι σ κ α : Type*) := ι → σ → κ → α → Option (σ × κ)

/-- One step of the whole: thread `e.1` takes action `e.2`. -/
def fire (act : Action ι σ κ α) (c : Config ι σ κ) (e : ι × α) : Option (Config ι σ κ) :=
  (act e.1 c.shared (c.locals e.1) e.2).map fun r =>
    ⟨r.1, Function.update c.locals e.1 r.2⟩

theorem fire_eq_some {act : Action ι σ κ α} {c c' : Config ι σ κ} {e : ι × α} :
    fire act c e = some c' ↔ ∃ s' k', act e.1 c.shared (c.locals e.1) e.2 = some (s', k')
      ∧ c' = ⟨s', Function.update c.locals e.1 k'⟩ := by
  simp only [fire, Option.map_eq_some_iff, Prod.exists]
  constructor
  · rintro ⟨s', k', h, rfl⟩
    exact ⟨s', k', h, rfl⟩
  · rintro ⟨s', k', h, rfl⟩
    exact ⟨s', k', h, rfl⟩

/-- The shared state satisfies `I`, and every thread's private state its assertion. -/
def Holds (I : σ → Prop) (A : σ → ι → κ → Prop) (c : Config ι σ κ) : Prop :=
  I c.shared ∧ ∀ i, A c.shared i (c.locals i)

/-- A proof outline for threads: an admissible action keeps the invariant and the
acting thread's assertion and changes the shared state only as its guarantee allows,
and every assertion is stable under the guarantees of the other threads. -/
structure Outline (act : Action ι σ κ α) (Adm : σ → κ → α → Prop)
    (I : σ → Prop) (A : σ → ι → κ → Prop) (G : ι → σ → σ → Prop) : Prop where
  own : ∀ i s k a s' k', I s → A s i k → act i s k a = some (s', k') → Adm s k a →
    I s' ∧ A s' i k' ∧ G i s s'
  stable : ∀ i j s s' k, i ≠ j → I s → G i s s' → A s j k → A s' j k

variable {act : Action ι σ κ α} {Adm : σ → κ → α → Prop} {I : σ → Prop}
  {A : σ → ι → κ → Prop} {G : ι → σ → σ → Prop}

/-- One admissible step keeps everything the outline asserts. -/
theorem Outline.fire (ol : Outline act Adm I A G) {c c' : Config ι σ κ} {e : ι × α}
    (hc : Holds I A c) (hf : fire act c e = some c')
    (hadm : Adm c.shared (c.locals e.1) e.2) :
    Holds I A c' ∧ G e.1 c.shared c'.shared := by
  obtain ⟨s', k', hact, rfl⟩ := fire_eq_some.mp hf
  obtain ⟨hI, hA⟩ := hc
  obtain ⟨hI', hown, hG⟩ := ol.own e.1 c.shared (c.locals e.1) e.2 s' k' hI (hA e.1) hact hadm
  refine ⟨⟨hI', fun j => ?_⟩, hG⟩
  by_cases hj : j = e.1
  · subst hj
    simpa using hown
  · simp only [Function.update_of_ne hj]
    exact ol.stable e.1 j c.shared s' (c.locals j) (Ne.symm hj) hI hG (hA j)

/-- **The rule for threads.** When every action is admissible, what an outline asserts
holds in every state a run reaches. -/
theorem Outline.run (ol : Outline act (fun _ _ _ => True) I A G) {c c' : Config ι σ κ}
    {es : List (ι × α)} (hc : Holds I A c) (hrun : run (Runs.fire act) c es = some c') :
    Holds I A c' :=
  run_inv (Runs.fire act) (fun _ _ _ h hf => (ol.fire h hf trivial).1) hc hrun

/-- The rule for threads, for a run all of whose actions are admissible. -/
theorem Outline.run_along (ol : Outline act Adm I A G) {c c' : Config ι σ κ} {es : List (ι × α)}
    (hc : Holds I A c)
    (hadm : Along (Runs.fire act) (fun c e _ => Adm c.shared (c.locals e.1) e.2) c es)
    (hrun : Runs.run (Runs.fire act) c es = some c') : Holds I A c' :=
  run_inv_along (Runs.fire act) (fun _ _ _ h hf ha => (ol.fire h hf ha).1) hc hadm hrun

/-- What an outline makes true of every step is true all along a run. -/
theorem Outline.along (ol : Outline act (fun _ _ _ => True) I A G)
    {P : Config ι σ κ → ι × α → Config ι σ κ → Prop}
    (hP : ∀ c e c', Holds I A c → Runs.fire act c e = some c' → P c e c')
    {c : Config ι σ κ} {es : List (ι × α)} (hc : Holds I A c) :
    Along (Runs.fire act) P c es :=
  along_of_inv (Runs.fire act) (fun c e c' h hf => ⟨hP c e c' h hf, (ol.fire h hf trivial).1⟩) hc

/-- The exactness rule for threads, from one thread's point of view. -/
theorem Outline.along_exact (ol : Outline act Adm I A G) (Good : σ → σ → Prop)
    (hgood : ∀ i s k a s' k', I s → A s i k → act i s k a = some (s', k') → Adm s k a → Good s s')
    (hadm : ∀ i s k a s' k', I s → A s i k → act i s k a = some (s', k') → Good s s' → Adm s k a)
    {c : Config ι σ κ} {es : List (ι × α)} (hc : Holds I A c) :
    Along (Runs.fire act) (fun c _ c' => Good c.shared c'.shared) c es
      ↔ Along (Runs.fire act) (fun c e _ => Adm c.shared (c.locals e.1) e.2) c es := by
  refine Runs.along_exact (Runs.fire act) (Holds I A) (fun c _ c' => Good c.shared c'.shared)
    (fun c e => Adm c.shared (c.locals e.1) e.2) ?_ ?_ hc
  · intro c e c' h hf ha
    refine ⟨?_, (ol.fire h hf ha).1⟩
    obtain ⟨s', k', hact, rfl⟩ := fire_eq_some.mp hf
    exact hgood e.1 c.shared (c.locals e.1) e.2 s' k' h.1 (h.2 e.1) hact ha
  · intro c e c' h hf hg
    obtain ⟨s', k', hact, rfl⟩ := fire_eq_some.mp hf
    exact hadm e.1 c.shared (c.locals e.1) e.2 s' k' h.1 (h.2 e.1) hact hg

end Threads

end TradeLogistics.Runs
