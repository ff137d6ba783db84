/-
An outbox over many passes.

One pass without contention is a round of `OldestRounds` on the pending rows: it publishes
the oldest of them, the accepted ones are sent, and the others are pending again, with every
lock released. And every round is a pass. So what becomes of an outbox under the command that
is run again and again is what becomes of a list: its rows are sent oldest first, and all that
the broker accepts are sent in the end, in every schedule, exactly when the rows that block
leave a place in the batch.
-/
import TradeLogistics.PoisonRows
import TradeLogistics.OldestRounds

set_option autoImplicit false

namespace TradeLogistics.MessageBus

open TradeLogistics.PyText TradeLogistics.Runs TradeLogistics.UnitOfWork
open TradeLogistics.OldestFirst

section Draining

variable {ι : Type*} [DecidableEq ι] {json : JsonModule} {accepts : OutboxMessage → Bool} {i : ι}
  {c c' : Config ι (Outbox ι) Pass} {steps : List (ι × PassStep)}

/-! ## 1. What a pass leaves as it was -/

/-- Between passes nothing is locked; in its loop a pass holds locks of its own only. -/
def LocksOf (i : ι) (t : Outbox ι) : Pass → Prop
  | .publishing _ _ _ => ∀ id j, t.locks id = some j → j = i
  | _ => ∀ id, t.locks id = none

omit [DecidableEq ι] in
theorem update_ids {changes : List (OutboxMessage × OutboxMessage)} (rows : List OutboxMessage) :
    (UnitOfWork.update (·.message_id) merge_outbox changes rows).map (·.message_id)
      = rows.map (·.message_id) := by
  rw [UnitOfWork.update, List.map_map]
  refine List.map_congr_left fun r _ => ?_
  rw [Function.comp_apply]
  split <;> rfl

theorem release_own {t : Outbox ι} (h : ∀ id j, t.locks id = some j → j = i) (id : Uuid) :
    (t.release i).locks id = none := by
  rw [Outbox.release]
  dsimp only
  split
  · rfl
  · next hother =>
      cases hlock : t.locks id with
      | none => rfl
      | some j => exact absurd (h id j hlock ▸ hlock) hother

/-- A pass that is under way keeps this of the locks, and the identifiers of the rows. -/
theorem relay_step_keeps {t t' : Outbox ι} {k k' : Pass} {a : PassStep}
    (h : relay_step json i t k a = some (t', k')) (hk : ∀ row, k ≠ .request row)
    (hlocks : LocksOf i t k) :
    LocksOf i t' k' ∧ t'.rows.map (·.message_id) = t.rows.map (·.message_id)
      ∧ ∀ row, k' ≠ .request row := by
  unfold relay_step at h
  split at h
  · exact absurd rfl (hk _)
  · split at h
    · cases h
    · cases h
      exact ⟨hlocks, rfl, nofun⟩
    · cases h
      refine ⟨fun id j hlock => ?_, rfl, nofun⟩
      dsimp only at hlock
      split at hlock
      · exact (Option.some.inj hlock).symm
      · rw [hlocks id] at hlock
        cases hlock
  · cases h
    exact ⟨hlocks, rfl, nofun⟩
  · cases h
    exact ⟨hlocks, rfl, nofun⟩
  · cases h
    exact ⟨release_own hlocks, update_ids t.rows, nofun⟩
  · cases h
    exact ⟨release_own hlocks, rfl, nofun⟩
  · cases h
    exact absurd rfl (hk _)
  · cases h
    exact ⟨hlocks, rfl, nofun⟩
  · cases h

/-- **A whole pass** leaves the identifiers, no lock, and everybody else where they were. -/
theorem UncontendedPass.keeps : ∀ {steps : List (ι × PassStep)} {c : Config ι (Outbox ι) Pass},
    UncontendedPass json accepts i c steps c' → (∀ row, c.locals i ≠ .request row) →
    LocksOf i c.shared (c.locals i) →
    (∀ id, c'.shared.locks id = none)
      ∧ c'.shared.rows.map (·.message_id) = c.shared.rows.map (·.message_id)
      ∧ ∀ j, j ≠ i → c'.locals j = c.locals j := by
  intro steps
  induction steps with
  | nil =>
      intro c h _ hlocks
      obtain ⟨n, hreturned⟩ := h.returned
      rw [h.nil] at hreturned ⊢
      rw [hreturned] at hlocks
      exact ⟨hlocks, rfl, fun _ _ => rfl⟩
  | cons e steps ih =>
      intro c h hk hlocks
      obtain ⟨t', k', hstep, -, -, hrest⟩ := h.step
      obtain ⟨hlocks', hids, hk'⟩ := relay_step_keeps hstep hk hlocks
      have hself : Function.update c.locals i k' i = k' := Function.update_self ..
      obtain ⟨hfree, hrows, hothers⟩ := ih hrest (by simpa [hself] using hk')
        (by simpa [hself] using hlocks')
      refine ⟨hfree, hrows.trans hids, fun j hj => ?_⟩
      rw [hothers j hj]
      exact Function.update_of_ne hj _ _

/-! ## 2. A pass is a round -/

section

variable {limit : ℕ} (hids : (c.shared.rows.map (·.message_id)).Nodup)
  (hfree : ∀ id, c.shared.locks id = none) (hstart : c.locals i = .started limit)

omit [DecidableEq ι] in
include hids in
theorem pending_nodup : (pending c.shared).Nodup :=
  (List.Nodup.of_map _ hids).filter _

include hids hfree hstart

/-- What a pass writes: of each row of its batch what its own publish came to. -/
theorem UncontendedPass.settles (h : UncontendedPass json accepts i c steps c') :
    ∃ processed : List (OutboxMessage × OutboxMessage),
      (∀ p ∈ processed, p.1 ∈ pending c.shared
        ∧ (p.2 = p.1 ∨ ∃ now, p.2 = p.1.mark_as_sent now))
      ∧ c'.shared.rows = c.shared.rows.map (settle processed) := by
  cases steps with
  | nil =>
      obtain ⟨n, hreturned⟩ := h.returned
      rw [h.nil, hstart] at hreturned
      cases hreturned
  | cons e steps =>
      obtain ⟨t', k', hstep, -, ⟨-, halone⟩, hrest⟩ := h.step
      rw [hstart] at hstep halone
      rcases started_cases hstep with ⟨ids, batch, ha, hselect, hrows, hlocal⟩ | rfl
      · rw [ha] at halone
        obtain ⟨order, horder, rfl⟩ := halone
        obtain ⟨holdest, -, hmem⟩ := oldest_batch limit hids hfree horder
        rw [holdest, Option.some.injEq] at hselect
        subst hselect
        have hself : Function.update c.locals i k' i = k' := Function.update_self ..
        rcases hlocal with hlocal | ⟨-, hlocal⟩
        · obtain ⟨outcomes, hanswers, hwritten⟩ :=
            publishing_pass steps _ [] 0 _ (hself.trans hlocal) hrest
          obtain ⟨hfirst, hmarks⟩ := marks_of_batch hanswers
          have hprocessed : ∀ p ∈ (order.take limit).zipWith mark outcomes,
              p.1 ∈ pending c.shared ∧ (p.2 = p.1 ∨ ∃ now, p.2 = p.1.mark_as_sent now) := by
            intro p hp
            refine ⟨hmem p.1 (hfirst ▸ List.mem_map_of_mem hp), ?_⟩
            obtain ⟨now, hmark⟩ := hmarks p hp
            rw [hmark]
            split
            · exact .inr ⟨now, rfl⟩
            · exact .inl rfl
          refine ⟨_, hprocessed, ?_⟩
          rw [hwritten, List.nil_append, hrows]
          refine update_settle hids (fun p hp => List.mem_of_mem_filter (hprocessed p hp).1) ?_
          intro p hp
          rcases (hprocessed p hp).2 with hsame | ⟨now, hsent⟩
          · rw [hsame]
            exact SameMessage.refl _
          · rw [hsent]
            exact mark_as_sent_same _ _
        · -- there was nothing to publish
          refine ⟨[], fun p hp => absurd hp List.not_mem_nil, ?_⟩
          rw [hrest.of_returned (hself.trans hlocal)]
          refine hrows.trans ?_
          exact (List.map_id _).symm
      · exact absurd (Function.update_self ..) hrest.not_failed

/-- **The rows that are pending after a pass** are those it did not turn sent. -/
theorem UncontendedPass.pending_eq (h : UncontendedPass json accepts i c steps c') :
    ∃ stays : OutboxMessage → Bool, pending c'.shared = (pending c.shared).filter stays
      ∧ ∀ r ∈ pending c.shared, (stays r = false ↔ r ∈ turned c.shared c'.shared) := by
  obtain ⟨processed, hprocessed, hrows⟩ := h.settles hids hfree hstart
  -- a row that is still pending was not touched
  have hsame : ∀ r ∈ c.shared.rows, (settle processed r).status = .PENDING →
      settle processed r = r ∧ r.status = .PENDING := by
    intro r hr hstatus
    unfold settle at hstatus ⊢
    cases hfind : processed.find? (fun p => p.1.message_id == r.message_id) with
    | none =>
        rw [hfind] at hstatus
        exact ⟨rfl, hstatus⟩
    | some p =>
        rw [hfind] at hstatus
        have hp := List.mem_of_find?_eq_some hfind
        have hid : p.1.message_id = r.message_id := by simpa using List.find?_some hfind
        obtain ⟨hmem, hmark⟩ := hprocessed p hp
        have hpr : p.1 = r := eq_of_id hids (List.mem_of_mem_filter hmem) hr hid
        dsimp only at hstatus ⊢
        rcases hmark with hkept | ⟨now, hsent⟩
        · rw [hkept, hpr] at hstatus ⊢
          exact ⟨rfl, hstatus⟩
        · rw [hsent] at hstatus
          cases hstatus
  refine ⟨fun r => (settle processed r).status == .PENDING, ?_, fun r hr => ?_⟩
  · unfold pending
    rw [hrows, List.filter_map, List.filter_filter]
    calc ((c.shared.rows.filter ((·.status == .PENDING) ∘ settle processed)).map
            (settle processed))
        = (c.shared.rows.filter ((·.status == .PENDING) ∘ settle processed)).map id := by
          refine List.map_congr_left fun r hr => ?_
          obtain ⟨hmem, hstatus⟩ := List.mem_filter.mp hr
          exact (hsame r hmem (by simpa using hstatus)).1
      _ = c.shared.rows.filter ((·.status == .PENDING) ∘ settle processed) := List.map_id _
      _ = _ := by
          refine List.filter_congr fun r hr => ?_
          rw [Function.comp_apply]
          cases hstill : (settle processed r).status == OutboxStatus.PENDING with
          | false => rfl
          | true =>
              rw [(hsame r hr (by simpa using hstill)).2]
              rfl
  · obtain ⟨hmem, hstatus⟩ := List.mem_filter.mp hr
    rw [turned_map hrows, List.mem_filter, hstatus, Bool.true_and]
    dsimp only
    cases (settle processed r).status with
    | PENDING => exact iff_of_false Bool.noConfusion fun h => Bool.noConfusion h.2
    | SENT => exact iff_of_true rfl ⟨hmem, rfl⟩

/-- **A pass is a round** on the pending rows. -/
theorem UncontendedPass.round (h : UncontendedPass json accepts i c steps c') :
    Round (·.created_at) accepts limit (pending c.shared) (pending c'.shared) := by
  obtain ⟨order, horder, hturned⟩ := h.turns hids hfree hstart
  obtain ⟨stays, hpending, hstays⟩ := h.pending_eq hids hfree hstart
  exact ⟨order, horder, stays, hpending, fun r hr => (hstays r hr).trans (hturned r)⟩

/-- **And every round is a pass.** -/
theorem exists_pass_of_round {l : List OutboxMessage}
    (hround : Round (·.created_at) accepts limit (pending c.shared) l) :
    ∃ steps c', UncontendedPass json accepts i c steps c' ∧ pending c'.shared = l := by
  obtain ⟨order, horder, stays, rfl, hstays⟩ := hround
  obtain ⟨steps, c', hpass, hturned⟩ :=
    @oldest_pass _ _ json accepts i c limit hids hfree hstart order horder
  obtain ⟨stays', hpending, hstays'⟩ := hpass.pending_eq hids hfree hstart
  refine ⟨steps, c', hpass, ?_⟩
  rw [hpending]
  refine List.filter_congr fun r hr => ?_
  have hsame : stays' r = false ↔ stays r = false :=
    ((hstays' r hr).trans (hturned r)).trans (hstays r hr).symm
  cases hkept : stays r with
  | false => exact hsame.mpr hkept
  | true =>
      rw [hkept] at hsame
      exact Bool.eq_true_of_not_eq_false fun hgone => Bool.noConfusion (hsame.mp hgone)

end

/-! ## 3. One pass after the other -/

variable (json accepts) in
/-- The command, run again and again: one pass after the other without contention. -/
def Passes : List ι → Config ι (Outbox ι) Pass → Config ι (Outbox ι) Pass → Prop
  | [], c, c' => c' = c
  | i :: passes, c, c' => ∃ steps c₁, UncontendedPass json accepts i c steps c₁
      ∧ Passes passes c₁ c'

/-- The refused pending rows that are at least as old as some row the broker would accept. -/
def blocking_rows (accepts : OutboxMessage → Bool) (t : Outbox ι) : List OutboxMessage :=
  blocking (·.created_at) accepts (pending t)

/-- Passes that are about to start, on an outbox with nobody at work. -/
structure Ready (limit : ℕ) (passes : List ι) (c : Config ι (Outbox ι) Pass) : Prop where
  ids : (c.shared.rows.map (·.message_id)).Nodup
  free : ∀ id, c.shared.locks id = none
  distinct : passes.Nodup
  started : ∀ i ∈ passes, c.locals i = .started limit

variable {limit : ℕ} {passes : List ι}

/-- After the first pass the others are as ready as before. -/
theorem Ready.next (h : Ready limit (i :: passes) c)
    (hpass : UncontendedPass json accepts i c steps c') : Ready limit passes c' := by
  have hstart := h.started i List.mem_cons_self
  obtain ⟨hfree, hids, hothers⟩ := hpass.keeps (by rw [hstart]; exact nofun)
    (by rw [hstart]; exact h.free)
  obtain ⟨hfresh, hdistinct⟩ := List.nodup_cons.mp h.distinct
  refine ⟨hids ▸ h.ids, hfree, hdistinct, fun j hj => ?_⟩
  rw [hothers j fun hji => hfresh (hji ▸ hj)]
  exact h.started j (List.mem_cons_of_mem i hj)

/-- **Passes are rounds**, as many of them. -/
theorem Passes.rounds : ∀ {passes : List ι} {c : Config ι (Outbox ι) Pass},
    Ready limit passes c → Passes json accepts passes c c' →
    Rounds (·.created_at) accepts limit passes.length (pending c.shared) (pending c'.shared) := by
  intro passes
  induction passes with
  | nil =>
      rintro c _ rfl
      rfl
  | cons i passes ih =>
      rintro c h ⟨steps, c₁, hpass, hrest⟩
      exact ⟨_, hpass.round h.ids h.free (h.started i List.mem_cons_self),
        ih (h.next hpass) hrest⟩

/-- **And rounds are passes.** -/
theorem exists_passes_of_rounds : ∀ {passes : List ι} {c : Config ι (Outbox ι) Pass}
    {l : List OutboxMessage}, Ready limit passes c →
    Rounds (·.created_at) accepts limit passes.length (pending c.shared) l →
    ∃ c', Passes json accepts passes c c' ∧ pending c'.shared = l := by
  intro passes
  induction passes with
  | nil =>
      rintro c l _ rfl
      exact ⟨c, rfl, rfl⟩
  | cons i passes ih =>
      rintro c l h ⟨l₁, hround, hrest⟩
      obtain ⟨steps, c₁, hpass, rfl⟩ :=
        @exists_pass_of_round _ _ json _ _ _ _ h.ids h.free (h.started i List.mem_cons_self) _
          hround
      obtain ⟨c', hpasses, hpending⟩ := ih (h.next hpass) hrest
      exact ⟨c', ⟨steps, c₁, hpass, hpasses⟩, hpending⟩

/-- Nothing keeps the passes from being made. -/
theorem exists_passes : ∀ {passes : List ι} {c : Config ι (Outbox ι) Pass},
    Ready limit passes c → ∃ c', Passes json accepts passes c c' := by
  intro passes
  induction passes with
  | nil => exact fun {c} _ => ⟨c, rfl⟩
  | cons i passes ih =>
      intro c h
      obtain ⟨steps, c₁, hpass, -⟩ := @oldest_pass _ _ json accepts i c limit h.ids h.free
        (h.started i List.mem_cons_self) _ (@aheadFirst_arrangement _ _ _ _ accepts _)
      obtain ⟨c', hrest⟩ := ih (h.next hpass)
      exact ⟨c', steps, c₁, hpass, hrest⟩

/-- **When an outbox drains.** With a row that the broker would accept, and passes for as many
rows as it would accept: after them no such row is pending, in every schedule, if and only if
fewer rows than the limit are refused and at least as old as some accepted one. -/
theorem outbox_drains_iff (h : Ready limit passes c)
    (hhealthy : ∃ r ∈ pending c.shared, accepts r = true)
    (hmany : (pending c.shared).countP accepts ≤ passes.length) :
    (∃ c', Passes json accepts passes c c')
      ∧ ((∀ c', Passes json accepts passes c c' → ∀ r ∈ pending c'.shared, accepts r = false)
        ↔ (blocking_rows accepts c.shared).length < limit) := by
  refine ⟨exists_passes h, ?_⟩
  rw [blocking_rows, ← drained_iff (pending_nodup h.ids) hhealthy hmany]
  constructor
  · intro hdrains l hrounds
    obtain ⟨c', hpasses, rfl⟩ := exists_passes_of_rounds h hrounds
    exact hdrains c' hpasses
  · exact fun hdrained c' hpasses => hdrained _ (hpasses.rounds h)

/-- A row that nobody takes before two that the broker accepts, and two passes. -/
def slow_outbox : Config Bool (Outbox Bool) Pass where
  shared := { rows := [released 3 10 long_key, released 4 20 "customs.released",
                released 5 20 "customs.released"],
              locks := fun _ => none, accepted := [] }
  locals := fun _ => .started 2

theorem slow_ready : Ready 2 [true, false] slow_outbox where
  ids := by decide +kernel
  free := fun _ => rfl
  distinct := by decide
  started := fun _ _ => rfl

theorem slow_pending : pending slow_outbox.shared
    = [released 3 10 long_key, released 4 20 "customs.released",
      released 5 20 "customs.released"] := rfl

/-- Two passes with one place beside the row that is refused. -/
theorem outbox_drains_sample :
    (∃ c', Passes blank_json short_key [true, false] slow_outbox c')
      ∧ ((∀ c', Passes blank_json short_key [true, false] slow_outbox c' →
          ∀ r ∈ pending c'.shared, short_key r = false)
        ↔ (blocking_rows short_key slow_outbox.shared).length < 2) := by
  refine outbox_drains_iff slow_ready ?_ ?_
  · rw [slow_pending]
    exact ⟨_, List.mem_cons_of_mem _ List.mem_cons_self, by decide +kernel⟩
  · decide +kernel

/-- **Rows are sent oldest first**, across any number of passes: a row that the broker would
accept and that is still pending has been overtaken by no younger one, and a row that it
refuses is pending for good. -/
theorem sent_oldest_first (h : Ready limit passes c) (hpasses : Passes json accepts passes c c') :
    (∀ r ∈ pending c.shared, ∀ older ∈ pending c'.shared, accepts older = true →
      older.created_at < r.created_at → r ∈ pending c'.shared)
    ∧ ∀ r ∈ pending c.shared, accepts r = false → r ∈ pending c'.shared := by
  have hrounds := hpasses.rounds h
  exact ⟨fun r hr older holder haccepted hlt => hrounds.in_order hr haccepted hlt holder,
    fun r hr hrefused => hrounds.bad_mem hr hrefused⟩

/-- So it is after the two passes. -/
theorem sent_oldest_first_sample : ∃ c',
    Passes blank_json short_key [true, false] slow_outbox c'
      ∧ ∀ r ∈ pending slow_outbox.shared, short_key r = false → r ∈ pending c'.shared := by
  obtain ⟨c', hpasses⟩ := @exists_passes _ _ blank_json short_key 2 _ _ slow_ready
  exact ⟨c', hpasses, (sent_oldest_first slow_ready hpasses).2⟩

end Draining

end TradeLogistics.MessageBus
