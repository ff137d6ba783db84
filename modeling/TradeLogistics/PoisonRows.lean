/-
Rows whose publish raises every time, and what they do to the rows behind them.

A failing row does not stop a pass: the loop goes on, and the row stays pending. But the
next pass takes the oldest rows again, so failing rows come back at the head of every batch,
and with as many of them as a batch holds there is no place left for a row that would be
accepted. What a pass turns sent is the accepted part of its batch (`turned_iff`), so the
question is one about the batch alone, and `OldestFirst` answers it.
-/
import TradeLogistics.OutboxRelay
import TradeLogistics.OldestFirst

set_option autoImplicit false

namespace TradeLogistics.MessageBus

open TradeLogistics.PyText TradeLogistics.Runs TradeLogistics.UnitOfWork
open TradeLogistics.OldestFirst

/-! ## 1. Passes without contention -/

section Uncontended

variable {ι : Type*} [DecidableEq ι] (json : JsonModule) (accepts : OutboxMessage → Bool) (i : ι)

def pending (t : Outbox ι) : List OutboxMessage := t.rows.filter (·.status == .PENDING)

/-- The pending rows that the broker refuses and that are at least as old as every one it
would accept. -/
def poison_ahead (t : Outbox ι) : List OutboxMessage :=
  ahead (·.created_at) accepts (pending t)

/-- A transition while nobody else is at work: the batch is the oldest rows there are, in
some order of those of one time, and a publish comes to what the broker makes of its row. -/
def Uncontended (c : Config ι (Outbox ι) Pass) (e : ι × PassStep) : Prop :=
  e.1 = i ∧ match c.locals i, e.2 with
    | .started limit, .find_pending ids =>
      ∃ order, Arrangement (·.created_at) (pending c.shared) order
        ∧ ids = (order.take limit).map (·.message_id)
    | .publishing _ (row :: _) _, .publish accepted _ => accepted = accepts row
    | _, _ => True

/-- A whole pass without contention, up to the count it returns once its commit went
through. -/
structure UncontendedPass (c : Config ι (Outbox ι) Pass) (steps : List (ι × PassStep))
    (c' : Config ι (Outbox ι) Pass) : Prop where
  ran : run (fire (relay_step json)) c steps = some c'
  alone : Along (fire (relay_step json)) (fun c e _ => Uncontended accepts i c e) c steps
  returned : ∃ n, c'.locals i = .returned n

variable {json accepts i} {c c' : Config ι (Outbox ι) Pass} {steps : List (ι × PassStep)}

/-! ## 2. The loop -/

/-- The first step of a pass is its own. -/
theorem UncontendedPass.step {e : ι × PassStep}
    (h : UncontendedPass json accepts i c (e :: steps) c') :
    ∃ t' k', relay_step json i c.shared (c.locals i) e.2 = some (t', k')
      ∧ e.1 = i ∧ Uncontended accepts i c e
      ∧ UncontendedPass json accepts i ⟨t', Function.update c.locals i k'⟩ steps c' := by
  obtain ⟨c₁, hfire, hrun⟩ := (run_cons_eq_some _).mp h.ran
  obtain ⟨halone, hrest⟩ := h.alone c₁ hfire
  obtain ⟨t', k', hstep, rfl⟩ := fire_eq_some.mp hfire
  have hown := halone.1
  rw [hown] at hstep hrun hrest
  exact ⟨t', k', hstep, hown, halone, hrun, hrest, h.returned⟩

/-- And a step of its own that the circumstances allow begins one. -/
theorem UncontendedPass.cons {a : PassStep} {t' : Outbox ι} {k' : Pass}
    (hstep : relay_step json i c.shared (c.locals i) a = some (t', k'))
    (halone : Uncontended accepts i c (i, a))
    (h : UncontendedPass json accepts i ⟨t', Function.update c.locals i k'⟩ steps c') :
    UncontendedPass json accepts i c ((i, a) :: steps) c' := by
  have hfire : fire (relay_step json) c (i, a) = some ⟨t', Function.update c.locals i k'⟩ :=
    fire_eq_some.mpr ⟨t', k', hstep, rfl⟩
  refine ⟨(run_cons_eq_some _).mpr ⟨_, hfire, h.ran⟩, fun c₁ hc₁ => ?_, h.returned⟩
  rw [hfire, Option.some.injEq] at hc₁
  subst hc₁
  exact ⟨halone, h.alone⟩

theorem UncontendedPass.nil (h : UncontendedPass json accepts i c [] c') : c' = c := by
  have hran := h.ran
  rw [run_nil, Option.some.injEq] at hran
  exact hran.symm

/-- A pass that has ended does nothing more. -/
theorem UncontendedPass.stuck (hstuck : ∀ a, relay_step json i c.shared (c.locals i) a = none)
    (h : UncontendedPass json accepts i c steps c') : c' = c := by
  cases steps with
  | nil => exact h.nil
  | cons e steps =>
      obtain ⟨t', k', hstep, -⟩ := h.step
      rw [hstuck e.2] at hstep
      cases hstep

theorem UncontendedPass.done {n : ℕ} (hc : c.locals i = .returned n) :
    UncontendedPass json accepts i c [] c :=
  ⟨rfl, trivial, n, hc⟩

theorem UncontendedPass.of_returned {n : ℕ} (hc : c.locals i = .returned n)
    (h : UncontendedPass json accepts i c steps c') : c' = c :=
  h.stuck fun a => by rw [hc]; rfl

/-- A failed pass does not return. -/
theorem UncontendedPass.not_failed (h : UncontendedPass json accepts i c steps c') :
    c.locals i ≠ .failed := by
  intro hc
  obtain ⟨n, hreturned⟩ := h.returned
  rw [h.stuck fun a => by rw [hc]; rfl, hc] at hreturned
  cases hreturned

/-- What a pass in its loop can do: publish the next row, commit when there is none, fail. -/
theorem publishing_cases {t t' : Outbox ι} {processed : List (OutboxMessage × OutboxMessage)}
    {todo : List OutboxMessage} {dispatched : ℕ} {a : PassStep} {k' : Pass}
    (h : relay_step json i t (.publishing processed todo dispatched) a = some (t', k')) :
    (∃ row rest accepted now d, todo = row :: rest ∧ a = .publish accepted now
        ∧ t'.rows = t.rows
        ∧ k' = .publishing (processed ++ [mark row (accepted, now)]) rest d)
      ∨ (todo = [] ∧ k' = .returned dispatched ∧ t'.rows =
          UnitOfWork.update (·.message_id) merge_outbox processed t.rows)
      ∨ k' = .failed := by
  cases todo with
  | nil =>
      cases a with
      | commit =>
          cases h
          exact .inr (.inl ⟨rfl, rfl, rfl⟩)
      | fail =>
          cases h
          exact .inr (.inr rfl)
      | store => cases h
      | find_pending ids => cases h
      | publish accepted now => cases h
  | cons row rest =>
      cases a with
      | publish accepted now =>
          refine .inl ⟨row, rest, accepted, now, ?_⟩
          cases accepted with
          | true =>
              cases h
              exact ⟨_, rfl, rfl, rfl, rfl⟩
          | false =>
              cases h
              exact ⟨_, rfl, rfl, rfl, rfl⟩
      | fail =>
          cases h
          exact .inr (.inr rfl)
      | store => cases h
      | find_pending ids => cases h
      | commit => cases h

/-- **The loop of a pass** writes of each row what its own publish came to, and nothing stops
it. -/
theorem publishing_pass : ∀ (steps : List (ι × PassStep)) (todo : List OutboxMessage)
    (processed : List (OutboxMessage × OutboxMessage)) (dispatched : ℕ)
    (c : Config ι (Outbox ι) Pass), c.locals i = .publishing processed todo dispatched →
    UncontendedPass json accepts i c steps c' →
    ∃ outcomes : List (Bool × ℕ), outcomes.map (·.1) = todo.map accepts
      ∧ c'.shared.rows = UnitOfWork.update (·.message_id) merge_outbox
          (processed ++ todo.zipWith mark outcomes) c.shared.rows := by
  -- on the steps left; the rows done with are in `processed`, nothing is written before the end
  intro steps
  induction steps with
  | nil =>
      intro todo processed dispatched c hc h
      obtain ⟨n, hreturned⟩ := h.returned
      rw [h.nil, hc] at hreturned
      cases hreturned
  | cons e steps ih =>
      intro todo processed dispatched c hc h
      obtain ⟨t', k', hstep, -, ⟨-, halone⟩, hrest⟩ := h.step
      rw [hc] at hstep halone
      rcases publishing_cases hstep with ⟨row, rest, accepted, now, d, rfl, ha, hrows, rfl⟩ |
        ⟨rfl, rfl, hrows⟩ | rfl
      · -- the next row, whatever its publish came to
        rw [ha] at halone
        have haccepted : accepted = accepts row := halone
        obtain ⟨outcomes, hanswers, hwritten⟩ := ih rest _ d _ (Function.update_self ..) hrest
        refine ⟨(accepted, now) :: outcomes, ?_, ?_⟩
        · rw [List.map_cons, List.map_cons, hanswers, haccepted]
        · rw [hwritten, hrows, List.zipWith_cons_cons, List.append_assoc]
          rfl
      · refine ⟨[], rfl, ?_⟩
        rw [hrest.of_returned (Function.update_self ..), List.zipWith_nil_left, List.append_nil]
        exact hrows
      · exact absurd (Function.update_self ..) hrest.not_failed

/-! ## 3. What a pass turns sent -/

omit [DecidableEq ι] in
/-- The marks of a batch are of its rows, each by what the broker makes of the row. -/
theorem marks_of_batch : ∀ {batch : List OutboxMessage} {outcomes : List (Bool × ℕ)},
    outcomes.map (·.1) = batch.map accepts →
    (batch.zipWith mark outcomes).map (·.1) = batch
      ∧ ∀ p ∈ batch.zipWith mark outcomes,
        ∃ now, p.2 = if accepts p.1 = true then p.1.mark_as_sent now else p.1 := by
  intro batch
  induction batch with
  | nil =>
      intro outcomes _
      rw [List.zipWith_nil_left]
      exact ⟨rfl, fun p hp => absurd hp List.not_mem_nil⟩
  | cons row batch ih =>
      intro outcomes h
      cases outcomes with
      | nil => cases h
      | cons outcome outcomes =>
          obtain ⟨accepted, now⟩ := outcome
          rw [List.map_cons, List.map_cons, List.cons.injEq] at h
          obtain ⟨haccepted, hrest⟩ := h
          obtain ⟨hrows, hmarks⟩ := ih hrest
          dsimp only at haccepted
          rw [List.zipWith_cons_cons]
          refine ⟨congrArg (row :: ·) hrows, fun p hp => ?_⟩
          rcases List.mem_cons.mp hp with rfl | hp
          · exact ⟨now, by rw [haccepted, mark]⟩
          · exact hmarks p hp

omit [DecidableEq ι] in
/-- A row is turned sent exactly if it is of the batch and accepted. -/
theorem turned_iff {t t' : Outbox ι} {batch : List OutboxMessage} {outcomes : List (Bool × ℕ)}
    (hids : (t.rows.map (·.message_id)).Nodup) (honce : (batch.map (·.message_id)).Nodup)
    (hbatch : ∀ r ∈ batch, r ∈ pending t) (hanswers : outcomes.map (·.1) = batch.map accepts)
    (hrows : t'.rows = UnitOfWork.update (·.message_id) merge_outbox
      (batch.zipWith mark outcomes) t.rows) (r : OutboxMessage) :
    r ∈ turned t t' ↔ r ∈ batch ∧ accepts r = true := by
  obtain ⟨hfirst, hmarks⟩ := marks_of_batch hanswers
  generalize batch.zipWith mark outcomes = processed at hrows hfirst hmarks
  have hmem : ∀ p ∈ processed, p.1 ∈ batch := fun p hp => hfirst ▸ List.mem_map_of_mem hp
  have hpending : ∀ r ∈ batch, r ∈ t.rows ∧ r.status = .PENDING := by
    intro r hr
    simpa [pending] using hbatch r hr
  have hsame : ∀ p ∈ processed, SameMessage p.1 p.2 := by
    intro p hp
    obtain ⟨now, hmark⟩ := hmarks p hp
    rw [hmark]
    split
    · exact mark_as_sent_same _ _
    · exact SameMessage.refl _
  have hprocessed : (processed.map fun p => p.1.message_id).Nodup := by
    rw [← hfirst, List.map_map] at honce
    exact honce
  rw [update_settle hids (fun p hp => (hpending _ (hmem p hp)).1) hsame] at hrows
  rw [turned_map hrows, List.mem_filter, Bool.and_eq_true, beq_iff_eq, beq_iff_eq]
  by_cases hr : r ∈ batch
  · -- a row of the batch becomes what the pass made of it
    obtain ⟨hrow, hstatus⟩ := hpending r hr
    rw [← hfirst] at hr
    obtain ⟨p, hp, rfl⟩ := List.mem_map.mp hr
    obtain ⟨now, hmark⟩ := hmarks p hp
    rw [settle_of_mem hprocessed hp, hmark]
    cases haccepted : accepts p.1 with
    | true => simp [hrow, hstatus, hmem p hp, OutboxMessage.mark_as_sent]
    | false => simp [hstatus]
  · -- and every other row stays
    constructor
    · rintro ⟨hrow, hstatus, hsent⟩
      rw [settle_of_not_mem, hstatus] at hsent
      · cases hsent
      · intro p hp hid
        have hpr := eq_of_id hids (hpending _ (hmem p hp)).1 hrow hid
        exact hr (hpr ▸ hmem p hp)
    · rintro ⟨hr', -⟩
      exact absurd hr' hr

/-! ## 4. From the selection to the commit -/

omit [DecidableEq ι] in
theorem available_free {t : Outbox ι} (hfree : ∀ id, t.locks id = none) :
    t.available = pending t := by
  unfold Outbox.available pending
  refine List.filter_congr fun r _ => ?_
  rw [hfree, Option.isNone_none, Bool.and_true]

omit [DecidableEq ι] in
/-- The oldest rows in any order are a batch, of pending rows and none twice. -/
theorem oldest_batch {t : Outbox ι} {order : List OutboxMessage} (limit : ℕ)
    (hids : (t.rows.map (·.message_id)).Nodup) (hfree : ∀ id, t.locks id = none)
    (horder : Arrangement (·.created_at) (pending t) order) :
    t.select limit ((order.take limit).map (·.message_id)) = some (order.take limit)
      ∧ ((order.take limit).map (·.message_id)).Nodup ∧ ∀ r ∈ order.take limit, r ∈ pending t := by
  have hmem : ∀ r ∈ order.take limit, r ∈ pending t :=
    fun r hr => horder.1.mem_iff.mp (List.mem_of_mem_take hr)
  have hpending : ((pending t).map (·.message_id)).Nodup :=
    List.Nodup.sublist (List.filter_sublist.map _) hids
  have honce : ((order.take limit).map (·.message_id)).Nodup :=
    List.Nodup.sublist ((List.take_sublist _ _).map _)
      ((horder.1.map _).nodup_iff.mpr hpending)
  refine ⟨?_, honce, hmem⟩
  apply select_ids hids _ honce (List.length_take_le _ _)
  · exact horder.2.sublist (List.take_sublist _ _)
  · rwa [available_free hfree]

/-- Where a pass stands once it has its batch. -/
def HasBatch (batch : List OutboxMessage) (k : Pass) : Prop :=
  k = .publishing [] batch 0 ∨ batch = [] ∧ k = .returned 0

/-- What a pass can do first: take a batch, or fail. -/
theorem started_cases {t t' : Outbox ι} {limit : ℕ} {a : PassStep} {k' : Pass}
    (h : relay_step json i t (.started limit) a = some (t', k')) :
    (∃ ids batch, a = .find_pending ids ∧ t.select limit ids = some batch
        ∧ t'.rows = t.rows ∧ HasBatch batch k') ∨ k' = .failed := by
  cases a with
  | find_pending ids =>
      cases hselect : t.select limit ids with
      | none =>
          rw [relay_step, hselect] at h
          cases h
      | some batch =>
          refine .inl ⟨ids, batch, rfl, hselect, ?_⟩
          rw [relay_step, hselect] at h
          cases batch with
          | nil =>
              cases h
              exact ⟨rfl, .inr ⟨rfl, rfl⟩⟩
          | cons row batch =>
              cases h
              exact ⟨rfl, .inl rfl⟩
  | fail =>
      cases h
      exact .inr rfl
  | store => cases h
  | publish accepted now => cases h
  | commit => cases h

theorem find_pending_step {t : Outbox ι} {limit : ℕ} {ids : List Uuid}
    {batch : List OutboxMessage} (hselect : t.select limit ids = some batch) :
    ∃ t' k', relay_step json i t (.started limit) (.find_pending ids) = some (t', k')
      ∧ t'.rows = t.rows ∧ HasBatch batch k' := by
  rw [relay_step, hselect]
  cases batch with
  | nil => exact ⟨_, _, rfl, rfl, .inr ⟨rfl, rfl⟩⟩
  | cons row batch => exact ⟨_, _, rfl, rfl, .inl rfl⟩

/-- Nothing keeps a pass from coming to the end of its loop. -/
theorem publishing_exists : ∀ (todo : List OutboxMessage)
    (processed : List (OutboxMessage × OutboxMessage)) (dispatched : ℕ)
    (c : Config ι (Outbox ι) Pass), c.locals i = .publishing processed todo dispatched →
    ∃ steps c', UncontendedPass json accepts i c steps c' := by
  intro todo
  induction todo with
  | nil =>
      intro processed dispatched c hc
      have hstep : ∃ t', relay_step json i c.shared (c.locals i) .commit
          = some (t', .returned dispatched) := by
        rw [hc]
        exact ⟨_, rfl⟩
      obtain ⟨t', hstep⟩ := hstep
      have halone : Uncontended accepts i c (i, .commit) := by
        refine ⟨rfl, ?_⟩
        rw [hc]
        trivial
      exact ⟨_, _, .cons hstep halone (.done (Function.update_self ..))⟩
  | cons row todo ih =>
      intro processed dispatched c hc
      have hstep : ∃ t' d, relay_step json i c.shared (c.locals i) (.publish (accepts row) 0)
          = some (t', .publishing (processed ++ [mark row (accepts row, 0)]) todo d) := by
        rw [hc]
        cases accepts row with
        | true => exact ⟨_, _, rfl⟩
        | false => exact ⟨_, _, rfl⟩
      obtain ⟨t', d, hstep⟩ := hstep
      have halone : Uncontended accepts i c (i, .publish (accepts row) 0) := by
        refine ⟨rfl, ?_⟩
        rw [hc]
      obtain ⟨steps, c', hrest⟩ := ih (processed ++ [mark row (accepts row, 0)]) d
        ⟨t', Function.update c.locals i _⟩ (Function.update_self ..)
      exact ⟨_, c', .cons hstep halone hrest⟩

/-- From its batch on, a pass turns sent what of it is accepted. -/
theorem turned_of_batch {c₁ : Config ι (Outbox ι) Pass} {batch : List OutboxMessage}
    (hids : (c.shared.rows.map (·.message_id)).Nodup) (honce : (batch.map (·.message_id)).Nodup)
    (hbatch : ∀ r ∈ batch, r ∈ pending c.shared) (hrows : c₁.shared.rows = c.shared.rows)
    (hlocal : HasBatch batch (c₁.locals i)) (h : UncontendedPass json accepts i c₁ steps c')
    (r : OutboxMessage) :
    r ∈ turned c.shared c'.shared ↔ r ∈ batch ∧ accepts r = true := by
  -- with nothing to publish a pass returns before the loop, and writes as little
  rcases hlocal with hlocal | ⟨rfl, hlocal⟩
  · obtain ⟨outcomes, hanswers, hwritten⟩ := publishing_pass steps batch [] 0 c₁ hlocal h
    rw [List.nil_append, hrows] at hwritten
    exact turned_iff hids honce hbatch hanswers hwritten r
  · rw [h.of_returned hlocal]
    refine turned_iff hids honce hbatch (show ([] : List (Bool × ℕ)).map _ = _ from rfl) ?_ r
    rw [hrows, List.zipWith_nil_left, update_nil]

section

variable {limit : ℕ} (hids : (c.shared.rows.map (·.message_id)).Nodup)
  (hfree : ∀ id, c.shared.locks id = none) (hstart : c.locals i = .started limit)

include hids hfree hstart

/-- Every pass turns sent what is accepted of the oldest rows, in some order. -/
theorem UncontendedPass.turns (h : UncontendedPass json accepts i c steps c') :
    ∃ order, Arrangement (·.created_at) (pending c.shared) order
      ∧ ∀ r, r ∈ turned c.shared c'.shared ↔ r ∈ order.take limit ∧ accepts r = true := by
  cases steps with
  | nil =>
      obtain ⟨n, hreturned⟩ := h.returned
      rw [h.nil, hstart] at hreturned
      cases hreturned
  | cons e steps =>
      obtain ⟨t', k', hstep, -, ⟨-, halone⟩, hrest⟩ := h.step
      rw [hstart] at hstep halone
      rcases started_cases hstep with ⟨ids, batch, ha, hselect, hrows, hlocal⟩ | rfl
      · -- the identifiers determine the batch, so it is the head of the order they came from
        rw [ha] at halone
        obtain ⟨order, horder, rfl⟩ := halone
        obtain ⟨holdest, honce, hmem⟩ := oldest_batch limit hids hfree horder
        rw [holdest, Option.some.injEq] at hselect
        subst hselect
        refine ⟨order, horder, turned_of_batch hids honce hmem hrows ?_ hrest⟩
        dsimp only
        rwa [Function.update_self]
      · exact absurd (Function.update_self ..) hrest.not_failed

/-- And for every such order there is a pass. -/
theorem oldest_pass {order : List OutboxMessage}
    (horder : Arrangement (·.created_at) (pending c.shared) order) :
    ∃ steps c', UncontendedPass json accepts i c steps c'
      ∧ ∀ r, r ∈ turned c.shared c'.shared ↔ r ∈ order.take limit ∧ accepts r = true := by
  obtain ⟨holdest, honce, hmem⟩ := oldest_batch limit hids hfree horder
  obtain ⟨t', k', hstep, hrows, hlocal⟩ := @find_pending_step _ _ json i _ _ _ _ holdest
  rw [← hstart] at hstep
  have halone : Uncontended accepts i c
      (i, .find_pending ((order.take limit).map (·.message_id))) := by
    refine ⟨rfl, ?_⟩
    rw [hstart]
    exact ⟨order, horder, rfl⟩
  have hself : Function.update c.locals i k' i = k' := Function.update_self ..
  have hrest : ∃ steps c', UncontendedPass json accepts i
      ⟨t', Function.update c.locals i k'⟩ steps c' := by
    rcases hlocal with hpublishing | ⟨-, hreturned⟩
    · exact publishing_exists _ _ _ _ (hself.trans hpublishing)
    · exact ⟨[], _, .done (hself.trans hreturned)⟩
  obtain ⟨steps, c', hrest⟩ := hrest
  refine ⟨_, c', .cons hstep halone hrest, turned_of_batch hids honce hmem hrows ?_ hrest⟩
  dsimp only
  rwa [hself]

/-- **A poison row blocks the outbox exactly when a batch is full of them**: with a row that
the broker would accept, every pass turns one sent if and only if fewer rows than the limit
are refused and at least as old as all of the accepted. -/
theorem pass_sends_iff (hhealthy : ∃ r ∈ pending c.shared, accepts r = true) :
    (∃ steps c', UncontendedPass json accepts i c steps c')
      ∧ ((∀ steps c', UncontendedPass json accepts i c steps c' →
          turned c.shared c'.shared ≠ [])
        ↔ (poison_ahead accepts c.shared).length < limit) := by
  constructor
  · obtain ⟨steps, c', hpass, -⟩ := oldest_pass hids hfree hstart
      (@aheadFirst_arrangement _ _ _ _ accepts _)
    exact ⟨steps, c', hpass⟩
  · -- passes and orders of the pending rows answer to each other
    rw [poison_ahead, ← good_taken_iff hhealthy]
    constructor
    · intro h order horder
      obtain ⟨steps, c', hpass, hturned⟩ := oldest_pass hids hfree hstart horder
      obtain ⟨r, hr⟩ := List.exists_mem_of_ne_nil _ (h steps c' hpass)
      exact ⟨r, (hturned r).mp hr⟩
    · intro h steps c' hpass
      obtain ⟨order, horder, hturned⟩ := hpass.turns hids hfree hstart
      obtain ⟨r, hr⟩ := h order horder
      exact List.ne_nil_of_mem ((hturned r).mpr hr)

end

end Uncontended

/-- A routing key is a short string on the wire: 255 bytes at most, or `publish` raises. -/
def short_key (row : OutboxMessage) : Bool := decide (row.routing_key.utf8ByteSize ≤ 255)

def released (number created_at : ℕ) (routing_key : String) : OutboxMessage :=
  OutboxMessage.schedule ⟨"CaseReleased", []⟩ ⟨"trade-logistics.topic", routing_key⟩
    ⟨number % 16 ^ 32, Nat.mod_lt _ (by decide)⟩ created_at

/-- 200 characters fit the column, and are 400 bytes. -/
def long_key : String := String.ofList (List.replicate 200 'é')

/-- An outbox whose older row has such a key, and a pass about to start. -/
def stalled_outbox (limit : ℕ) : Config Unit (Outbox Unit) Pass where
  shared := { rows := [released 1 10 long_key, released 2 20 "customs.released"],
              locks := fun _ => none, accepted := [] }
  locals := fun _ => .started limit

theorem stalled_pending (limit : ℕ) : pending (stalled_outbox limit).shared
    = [released 1 10 long_key, released 2 20 "customs.released"] := rfl

/-- Its newer row is one the broker takes. -/
theorem stalled_healthy (limit : ℕ) :
    ∃ r ∈ pending (stalled_outbox limit).shared, short_key r = true := by
  rw [stalled_pending]
  exact ⟨_, List.mem_cons_of_mem _ List.mem_cons_self, by decide +kernel⟩

def blank_json : JsonModule where
  dumps := fun _ => [0x20]
  loads := fun _ => .error .ValueError

/-- With room for one row beside the poison one, a row is sent. -/
theorem pass_sends_sample :
    (∃ steps c', UncontendedPass blank_json short_key () (stalled_outbox 2) steps c')
      ∧ ((∀ steps c', UncontendedPass blank_json short_key () (stalled_outbox 2) steps c' →
          turned (stalled_outbox 2).shared c'.shared ≠ [])
        ↔ (poison_ahead short_key (stalled_outbox 2).shared).length < 2) :=
  pass_sends_iff (by decide +kernel) (fun _ => rfl) rfl (stalled_healthy 2)

/-- **One poison row blocks a relay that takes one row at a time.** -/
theorem poison_row_blocks :
    (∃ r ∈ pending (stalled_outbox 1).shared, short_key r = true)
      ∧ ∃ steps c', UncontendedPass blank_json short_key () (stalled_outbox 1) steps c'
        ∧ turned (stalled_outbox 1).shared c'.shared = [] := by
  refine ⟨stalled_healthy 1, ?_⟩
  have horder : Arrangement (·.created_at) (pending (stalled_outbox 1).shared)
      [released 1 10 long_key, released 2 20 "customs.released"] := by
    rw [stalled_pending]
    exact ⟨List.Perm.refl _, by decide⟩
  obtain ⟨steps, c', hpass, hturned⟩ :=
    @oldest_pass _ _ blank_json short_key () (stalled_outbox 1) 1 (by decide +kernel)
      (fun _ => rfl) rfl _ horder
  refine ⟨steps, c', hpass, List.eq_nil_iff_forall_not_mem.mpr fun r hr => ?_⟩
  obtain ⟨hbatch, haccepted⟩ := (hturned r).mp hr
  have hlong : short_key (released 1 10 long_key) = false := by decide +kernel
  rw [List.take_succ_cons, List.take_zero, List.mem_singleton] at hbatch
  rw [hbatch, hlong] at haccepted
  cases haccepted

end TradeLogistics.MessageBus
