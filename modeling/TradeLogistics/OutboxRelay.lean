/-
The outbox of one module and the passes that relay it.

A pass reads a batch of pending rows and keeps them locked, publishes them one by one,
marks those the broker accepted, and commits all the marks at once. Publishing and
marking are two systems: between a publish the broker accepted and the commit that
records it, the pass may fail, and then the row is pending again and will be published
once more.

The accounting of those duplicates rests on one fact: a row is only published under
its lock, and once a pass has committed it the row is never locked again. So among the
passes that published a row, only the last one can be anything but failed. Rows
committed meanwhile by the requests of the module are part of the picture: a request
is a party of its own, with a single action.
-/
import TradeLogistics.Messages
import TradeLogistics.Runs
import TradeLogistics.UnitOfWork
import Mathlib.Data.List.Sort
import Mathlib.Data.Finset.Card

set_option autoImplicit false

namespace TradeLogistics.MessageBus

open TradeLogistics.PyText TradeLogistics.Runs TradeLogistics.UnitOfWork

/-! ## 1. The table, the locks, the broker -/

/-- The committed rows of an outbox, the locks open transactions hold on them, and
what the broker has accepted so far, each with the pass that published it. -/
structure Outbox (ι : Type*) where
  rows : List OutboxMessage
  locks : Uuid → Option ι
  accepted : List (ι × Publication)

namespace Outbox

variable {ι : Type*}

/-- A row committed under a new identifier; `message_id` is unique. -/
def store (t : Outbox ι) (row : OutboxMessage) : Option (Outbox ι) :=
  if t.rows.any fun r => r.message_id == row.message_id then none
  else some { t with rows := t.rows ++ [row] }

/-- The rows a `SELECT … FOR UPDATE SKIP LOCKED` over the pending ones may return. -/
def available (t : Outbox ι) : List OutboxMessage :=
  t.rows.filter fun r => r.status == .PENDING && (t.locks r.message_id).isNone

/-- `find_pending` with nobody else at work: the oldest available rows. -/
def find_pending (t : Outbox ι) (limit : ℕ) : List OutboxMessage :=
  (t.available.insertionSort fun r r' => r.created_at ≤ r'.created_at).take limit

/-- A batch `find_pending` may come back with, given by its identifiers. Rows are
locked one after the other while other transactions commit, so all that is certain of
the batch is that its rows were available, oldest first, and at most `limit`. -/
def select (t : Outbox ι) (limit : ℕ) (ids : List Uuid) : Option (List OutboxMessage) :=
  let batch := ids.filterMap fun id => t.available.find? fun r => r.message_id == id
  if batch.map (·.message_id) = ids ∧ ids.Nodup ∧ ids.length ≤ limit
      ∧ batch.Pairwise (fun r r' => r.created_at ≤ r'.created_at) then some batch
  else none

variable [DecidableEq ι]

/-- The end of a transaction releases its locks. -/
def release (t : Outbox ι) (i : ι) : Outbox ι :=
  { t with locks := fun id => if t.locks id = some i then none else t.locks id }

end Outbox

/-- One outbox row after a flush. -/
def merge_outbox (loaded after stored : OutboxMessage) : OutboxMessage :=
  { stored with
    status := column loaded.status after.status stored.status
    sent_at := column loaded.sent_at after.sent_at stored.sent_at }

/-! ## 2. Passes -/

/-- Where a party stands. A request commits one row. A pass has been called with a
limit, is in its loop (each row it is done with beside what it made of it, the rows
left, and `dispatched`), or has returned its count. -/
inductive Pass where
  | request (row : OutboxMessage)
  | stored
  | started (limit : ℕ)
  | publishing (processed : List (OutboxMessage × OutboxMessage)) (todo : List OutboxMessage)
      (dispatched : ℕ)
  | returned (dispatched : ℕ)
  | failed

/-- The atomic actions; `publish` says whether the broker accepted the message, and
when. A failure stands for every way a transaction ends without committing: an error,
a crash, a commit that does not go through. -/
inductive PassStep where
  | store
  | find_pending (ids : List Uuid)
  | publish (accepted : Bool) (now : ℕ)
  | commit
  | fail

/-- `OutboxMessageRelay.dispatch`, and the request that fills the outbox. -/
def relay_step {ι : Type*} [DecidableEq ι] (json : JsonModule) (i : ι) (t : Outbox ι) :
    Pass → PassStep → Option (Outbox ι × Pass)
  | .request row, .store => (t.store row).map fun t => (t, .stored)
  | .started limit, .find_pending ids =>
    match t.select limit ids with
    | none => none
    | some [] => some (t, .returned 0)
    | some batch =>
      some ({ t with locks := fun id => if id ∈ ids then some i else t.locks id },
        .publishing [] batch 0)
  | .publishing processed (row :: todo) dispatched, .publish true now =>
    some ({ t with accepted := t.accepted ++ [(i, row.publication json)] },
      .publishing (processed ++ [(row, row.mark_as_sent now)]) todo (dispatched + 1))
  | .publishing processed (row :: todo) dispatched, .publish false _ =>
    -- The row stays as it was loaded: the next pass picks it up again.
    some (t, .publishing (processed ++ [(row, row)]) todo dispatched)
  | .publishing processed [] dispatched, .commit =>
    some ({ t with rows := update (·.message_id) merge_outbox processed t.rows }.release i,
      .returned dispatched)
  | .publishing _ _ _, .fail => some (t.release i, .failed)
  | .request _, .fail => some (t, .failed)
  | .started _, .fail => some (t, .failed)
  | _, _ => none

/-! ## 3. What the guarantees are about -/

section Guarantees

variable {ι : Type*} [DecidableEq ι]

/-- The copies of a row the broker accepted, by the identifier they carry. -/
def copies (t : Outbox ι) (id : Uuid) : List (ι × Publication) :=
  t.accepted.filter fun entry => entry.2.message.message_id == some id.str

/-- The passes that published a row. -/
def publishers (t : Outbox ι) (id : Uuid) : Finset ι :=
  ((copies t id).map (·.1)).toFinset

/-- The rows a pass still has to do with. -/
def Pass.batch : Pass → List OutboxMessage
  | .publishing processed todo _ => processed.map (·.1) ++ todo
  | _ => []

/-- A row under another status. -/
def SameMessage (r r' : OutboxMessage) : Prop :=
  { r' with status := r.status, sent_at := r.sent_at } = r

/-- The rows a transition turned from pending to sent. -/
def turned (t t' : Outbox ι) : List OutboxMessage :=
  ((t.rows.zip t'.rows).filter fun r => r.1.status == .PENDING && r.2.status == .SENT).map (·.1)

/-- What holds in every state. -/
structure RelaySafe (json : JsonModule) (c : Config ι (Outbox ι) Pass) : Prop where
  /-- A row is committed as sent only if the broker accepted it. -/
  sent_accepted : ∀ r ∈ c.shared.rows, r.status = .SENT →
    ∃ entry ∈ c.shared.accepted, entry.2 = r.publication json
  /-- No row is in the batches of two unfinished passes. -/
  exclusive : ∀ i j r r', r ∈ (c.locals i).batch → r' ∈ (c.locals j).batch →
    r.message_id = r'.message_id → i = j
  /-- A row was accepted once for each pass that published it. -/
  accounted : ∀ r ∈ c.shared.rows,
    (copies c.shared r.message_id).length = (publishers c.shared r.message_id).card
  /-- All but at most one of those passes failed. -/
  duplicates : ∀ r ∈ c.shared.rows, ∀ i j, i ∈ publishers c.shared r.message_id →
    j ∈ publishers c.shared r.message_id → c.locals i ≠ .failed → c.locals j ≠ .failed → i = j

/-- What every transition does to the rows: none is lost, and none that is sent is
pending afterwards. -/
def RowsKept (t t' : Outbox ι) : Prop :=
  ∀ r ∈ t.rows, ∃ r' ∈ t'.rows, SameMessage r r' ∧ (r.status = .SENT → r' = r)

/-- What a commit does: the rows turned sent are those of the pass's own accepted
publishes, whatever became of the other rows of its batch, and it returns how many. -/
def CommitCounts (json : JsonModule) (c : Config ι (Outbox ι) Pass) (e : ι × PassStep)
    (c' : Config ι (Outbox ι) Pass) : Prop :=
  ∀ n, e.2 = .commit → c'.locals e.1 = .returned n →
    n = (turned c.shared c'.shared).length
    ∧ ∀ r, r ∈ turned c.shared c'.shared ↔
        r ∈ (c.locals e.1).batch ∧ (e.1, r.publication json) ∈ c.shared.accepted

end Guarantees

/-! ## 4. What each party knows -/

section Invariant

variable {ι : Type*} [DecidableEq ι] (json : JsonModule)

/-- The messages a party had accepted, in order. -/
def published_by (t : Outbox ι) (i : ι) : List Publication :=
  (t.accepted.filter fun entry => entry.1 = i).map (·.2)

/-- The invariant of the table: a locked row is pending, a sent row was accepted. -/
structure TableSound (t : Outbox ι) : Prop where
  ids : (t.rows.map (·.message_id)).Nodup
  locked : ∀ id i, t.locks id = some i → ∃ r ∈ t.rows, r.message_id = id ∧ r.status = .PENDING
  sent : ∀ r ∈ t.rows, r.status = .SENT → ∃ entry ∈ t.accepted, entry.2 = r.publication json

/-- A pass in its loop: its batch is pending and locked by it, what it has marked is
what it had accepted, and of those rows it is the last publisher. -/
structure InLoop (t : Outbox ι) (i : ι) (processed : List (OutboxMessage × OutboxMessage))
    (todo : List OutboxMessage) (dispatched : ℕ) : Prop where
  ids : ((processed.map (·.1) ++ todo).map (·.message_id)).Nodup
  rows : ∀ r ∈ processed.map (·.1) ++ todo,
    r ∈ t.rows ∧ r.status = .PENDING ∧ t.locks r.message_id = some i
  marks : ∀ p ∈ processed, p.2 = p.1 ∨ ∃ now, p.2 = p.1.mark_as_sent now
  published : published_by t i
    = (processed.filter (·.2.status == .SENT)).map fun p => p.1.publication json
  count : dispatched = (processed.filter (·.2.status == .SENT)).length
  last : ∀ p ∈ processed, p.2.status = .SENT →
    ((copies t p.1.message_id).map (·.1)).getLast? = some i

/-- A pass that committed: what it published is sent, and it published it last. -/
structure Settled (t : Outbox ι) (i : ι) : Prop where
  once : ((published_by t i).map (·.message.message_id)).Nodup
  last : ∀ id, i ∈ (copies t id).map (·.1) →
    ((copies t id).map (·.1)).getLast? = some i
      ∧ ∃ r ∈ t.rows, r.message_id = id ∧ r.status = .SENT

/-- What a party knows of the table. -/
def Pass.Knows (t : Outbox ι) (i : ι) : Pass → Prop
  | .request row => row.status = .PENDING ∧ published_by t i = []
  | .stored => published_by t i = []
  | .started _ => published_by t i = []
  | .publishing processed todo dispatched => InLoop json t i processed todo dispatched
  | .returned _ => Settled t i
  | .failed => ((published_by t i).map (·.message.message_id)).Nodup

/-- What one party guarantees the others: their locks stay, it marks and publishes only
rows it holds the lock of. -/
structure Respects (i : ι) (t t' : Outbox ι) : Prop where
  rows : ∀ r ∈ t.rows, r ∈ t'.rows ∨ (r.status = .PENDING ∧ t.locks r.message_id = some i
    ∧ ∃ r' ∈ t'.rows, SameMessage r r' ∧ r'.status = .SENT)
  locks : ∀ id j, j ≠ i → t.locks id = some j → t'.locks id = some j
  accepted : t'.accepted = t.accepted ∨ ∃ row : OutboxMessage,
    t'.accepted = t.accepted ++ [(i, row.publication json)] ∧ t.locks row.message_id = some i

/-! ## 5. Small facts about rows and copies -/

omit [DecidableEq ι] in
theorem publication_same {r r' : OutboxMessage} (h : SameMessage r r') :
    r'.publication json = r.publication json := by
  rw [← h]
  rfl

theorem SameMessage.refl (r : OutboxMessage) : SameMessage r r := rfl

theorem same_id {r r' : OutboxMessage} (h : SameMessage r r') : r'.message_id = r.message_id := by
  rw [← h]

theorem mark_as_sent_same (r : OutboxMessage) (now : ℕ) : SameMessage r (r.mark_as_sent now) := rfl

/-- Flushing a row over itself writes what the program left. -/
theorem merge_outbox_current {r r' : OutboxMessage} (h : SameMessage r r') :
    merge_outbox r r' r = r' := by
  simp only [merge_outbox, column_current]
  rw [← h]

omit [DecidableEq ι] in
theorem copies_append (t : Outbox ι) (entry : ι × Publication) (id : Uuid) :
    copies { t with accepted := t.accepted ++ [entry] } id
      = copies t id ++ if entry.2.message.message_id = some id.str then [entry] else [] := by
  by_cases h : entry.2.message.message_id = some id.str
  · simp [copies, List.filter_append, h]
  · simp [copies, List.filter_append, h]

theorem published_by_append (t : Outbox ι) (i j : ι) (p : Publication) :
    published_by { t with accepted := t.accepted ++ [(i, p)] } j
      = published_by t j ++ if i = j then [p] else [] := by
  by_cases h : i = j
  · simp [published_by, List.filter_append, h]
  · simp [published_by, List.filter_append, h]

/-- A party that published a row is among those its copies name. -/
theorem mem_copies_iff (t : Outbox ι) (i : ι) (id : Uuid) :
    i ∈ (copies t id).map (·.1)
      ↔ some id.str ∈ (published_by t i).map (·.message.message_id) := by
  simp only [copies, published_by, List.mem_map, List.mem_filter]
  constructor
  · rintro ⟨⟨j, p⟩, ⟨hmem, hid⟩, rfl⟩
    exact ⟨p, ⟨(j, p), ⟨hmem, by simp⟩, rfl⟩, by simpa using hid⟩
  · rintro ⟨p, ⟨⟨j, q⟩, ⟨hmem, hj⟩, rfl⟩, hid⟩
    exact ⟨(j, q), ⟨hmem, by simpa using hid⟩, by simpa using hj⟩

/-! ## 6. The commit -/

/-- What the table holds for a row once the marks of a pass are written. -/
def settle (processed : List (OutboxMessage × OutboxMessage)) (r : OutboxMessage) :
    OutboxMessage :=
  match processed.find? fun p => p.1.message_id == r.message_id with
  | some p => p.2
  | none => r

theorem eq_of_id {rows : List OutboxMessage} (hids : (rows.map (·.message_id)).Nodup)
    {r r' : OutboxMessage} (hr : r ∈ rows) (hr' : r' ∈ rows)
    (h : r.message_id = r'.message_id) : r = r' :=
  List.inj_on_of_nodup_map hids hr hr' h

variable {json} {t : Outbox ι} {i : ι} {processed : List (OutboxMessage × OutboxMessage)}
  {todo : List OutboxMessage} {dispatched : ℕ}

theorem InLoop.mem_rows (h : InLoop json t i processed todo dispatched)
    {p : OutboxMessage × OutboxMessage} (hp : p ∈ processed) : p.1 ∈ t.rows :=
  (h.rows p.1 (List.mem_append_left _ (List.mem_map_of_mem hp))).1

theorem InLoop.marked (h : InLoop json t i processed todo dispatched)
    {p : OutboxMessage × OutboxMessage} (hp : p ∈ processed) : SameMessage p.1 p.2 := by
  rcases h.marks p hp with he | ⟨now, he⟩
  · rw [he]
    exact SameMessage.refl _
  · rw [he]
    exact mark_as_sent_same _ _

omit [DecidableEq ι] in
/-- Writing what was made of some rows replaces each of them by it. -/
theorem update_settle {rows : List OutboxMessage} (hids : (rows.map (·.message_id)).Nodup)
    (hrows : ∀ p ∈ processed, p.1 ∈ rows) (hsame : ∀ p ∈ processed, SameMessage p.1 p.2) :
    UnitOfWork.update (·.message_id) merge_outbox processed rows
      = rows.map (settle processed) := by
  refine List.map_congr_left fun r hr => ?_
  unfold settle
  cases hfind : processed.find? (fun p => p.1.message_id == r.message_id) with
  | none => rfl
  | some p =>
      have hp := List.mem_of_find?_eq_some hfind
      have hid : p.1.message_id = r.message_id := by simpa using List.find?_some hfind
      have hpr : p.1 = r := eq_of_id hids (hrows p hp) hr hid
      dsimp only
      rw [← hpr]
      exact merge_outbox_current (hsame p hp)

/-- The commit of a pass replaces each row it is done with by what it made of it. -/
theorem InLoop.update (hs : TableSound json t) (h : InLoop json t i processed todo dispatched) :
    UnitOfWork.update (·.message_id) merge_outbox processed t.rows
      = t.rows.map (settle processed) :=
  update_settle hs.ids (fun _ hp => h.mem_rows hp) fun _ hp => h.marked hp

theorem InLoop.settle_same (h : InLoop json t i processed todo dispatched) (hs : TableSound json t)
    {r : OutboxMessage} (hr : r ∈ t.rows) : SameMessage r (settle processed r) := by
  unfold settle
  cases hfind : processed.find? (fun p => p.1.message_id == r.message_id) with
  | none => exact SameMessage.refl r
  | some p =>
      have hp := List.mem_of_find?_eq_some hfind
      have hid : p.1.message_id = r.message_id := by simpa using List.find?_some hfind
      have hpr : p.1 = r := eq_of_id hs.ids (h.mem_rows hp) hr hid
      dsimp only
      rw [← hpr]
      exact h.marked hp

/-- A row the pass did not process is left alone. -/
theorem settle_of_not_mem {r : OutboxMessage}
    (h : ∀ p ∈ processed, p.1.message_id ≠ r.message_id) : settle processed r = r := by
  have hnone : processed.find? (fun p => p.1.message_id == r.message_id) = none := by
    rw [List.find?_eq_none]
    intro p hp
    simpa using h p hp
  rw [settle, hnone]

omit [DecidableEq ι] in
/-- A processed row becomes what was made of it. -/
theorem settle_of_mem (hids : (processed.map fun p => p.1.message_id).Nodup)
    {p : OutboxMessage × OutboxMessage} (hp : p ∈ processed) : settle processed p.1 = p.2 := by
  unfold settle
  cases hfind : processed.find? (fun q => q.1.message_id == p.1.message_id) with
  | none =>
      rw [List.find?_eq_none] at hfind
      exact absurd (by simp) (hfind p hp)
  | some q =>
      have hq := List.mem_of_find?_eq_some hfind
      have hid : q.1.message_id = p.1.message_id := by simpa using List.find?_some hfind
      have hqp : q = p := List.inj_on_of_nodup_map hids hq hp hid
      rw [hqp]

theorem InLoop.processed_ids (h : InLoop json t i processed todo dispatched) :
    (processed.map fun p => p.1.message_id).Nodup := by
  have hall := h.ids
  rw [List.map_append, List.nodup_append, List.map_map] at hall
  exact hall.1

theorem InLoop.settle_mem (h : InLoop json t i processed todo dispatched)
    {p : OutboxMessage × OutboxMessage} (hp : p ∈ processed) : settle processed p.1 = p.2 :=
  settle_of_mem h.processed_ids hp

/-- A pending row is turned sent by the commit exactly when the pass marked it. -/
theorem InLoop.settle_sent (h : InLoop json t i processed todo dispatched)
    (hs : TableSound json t) {r : OutboxMessage} (hr : r ∈ t.rows) (hp : r.status = .PENDING) :
    (settle processed r).status = .SENT
      ↔ r ∈ (processed.filter (·.2.status == .SENT)).map (·.1) := by
  constructor
  · intro hsent
    by_cases hmem : ∃ p ∈ processed, p.1.message_id = r.message_id
    · obtain ⟨p, hpp, hid⟩ := hmem
      have hpr : p.1 = r := eq_of_id hs.ids (h.mem_rows hpp) hr hid
      rw [← hpr, h.settle_mem hpp] at hsent
      exact List.mem_map.mpr ⟨p, List.mem_filter.mpr ⟨hpp, by simpa using hsent⟩, hpr⟩
    · rw [settle_of_not_mem fun p hpp hid => hmem ⟨p, hpp, hid⟩, hp] at hsent
      cases hsent
  · intro hmem
    obtain ⟨p, hpf, rfl⟩ := List.mem_map.mp hmem
    obtain ⟨hpp, hsent⟩ := List.mem_filter.mp hpf
    rw [h.settle_mem hpp]
    simpa using hsent

/-! ## 7. One action

Each action keeps the table sound and leaves the acting party with what it should
know; what it did to the others is in `Respects`. -/

omit [DecidableEq ι] in
theorem Respects.refl (t : Outbox ι) : Respects json i t t where
  rows := fun _ hr => .inl hr
  locks := fun _ _ _ h => h
  accepted := .inl rfl

omit [DecidableEq ι] in
/-- What a store does: one row more, under an identifier that is new. -/
theorem store_ok {row : OutboxMessage} {t' : Outbox ι} (hstore : t.store row = some t') :
    (∀ r ∈ t.rows, r.message_id ≠ row.message_id)
      ∧ t' = { t with rows := t.rows ++ [row] } := by
  unfold Outbox.store at hstore
  by_cases hdup : (t.rows.any fun r => r.message_id == row.message_id) = true
  · rw [if_pos hdup] at hstore
    cases hstore
  · rw [if_neg hdup, Option.some.injEq] at hstore
    refine ⟨fun r hr hid => hdup (List.any_eq_true.mpr ⟨r, hr, ?_⟩), hstore.symm⟩
    simpa using hid

omit [DecidableEq ι] in
/-- The table stays sound when a pending row is stored. -/
theorem store_table {row : OutboxMessage} {t' : Outbox ι} (hs : TableSound json t)
    (hpending : row.status = .PENDING) (hstore : t.store row = some t') : TableSound json t' := by
  obtain ⟨hnew, rfl⟩ := store_ok hstore
  refine ⟨?_, ?_, ?_⟩
  · rw [List.map_append, List.nodup_append]
    refine ⟨hs.ids, List.nodup_singleton _, ?_⟩
    rintro a ha b hb rfl
    obtain ⟨r, hr, hid⟩ := List.mem_map.mp ha
    rw [List.map_cons, List.map_nil, List.mem_singleton] at hb
    exact hnew r hr (hid.trans hb)
  · intro id j hlock
    obtain ⟨r, hr, hid, hp⟩ := hs.locked id j hlock
    exact ⟨r, List.mem_append_left _ hr, hid, hp⟩
  · intro r hr hsent
    rcases List.mem_append.mp hr with hr | hr
    · exact hs.sent r hr hsent
    · rw [List.mem_singleton.mp hr, hpending] at hsent
      cases hsent

omit [DecidableEq ι] in
/-- A request commits its row. -/
theorem store_sound {row : OutboxMessage} {t' : Outbox ι} (hs : TableSound json t)
    (hpending : row.status = .PENDING) (hstore : t.store row = some t') :
    TableSound json t' ∧ Respects json i t t' ∧ t'.accepted = t.accepted := by
  have htable := store_table hs hpending hstore
  obtain ⟨-, rfl⟩ := store_ok hstore
  exact ⟨htable, ⟨fun r hr => .inl (List.mem_append_left _ hr), fun _ _ _ h => h, .inl rfl⟩, rfl⟩

omit [DecidableEq ι] in
/-- What a batch is: rows of the table under distinct identifiers, pending and
unlocked. -/
theorem select_batch {limit : ℕ} {ids : List Uuid} {batch : List OutboxMessage}
    (h : t.select limit ids = some batch) :
    batch.map (·.message_id) = ids ∧ ids.Nodup
      ∧ ∀ r ∈ batch, r ∈ t.rows ∧ r.status = .PENDING ∧ t.locks r.message_id = none := by
  unfold Outbox.select at h
  dsimp only at h
  split at h
  · next hok =>
    rw [Option.some.injEq] at h
    subst h
    refine ⟨hok.1, hok.2.1, fun r hr => ?_⟩
    obtain ⟨id, -, hfind⟩ := List.mem_filterMap.mp hr
    have havailable := List.mem_of_find?_eq_some hfind
    simpa [Outbox.available] using havailable
  · cases h

/-- A pass locks its batch. -/
theorem find_pending_sound {limit : ℕ} {ids : List Uuid} {batch : List OutboxMessage}
    (hs : TableSound json t) (hnone : published_by t i = [])
    (hselect : t.select limit ids = some batch) :
    let t' : Outbox ι := { t with locks := fun id => if id ∈ ids then some i else t.locks id }
    TableSound json t' ∧ InLoop json t' i [] batch 0 ∧ Respects json i t t' := by
  obtain ⟨hids, hnodup, hbatch⟩ := select_batch hselect
  refine ⟨⟨hs.ids, ?_, hs.sent⟩, ?_, ⟨fun _ hr => .inl hr, ?_, .inl rfl⟩⟩
  · intro id j hlock
    dsimp only at hlock
    by_cases hid : id ∈ ids
    · obtain ⟨r, hr, rfl⟩ := List.mem_map.mp (hids.symm ▸ hid)
      exact ⟨r, (hbatch r hr).1, rfl, (hbatch r hr).2.1⟩
    · rw [if_neg hid] at hlock
      exact hs.locked id j hlock
  · refine ⟨by simpa [hids] using hnodup, ?_, by simp, hnone, rfl, by simp⟩
    intro r hr
    rw [List.map_nil, List.nil_append] at hr
    obtain ⟨hrow, hp, -⟩ := hbatch r hr
    refine ⟨hrow, hp, ?_⟩
    have hid : r.message_id ∈ ids := hids ▸ List.mem_map_of_mem hr
    dsimp only
    rw [if_pos hid]
  · -- the rows of the batch were locked by nobody, so no lock of another is taken
    intro id j _ hlock
    dsimp only
    by_cases hid : id ∈ ids
    · obtain ⟨r, hr, rfl⟩ := List.mem_map.mp (hids.symm ▸ hid)
      rw [(hbatch r hr).2.2] at hlock
      cases hlock
    · rw [if_neg hid]
      exact hlock

/-- A pass publishes the next row of its batch. -/
theorem publish_sound {row : OutboxMessage} {now : ℕ} (hs : TableSound json t)
    (h : InLoop json t i processed (row :: todo) dispatched) :
    let t' : Outbox ι := { t with accepted := t.accepted ++ [(i, row.publication json)] }
    TableSound json t'
      ∧ InLoop json t' i (processed ++ [(row, row.mark_as_sent now)]) todo (dispatched + 1)
      ∧ Respects json i t t' := by
  have hrow := h.rows row (List.mem_append_right _ List.mem_cons_self)
  refine ⟨⟨hs.ids, hs.locked, ?_⟩, ⟨?_, ?_, ?_, ?_, ?_, ?_⟩,
    ⟨fun _ hr => .inl hr, fun _ _ _ hl => hl, .inr ⟨row, rfl, hrow.2.2⟩⟩⟩
  · intro r hr hsent
    obtain ⟨entry, hentry, he⟩ := hs.sent r hr hsent
    exact ⟨entry, List.mem_append_left _ hentry, he⟩
  · simpa using h.ids
  · intro r hr
    exact h.rows r (by simpa using hr)
  · intro p hp
    rcases List.mem_append.mp hp with hp | hp
    · exact h.marks p hp
    · rw [List.mem_singleton.mp hp]
      exact .inr ⟨now, rfl⟩
  · rw [published_by_append, if_pos rfl, h.published, List.filter_append, List.map_append]
    rfl
  · rw [List.filter_append, List.length_append, ← h.count]
    rfl
  · intro p hp hsent
    rw [copies_append, List.map_append]
    rcases List.mem_append.mp hp with hp | hp
    · -- the copy just accepted is of another row, or it is the last of this one
      by_cases hid : (row.publication json).message.message_id = some p.1.message_id.str
      · simp [hid]
      · rw [if_neg hid, List.map_nil, List.append_nil]
        exact h.last p hp hsent
    · rw [List.mem_singleton.mp hp]
      simp [OutboxMessage.publication]

/-- A refused publish leaves everything as it is but the place in the loop. -/
theorem refuse_sound {row : OutboxMessage}
    (h : InLoop json t i processed (row :: todo) dispatched) :
    InLoop json t i (processed ++ [(row, row)]) todo dispatched := by
  have hpending := (h.rows row (List.mem_append_right _ List.mem_cons_self)).2.1
  -- the row is still pending, so the marked rows are those there were
  have hfilter : (processed ++ [(row, row)]).filter (·.2.status == .SENT)
      = processed.filter (·.2.status == .SENT) := by
    simp [List.filter_append, hpending]
  refine ⟨by simpa using h.ids, fun r hr => h.rows r (by simpa using hr), ?_, ?_, ?_, ?_⟩
  · intro p hp
    rcases List.mem_append.mp hp with hp | hp
    · exact h.marks p hp
    · rw [List.mem_singleton.mp hp]
      exact .inl rfl
  · rw [hfilter]
    exact h.published
  · rw [hfilter]
    exact h.count
  · intro p hp hsent
    rcases List.mem_append.mp hp with hp | hp
    · exact h.last p hp hsent
    · rw [List.mem_singleton.mp hp, hpending] at hsent
      cases hsent

/-- In its loop, a pass has had each row accepted at most once. -/
theorem InLoop.once (h : InLoop json t i processed todo dispatched) :
    ((published_by t i).map (·.message.message_id)).Nodup := by
  have hsub : ((processed.filter (·.2.status == .SENT)).map fun p => p.1.message_id).Nodup :=
    List.Nodup.sublist (List.filter_sublist.map _) h.processed_ids
  rw [h.published, List.map_map]
  have hcomp : (fun p : Publication => p.message.message_id) ∘
      (fun p : OutboxMessage × OutboxMessage => p.1.publication json)
      = (fun id : Uuid => some id.str) ∘ fun p => p.1.message_id := rfl
  rw [hcomp, ← List.map_map]
  refine List.Nodup.map ?_ hsub
  intro a b hab
  exact Uuid.str_injective (Option.some.inj hab)

/-- A pass that published nothing has nothing to answer for. -/
theorem settled_of_none (hnone : published_by t i = []) : Settled t i := by
  refine ⟨by simp [hnone], fun id hid => ?_⟩
  rw [mem_copies_iff, hnone] at hid
  cases hid

/-- What a pass has processed it holds locked. -/
theorem InLoop.locked (h : InLoop json t i processed todo dispatched) :
    ∀ p ∈ processed, p.1 ∈ t.rows ∧ p.1.status = .PENDING
      ∧ t.locks p.1.message_id = some i :=
  fun p hp => h.rows p.1 (List.mem_append_left _ (List.mem_map_of_mem hp))

/-- The table once a pass has written its marks and given up its locks. -/
def settled_table (t : Outbox ι) (i : ι) (processed : List (OutboxMessage × OutboxMessage)) :
    Outbox ι :=
  { t with rows := t.rows.map (settle processed) }.release i

/-- It is sound: identifiers stay, and what is sent now was accepted. -/
theorem settled_table_sound (hs : TableSound json t)
    (h : InLoop json t i processed [] dispatched) :
    TableSound json (settled_table t i processed) := by
  refine ⟨?_, ?_, ?_⟩
  · have hids : (t.rows.map (settle processed)).map (·.message_id) = t.rows.map (·.message_id) := by
      rw [List.map_map]
      exact List.map_congr_left fun r hr => same_id (h.settle_same hs hr)
    change ((t.rows.map (settle processed)).map (·.message_id)).Nodup
    rw [hids]
    exact hs.ids
  · intro id j hlock
    simp only [settled_table, Outbox.release] at hlock
    split at hlock
    · cases hlock
    · next hne =>
      obtain ⟨r, hr, rfl, hp⟩ := hs.locked id j hlock
      -- the row is locked by another pass, so this one did not have it
      have hkept : settle processed r = r := by
        refine settle_of_not_mem fun p hp hid => hne ?_
        rw [← hid]
        exact (h.locked p hp).2.2
      exact ⟨r, List.mem_map.mpr ⟨r, hr, hkept⟩, rfl, hp⟩
  · intro r' hr' hsent
    obtain ⟨r, hr, rfl⟩ := List.mem_map.mp hr'
    rw [publication_same json (h.settle_same hs hr)]
    cases hst : r.status with
    | SENT => exact hs.sent r hr hst
    | PENDING =>
        obtain ⟨p, hp, rfl⟩ := List.mem_map.mp ((h.settle_sent hs hr hst).mp hsent)
        have hmem : p.1.publication json ∈ published_by t i := by
          rw [h.published]
          exact List.mem_map_of_mem hp
        obtain ⟨entry, hentry, he⟩ := List.mem_map.mp hmem
        exact ⟨entry, List.mem_of_mem_filter hentry, he⟩

/-- What the pass published is settled: the last copy of it is its own, and its row is
marked. -/
theorem settled_table_settled (hs : TableSound json t)
    (h : InLoop json t i processed [] dispatched) : Settled (settled_table t i processed) i := by
  refine ⟨h.once, ?_⟩
  intro id hid
  have hpub := (mem_copies_iff t i id).mp hid
  rw [h.published, List.map_map] at hpub
  obtain ⟨p, hp, hpid⟩ := List.mem_map.mp hpub
  obtain ⟨hpp, hsent⟩ := List.mem_filter.mp hp
  have hp_id : p.1.message_id = id := Uuid.str_injective (Option.some.inj hpid)
  have hstatus : p.2.status = .SENT := by simpa using hsent
  subst hp_id
  refine ⟨h.last p hpp hstatus, settle processed p.1, ?_, ?_, ?_⟩
  · exact List.mem_map_of_mem (h.locked p hpp).1
  · exact same_id (h.settle_same hs (h.locked p hpp).1)
  · rw [h.settle_mem hpp, hstatus]

/-- The marks are of rows the pass had locked, and only of those. -/
theorem settled_table_respects (hs : TableSound json t)
    (h : InLoop json t i processed [] dispatched) :
    Respects json i t (settled_table t i processed) := by
  refine ⟨?_, ?_, .inl rfl⟩
  · intro r hr
    by_cases hsent : r.status = .PENDING ∧ (settle processed r).status = .SENT
    · -- turned by this commit: a row it had locked
      refine .inr ⟨hsent.1, ?_, settle processed r, List.mem_map_of_mem hr,
        h.settle_same hs hr, hsent.2⟩
      obtain ⟨p, hp, rfl⟩ := List.mem_map.mp ((h.settle_sent hs hr hsent.1).mp hsent.2)
      exact (h.locked p (List.mem_of_mem_filter hp)).2.2
    · refine .inl (List.mem_map.mpr ⟨r, hr, ?_⟩)
      by_cases hmem : ∃ p ∈ processed, p.1.message_id = r.message_id
      · obtain ⟨p, hp, hid⟩ := hmem
        have hpr : p.1 = r := eq_of_id hs.ids (h.locked p hp).1 hr hid
        rw [← hpr, h.settle_mem hp]
        rcases h.marks p hp with he | ⟨now, he⟩
        · exact he
        · refine absurd ⟨hpr ▸ (h.locked p hp).2.1, ?_⟩ hsent
          rw [← hpr, h.settle_mem hp, he]
          rfl
      · exact settle_of_not_mem fun p hp hid => hmem ⟨p, hp, hid⟩
  · intro id j hne hlock
    simp only [settled_table, Outbox.release, hlock, Option.some.injEq, if_neg hne]

/-- A pass commits its marks. -/
theorem commit_sound (hs : TableSound json t) (h : InLoop json t i processed [] dispatched) :
    let t' : Outbox ι :=
      { t with rows := UnitOfWork.update (·.message_id) merge_outbox processed t.rows }.release i
    TableSound json t' ∧ Settled t' i ∧ Respects json i t t' := by
  have hrows : UnitOfWork.update (·.message_id) merge_outbox processed t.rows
      = t.rows.map (settle processed) := h.update hs
  rw [hrows]
  exact ⟨settled_table_sound hs h, settled_table_settled hs h, settled_table_respects hs h⟩

theorem release_sound (hs : TableSound json t) :
    TableSound json (t.release i) ∧ Respects json i t (t.release i) := by
  refine ⟨⟨hs.ids, ?_, hs.sent⟩, ⟨fun _ hr => .inl hr, ?_, .inl rfl⟩⟩
  · intro id j hlock
    simp only [Outbox.release] at hlock
    split at hlock
    · cases hlock
    · exact hs.locked id j hlock
  · intro id j hne hlock
    simp only [Outbox.release, hlock, Option.some.injEq, if_neg hne]

/-! ## 8. The outline -/

/-- What a party knows survives what the others do. -/
theorem Pass.Knows.mono {j : ι} {t t' : Outbox ι} {k : Pass} (hij : i ≠ j)
    (hs : TableSound json t) (hr : Respects json i t t') (hk : k.Knows json t j) :
    k.Knows json t' j := by
  have hpub : published_by t' j = published_by t j := by
    rcases hr.accepted with he | ⟨row, he, -⟩
    · simp only [published_by, he]
    · have happ := published_by_append t i j (row.publication json)
      rw [if_neg hij, List.append_nil] at happ
      rw [← happ]
      simp only [published_by, he]
  -- The copies of a row another party has locked, or of a sent one, do not change.
  have hcopies : ∀ id, t.locks id ≠ some i → copies t' id = copies t id := by
    intro id hid
    rcases hr.accepted with he | ⟨row, he, hlock⟩
    · simp only [copies, he]
    · have happ := copies_append t (i, row.publication json) id
      rw [if_neg, List.append_nil] at happ
      · rw [← happ]
        simp only [copies, he]
      · intro heq
        have : row.message_id = id := Uuid.str_injective (Option.some.inj heq)
        exact hid (this ▸ hlock)
  cases k with
  | request row => exact ⟨hk.1, hpub.trans hk.2⟩
  | stored => exact hpub.trans hk
  | started limit => exact hpub.trans hk
  | publishing processed todo dispatched =>
      have hk : InLoop json t j processed todo dispatched := hk
      refine ⟨hk.ids, ?_, hk.marks, hpub.trans hk.published, hk.count, ?_⟩
      · intro r hmem
        obtain ⟨hrow, hp, hlock⟩ := hk.rows r hmem
        refine ⟨?_, hp, hr.locks _ j (Ne.symm hij) hlock⟩
        rcases hr.rows r hrow with hrow' | ⟨-, hlock', -⟩
        · exact hrow'
        · rw [hlock] at hlock'
          exact absurd (Option.some.inj hlock').symm hij
      · intro p hp hsent
        have hlock := (hk.rows p.1 (List.mem_append_left _ (List.mem_map_of_mem hp))).2.2
        rw [hcopies]
        · exact hk.last p hp hsent
        · rw [hlock]
          exact fun he => hij (Option.some.inj he).symm
  | returned dispatched =>
      have hk : Settled t j := hk
      refine ⟨hpub ▸ hk.once, fun id hid => ?_⟩
      rw [mem_copies_iff, hpub, ← mem_copies_iff] at hid
      obtain ⟨hlast, r, hrow, hrid, hsent⟩ := hk.last id hid
      -- a lock is on a pending row, and this one is marked
      have hunlocked : t.locks id ≠ some i := by
        intro hlock
        obtain ⟨r', hr', hid', hp'⟩ := hs.locked id i hlock
        have hrr : r' = r := eq_of_id hs.ids hr' hrow (hid'.trans hrid.symm)
        rw [hrr, hsent] at hp'
        cases hp'
      rw [hcopies id hunlocked]
      refine ⟨hlast, r, ?_, hrid, hsent⟩
      rcases hr.rows r hrow with hrow' | ⟨hp, -, -⟩
      · exact hrow'
      · rw [hsent] at hp
        cases hp
  | failed =>
      have hk : ((published_by t j).map (·.message.message_id)).Nodup := hk
      rw [← hpub] at hk
      exact hk

theorem relay_own {t' : Outbox ι} {k k' : Pass} {a : PassStep} (hs : TableSound json t)
    (hk : k.Knows json t i) (hstep : relay_step json i t k a = some (t', k')) :
    TableSound json t' ∧ k'.Knows json t' i ∧ Respects json i t t' := by
  unfold relay_step at hstep
  split at hstep
  · -- a request commits its row
    next row =>
    obtain ⟨t₁, hstore, hpair⟩ := Option.map_eq_some_iff.mp hstep
    cases hpair
    obtain ⟨hs', hr, hacc⟩ := store_sound hs hk.1 hstore
    refine ⟨hs', ?_, hr⟩
    have hnone := hk.2
    simp only [published_by, ← hacc] at hnone
    exact hnone
  · -- `find_pending`: nothing to do, or a batch
    next limit ids =>
    split at hstep
    · cases hstep
    · cases hstep
      exact ⟨hs, settled_of_none hk, Respects.refl t⟩
    · next batch _ hselect =>
      cases hstep
      exact find_pending_sound hs hk hselect
  · cases hstep
    exact publish_sound hs hk
  · cases hstep
    exact ⟨hs, refuse_sound hk, Respects.refl t⟩
  · cases hstep
    exact commit_sound hs hk
  · -- the pass fails, and what it had accepted stays accepted
    cases hstep
    obtain ⟨hs', hr⟩ := release_sound hs
    have honce : ((published_by t i).map (·.message.message_id)).Nodup :=
      InLoop.once (show InLoop json t i _ _ _ from hk)
    exact ⟨hs', honce, hr⟩
  · cases hstep
    refine ⟨hs, ?_, Respects.refl t⟩
    simp [Pass.Knows, hk.2]
  · cases hstep
    refine ⟨hs, ?_, Respects.refl t⟩
    have hnone : published_by t i = [] := hk
    simp [Pass.Knows, hnone]
  · cases hstep

variable (json) in
theorem relay_outline : Outline (relay_step json) (fun _ _ _ => True) (TableSound json)
    (fun t (i : ι) k => k.Knows json t i) (Respects json) where
  own := fun _ _ _ _ _ _ hs hk hstep _ => relay_own hs hk hstep
  stable := fun _ _ _ _ _ hij hs hr hk => hk.mono hij hs hr

/-! ## 9. Every run -/

/-- What a party was asked to do. -/
inductive Job where
  | schedule (message : IntegrationMessage) (destination : MessageDestination)
      (message_id : Uuid) (created_at : ℕ)
  | dispatch (limit : ℕ)

def Job.start : Job → Pass
  | .schedule message destination message_id created_at =>
    .request (OutboxMessage.schedule message destination message_id created_at)
  | .dispatch limit => .started limit

/-- An empty outbox, and a job for each party. -/
def empty_outbox (jobs : ι → Job) : Config ι (Outbox ι) Pass where
  shared := { rows := [], locks := fun _ => none, accepted := [] }
  locals := fun i => (jobs i).start

omit [DecidableEq ι] in
theorem mem_batch_publishing {k : Pass} {r : OutboxMessage} (h : r ∈ k.batch) :
    ∃ processed todo dispatched, k = .publishing processed todo dispatched
      ∧ r ∈ processed.map (·.1) ++ todo := by
  cases k with
  | publishing processed todo dispatched => exact ⟨processed, todo, dispatched, rfl, h⟩
  | _ => cases h

/-- Whoever published a row, and did not fail, published it last. -/
theorem last_publisher {c : Config ι (Outbox ι) Pass} {id : Uuid}
    (hk : (c.locals i).Knows json c.shared i) (hi : i ∈ publishers c.shared id)
    (hfail : c.locals i ≠ .failed) : ((copies c.shared id).map (·.1)).getLast? = some i := by
  rw [publishers, List.mem_toFinset] at hi
  cases hl : c.locals i with
  | publishing processed todo dispatched =>
      rw [hl] at hk
      have hk : InLoop json c.shared i processed todo dispatched := hk
      rw [mem_copies_iff, hk.published, List.map_map] at hi
      obtain ⟨p, hp, hpid⟩ := List.mem_map.mp hi
      obtain ⟨hpp, hsent⟩ := List.mem_filter.mp hp
      have hid : p.1.message_id = id := Uuid.str_injective (Option.some.inj hpid)
      rw [← hid]
      exact hk.last p hpp (by simpa using hsent)
  | returned dispatched =>
      rw [hl] at hk
      exact ((show Settled c.shared i from hk).last id hi).1
  | failed => exact absurd hl hfail
  -- the others have published nothing
  | request row =>
      rw [hl] at hk
      rw [mem_copies_iff, hk.2] at hi
      cases hi
  | stored =>
      rw [hl] at hk
      rw [mem_copies_iff, show published_by c.shared i = [] from hk] at hi
      cases hi
  | started limit =>
      rw [hl] at hk
      rw [mem_copies_iff, show published_by c.shared i = [] from hk] at hi
      cases hi

/-- Whatever its state, a party had no message accepted twice. -/
theorem published_once {k : Pass} (hk : k.Knows json t i) :
    ((published_by t i).map (·.message.message_id)).Nodup := by
  cases k with
  | publishing processed todo dispatched => exact InLoop.once hk
  | returned dispatched => exact (show Settled t i from hk).once
  | failed => exact hk
  | request row => simp [hk.2]
  | stored => simp [show published_by t i = [] from hk]
  | started limit => simp [show published_by t i = [] from hk]

/-- Copies of a row by distinct passes, when no pass published it twice. -/
theorem copies_nodup (h : ∀ i, ((published_by t i).map (·.message.message_id)).Nodup) (id : Uuid) :
    ((copies t id).map (·.1)).Nodup := by
  rw [List.nodup_iff_count_le_one]
  intro i
  have hcount : ((copies t id).map (·.1)).count i
      = ((published_by t i).map (·.message.message_id)).count (some id.str) := by
    simp only [copies, published_by, List.count, List.countP_map, List.countP_filter,
      List.map_map]
    refine List.countP_congr fun entry _ => ?_
    simp [and_comm]
  rw [hcount]
  exact List.nodup_iff_count_le_one.mp (h i) _

/-- What the outline asserts is what was promised of every state. -/
theorem relay_safe {c : Config ι (Outbox ι) Pass}
    (h : Holds (TableSound json) (fun t (i : ι) k => k.Knows json t i) c) : RelaySafe json c where
  sent_accepted := h.1.sent
  exclusive := by
    intro i j r r' hr hr' hid
    obtain ⟨processed, todo, n, hi, hmem⟩ := mem_batch_publishing hr
    obtain ⟨processed', todo', n', hj, hmem'⟩ := mem_batch_publishing hr'
    have hki := h.2 i
    have hkj := h.2 j
    rw [hi] at hki
    rw [hj] at hkj
    -- both hold the lock of the row, and a lock has one holder
    have hlock := ((show InLoop json c.shared i processed todo n from hki).rows r hmem).2.2
    have hlock' := ((show InLoop json c.shared j processed' todo' n' from hkj).rows r' hmem').2.2
    rw [hid, hlock'] at hlock
    exact (Option.some.inj hlock).symm
  accounted := by
    intro r _
    rw [publishers, List.toFinset_card_of_nodup (copies_nodup (fun i => published_once (h.2 i)) _),
      List.length_map]
  duplicates := by
    intro r _ i j hi hj hfi hfj
    have hlast := last_publisher (h.2 i) hi hfi
    rw [last_publisher (h.2 j) hj hfj] at hlast
    exact (Option.some.inj hlast).symm

omit [DecidableEq ι] in
/-- No transition loses a row, and none takes a sent one back. -/
theorem Respects.rows_kept {t' : Outbox ι} (hr : Respects json i t t') : RowsKept t t' := by
  intro r hrow
  rcases hr.rows r hrow with hrow' | ⟨hp, -, r', hr', hsame, -⟩
  · exact ⟨r, hrow', SameMessage.refl r, fun _ => rfl⟩
  · refine ⟨r', hr', hsame, fun hsent => ?_⟩
    rw [hp] at hsent
    cases hsent

omit [DecidableEq ι] in
/-- What a row-wise change turned sent. -/
theorem turned_map {t' : Outbox ι} {f : OutboxMessage → OutboxMessage}
    (h : t'.rows = t.rows.map f) : turned t t'
      = t.rows.filter fun r => r.status == .PENDING && (f r).status == .SENT := by
  have hzip : t.rows.zip (t.rows.map f) = t.rows.map fun r => (r, f r) := by
    rw [List.zip_map_right, List.zip_eq_zipWith, List.zipWith_self, List.map_map]
    rfl
  simp only [turned]
  rw [h, hzip, List.filter_map, List.map_map]
  simp [Function.comp_def]

/-- The rows a commit turns sent are the marked ones of the batch. -/
theorem turned_commit (hs : TableSound json t) (h : InLoop json t i processed [] dispatched) :
    let t' : Outbox ι :=
      { t with rows := UnitOfWork.update (·.message_id) merge_outbox processed t.rows }.release i
    (turned t t').Perm ((processed.filter (·.2.status == .SENT)).map (·.1)) := by
  have hturned : turned t ({ t with
        rows := UnitOfWork.update (·.message_id) merge_outbox processed t.rows }.release i)
      = t.rows.filter fun r => r.status == .PENDING && (settle processed r).status == .SENT :=
    turned_map (h.update hs)
  have hrows : t.rows.Nodup := List.Nodup.of_map _ hs.ids
  have hprocessed : (processed.map (·.1)).Nodup := by
    have hall := List.Nodup.of_map _ h.ids
    rwa [List.append_nil] at hall
  dsimp only
  -- two lists without repetition: it is enough that they have the same members
  rw [hturned, List.perm_ext_iff_of_nodup (hrows.filter _)
    (List.Nodup.sublist (List.filter_sublist.map _) hprocessed)]
  intro r
  rw [List.mem_filter]
  constructor
  · rintro ⟨hr, hst⟩
    obtain ⟨hp, hsent⟩ : r.status = .PENDING ∧ (settle processed r).status = .SENT := by
      simpa using hst
    exact (h.settle_sent hs hr hp).mp hsent
  · intro hmem
    obtain ⟨p, hp, rfl⟩ := List.mem_map.mp hmem
    have hpp := List.mem_of_mem_filter hp
    obtain ⟨hrow, hpending, -⟩ :=
      h.rows p.1 (List.mem_append_left _ (List.mem_map_of_mem hpp))
    exact ⟨hrow, by simpa [hpending] using (h.settle_sent hs hrow hpending).mpr hmem⟩

theorem mem_published_by {p : Publication} : p ∈ published_by t i ↔ (i, p) ∈ t.accepted := by
  simp only [published_by, List.mem_map, List.mem_filter]
  constructor
  · rintro ⟨⟨j, p⟩, ⟨hacc, hj⟩, rfl⟩
    have hji : j = i := by simpa using hj
    exact hji ▸ hacc
  · intro hacc
    exact ⟨_, ⟨hacc, by simp⟩, rfl⟩

/-- The marked rows of a batch are those the broker has accepted from the pass. -/
theorem InLoop.accepted_iff (hs : TableSound json t)
    (h : InLoop json t i processed [] dispatched) (r : OutboxMessage) :
    r ∈ (processed.filter (·.2.status == .SENT)).map (·.1)
      ↔ r ∈ processed.map (·.1) ∧ (i, r.publication json) ∈ t.accepted := by
  rw [← mem_published_by, h.published]
  constructor
  · intro hr
    obtain ⟨p, hp, rfl⟩ := List.mem_map.mp hr
    exact ⟨List.mem_map_of_mem (List.mem_of_mem_filter hp), List.mem_map_of_mem hp⟩
  · rintro ⟨hr, hpub⟩
    obtain ⟨q, hq, rfl⟩ := List.mem_map.mp hr
    obtain ⟨p, hp, he⟩ := List.mem_map.mp hpub
    -- a publication bears the identifier of its row, and a row is known by it
    have hid : p.1.message_id = q.1.message_id := by
      have htext : (p.1.publication json).message.message_id
          = (q.1.publication json).message.message_id := by rw [he]
      exact Uuid.str_injective (Option.some.inj htext)
    have hpq : p.1 = q.1 :=
      eq_of_id hs.ids (h.mem_rows (List.mem_of_mem_filter hp)) (h.mem_rows hq) hid
    exact hpq ▸ List.mem_map_of_mem hp

/-- A pass that commits turned sent exactly what it had accepted, and counts it right. -/
theorem commit_counts {c c' : Config ι (Outbox ι) Pass} {e : ι × PassStep}
    (h : Holds (TableSound json) (fun t (i : ι) k => k.Knows json t i) c)
    (hfire : fire (relay_step json) c e = some c') : CommitCounts json c e c' := by
  obtain ⟨t', k', hstep, rfl⟩ := fire_eq_some.mp hfire
  obtain ⟨i, a⟩ := e
  intro n hcommit hreturned
  dsimp only at hcommit hreturned hstep ⊢
  subst hcommit
  rw [Function.update_self] at hreturned
  subst hreturned
  have hk := h.2 i
  cases hl : c.locals i with
  | publishing processed todo dispatched =>
      rw [hl] at hk hstep
      cases todo with
      -- with rows still to publish there is no commit
      | cons row todo => cases hstep
      | nil =>
          have hk : InLoop json c.shared i processed [] dispatched := hk
          cases hstep
          have hperm := turned_commit h.1 hk
          refine ⟨?_, fun r => ?_⟩
          · rw [hperm.length_eq, List.length_map]
            exact hk.count
          · rw [hperm.mem_iff, Pass.batch, List.append_nil]
            exact hk.accepted_iff h.1 r
  | request row => rw [hl] at hstep; cases hstep
  | stored => rw [hl] at hstep; cases hstep
  | started limit => rw [hl] at hstep; cases hstep
  | returned dispatched => rw [hl] at hstep; cases hstep
  | failed => rw [hl] at hstep; cases hstep

/-- What the loop makes of a row: one outcome of `publish` each, and no other. -/
def mark (row : OutboxMessage) (outcome : Bool × ℕ) : OutboxMessage × OutboxMessage :=
  (row, if outcome.1 then row.mark_as_sent outcome.2 else row)

/-- The loop runs over the whole batch whatever its publishes come to, and what becomes
of a row depends on its own publish only. -/
theorem publish_batch (json : JsonModule) (i : ι) :
    ∀ (outcomes : List (Bool × ℕ)) (todo : List OutboxMessage)
      (processed : List (OutboxMessage × OutboxMessage)) (dispatched : ℕ)
      (c : Config ι (Outbox ι) Pass),
      c.locals i = .publishing processed todo dispatched → outcomes.length = todo.length →
      ∃ c', run (fire (relay_step json)) c (outcomes.map fun o => (i, .publish o.1 o.2)) = some c'
        ∧ c'.shared.rows = c.shared.rows
        ∧ c'.locals i = .publishing (processed ++ todo.zipWith mark outcomes) []
            (dispatched + outcomes.countP (·.1)) := by
  intro outcomes
  induction outcomes with
  | nil =>
      intro todo processed dispatched c hc hlen
      have htodo : todo = [] := List.length_eq_zero_iff.mp hlen.symm
      subst htodo
      exact ⟨c, rfl, rfl, by simpa using hc⟩
  | cons outcome outcomes ih =>
      intro todo processed dispatched c hc hlen
      cases todo with
      | nil => cases hlen
      | cons row todo =>
          rw [List.length_cons, List.length_cons, Nat.add_right_cancel_iff] at hlen
          obtain ⟨accepted, now⟩ := outcome
          -- One turn of the loop, then the rest of the batch.
          obtain ⟨c₁, hstep, hrows, hlocal⟩ : ∃ c₁,
              fire (relay_step json) c (i, .publish accepted now) = some c₁
              ∧ c₁.shared.rows = c.shared.rows
              ∧ c₁.locals i = .publishing (processed ++ [mark row (accepted, now)]) todo
                  (dispatched + if accepted then 1 else 0) := by
            cases accepted with
            | true =>
                have hact : relay_step json i c.shared (c.locals i) (.publish true now) = some
                    ({ c.shared with
                        accepted := c.shared.accepted ++ [(i, row.publication json)] },
                      .publishing (processed ++ [mark row (true, now)]) todo (dispatched + 1)) := by
                  rw [hc]
                  rfl
                exact ⟨_, fire_eq_some.mpr ⟨_, _, hact, rfl⟩, rfl, Function.update_self ..⟩
            | false =>
                have hact : relay_step json i c.shared (c.locals i) (.publish false now) = some
                    (c.shared, .publishing (processed ++ [mark row (false, now)]) todo
                      dispatched) := by
                  rw [hc]
                  rfl
                exact ⟨_, fire_eq_some.mpr ⟨_, _, hact, rfl⟩, rfl, Function.update_self ..⟩
          obtain ⟨c', hrun, hrows', hlocal'⟩ := ih todo _ _ c₁ hlocal hlen
          refine ⟨c', ?_, hrows'.trans hrows, ?_⟩
          · rw [List.map_cons]
            exact (run_cons_eq_some _).mpr ⟨c₁, hstep, hrun⟩
          · rw [hlocal', List.append_assoc, List.countP_cons]
            simp [Nat.add_assoc, Nat.add_comm]

theorem find_of_mem {rows : List OutboxMessage} (hids : (rows.map (·.message_id)).Nodup)
    {r : OutboxMessage} (hr : r ∈ rows) :
    (rows.find? fun r' => r'.message_id == r.message_id) = some r := by
  cases hfind : rows.find? (fun r' => r'.message_id == r.message_id) with
  | none =>
      rw [List.find?_eq_none] at hfind
      exact absurd (by simp) (hfind r hr)
  | some r' =>
      have hid : r'.message_id = r.message_id := by simpa using List.find?_some hfind
      rw [eq_of_id hids (List.mem_of_find?_eq_some hfind) hr hid]

omit [DecidableEq ι] in
/-- Available rows, oldest first and no more than asked for, are a batch a pass may come
back with. -/
theorem select_ids {limit : ℕ} {batch : List OutboxMessage}
    (hids : (t.rows.map (·.message_id)).Nodup) (hmem : ∀ r ∈ batch, r ∈ t.available)
    (hnodup : (batch.map (·.message_id)).Nodup) (hlimit : batch.length ≤ limit)
    (hsorted : batch.Pairwise fun r r' => r.created_at ≤ r'.created_at) :
    t.select limit (batch.map (·.message_id)) = some batch := by
  have havailable : (t.available.map (·.message_id)).Nodup :=
    List.Nodup.sublist (List.filter_sublist.map _) hids
  have hfound : (batch.map (·.message_id)).filterMap
      (fun id => t.available.find? fun r => r.message_id == id) = batch := by
    rw [List.filterMap_map]
    exact (List.filterMap_congr fun r hr => find_of_mem havailable (hmem r hr)).trans
      List.filterMap_some
  rw [Outbox.select, hfound]
  exact if_pos ⟨rfl, hnodup, by rwa [List.length_map], hsorted⟩

omit [DecidableEq ι] in
/-- With nobody else at work, `find_pending` is a batch a pass may come back with. -/
theorem find_pending_selected (t : Outbox ι) (limit : ℕ)
    (hids : (t.rows.map (·.message_id)).Nodup) :
    t.select limit ((t.find_pending limit).map (·.message_id)) = some (t.find_pending limit) := by
  have havailable : (t.available.map (·.message_id)).Nodup :=
    List.Nodup.sublist (List.filter_sublist.map _) hids
  have : Std.Total fun r r' : OutboxMessage => r.created_at ≤ r'.created_at :=
    ⟨fun r r' => Nat.le_total _ _⟩
  have : IsTrans OutboxMessage fun r r' => r.created_at ≤ r'.created_at :=
    ⟨fun _ _ _ => Nat.le_trans⟩
  refine select_ids hids ?_ ?_ (List.length_take_le _ _) ?_
  · exact fun r hr => (List.mem_insertionSort _).mp (List.mem_of_mem_take hr)
  · exact List.Nodup.sublist ((List.take_sublist _ _).map _)
      (((List.perm_insertionSort _ _).map _).nodup_iff.mpr havailable)
  · exact (List.pairwise_insertionSort _ _).sublist (List.take_sublist _ _)

/-- **The relay is safe.** From an empty outbox, through any interleaving of requests
that fill it and passes that publish, fail and commit: every state accounts for every
copy the broker accepted, no transition loses a row or takes one back, and a commit
counts exactly the rows it turned sent; and a pass runs through its whole batch, each
row coming to what its own publish came to. -/
theorem outbox_relay_safe (json : JsonModule) (jobs : ι → Job) (steps : List (ι × PassStep)) :
    Along (fire (relay_step json))
      (fun c e c' => RelaySafe json c' ∧ RowsKept c.shared c'.shared ∧ CommitCounts json c e c')
      (empty_outbox jobs) steps
    ∧ ∀ (c : Config ι (Outbox ι) Pass) (i : ι) (batch : List OutboxMessage)
        (outcomes : List (Bool × ℕ)),
        c.locals i = .publishing [] batch 0 → outcomes.length = batch.length →
        ∃ c', run (fire (relay_step json)) c (outcomes.map fun o => (i, .publish o.1 o.2)) = some c'
          ∧ c'.shared.rows = c.shared.rows
          ∧ c'.locals i = .publishing (batch.zipWith mark outcomes) [] (outcomes.countP (·.1)) := by
  constructor
  · refine (relay_outline json).along ?_ ?_
    · intro c e c' h hfire
      obtain ⟨h', hr⟩ := (relay_outline json).fire h hfire trivial
      exact ⟨relay_safe h', hr.rows_kept, commit_counts h hfire⟩
    · have hempty : TableSound json (empty_outbox jobs).shared :=
        ⟨List.nodup_nil, fun _ _ hlock => absurd hlock (by simp [empty_outbox]),
          fun _ hr => absurd hr List.not_mem_nil⟩
      refine ⟨hempty, fun i => ?_⟩
      simp only [empty_outbox]
      cases jobs i with
      | schedule message destination message_id created_at => exact ⟨rfl, rfl⟩
      | dispatch limit => exact rfl
  · intro c i batch outcomes hc hlen
    simpa using publish_batch json i outcomes batch [] 0 c hc hlen

end Invariant

end TradeLogistics.MessageBus
