/-
The whole pipeline, from a request to finalize a manifest to the case it opens.

Two databases, the broker between them, and four kinds of party: the requests and the
relay passes on the shipment database, the dispatchers of the customs module on theirs,
and whoever hands the broker a copy of what it already had, which is a consumer whose
handlers failed, the broker itself when a retry comes back, and an operator who replays
a parked message. Each is the party of its own module, unchanged; this file only lets
them act in any order on one state.

What ties the parts together is the identifier. A row of the outbox is committed with
the status it announces; a message of the announcement's type has the identifier and the
body of such a row, whatever copied it; and an effect of the customs module came from an
envelope, which came from such a message.
-/
import TradeLogistics.ManifestRequests
import TradeLogistics.OutboxRelay
import TradeLogistics.OpenCase

set_option autoImplicit false

namespace TradeLogistics.Pipelines

open TradeLogistics.PyText TradeLogistics.PyAsync TradeLogistics.Runs
open TradeLogistics.UnitOfWork TradeLogistics.MessageBus TradeLogistics.Shipments
open TradeLogistics.Customs

/-! ## 1. The state -/

/-- The shipment database with the requests and the relay passes on it, the copies the
broker accepted from others than the relay, and the customs module. -/
structure Pipeline (ι κ δ : Type*) where
  shipments : Uuid → Option ShipmentRow
  requests : κ → Finalization
  relay : Config ι (Outbox ι) Pass
  copies : List Publication
  customs : Config δ (Inbox δ ClearanceCase) (Attempt ClearanceCase)

namespace Pipeline

variable {ι κ δ : Type*}

/-- The committed outbox of the shipment module. -/
def rows (s : Pipeline ι κ δ) : List OutboxMessage := s.relay.shared.rows

/-- What the requests commit to: shipments and outbox are one database. -/
def database (s : Pipeline ι κ δ) : ShipmentDatabase := ⟨s.shipments, s.rows⟩

/-- Every message the broker has accepted. -/
def accepted (s : Pipeline ι κ δ) : List Publication :=
  s.relay.shared.accepted.map (·.2) ++ s.copies

/-- What the handlers of the customs module have committed. -/
def effects (s : Pipeline ι κ δ) : List (Effect ClearanceCase) :=
  s.customs.shared.committed.effects

/-- The broker accepts one message more. -/
def accept (s : Pipeline ι κ δ) (publication : Publication) : Pipeline ι κ δ :=
  { s with copies := s.copies ++ [publication] }

end Pipeline

/-! ## 2. The steps -/

/-- The atomic actions of all the parties. An accepted message is named by its position
among those accepted: none is ever taken out, so nothing limits how often one is delivered
or copied. -/
inductive PipelineStep (ι κ δ : Type*) where
  | request (i : κ) (step : FinalizationStep)
  | relay (i : ι) (step : PassStep)
  /-- The broker accepts the row a pass is publishing, and the pass sees a failure. -/
  | unconfirmed (i : ι)
  /-- An attempt starts on a delivery. -/
  | deliver (i : δ) (position : ℕ) (topology : BrokerTopology) (handler : MessageHandler)
  | attempt (i : δ) (step : AttemptStep Uuid)
  /-- A worker whose handlers failed publishes a copy. -/
  | recover (position : ℕ) (topology : BrokerTopology) (error : PyException) (now : String)
  /-- A message goes back under its own identifier: out of a retry queue, or replayed. -/
  | again (position : ℕ) (exchange routing_key : String) (headers : Headers)
  /-- Somebody else publishes a message of another type. -/
  | elsewhere (publication : Publication)

section Steps

variable {ι κ δ : Type*} [DecidableEq ι] [DecidableEq κ] [DecidableEq δ]
  (json : JsonModule) (pydantic : Pydantic) (exchange : String)

/-- What the dispatchers of the customs module do. -/
abbrev customs_attempt :
    Action δ (Inbox δ ClearanceCase) (Attempt ClearanceCase) (AttemptStep Uuid) :=
  attempt_step customs_handlers.handlers (OpenClearanceCaseMessageHandler.handle pydantic)

/-- One step of one party. -/
def pipeline_step (s : Pipeline ι κ δ) : PipelineStep ι κ δ → Option (Pipeline ι κ δ)
  | .request i step =>
    (fire (finalize_step exchange) ⟨s.database, s.requests⟩ (i, step)).map fun c =>
      { s with
        shipments := c.shared.shipments
        requests := c.locals
        relay := ⟨{ s.relay.shared with rows := c.shared.outbox }, s.relay.locals⟩ }
  | .relay _ .store => none
  | .relay i step => (fire (relay_step json) s.relay (i, step)).map fun relay => { s with relay }
  | .unconfirmed i =>
    match s.relay.locals i with
    | .publishing _ (row :: _) _ =>
      (fire (relay_step json) s.relay (i, .publish false 0)).map fun relay =>
        { s with relay }.accept (row.publication json)
    | _ => none
  | .deliver i position topology handler =>
    match s.accepted[position]? with
    | none => none
    | some publication =>
      match _should_process topology build_message_handlers publication.message,
        envelope_of json publication.message with
      | .ok true, .ok envelope =>
        if handler ∈ build_message_handlers.handlers_for envelope.message_type then
          (fire (customs_attempt pydantic) s.customs (i, .start handler envelope)).map
            fun customs => { s with customs }
        else none
      | _, _ => none
  | .attempt _ (.start _ _) => none
  | .attempt i step =>
    (fire (customs_attempt pydantic) s.customs (i, step)).map fun customs => { s with customs }
  | .recover position topology error now =>
    match s.accepted[position]? with
    | none => none
    | some publication =>
      match redelivery_count publication.message.headers with
      | .error _ => none
      | .ok count =>
        some (s.accept (recovery_copy topology publication.message error now count))
  | .again position exchange routing_key headers =>
    s.accepted[position]?.map fun publication =>
      s.accept ⟨exchange, routing_key, { publication.message with headers }⟩
  | .elsewhere publication =>
    if publication.message.type = some SHIPMENT_MANIFEST_FINALIZED then none
    else some (s.accept publication)

/-- Any shipments, requests that have not begun, an empty outbox and passes that have not
begun, nothing accepted, and a customs module that has handled nothing. -/
def before_pipeline (shipments : Uuid → Option ShipmentRow)
    (requests : κ → String × FinalizeManifestCommand) (limits : ι → ℕ) : Pipeline ι κ δ where
  shipments
  requests := fun i => .received (requests i).1 (requests i).2
  relay := empty_outbox fun i => .dispatch (limits i)
  copies := []
  customs := idle_dispatchers

end Steps

/-! ## 3. What is promised of every state -/

section Guarantees

variable {ι κ δ : Type*}

/-- The message announces, under an identifier. -/
def AnnouncesUnder (message_id : Uuid) (publication : Publication) : Prop :=
  publication.message.type = some SHIPMENT_MANIFEST_FINALIZED
    ∧ publication.message.message_id = some message_id.str

/-- The row names a shipment that is committed and no longer a draft. -/
def NamesFinalized (shipments : Uuid → Option ShipmentRow) (row : OutboxMessage) : Prop :=
  ∃ id stored, body_text row "shipment_id" = some id.str ∧ shipments id = some stored
    ∧ stored.status ≠ .DRAFT

/-- Nothing is announced that was not committed, and no announcement opens two cases. -/
structure EndToEnd (json : JsonModule) (pydantic : Pydantic) (s : Pipeline ι κ δ) : Prop where
  /-- An accepted announcement is a committed row of a finalized shipment. -/
  genuine : ∀ publication ∈ s.accepted,
    publication.message.type = some SHIPMENT_MANIFEST_FINALIZED →
    ∃ row ∈ s.rows, publication.message.message_id = some row.message_id.str
      ∧ publication.message.body = json.dumps row.body ∧ NamesFinalized s.shipments row
  /-- An identifier has one case at most. -/
  once : ∀ message_id, (s.effects.filter fun effect => effect.message_id = message_id).length ≤ 1
  /-- A case is of the shipment that its message names, in every copy. -/
  opened : ∀ effect ∈ s.effects,
    (∃ publication ∈ s.accepted, AnnouncesUnder effect.message_id publication)
    ∧ ∀ publication ∈ s.accepted, AnnouncesUnder effect.message_id publication →
      ∃ body, _decode json publication.message.body = .ok body
        ∧ named_shipment pydantic body = some effect.writes.shipment_id
  /-- So it is of a finalized shipment, where the texts of the rows are read back. -/
  finalized : (∀ row ∈ s.rows, Restores json row.body) →
    (∀ text, pydantic.strip_whitespace text = strip text) →
    ∀ effect ∈ s.effects, ∃ id stored, effect.writes.shipment_id = id.str
      ∧ s.shipments id = some stored ∧ stored.status ≠ .DRAFT

end Guarantees

/-! ## 4. The rows

The shipment side by itself: a row is committed together with the status it announces,
no later commit makes a draft of that shipment again, and a pass changes nothing of a row
but its status. -/

section Rows

variable {ι : Type*} [DecidableEq ι] {json : JsonModule}

/-- The row announces a shipment that is committed and no longer a draft. -/
def Announced (shipments : Uuid → Option ShipmentRow) (row : OutboxMessage) : Prop :=
  ∃ (event : ShipmentManifestFinalized) (id : Uuid) (stored : ShipmentRow),
    row.body = event.message.body ∧ event.shipment_id = id.str
      ∧ shipments id = some stored ∧ stored.status ≠ .DRAFT

/-- What a request holds ready: an event of its own shipment, found a draft. -/
def Declared : Finalization → Prop
  | .handled id row after event =>
    event.shipment_id = id.str ∧ row.status = .DRAFT ∧ after.status = .READY_FOR_MANIFEST
  | _ => True

theorem Announced.names {shipments : Uuid → Option ShipmentRow} {row : OutboxMessage}
    (h : Announced shipments row) : NamesFinalized shipments row := by
  obtain ⟨event, id, stored, hbody, hevent, hstored, hstatus⟩ := h
  refine ⟨id, stored, ?_, hstored, hstatus⟩
  rw [body_text, hbody, ← hevent]
  rfl

theorem Announced.same {shipments : Uuid → Option ShipmentRow} {row row' : OutboxMessage}
    (hsame : SameMessage row row') (h : Announced shipments row) : Announced shipments row' := by
  obtain ⟨event, id, stored, hbody, hrest⟩ := h
  refine ⟨event, id, stored, ?_, hrest⟩
  rw [← hbody, ← hsame]

/-- A commit leaves every shipment that is no draft no draft, and its own is none. -/
theorem commit_announced {db db' : ShipmentDatabase} {exchange : String} {id : Uuid}
    {loaded after : ShipmentRow} {event : ShipmentManifestFinalized} {message_id : Uuid} {now : ℕ}
    (hdeclared : Declared (.handled id loaded after event))
    (hrows : ∀ row ∈ db.outbox, Announced db.shipments row)
    (hcommit : db.commit exchange id loaded after event message_id now = some db') :
    ∀ row ∈ db'.outbox, Announced db'.shipments row := by
  obtain ⟨hevent, hdraft, hready⟩ := hdeclared
  obtain ⟨stored, flushed, -, hflush, hshipments, houtbox⟩ := commit_ok hcommit
  have hstatus : flushed.status = .READY_FOR_MANIFEST := by
    rw [(ShipmentRow.flush_ok hflush).2, hdraft, hready]
    rfl
  have hown : db'.shipments id = some flushed := by
    rw [hshipments, Function.update_self]
  intro row hrow
  rw [houtbox, List.mem_append, List.mem_singleton] at hrow
  rcases hrow with hrow | rfl
  · obtain ⟨event', id', stored', hbody, hevent', hstored', hstatus'⟩ := hrows row hrow
    by_cases hid : id' = id
    · -- an older announcement of this shipment: its row is replaced by one as far on
      rw [hid] at hevent'
      exact ⟨event', id, flushed, hbody, hevent', hown, by rw [hstatus]; decide⟩
    · refine ⟨event', id', stored', hbody, hevent', ?_, hstatus'⟩
      rw [hshipments, Function.update_of_ne hid]
      exact hstored'
  · exact ⟨event, id, flushed, rfl, hevent, hown, by rw [hstatus]; decide⟩

omit [DecidableEq ι] in
/-- A commit stores its row under an identifier nobody had. -/
theorem commit_stores {t : Outbox ι} {shipments : Uuid → Option ShipmentRow}
    {db' : ShipmentDatabase} {exchange : String} {id : Uuid} {loaded after : ShipmentRow}
    {event : ShipmentManifestFinalized} {message_id : Uuid} {now : ℕ}
    (hcommit : ShipmentDatabase.commit ⟨shipments, t.rows⟩ exchange id loaded after event
      message_id now = some db') :
    t.store (OutboxMessage.schedule event.message (manifest_destination exchange) message_id now)
      = some { t with rows := db'.outbox } := by
  unfold ShipmentDatabase.commit at hcommit
  split at hcommit
  · cases hcommit
  · split at hcommit
    · cases hcommit
    · next hfresh =>
        cases hcommit
        unfold Outbox.store
        exact if_neg hfresh

/-- A pass knows what it knew when a request commits. -/
theorem knows_stored {t : Outbox ι} {i : ι} {k : Pass} (h : k.Knows json t i)
    (row : OutboxMessage) : k.Knows json { t with rows := t.rows ++ [row] } i := by
  cases k with
  | request _ | stored | started _ | failed => exact h
  | publishing processed todo dispatched =>
      have hloop : InLoop json t i processed todo dispatched := h
      refine ⟨hloop.ids, fun r hr => ?_, hloop.marks, hloop.published, hloop.count, hloop.last⟩
      obtain ⟨hmem, hrest⟩ := hloop.rows r hr
      exact ⟨List.mem_append_left _ hmem, hrest⟩
  | returned dispatched =>
      have hsettled : Settled t i := h
      refine ⟨hsettled.once, fun id hid => ?_⟩
      obtain ⟨hlast, r, hr, hrest⟩ := hsettled.last id hid
      exact ⟨hlast, r, List.mem_append_left _ hr, hrest⟩

/-- What a step of a pass does to the rows and to what was accepted: nothing, or it is one
of the three statements that write. -/
theorem relay_step_writes {t t' : Outbox ι} {i : ι} {k k' : Pass} {a : PassStep}
    (hstep : relay_step json i t k a = some (t', k')) :
    (t'.rows = t.rows ∧ t'.accepted = t.accepted)
    ∨ (∃ row, a = .store ∧ t'.rows = t.rows ++ [row] ∧ t'.accepted = t.accepted)
    ∨ (∃ processed row todo dispatched, k = .publishing processed (row :: todo) dispatched
        ∧ t'.rows = t.rows ∧ t'.accepted = t.accepted ++ [(i, row.publication json)])
    ∨ (∃ processed dispatched, k = .publishing processed [] dispatched
        ∧ t'.rows = update (·.message_id) merge_outbox processed t.rows
        ∧ t'.accepted = t.accepted) := by
  unfold relay_step at hstep
  split at hstep
  · next row =>
      obtain ⟨t₁, hstore, hpair⟩ := Option.map_eq_some_iff.mp hstep
      cases hpair
      obtain ⟨-, rfl⟩ := store_ok hstore
      exact .inr (.inl ⟨row, rfl, rfl, rfl⟩)
  · split at hstep <;> cases hstep <;> exact .inl ⟨rfl, rfl⟩
  · next processed row todo dispatched now =>
      cases hstep
      exact .inr (.inr (.inl ⟨processed, row, todo, dispatched, rfl, rfl, rfl⟩))
  · cases hstep
    exact .inl ⟨rfl, rfl⟩
  · next processed dispatched =>
      cases hstep
      exact .inr (.inr (.inr ⟨processed, dispatched, rfl, rfl, rfl⟩))
  · -- a pass that fails gives up its locks only
    cases hstep
    exact .inl ⟨rfl, rfl⟩
  · cases hstep
    exact .inl ⟨rfl, rfl⟩
  · cases hstep
    exact .inl ⟨rfl, rfl⟩
  · cases hstep

/-- A pass adds no row, and takes none away. -/
theorem relay_rows {t t' : Outbox ι} {i : ι} {k k' : Pass} {a : PassStep}
    (hs : TableSound json t) (hk : k.Knows json t i) (ha : a ≠ .store)
    (hstep : relay_step json i t k a = some (t', k')) :
    ∀ row' ∈ t'.rows, ∃ row ∈ t.rows, SameMessage row row' := by
  intro row' hrow'
  rcases relay_step_writes hstep with ⟨hrows, -⟩ | ⟨row, hstore, -⟩
    | ⟨processed, row, todo, dispatched, -, hrows, -⟩ | ⟨processed, dispatched, rfl, hrows, -⟩
  · exact ⟨row', hrows ▸ hrow', SameMessage.refl row'⟩
  · exact absurd hstore ha
  · exact ⟨row', hrows ▸ hrow', SameMessage.refl row'⟩
  · have hloop : InLoop json t i processed [] dispatched := hk
    rw [hrows, hloop.update hs] at hrow'
    obtain ⟨row, hrow, rfl⟩ := List.mem_map.mp hrow'
    exact ⟨row, hrow, hloop.settle_same hs hrow⟩

/-- What a pass has accepted is rows of the table. -/
theorem relay_accepts {t t' : Outbox ι} {i : ι} {k k' : Pass} {a : PassStep}
    (hk : k.Knows json t i) (hstep : relay_step json i t k a = some (t', k')) :
    ∀ entry ∈ t'.accepted, entry ∈ t.accepted
      ∨ ∃ row ∈ t.rows, entry.2 = row.publication json := by
  intro entry hentry
  rcases relay_step_writes hstep with ⟨-, hsame⟩ | ⟨row, -, -, hsame⟩
    | ⟨processed, row, todo, dispatched, rfl, -, hmore⟩ | ⟨processed, dispatched, -, -, hsame⟩
  · exact .inl (hsame ▸ hentry)
  · exact .inl (hsame ▸ hentry)
  · have hloop : InLoop json t i processed (row :: todo) dispatched := hk
    rw [hmore, List.mem_append, List.mem_singleton] at hentry
    rcases hentry with hold | rfl
    · exact .inl hold
    · exact .inr ⟨row, (hloop.rows row (List.mem_append_right _ List.mem_cons_self)).1, rfl⟩
  · exact .inl (hsame ▸ hentry)

end Rows

/-! ## 5. The invariant

One clause for each thing a step of another party could break. The steps are of four
kinds: a request commits, a pass goes on, the broker accepts a copy, an attempt goes on;
each is a lemma, and every step is one of them. -/

section Invariant

variable {ι κ δ : Type*} [DecidableEq ι] [DecidableEq κ] [DecidableEq δ]
  {json : JsonModule} {pydantic : Pydantic} {exchange : String}

/-- An announcement has the identifier and the body of a row. -/
def Genuine (json : JsonModule) (rows : List OutboxMessage) (publication : Publication) : Prop :=
  publication.message.type = some SHIPMENT_MANIFEST_FINALIZED →
    ∃ row ∈ rows, publication.message.message_id = some row.message_id.str
      ∧ publication.message.body = json.dumps row.body

/-- The envelope was read from an announcement among the messages. -/
def Delivered (json : JsonModule) (accepted : List Publication) (envelope : MessageEnvelope) :
    Prop :=
  ∃ publication ∈ accepted, publication.message.type = some SHIPMENT_MANIFEST_FINALIZED
    ∧ envelope_of json publication.message = .ok envelope

/-- Where the effects and the attempts of the customs module come from. -/
abbrev Originates (json : JsonModule) (pydantic : Pydantic) (accepted : List Publication)
    (customs : Config δ (Inbox δ ClearanceCase) (Attempt ClearanceCase)) : Prop :=
  Holds
    (Inbox.From (OpenClearanceCaseMessageHandler.handle pydantic) (Delivered json accepted))
    (fun _ _ attempt =>
      attempt.From (OpenClearanceCaseMessageHandler.handle pydantic) (Delivered json accepted))
    customs

structure Sound (json : JsonModule) (pydantic : Pydantic) (s : Pipeline ι κ δ) : Prop where
  table : Holds (TableSound json) (fun t (i : ι) k => k.Knows json t i) s.relay
  declared : ∀ i, Declared (s.requests i)
  announced : ∀ row ∈ s.rows, Announced s.shipments row
  genuine : ∀ publication ∈ s.accepted, Genuine json s.rows publication
  matched : Holds (OneToOne customs_handlers.handlers)
    (fun inbox i attempt => attempt.Knows customs_handlers.handlers inbox i) s.customs
  origin : Originates json pydantic s.accepted s.customs

theorem Genuine.mono {rows rows' : List OutboxMessage} {publication : Publication}
    (hrows : ∀ row ∈ rows, ∃ row' ∈ rows', SameMessage row row')
    (h : Genuine json rows publication) : Genuine json rows' publication := by
  intro htype
  obtain ⟨row, hrow, hid, hbody⟩ := h htype
  obtain ⟨row', hrow', hsame⟩ := hrows row hrow
  have hbody' : row'.body = row.body := by rw [← hsame]
  exact ⟨row', hrow', by rw [hid, same_id hsame], by rw [hbody, hbody']⟩

omit [DecidableEq δ] in
theorem Originates.mono {accepted accepted' : List Publication}
    {customs : Config δ (Inbox δ ClearanceCase) (Attempt ClearanceCase)}
    (hmore : ∀ publication ∈ accepted, publication ∈ accepted')
    (h : Originates json pydantic accepted customs) :
    Originates json pydantic accepted' customs := by
  have hdelivered : ∀ envelope, Delivered json accepted envelope →
      Delivered json accepted' envelope := by
    rintro envelope ⟨publication, hmem, hrest⟩
    exact ⟨publication, hmore publication hmem, hrest⟩
  exact ⟨h.1.mono hdelivered, fun i => (h.2 i).mono hdelivered⟩

/-- A request goes on, and what the others know survives. -/
theorem Sound.request {s : Pipeline ι κ δ} (h : Sound json pydantic s) {i : κ}
    {step : FinalizationStep} {c : Config κ ShipmentDatabase Finalization}
    (hfire : fire (finalize_step exchange) ⟨s.database, s.requests⟩ (i, step) = some c) :
    Sound json pydantic { s with
      shipments := c.shared.shipments
      requests := c.locals
      relay := ⟨{ s.relay.shared with rows := c.shared.outbox }, s.relay.locals⟩ } := by
  obtain ⟨db', k', hstep, rfl⟩ := fire_eq_some.mp hfire
  have hlocals : ∀ k', Declared k' → ∀ j, Declared (Function.update s.requests i k' j) := by
    intro k' hk' j
    by_cases hj : j = i
    · rw [hj, Function.update_self]
      exact hk'
    · rw [Function.update_of_ne hj]
      exact h.declared j
  rcases finalize_step_cases hstep with ⟨rfl, -, hstand⟩
    | ⟨id, row, after, event, message_id, now, hk, -, rfl, hcommit⟩
  · -- no commit: only what the request itself knows has changed
    have hk' : Declared k' := by
      rcases hstand with rfl | ⟨id, row, command, -, rfl⟩
        | ⟨id, row, command, after, event, -, hfinalize, rfl⟩
      · trivial
      · trivial
      · obtain ⟨hdraft, hready, -, hevent⟩ := finalize_ok hfinalize
        exact ⟨hevent, hdraft, hready⟩
    exact ⟨h.table, hlocals k' hk', h.announced, h.genuine, h.matched, h.origin⟩
  · -- the commit: one row more in the outbox, with the status it announces
    have hdeclared : Declared (.handled id row after event) := by
      rw [← hk]
      exact h.declared i
    have houtbox : db'.outbox = s.rows ++ [OutboxMessage.schedule event.message
        (manifest_destination exchange) message_id now] := by
      obtain ⟨-, -, -, -, -, houtbox⟩ := commit_ok hcommit
      exact houtbox
    refine ⟨⟨?_, fun j => ?_⟩, hlocals _ trivial,
      commit_announced hdeclared h.announced hcommit, fun publication hmem => ?_,
      h.matched, h.origin⟩
    · have hstored := commit_stores (t := s.relay.shared) hcommit
      exact store_table h.table.1 rfl hstored
    · have hknows := knows_stored (h.table.2 j) (OutboxMessage.schedule event.message
        (manifest_destination exchange) message_id now)
      rwa [show s.relay.shared.rows ++ _ = db'.outbox from houtbox.symm] at hknows
    · refine (h.genuine publication hmem).mono fun r hr => ⟨r, ?_, SameMessage.refl r⟩
      change r ∈ db'.outbox
      rw [houtbox]
      exact List.mem_append_left _ hr

omit [DecidableEq κ] in
/-- A pass goes on. -/
theorem Sound.relayed {s : Pipeline ι κ δ} (h : Sound json pydantic s) {i : ι} {a : PassStep}
    (ha : a ≠ .store) {relay : Config ι (Outbox ι) Pass}
    (hfire : fire (relay_step json) s.relay (i, a) = some relay) :
    Sound json pydantic { s with relay } := by
  obtain ⟨htable, hrespects⟩ := (relay_outline json).fire h.table hfire trivial
  obtain ⟨t', k', hstep, rfl⟩ := fire_eq_some.mp hfire
  have hback := relay_rows h.table.1 (h.table.2 i) ha hstep
  have haccepts := relay_accepts (h.table.2 i) hstep
  have hkept : ∀ row ∈ s.rows, ∃ row' ∈ t'.rows, SameMessage row row' := by
    intro row hrow
    obtain ⟨row', hrow', hsame, -⟩ := hrespects.rows_kept row hrow
    exact ⟨row', hrow', hsame⟩
  refine ⟨htable, h.declared, fun row' hrow' => ?_, fun publication hmem => ?_, h.matched,
    h.origin.mono fun publication hmem => ?_⟩
  · obtain ⟨row, hrow, hsame⟩ := hback row' hrow'
    exact (h.announced row hrow).same hsame
  · rcases List.mem_append.mp hmem with hnew | hcopy
    · obtain ⟨entry, hentry, rfl⟩ := List.mem_map.mp hnew
      -- accepted before, or published now from a row of the table
      rcases haccepts entry hentry with hold | ⟨row, hrow, hpublication⟩
      · exact (h.genuine entry.2 (List.mem_append_left _ (List.mem_map_of_mem hold))).mono hkept
      · rw [hpublication]
        refine Genuine.mono hkept fun _ => ⟨row, hrow, rfl, rfl⟩
    · exact (h.genuine publication (List.mem_append_right _ hcopy)).mono hkept
  · rcases List.mem_append.mp hmem with hold | hcopy
    · obtain ⟨entry, hentry, rfl⟩ := List.mem_map.mp hold
      refine List.mem_append_left _ (List.mem_map_of_mem ?_)
      rcases hrespects.accepted with hsame | ⟨row, hmore, -⟩
      · exact hsame ▸ hentry
      · exact hmore ▸ List.mem_append_left _ hentry
    · exact List.mem_append_right _ hcopy

omit [DecidableEq κ] in
/-- The broker accepts a copy of what it had, or something of no concern. -/
theorem Sound.accepts {s : Pipeline ι κ δ} (h : Sound json pydantic s) {publication : Publication}
    (hgenuine : Genuine json s.rows publication) : Sound json pydantic (s.accept publication) := by
  have haccepted : (s.accept publication).accepted = s.accepted ++ [publication] := by
    rw [Pipeline.accepted, Pipeline.accepted, List.append_assoc]
    rfl
  refine ⟨h.table, h.declared, h.announced, fun other hmem => ?_, h.matched, ?_⟩
  · rw [haccepted, List.mem_append, List.mem_singleton] at hmem
    rcases hmem with hold | rfl
    · exact h.genuine other hold
    · exact hgenuine
  · rw [haccepted]
    exact h.origin.mono fun other hmem => List.mem_append_left _ hmem

omit [DecidableEq κ] in
/-- An attempt goes on, from a delivery if it starts. -/
theorem Sound.attempted {s : Pipeline ι κ δ} (h : Sound json pydantic s)
    {e : δ × AttemptStep Uuid}
    (hdelivered : ∀ envelope ∈ e.2.envelope, Delivered json s.accepted envelope)
    {customs : Config δ (Inbox δ ClearanceCase) (Attempt ClearanceCase)}
    (hfire : fire (customs_attempt pydantic) s.customs e = some customs) :
    Sound json pydantic { s with customs } :=
  ⟨h.table, h.declared, h.announced, h.genuine,
    ((attempt_outline _ _).fire h.matched hfire trivial).1,
    ((origin_outline _ _ (Delivered json s.accepted)).fire h.origin hfire hdelivered).1⟩

omit [DecidableEq ι] [DecidableEq κ] [DecidableEq δ] in
/-- What the customs workers process is an announcement. -/
theorem processed_type {topology : BrokerTopology} {message : Message}
    (h : _should_process topology build_message_handlers message = .ok true) :
    message.type = some SHIPMENT_MANIFEST_FINALIZED := by
  have hsubscribed : message.type.getD "" ∈ build_message_handlers.subscribed_types := by
    unfold _should_process at h
    by_contra hnot
    split at h
    · simp at h
    · split at h <;> simp at h
  have htypes : build_message_handlers.subscribed_types = [SHIPMENT_MANIFEST_FINALIZED] := by decide
  rw [htypes, List.mem_singleton] at hsubscribed
  cases htype : message.type with
  | none =>
      rw [htype] at hsubscribed
      exact absurd hsubscribed (by decide)
  | some type =>
      rw [htype] at hsubscribed
      exact congrArg some hsubscribed

/-- **Every step keeps it.** -/
theorem Sound.step {s s' : Pipeline ι κ δ} {l : PipelineStep ι κ δ} (h : Sound json pydantic s)
    (hstep : pipeline_step json pydantic exchange s l = some s') : Sound json pydantic s' := by
  -- A copy of an accepted message is as genuine as the message.
  have hcopy : ∀ {position : ℕ} {publication copy : Publication},
      s.accepted[position]? = some publication → SameContent copy.message publication.message →
      Sound json pydantic (s.accept copy) := by
    intro position publication copy hposition hsame
    obtain ⟨hid, htype, hbody⟩ := hsame
    refine h.accepts fun hannounces => ?_
    rw [hid, hbody]
    exact h.genuine publication (List.mem_of_getElem? hposition) (htype ▸ hannounces)
  unfold pipeline_step at hstep
  split at hstep
  · obtain ⟨c, hfire, rfl⟩ := Option.map_eq_some_iff.mp hstep
    exact h.request hfire
  · cases hstep
  · next i step hnot =>
      obtain ⟨relay, hfire, rfl⟩ := Option.map_eq_some_iff.mp hstep
      exact h.relayed hnot hfire
  · -- accepted first, and then the pass goes on as if it had failed
    next i =>
      split at hstep
      · next processed row todo dispatched hlocal =>
          obtain ⟨relay, hfire, rfl⟩ := Option.map_eq_some_iff.mp hstep
          have hknows := h.table.2 i
          rw [hlocal] at hknows
          have hloop : InLoop json s.relay.shared i processed (row :: todo) dispatched := hknows
          have hrow := (hloop.rows row (List.mem_append_right _ List.mem_cons_self)).1
          have haccepted : Sound json pydantic (s.accept (row.publication json)) :=
            h.accepts fun _ => ⟨row, hrow, rfl, rfl⟩
          exact haccepted.relayed (by simp) hfire
      · cases hstep
  · next i position topology handler =>
      split at hstep
      · cases hstep
      · next publication hposition =>
          split at hstep
          · next envelope hshould henvelope =>
              split at hstep
              · obtain ⟨customs, hfire, rfl⟩ := Option.map_eq_some_iff.mp hstep
                refine h.attempted (fun other hother => ?_) hfire
                cases hother
                exact ⟨publication, List.mem_of_getElem? hposition, processed_type hshould,
                  henvelope⟩
              · cases hstep
          · cases hstep
  · cases hstep
  · next i step hnot =>
      obtain ⟨customs, hfire, rfl⟩ := Option.map_eq_some_iff.mp hstep
      refine h.attempted (fun envelope henvelope => ?_) hfire
      cases step with
      | start handler other => exact absurd rfl (hnot handler other)
      | _ => cases henvelope
  · next position topology error now =>
      split at hstep
      · cases hstep
      · next publication hposition =>
          split at hstep
          · cases hstep
          · next count _ =>
              cases hstep
              exact hcopy hposition (recovery_copy_parks topology _ error now count).2
  · next position exchange routing_key headers =>
      obtain ⟨publication, hposition, rfl⟩ := Option.map_eq_some_iff.mp hstep
      exact hcopy hposition ⟨rfl, rfl, rfl⟩
  · split at hstep
    · cases hstep
    · next hother =>
        cases hstep
        exact h.accepts fun hannounces => absurd hannounces hother

omit [DecidableEq κ] in
theorem before_pipeline_sound (json : JsonModule) (pydantic : Pydantic)
    (shipments : Uuid → Option ShipmentRow) (requests : κ → String × FinalizeManifestCommand)
    (limits : ι → ℕ) :
    Sound json pydantic (before_pipeline shipments requests limits : Pipeline ι κ δ) := by
  refine ⟨⟨⟨List.nodup_nil, ?_, ?_⟩, fun _ => rfl⟩, fun _ => trivial, ?_, ?_,
    holds_idle_dispatchers customs_handlers.handlers, ?_, fun _ => trivial⟩
  · intro id i hlock
    cases hlock
  · intro r hr
    exact absurd hr List.not_mem_nil
  · intro row hrow
    exact absurd hrow List.not_mem_nil
  · intro publication hmem
    exact absurd hmem List.not_mem_nil
  · intro effect heffect
    exact absurd heffect List.not_mem_nil

/-! ## 6. The result -/

omit [DecidableEq ι] [DecidableEq κ] [DecidableEq δ] in
/-- An envelope has the identifier and the body of the row its message came from. -/
theorem Delivered.row {s : Pipeline ι κ δ} (hgenuine : ∀ publication ∈ s.accepted,
      Genuine json s.rows publication) {envelope : MessageEnvelope}
    (h : Delivered json s.accepted envelope) :
    ∃ row ∈ s.rows, row.message_id = envelope.message_id
      ∧ _decode json (json.dumps row.body) = .ok envelope.body
      ∧ ∃ publication ∈ s.accepted, AnnouncesUnder envelope.message_id publication := by
  obtain ⟨publication, hmem, htype, henvelope⟩ := h
  obtain ⟨row, hrow, hid, hbody⟩ := hgenuine publication hmem htype
  unfold envelope_of at henvelope
  rw [hid, Option.getD_some, Uuid.parse_str, hbody] at henvelope
  dsimp only at henvelope
  cases hdecode : _decode json (json.dumps row.body) with
  | error error =>
      rw [hdecode] at henvelope
      cases henvelope
  | ok body =>
      rw [hdecode] at henvelope
      cases henvelope
      exact ⟨row, hrow, rfl, hdecode, publication, hmem, htype, hid⟩

omit [DecidableEq κ] in
/-- What the invariant says of one state. -/
theorem Sound.end_to_end {s : Pipeline ι κ δ} (h : Sound json pydantic s) :
    EndToEnd json pydantic s := by
  -- Every effect goes back to a row, and wrote what the body of that row names.
  have hrow : ∀ effect ∈ s.effects, ∃ row ∈ s.rows, row.message_id = effect.message_id
      ∧ (∃ publication ∈ s.accepted, AnnouncesUnder effect.message_id publication)
      ∧ ∃ body, _decode json (json.dumps row.body) = .ok body
        ∧ named_shipment pydantic body = some effect.writes.shipment_id := by
    intro effect heffect
    obtain ⟨envelope, hdelivered, hid, case_id, hhandle⟩ := h.origin.1 effect heffect
    obtain ⟨row, hmem, hrow_id, hdecode, hmessage⟩ := hdelivered.row h.genuine
    obtain ⟨named, hnamed, hcase⟩ := handle_ok_iff.mp hhandle
    rw [hid] at hmessage hrow_id
    exact ⟨row, hmem, hrow_id, hmessage, envelope.body, hdecode, by rw [hnamed, hcase]⟩
  refine ⟨fun publication hmem htype => ?_, fun message_id => ?_, fun effect heffect => ?_,
    fun hrestores hstrips effect heffect => ?_⟩
  · obtain ⟨row, hmem', hid, hbody⟩ := h.genuine publication hmem htype
    exact ⟨row, hmem', hid, hbody, (h.announced row hmem').names⟩
  · have hnodup := effect_ids_nodup h.matched.1
    have hcount := List.nodup_iff_count_le_one.mp hnodup message_id
    rwa [List.count_eq_countP, List.countP_map, List.countP_eq_length_filter] at hcount
  · obtain ⟨row, hmem, hid, hmessage, body, hdecode, hnamed⟩ := hrow effect heffect
    refine ⟨hmessage, fun publication hpublication hunder => ?_⟩
    -- One identifier is one row, so every copy has the body of that row.
    obtain ⟨row', hmem', hid', hbody⟩ := h.genuine publication hpublication hunder.1
    have hsame : row'.message_id = row.message_id := by
      rw [hunder.2, Option.some.injEq] at hid'
      rw [← Uuid.str_injective hid', hid]
    rw [eq_of_id h.table.1.ids hmem' hmem hsame] at hbody
    exact ⟨body, by rw [hbody, hdecode], hnamed⟩
  · obtain ⟨row, hmem, -, -, body, hdecode, hnamed⟩ := hrow effect heffect
    obtain ⟨event, id, stored, hbody, hevent, hstored, hstatus⟩ := h.announced row hmem
    rw [(hrestores row hmem).decode, Except.ok.injEq] at hdecode
    obtain ⟨text, hlookup, hnamed⟩ := named_shipment_eq hnamed
    have htext : text = id.str := by
      rw [← hdecode, hbody] at hlookup
      cases hlookup
      exact hevent
    rw [hstrips, htext, Uuid.strip_str, Uuid.strip_str] at hnamed
    exact ⟨id, stored, hnamed, hstored, hstatus⟩

/-- **No phantom announcement, and no second case for one announcement.** In any order of
the steps of all the parties, every state has the guarantees. -/
theorem pipeline_end_to_end (json : JsonModule) (pydantic : Pydantic) (exchange : String)
    (shipments : Uuid → Option ShipmentRow) (requests : κ → String × FinalizeManifestCommand)
    (limits : ι → ℕ) (steps : List (PipelineStep ι κ δ)) :
    Along (pipeline_step json pydantic exchange) (fun _ _ s => EndToEnd json pydantic s)
      (before_pipeline shipments requests limits) steps := by
  have hbefore : Sound json pydantic (before_pipeline shipments requests limits :
      Pipeline ι κ δ) := before_pipeline_sound json pydantic shipments requests limits
  apply along_of_inv (pipeline_step json pydantic exchange) _ hbefore
  intro s l s' hs hstep
  have hs' := hs.step hstep
  exact ⟨hs'.end_to_end, hs'⟩

end Invariant

end TradeLogistics.Pipelines
