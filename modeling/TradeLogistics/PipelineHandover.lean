/-
The pipeline as a handover.

`Pipeline` is three systems and whoever copies messages between them. What they are for
together is said by the machine of `Handovers`: shipments are declared by their
announcements, offered to customs under the identifier of the message, and taken by opening
a case. This file shows every step of every party to be a step of that machine or none, and
so each run of the pipeline to be a run of it.

What is seen of a state is three things: the outbox rows, each with the shipment that its
body names to customs; the identifiers under which the broker accepted an announcement; and
the cases opened, each with its shipment. The status of a row, the copies and their routes,
the attempts that fail and everything a transaction holds open are not seen.
-/
import TradeLogistics.Pipeline
import TradeLogistics.Handovers

set_option autoImplicit false

namespace TradeLogistics.Pipelines

open TradeLogistics.PyText TradeLogistics.PyAsync TradeLogistics.Runs
open TradeLogistics.UnitOfWork TradeLogistics.MessageBus TradeLogistics.Shipments
open TradeLogistics.Customs TradeLogistics.Handovers Relation

/-! ## 1. What is seen -/

section Seen

variable {ι κ δ : Type*}

/-- The shipment that the body of a row names to customs, once encoded and decoded. -/
def row_shipment (json : JsonModule) (pydantic : Pydantic) (row : OutboxMessage) :
    Option String :=
  match _decode json (json.dumps row.body) with
  | .error _ => none
  | .ok body => named_shipment pydantic body

/-- What a row declares. -/
def declaration (json : JsonModule) (pydantic : Pydantic) (row : OutboxMessage) :
    Uuid × Option String :=
  (row.message_id, row_shipment json pydantic row)

/-- The identifiers under which announcements were accepted. -/
def announced_ids (accepted : List Publication) : Set Uuid :=
  {message_id | ∃ publication ∈ accepted, AnnouncesUnder message_id publication}

/-- What a case that was opened takes. -/
def acceptance (effect : Effect ClearanceCase) : Uuid × Option String :=
  (effect.message_id, some effect.writes.shipment_id)

/-- The state of the handover that a state of the pipeline is in. -/
def Pipeline.board (json : JsonModule) (pydantic : Pydantic) (s : Pipeline ι κ δ) :
    Board Uuid (Option String) where
  declared := s.rows.map (declaration json pydantic)
  offered := announced_ids s.accepted
  taken := s.effects.map acceptance

end Seen

/-! ## 2. What each kind of step is seen as -/

section Steps

variable {ι κ δ : Type*} [DecidableEq ι] [DecidableEq κ] [DecidableEq δ]
  {json : JsonModule} {pydantic : Pydantic} {exchange : String}

/-- Rows that differ in their status declare the same. -/
theorem declaration_same {row row' : OutboxMessage} (h : SameMessage row row') :
    declaration json pydantic row' = declaration json pydantic row := by
  have hbody : row'.body = row.body := by rw [← h]
  rw [declaration, declaration, row_shipment, row_shipment, same_id h, hbody]

/-- A message the broker accepts offers the identifier of a row, or nothing. -/
theorem announced_ids_accept {rows : List OutboxMessage} {accepted accepted' : List Publication}
    {publication : Publication} (hgenuine : Genuine json rows publication)
    (hmore : ∀ other, other ∈ accepted' ↔ other ∈ accepted ∨ other = publication) :
    announced_ids accepted' = announced_ids accepted
      ∨ ∃ row ∈ rows, announced_ids accepted'
        = insert row.message_id (announced_ids accepted) := by
  by_cases htype : publication.message.type = some SHIPMENT_MANIFEST_FINALIZED
  · obtain ⟨row, hrow, hid, -⟩ := hgenuine htype
    refine .inr ⟨row, hrow, Set.ext fun message_id => ?_⟩
    rw [Set.mem_insert_iff]
    constructor
    · rintro ⟨other, hmem, hunder⟩
      rcases (hmore other).mp hmem with hold | rfl
      · exact .inr ⟨other, hold, hunder⟩
      · refine .inl (Uuid.str_injective ?_)
        rw [← Option.some.injEq, ← hunder.2, hid]
    · rintro (rfl | ⟨other, hold, hunder⟩)
      · exact ⟨publication, (hmore publication).mpr (.inr rfl), htype, hid⟩
      · exact ⟨other, (hmore other).mpr (.inl hold), hunder⟩
  · -- a message of another type announces nothing
    refine .inl (Set.ext fun message_id => ⟨?_, ?_⟩)
    · rintro ⟨other, hmem, hunder⟩
      rcases (hmore other).mp hmem with hold | rfl
      · exact ⟨other, hold, hunder⟩
      · exact absurd hunder.1 htype
    · rintro ⟨other, hold, hunder⟩
      exact ⟨other, (hmore other).mpr (.inl hold), hunder⟩

omit [DecidableEq ι] [DecidableEq κ] [DecidableEq δ] in
/-- Where rows and cases stay, accepting one message is an offer or is not seen. -/
theorem board_accepts {s s' : Pipeline ι κ δ} {publication : Publication}
    (hgenuine : Genuine json s.rows publication)
    (hrows : s'.rows.map (declaration json pydantic) = s.rows.map (declaration json pydantic))
    (hmore : ∀ other, other ∈ s'.accepted ↔ other ∈ s.accepted ∨ other = publication)
    (heffects : s'.effects = s.effects) :
    ReflGen Board.Step (s.board json pydantic) (s'.board json pydantic) := by
  rcases announced_ids_accept hgenuine hmore with hsame | ⟨row, hrow, hinsert⟩
  · have hboard : s'.board json pydantic = s.board json pydantic :=
      Board.ext hrows hsame (by rw [Pipeline.board, heffects]; rfl)
    rw [hboard]
  · have hboard : s'.board json pydantic
        = { s.board json pydantic with
            offered := insert row.message_id (s.board json pydantic).offered } :=
      Board.ext hrows hinsert (by rw [Pipeline.board, heffects]; rfl)
    rw [hboard]
    refine .single (.offer row.message_id ?_)
    rw [Pipeline.board, List.map_map]
    exact List.mem_map.mpr ⟨row, hrow, rfl⟩

omit [DecidableEq ι] [DecidableEq δ] in
/-- A request goes on: it declares its shipment if it commits. -/
theorem board_request {s : Pipeline ι κ δ} {i : κ} {step : FinalizationStep}
    {c : Config κ ShipmentDatabase Finalization}
    (hfire : fire (finalize_step exchange) ⟨s.database, s.requests⟩ (i, step) = some c) :
    ReflGen Board.Step (s.board json pydantic)
      (Pipeline.board json pydantic { s with
        shipments := c.shared.shipments
        requests := c.locals
        relay := ⟨{ s.relay.shared with rows := c.shared.outbox }, s.relay.locals⟩ }) := by
  obtain ⟨db', k', hstep, rfl⟩ := fire_eq_some.mp hfire
  rcases finalize_step_cases hstep with ⟨rfl, -, -⟩
    | ⟨id, row, after, event, message_id, now, -, -, rfl, hcommit⟩
  · exact .refl
  · obtain ⟨hfresh, -⟩ := store_ok (commit_stores (t := s.relay.shared) hcommit)
    obtain ⟨-, -, -, -, -, houtbox⟩ := commit_ok hcommit
    have hrows : db'.outbox.map (declaration json pydantic)
        = s.rows.map (declaration json pydantic)
          ++ [declaration json pydantic (OutboxMessage.schedule event.message
            (manifest_destination exchange) message_id now)] := by
      rw [houtbox, List.map_append]
      rfl
    have hboard : Pipeline.board json pydantic { s with
        shipments := db'.shipments
        requests := Function.update s.requests i .finished
        relay := ⟨{ s.relay.shared with rows := db'.outbox }, s.relay.locals⟩ }
        = { s.board json pydantic with
            declared := (s.board json pydantic).declared
              ++ [declaration json pydantic (OutboxMessage.schedule event.message
                (manifest_destination exchange) message_id now)] } :=
      Board.ext hrows rfl rfl
    rw [hboard]
    refine .single (.declare _ _ ?_)
    -- the identifier of the new row is on no other
    rw [Pipeline.board, List.map_map]
    rintro hmem
    obtain ⟨row, hrow, hid⟩ := List.mem_map.mp hmem
    exact hfresh row hrow hid

omit [DecidableEq κ] in
/-- A pass goes on: it offers a row if the broker accepts it. -/
theorem board_relayed {s : Pipeline ι κ δ} (h : Sound json pydantic s) {i : ι} {a : PassStep}
    (ha : a ≠ .store) {relay : Config ι (Outbox ι) Pass}
    (hfire : fire (relay_step json) s.relay (i, a) = some relay) :
    ReflGen Board.Step (s.board json pydantic)
      (Pipeline.board json pydantic { s with relay }) := by
  obtain ⟨t', k', hstep, rfl⟩ := fire_eq_some.mp hfire
  rcases relay_step_writes hstep with ⟨hrows, haccepted⟩ | ⟨row, hstore, -⟩
    | ⟨processed, row, todo, dispatched, hk, hrows, haccepted⟩
    | ⟨processed, dispatched, hk, hrows, haccepted⟩
  · have hboard : Pipeline.board json pydantic { s with
        relay := ⟨t', Function.update s.relay.locals i k'⟩ } = s.board json pydantic := by
      refine Board.ext ?_ ?_ rfl
      · exact congrArg (List.map (declaration json pydantic)) hrows
      · exact congrArg (fun accepted => announced_ids (accepted.map (·.2) ++ s.copies)) haccepted
    rw [hboard]
  · exact absurd hstore ha
  · -- the row that is published is one of the table
    have hknows := h.table.2 i
    rw [hk] at hknows
    have hloop : InLoop json s.relay.shared i processed (row :: todo) dispatched := hknows
    have hrow := (hloop.rows row (List.mem_append_right _ List.mem_cons_self)).1
    have hgenuine : Genuine json s.rows (row.publication json) := fun _ => ⟨row, hrow, rfl, rfl⟩
    refine board_accepts hgenuine
      (congrArg (List.map (declaration json pydantic)) hrows) (fun other => ?_) rfl
    simp only [Pipeline.accepted, haccepted, List.map_append, List.map_cons, List.map_nil,
      List.mem_append, List.mem_singleton]
    exact or_right_comm
  · -- the rows are settled: their statuses change, and nothing else
    have hknows := h.table.2 i
    rw [hk] at hknows
    have hloop : InLoop json s.relay.shared i processed [] dispatched := hknows
    have hdeclared : t'.rows.map (declaration json pydantic)
        = s.rows.map (declaration json pydantic) := by
      rw [hrows, hloop.update h.table.1, List.map_map]
      exact List.map_congr_left fun row hrow =>
        declaration_same (hloop.settle_same h.table.1 hrow)
    have hboard : Pipeline.board json pydantic { s with
        relay := ⟨t', Function.update s.relay.locals i k'⟩ } = s.board json pydantic := by
      refine Board.ext hdeclared ?_ rfl
      exact congrArg (fun accepted => announced_ids (accepted.map (·.2) ++ s.copies)) haccepted
    rw [hboard]

omit [DecidableEq κ] in
/-- What an effect took was declared, and offered. -/
theorem effect_declared {s : Pipeline ι κ δ} (h : Sound json pydantic s)
    {effect : Effect ClearanceCase} (heffect : effect ∈ s.effects) :
    acceptance effect ∈ (s.board json pydantic).declared
      ∧ effect.message_id ∈ (s.board json pydantic).offered := by
  obtain ⟨envelope, hdelivered, hid, case_id, hhandle⟩ := h.origin.1 effect heffect
  obtain ⟨row, hrow, hrow_id, hdecode, hmessage⟩ := hdelivered.row h.genuine
  obtain ⟨named, hnamed, hcase⟩ := handle_ok_iff.mp hhandle
  refine ⟨List.mem_map.mpr ⟨row, hrow, ?_⟩, hid ▸ hmessage⟩
  rw [declaration, row_shipment, hdecode, acceptance, hrow_id, hid]
  dsimp only
  rw [hnamed, hcase]

omit [DecidableEq κ] in
/-- An attempt goes on: it takes what its message offers if it commits. -/
theorem board_attempted {s : Pipeline ι κ δ} {i : δ} {a : AttemptStep Uuid}
    {customs : Config δ (Inbox δ ClearanceCase) (Attempt ClearanceCase)}
    (h' : Sound json pydantic { s with customs })
    (hfire : fire (customs_attempt pydantic) s.customs (i, a) = some customs) :
    ReflGen Board.Step (s.board json pydantic)
      (Pipeline.board json pydantic { s with customs }) := by
  obtain ⟨inbox', attempt', hstep, rfl⟩ := fire_eq_some.mp hfire
  have hmove := attempt_step_moves hstep
  dsimp only at hmove
  generalize s.customs.locals i = attempt at hmove
  -- only a commit adds to what the handlers wrote
  have hsame : inbox'.committed.effects = s.customs.shared.committed.effects →
      ReflGen Board.Step (s.board json pydantic) (Pipeline.board json pydantic { s with
        customs := ⟨inbox', Function.update s.customs.locals i attempt'⟩ }) := by
    intro heffects
    have hboard : Pipeline.board json pydantic { s with
        customs := ⟨inbox', Function.update s.customs.locals i attempt'⟩ }
        = s.board json pydantic :=
      Board.ext rfl rfl (congrArg (List.map acceptance) heffects)
    rw [hboard]
  cases hmove with
  | started _ => exact hsame rfl
  | found_new _ => exact hsame rfl
  | wrote _ => exact hsame rfl
  | flushed _ _ => exact hsame rfl
  | gave_up _ => exact hsame rfl
  | rolled_back => exact hsame rfl
  | @committed handler envelope writes _ =>
      have hmem : (⟨handler, envelope.message_id, writes⟩ : Effect ClearanceCase)
          ∈ Pipeline.effects { s with
            customs := ⟨{ s.customs.shared.release i with
                committed := s.customs.shared.committed.commit handler envelope writes },
              Function.update s.customs.locals i .idle⟩ } :=
        List.mem_append_right _ (List.mem_singleton.mpr rfl)
      obtain ⟨hdeclared, hoffered⟩ := effect_declared h' hmem
      have hfirst := effect_ids_nodup h'.matched.1
      have hboard : Pipeline.board json pydantic { s with
          customs := ⟨{ s.customs.shared.release i with
              committed := s.customs.shared.committed.commit handler envelope writes },
            Function.update s.customs.locals i .idle⟩ }
          = { s.board json pydantic with
              taken := (s.board json pydantic).taken
                ++ [(envelope.message_id, some writes.shipment_id)] } := by
        refine Board.ext rfl rfl ?_
        simp only [Pipeline.board, Pipeline.effects, ModuleDatabase.commit, List.map_append,
          List.map_cons, List.map_nil, acceptance]
      rw [hboard]
      refine .single (.take _ _ hdeclared hoffered fun htaken => ?_)
      -- the identifiers of the effects are different still with the new one
      simp only [ModuleDatabase.commit, List.map_append, List.map_cons, List.map_nil] at hfirst
      refine (List.nodup_append.mp hfirst).2.2 envelope.message_id ?_ envelope.message_id
        (List.mem_singleton.mpr rfl) rfl
      simp only [Pipeline.board, List.map_map] at htaken
      exact htaken

/-! ## 3. Every step, and every run -/

omit [DecidableEq ι] [DecidableEq κ] [DecidableEq δ] in
/-- The broker accepts one message more. -/
theorem board_accept {s : Pipeline ι κ δ} {publication : Publication}
    (hgenuine : Genuine json s.rows publication) :
    ReflGen Board.Step (s.board json pydantic) ((s.accept publication).board json pydantic) := by
  refine board_accepts hgenuine rfl (fun other => ?_) rfl
  simp only [Pipeline.accepted, Pipeline.accept, List.mem_append, List.mem_singleton]
  exact or_assoc.symm

omit [DecidableEq κ] in
/-- A copy of an accepted message is as genuine as the message. -/
theorem genuine_copy {s : Pipeline ι κ δ} (h : Sound json pydantic s) {position : ℕ}
    {publication copy : Publication} (hposition : s.accepted[position]? = some publication)
    (hsame : SameContent copy.message publication.message) : Genuine json s.rows copy := by
  obtain ⟨hid, htype, hbody⟩ := hsame
  intro hannounces
  rw [hid, hbody]
  exact h.genuine publication (List.mem_of_getElem? hposition) (htype ▸ hannounces)

/-- **Every step of the pipeline is a step of the handover, or is not seen.** -/
theorem pipeline_step_seen {s s' : Pipeline ι κ δ} {l : PipelineStep ι κ δ}
    (h : Sound json pydantic s) (hstep : pipeline_step json pydantic exchange s l = some s') :
    ReflGen Board.Step (s.board json pydantic) (s'.board json pydantic) := by
  have h' : Sound json pydantic s' := h.step hstep
  unfold pipeline_step at hstep
  split at hstep
  · obtain ⟨c, hfire, rfl⟩ := Option.map_eq_some_iff.mp hstep
    exact board_request hfire
  · cases hstep
  · next i step hnot =>
      obtain ⟨relay, hfire, rfl⟩ := Option.map_eq_some_iff.mp hstep
      exact board_relayed h hnot hfire
  · -- accepted, and the pass goes on as if it were not
    next i =>
      split at hstep
      · next processed row todo dispatched hlocal =>
          obtain ⟨relay, hfire, rfl⟩ := Option.map_eq_some_iff.mp hstep
          have hknows := h.table.2 i
          rw [hlocal] at hknows
          have hloop : InLoop json s.relay.shared i processed (row :: todo) dispatched := hknows
          have hrow := (hloop.rows row (List.mem_append_right _ List.mem_cons_self)).1
          obtain ⟨t', k', hrelay, rfl⟩ := fire_eq_some.mp hfire
          dsimp only at hrelay
          rw [hlocal] at hrelay
          cases hrelay
          exact board_accept (s := { s with
            relay := ⟨s.relay.shared, Function.update s.relay.locals i _⟩ })
            fun _ => ⟨row, hrow, rfl, rfl⟩
      · cases hstep
  · next i position topology handler =>
      split at hstep
      · cases hstep
      · split at hstep
        · split at hstep
          · obtain ⟨customs, hfire, rfl⟩ := Option.map_eq_some_iff.mp hstep
            exact board_attempted h' hfire
          · cases hstep
        · cases hstep
  · cases hstep
  · obtain ⟨customs, hfire, rfl⟩ := Option.map_eq_some_iff.mp hstep
    exact board_attempted h' hfire
  · next position topology error now =>
      split at hstep
      · cases hstep
      · next publication hposition =>
          split at hstep
          · cases hstep
          · next count _ =>
              cases hstep
              exact board_accept (genuine_copy h hposition
                (recovery_copy_parks topology _ error now count).2)
  · obtain ⟨publication, hposition, rfl⟩ := Option.map_eq_some_iff.mp hstep
    exact board_accept (genuine_copy h hposition ⟨rfl, rfl, rfl⟩)
  · split at hstep
    · cases hstep
    · next hother =>
        cases hstep
        exact board_accept fun hannounces => absurd hannounces hother

/-- **The pipeline hands shipments over.** Every run of all the parties, in any order, is
seen as a run of the handover that begins with nothing declared, and so is what follows
it. So in every state each identifier is declared once and its case opened at most once, by
a message offered under it and for the shipment its row names; and no declaration, offer or
case is ever taken back. -/
theorem pipeline_hands_over {shipments : Uuid → Option ShipmentRow}
    {requests : κ → String × FinalizeManifestCommand} {limits : ι → ℕ}
    {steps later : List (PipelineStep ι κ δ)} {s s' : Pipeline ι κ δ}
    (hrun : run (pipeline_step json pydantic exchange)
      (before_pipeline shipments requests limits) steps = some s)
    (hlater : run (pipeline_step json pydantic exchange) s later = some s') :
    (ReflTransGen Board.Step Board.empty (s.board json pydantic)
      ∧ ReflTransGen Board.Step (s.board json pydantic) (s'.board json pydantic))
    ∧ (s.board json pydantic).Orderly
    ∧ (s.board json pydantic).Before (s'.board json pydantic) := by
  have hbefore : Sound json pydantic (before_pipeline shipments requests limits :
      Pipeline ι κ δ) := before_pipeline_sound json pydantic shipments requests limits
  have hempty : (before_pipeline shipments requests limits : Pipeline ι κ δ).board json pydantic
      = Board.empty := by
    refine Board.ext rfl (Set.eq_empty_of_forall_notMem ?_) rfl
    rintro message_id ⟨publication, hmem, -⟩
    exact absurd hmem List.not_mem_nil
  have hseen : ∀ (s : Pipeline ι κ δ) l s', Sound json pydantic s →
      pipeline_step json pydantic exchange s l = some s' →
      Sound json pydantic s' ∧ ReflGen Board.Step (s.board json pydantic)
        (s'.board json pydantic) :=
    fun s l s' h hstep => ⟨h.step hstep, pipeline_step_seen h hstep⟩
  obtain ⟨hs, hfirst⟩ := run_refines hseen hbefore hrun
  obtain ⟨-, hnext⟩ := run_refines hseen hs hlater
  rw [hempty] at hfirst
  have horderly := (Board.orderly_of_steps hfirst Board.empty_orderly).1
  exact ⟨⟨hfirst, hnext⟩, horderly, (Board.orderly_of_steps hnext horderly).2⟩

end Steps

/-! ### One shipment, announced twice over -/

/-- A `json` that writes its texts and reads the one of the announcement of the draft. -/
def draft_json : JsonModule :=
  plain_json [("shipment_id", .str draftId.str), ("waybill_number", .str "MUST-0000042"),
    ("commodity_code", .str "8471")]

/-- The draft, one request to finalize it, and one pass. -/
def one_draft : Pipeline Unit Unit Unit :=
  before_pipeline (fun id => if id = draftId then some draftRow else none)
    (fun _ => declarations false) fun _ => 1

/-- The shipment is finalized, and its row published. -/
def announcing : List (PipelineStep Unit Unit Unit) :=
  [.request () .find_by_id, .request () .handle, .request () (.commit (.of_byte 101) 1),
    .relay () (.find_pending [.of_byte 101]), .relay () (.publish true 2), .relay () .commit]

/-- Its message is replayed, and both copies are delivered. -/
def opening : List (PipelineStep Unit Unit Unit) :=
  [.again 0 "trade-logistics.retry" "trade-logistics.customs.retry" [],
    .deliver () 1 customs_topology OpenClearanceCaseMessageHandler, .attempt () .was_handled,
    .attempt () (.handle (.of_byte 9)), .attempt () .record, .attempt () .commit,
    .deliver () 0 customs_topology OpenClearanceCaseMessageHandler, .attempt () .was_handled]

/-- One case is opened, and the board is in order. -/
theorem one_shipment_handed_over : ∃ s s',
    run (pipeline_step draft_json stripping "trade-logistics.topic") one_draft announcing = some s
    ∧ run (pipeline_step draft_json stripping "trade-logistics.topic") s opening = some s'
    ∧ s'.effects.length = 1
    ∧ (s.board draft_json stripping).Orderly
    ∧ (s.board draft_json stripping).Before (s'.board draft_json stripping) := by
  have hall : (run (pipeline_step draft_json stripping "trade-logistics.topic") one_draft
      announcing).any (fun s =>
        (run (pipeline_step draft_json stripping "trade-logistics.topic") s opening).any
          fun s' => s'.effects.length == 1) = true := by
    decide +kernel
  simp only [Option.any_eq_true, beq_iff_eq] at hall
  obtain ⟨s, hrun, s', hlater, heffects⟩ := hall
  obtain ⟨-, horderly, hbefore⟩ := pipeline_hands_over hrun hlater
  exact ⟨s, s', hrun, hlater, heffects, horderly, hbefore⟩

end TradeLogistics.Pipelines
