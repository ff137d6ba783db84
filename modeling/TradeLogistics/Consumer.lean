/-
The consumer: what becomes of one delivery.

A delivery is refused, or dispatched and acknowledged; when the dispatch fails, a copy
goes to the retry or the error exchange first. The acknowledgement stands in a `finally`,
so it is reached however the `try` ends: also when the dispatch is cancelled, and also
when the publication of the copy is what fails. Only an error before the `try` leaves
the delivery unacknowledged.

What it takes for nothing to be lost is then a matter of the fates alone: a dispatch that
returns has handled the message; after one that fails the copy must reach the broker; and
in either of the other cases every subscriber must have been recorded by an attempt that
was made before the end.
-/
import TradeLogistics.Dispatcher

set_option autoImplicit false

namespace TradeLogistics.MessageBus

open TradeLogistics.PyText TradeLogistics.PyAsync

/-! ## 1. The topology -/

def RETRY_RETURN_SUFFIX : String := "retry"

/-- The part of `BrokerTopology` that decides where a message goes. -/
structure BrokerTopology where
  app_name : String
  primary_queue : String
  retry_exchange : String
  retry_binding_key : String
  retry_dead_letter_exchange : String
  retry_dead_letter_routing_key : String
  error_exchange : String
  error_routing_key : String
  immediate_retries : ℤ
  delayed_retries : ℤ

namespace BrokerTopology

def resolved_retry_dead_letter_exchange (topology : BrokerTopology) : String :=
  if topology.retry_dead_letter_exchange = "" then topology.retry_exchange
  else topology.retry_dead_letter_exchange

def resolved_retry_dead_letter_routing_key (topology : BrokerTopology) : String :=
  if topology.retry_dead_letter_routing_key = "" then
    topology.primary_queue ++ "." ++ RETRY_RETURN_SUFFIX
  else topology.retry_dead_letter_routing_key

end BrokerTopology

/-! ## 2. What a delivery is -/

/-- The exception an `IntError` stands for; the bus lets only the third escape. -/
def IntError.exception : IntError → PyException
  | .TypeError => ⟨"TypeError", "int() argument must be a string or a real number", []⟩
  | .ValueError => ⟨"ValueError", "invalid literal for int()", []⟩
  | .OverflowError => ⟨"OverflowError", "cannot convert float infinity to integer", []⟩

/-- `_redelivery_count`, and the envelope's `redelivery_count`. -/
def redelivery_count (headers : Headers) : Except PyException ℤ :=
  match _redelivery_count headers with
  | .ok n => .ok n
  | .error error => .error error.exception

/-- `_decode`. -/
def _decode (json : JsonModule) (body : Bytes) : Except PyException Body :=
  match json.loads (if body.isEmpty then [0x7b, 0x7d] else body) with
  | .ok (.object members) => .ok members
  | .ok decoded => .ok [("value", decoded)]
  -- no text, or no JSON: tolerated
  | .error .ValueError => .ok []
  | .error .RecursionError =>
    .error ⟨"RecursionError", "maximum recursion depth exceeded", []⟩

/-- `_should_process`. -/
def _should_process (topology : BrokerTopology) (registry : MessageHandlerRegistry)
    (message : Message) : Except PyException Bool :=
  if message.message_id.getD "" = "" then .ok false
  else if message.type.getD "" = "" then .ok false
  else if message.type.getD "" ∉ registry.subscribed_types then .ok false
  else match redelivery_count message.headers with
    | .error error => .error error
    -- A retry belongs to the endpoint that scheduled it.
    | .ok count => match message.headers.get RETRY_ENDPOINT_HEADER with
      | some (.str retry_endpoint) =>
          .ok (!(decide (count > 0) && retry_endpoint != topology.app_name))
      | _ => .ok (!decide (count > 0))

/-- The envelope of a delivery that is processed. -/
def envelope_of (json : JsonModule) (message : Message) : Except PyException MessageEnvelope :=
  -- `UUID(str(message.message_id))`
  match Uuid.parse (message.message_id.getD "None") with
  | none => .error ⟨"ValueError", "badly formed hexadecimal UUID string", []⟩
  | some message_id => match _decode json message.body with
    | .error error => .error error
    | .ok body => .ok { message_id, message_type := message.type.getD "None", body,
                        headers := message.headers }

/-! ## 3. Recovery -/

/-- How the awaits of a recovery end, and the time it reads. -/
structure RecoveryFate where
  declare : Fate
  publish : RemoteCall
  now : String

/-- The copy reaches the broker. -/
def RecoveryFate.reaches (fate : RecoveryFate) : Bool :=
  match fate.declare with
  | .completes => fate.publish.took_effect
  | _ => false

open Async

/-- What both ways of recovering end in: the exchange is declared, the copy published. -/
def publish_copy (copy : Publication) (fate : RecoveryFate) : Async (List Publication) Unit := do
  await fate.declare
  send fate.publish fun accepted => accepted ++ [copy]

/-- The copy `schedule_retry` publishes, one redelivery further along. -/
def retry_copy (topology : BrokerTopology) (message : Message) (count : ℤ) : Publication where
  exchange := topology.retry_exchange
  routing_key := topology.retry_binding_key
  message := { message with
    headers := (message.headers.set REDELIVERY_COUNT_HEADER (.int (count + 1))).set
      RETRY_ENDPOINT_HEADER (.str topology.app_name) }

/-- `schedule_retry`. -/
def schedule_retry (topology : BrokerTopology) (message : Message) (fate : RecoveryFate) :
    Async (List Publication) Unit := do
  let count ← reading fun _ => redelivery_count message.headers
  publish_copy (retry_copy topology message count) fate

/-- `_exception_details`. -/
def _exception_details (error : PyException) (now : String) : HeaderValue :=
  -- A dispatch raises one error for the failures of all its handlers.
  let causes := if error.failures.isEmpty then [error] else error.failures
  .array (causes.map fun cause => .table
    [("exception_type", .str cause.type_name), ("message", .str cause.text),
      ("failed_at", .str now)])

/-- `_endpoint_descriptor`. -/
def _endpoint_descriptor (topology : BrokerTopology) (message_type : Option String) :
    HeaderValue :=
  .table [("name", .str topology.app_name), ("delivery_metadata", .table
    [("message_type", .str (message_type.getD "")),
      ("exchange", .str topology.resolved_retry_dead_letter_exchange),
      ("routing_key", .str topology.resolved_retry_dead_letter_routing_key)])]

/-- The copy `dead_letter` publishes, with the failure attached. -/
def error_copy (topology : BrokerTopology) (message : Message) (error : PyException)
    (now : String) : Publication where
  exchange := topology.error_exchange
  routing_key := topology.error_routing_key
  message := { message with
    headers := (message.headers.set EXCEPTION_DETAILS_HEADER (_exception_details error now)).set
      ENDPOINT_HEADER (_endpoint_descriptor topology message.type) }

/-- `dead_letter`. -/
def dead_letter (topology : BrokerTopology) (message : Message) (error : PyException)
    (fate : RecoveryFate) : Async (List Publication) Unit :=
  publish_copy (error_copy topology message error fate.now) fate

/-- `_recover`. -/
def _recover (topology : BrokerTopology) (message : Message) (envelope : MessageEnvelope)
    (error : PyException) (fate : RecoveryFate) : Async (List Publication) Unit := do
  let count ← reading fun _ => redelivery_count envelope.headers
  if count ≥ topology.delayed_retries then dead_letter topology message error fate
  else schedule_retry topology message fate

/-! ## 4. `handle_delivery` -/

/-- What a delivery works on: the worker, what the broker has accepted from it, and
whether it is acknowledged. -/
structure Delivery (W : Type) where
  worker : Worker W
  accepted : List Publication
  acked : Bool

/-- How everything a delivery awaits ends. -/
structure DeliveryFate (χ : Type) where
  attempts : MessageHandler → ℕ → AttemptFate χ
  recovery : RecoveryFate
  ack : RemoteCall

section Deliveries

variable {χ W : Type}

def ack (fate : RemoteCall) : Async (Delivery W) Unit :=
  send fate fun delivery => { delivery with acked := true }

/-- `handle_delivery`. -/
def handle_delivery (json : JsonModule) (topology : BrokerTopology)
    (registry : MessageHandlerRegistry) (handle : Handling χ W) (message : Message)
    (fate : DeliveryFate χ) : Async (Delivery W) Unit := do
  let process ← reading fun _ => _should_process topology registry message
  if !process then ack fate.ack
  else
    let envelope ← reading fun _ => envelope_of json message
    -- The count is read once more, for the log.
    let _ ← reading fun _ => redelivery_count envelope.headers
    try_finally
      (try_except
        (on Delivery.worker (fun delivery worker => { delivery with worker })
          (dispatch handle registry topology.immediate_retries envelope fate.attempts))
        fun error =>
          on Delivery.accepted (fun delivery accepted => { delivery with accepted })
            (_recover topology message envelope error fate.recovery))
      (ack fate.ack)

/-! ## 5. What one delivery does -/

/-- A copy of a message: the same identifier, type and body. -/
def SameContent (copy message : Message) : Prop :=
  copy.message_id = message.message_id ∧ copy.type = message.type ∧ copy.body = message.body

/-- Where a failed message goes. -/
def Parks (topology : BrokerTopology) (message : Message) (copy : Publication) : Prop :=
  (copy.exchange = topology.retry_exchange ∨ copy.exchange = topology.error_exchange)
    ∧ SameContent copy.message message

theorem publish_copy_apply (copy : Publication) (fate : RecoveryFate)
    (accepted : List Publication) :
    publish_copy copy fate accepted
      = (fate.declare.then (fate.publish.fate.then (.returned ())),
        if fate.reaches then accepted ++ [copy] else accepted) := by
  unfold publish_copy RecoveryFate.reaches
  cases fate.declare with
  | completes =>
      rw [await_completes_bind, send]
      cases fate.publish.fate <;> rfl
  | raises error => rfl
  | cancelled => rfl

/-- The copy a recovery publishes. -/
def recovery_copy (topology : BrokerTopology) (message : Message) (error : PyException)
    (now : String) (count : ℤ) : Publication :=
  if count ≥ topology.delayed_retries then error_copy topology message error now
  else retry_copy topology message count

theorem recovery_copy_parks (topology : BrokerTopology) (message : Message) (error : PyException)
    (now : String) (count : ℤ) :
    Parks topology message (recovery_copy topology message error now count) := by
  unfold recovery_copy
  split
  · exact ⟨.inr rfl, rfl, rfl, rfl⟩
  · exact ⟨.inl rfl, rfl, rfl, rfl⟩

/-- A recovery adds its copy if the publication reaches the broker, and nothing else. -/
theorem recover_apply {topology : BrokerTopology} {message : Message}
    {envelope : MessageEnvelope} (error : PyException) (fate : RecoveryFate)
    (accepted : List Publication) {count : ℤ}
    (hheaders : envelope.headers = message.headers)
    (hcount : redelivery_count message.headers = .ok count) :
    _recover topology message envelope error fate accepted
      = (fate.declare.then (fate.publish.fate.then (.returned ())),
        if fate.reaches then
          accepted ++ [recovery_copy topology message error fate.now count]
        else accepted) := by
  unfold _recover recovery_copy
  rw [reading_bind, hheaders, hcount]
  dsimp only
  split
  · exact publish_copy_apply _ _ _
  · rw [schedule_retry, reading_bind, hcount]
    exact publish_copy_apply _ _ _

/-- A delivery is processed when it is ours and its envelope can be built. -/
def Processed (json : JsonModule) (topology : BrokerTopology) (registry : MessageHandlerRegistry)
    (message : Message) (envelope : MessageEnvelope) : Prop :=
  _should_process topology registry message = .ok true ∧ envelope_of json message = .ok envelope

theorem should_process_count {topology : BrokerTopology} {registry : MessageHandlerRegistry}
    {message : Message} (h : _should_process topology registry message = .ok true) :
    ∃ count, redelivery_count message.headers = .ok count := by
  unfold _should_process at h
  split at h
  · simp at h
  · split at h
    · simp at h
    · split at h
      · simp at h
      · split at h
        · simp at h
        · next count hcount => exact ⟨count, hcount⟩

theorem envelope_of_headers {json : JsonModule} {message : Message} {envelope : MessageEnvelope}
    (h : envelope_of json message = .ok envelope) : envelope.headers = message.headers := by
  unfold envelope_of at h
  split at h
  · simp at h
  · split at h
    · simp at h
    · rw [Except.ok.injEq] at h
      rw [← h]

/-- **A delivery that is processed**: the worker it leaves is the dispatch's, it is
acknowledged if the acknowledgement takes effect, and what the broker has accepted is the
copy of a dispatch that raised, if its publication reached the broker. -/
theorem handle_delivery_processed {json : JsonModule} {topology : BrokerTopology}
    {registry : MessageHandlerRegistry} (handle : Handling χ W) {message : Message}
    (fate : DeliveryFate χ) {envelope : MessageEnvelope} {count : ℤ} (delivery : Delivery W)
    (hprocessed : Processed json topology registry message envelope)
    (hcount : redelivery_count message.headers = .ok count) :
    (handle_delivery json topology registry handle message fate delivery).2
      = { worker := (dispatch handle registry topology.immediate_retries envelope fate.attempts
            delivery.worker).2
          accepted := match (dispatch handle registry topology.immediate_retries envelope
              fate.attempts delivery.worker).1 with
            | .raised error => if fate.recovery.reaches then delivery.accepted
                ++ [recovery_copy topology message error fate.recovery.now count]
              else delivery.accepted
            | _ => delivery.accepted
          acked := if fate.ack.took_effect then true else delivery.acked } := by
  obtain ⟨hshould, henvelope⟩ := hprocessed
  have hheaders := envelope_of_headers henvelope
  -- whatever comes before it, the acknowledgement changes its own field only
  have hack : ∀ (m : Async (Delivery W) Unit) (d : Delivery W),
      (try_finally m (ack fate.ack) d).2
        = { (m d).2 with acked := if fate.ack.took_effect then true else (m d).2.acked } := by
    intro m d
    unfold try_finally ack send RemoteCall.took_effect
    rcases m d with ⟨ending, d'⟩
    obtain ⟨_ | _ | _, _ | _⟩ := fate.ack <;> rfl
  unfold handle_delivery
  rw [reading_bind, hshould]
  simp only [Bool.not_true, Bool.false_eq_true, if_false, reading_bind, henvelope, hheaders, hcount]
  rw [hack]
  rcases hdispatch : dispatch handle registry topology.immediate_retries envelope fate.attempts
    delivery.worker with ⟨ending, worker⟩
  cases ending with
  | returned _ => simp [try_except, on, hdispatch]
  | cancelled => simp [try_except, on, hdispatch]
  | raised error =>
      simp only [try_except, on, hdispatch, recover_apply error fate.recovery _ hheaders hcount]

/-- A delivery whose envelope cannot be built raises before anything is done with it. -/
theorem handle_delivery_unreadable {json : JsonModule} {topology : BrokerTopology}
    {registry : MessageHandlerRegistry} (handle : Handling χ W) {message : Message}
    (fate : DeliveryFate χ) {error : PyException} (delivery : Delivery W)
    (hshould : _should_process topology registry message = .ok true)
    (henvelope : envelope_of json message = .error error) :
    handle_delivery json topology registry handle message fate delivery
      = (.raised error, delivery) := by
  unfold handle_delivery
  rw [reading_bind, hshould]
  simp only [Bool.not_true, Bool.false_eq_true, if_false, reading_bind, henvelope]

/-! ## 6. Who is recorded

A subscriber has its inbox row after a dispatch exactly if it had one before, or an
attempt was made under its name whose transaction its fate lets take effect. -/

/-- Among these attempts one under this name took effect. -/
def TookEffect (handle : Handling χ W) (envelope : MessageEnvelope)
    (fates : MessageHandler → ℕ → AttemptFate χ) (handler_name : String)
    (made : List AttemptMade) : Prop :=
  ∃ attempt ∈ made, attempt.handler.handler_name = handler_name
    ∧ ∃ writes, (fates attempt.handler attempt.attempt).written handle attempt.handler envelope
      = some writes

theorem TookEffect.append {handle : Handling χ W} {envelope : MessageEnvelope}
    {fates : MessageHandler → ℕ → AttemptFate χ} {handler_name : String}
    {first second : List AttemptMade} :
    TookEffect handle envelope fates handler_name (first ++ second)
      ↔ TookEffect handle envelope fates handler_name first
        ∨ TookEffect handle envelope fates handler_name second := by
  simp only [TookEffect, List.mem_append, or_and_right, exists_or]

/-- Rows are a matter of the name. -/
theorem row_count_of_name {db : ModuleDatabase W} {handler other : MessageHandler}
    {message_id : Uuid} (h : other.handler_name = handler.handler_name) :
    db.row_count other message_id = db.row_count handler message_id := by
  rw [ModuleDatabase.row_count, ModuleDatabase.row_count, h]

/-- One run records its own name. -/
theorem served_rows {handle : Handling χ W} {immediate_retries : ℤ} {first : MessageHandler}
    {envelope : MessageEnvelope} {fates : MessageHandler → ℕ → AttemptFate χ} {worker : Worker W}
    {ran : Ran W} (handler : MessageHandler)
    (hran : Served handle immediate_retries first envelope (fates first) worker
      (ran.on first envelope worker).2 ran) :
    (ran.on first envelope worker).2.database.row_count handler envelope.message_id ≠ 0
      ↔ worker.database.row_count handler envelope.message_id ≠ 0
        ∨ TookEffect handle envelope fates handler.handler_name ran.made := by
  -- rows are counted by handler name, so a namesake's attempts count as the handler's own
  by_cases hname : first.handler_name = handler.handler_name
  · rw [← row_count_of_name hname, ← row_count_of_name hname, hran.rows]
    have hown : TookEffect handle envelope fates handler.handler_name ran.made
        ↔ ∃ attempt ∈ ran.made, ∃ writes,
          (fates first attempt.attempt).written handle first envelope = some writes := by
      constructor
      · rintro ⟨attempt, hmem, -, hwritten⟩
        rw [hran.sound.own attempt hmem] at hwritten
        exact ⟨attempt, hmem, hwritten⟩
      · rintro ⟨attempt, hmem, hwritten⟩
        have hfirst := hran.sound.own attempt hmem
        exact ⟨attempt, hmem, by rw [hfirst, hname], by rw [hfirst]; exact hwritten⟩
    by_cases hzero : worker.database.row_count first envelope.message_id = 0
    · rw [hown, ← hran.sound.effective hzero, hzero]
      cases ran.written <;> simp
    · refine iff_of_true ?_ (.inl hzero)
      omega
  · have hsame : SameFor handler envelope.message_id worker (ran.on first envelope worker).2 :=
      ran_same worker hran.sound.own hname
    rw [hsame.rows]
    have hnone : ¬ TookEffect handle envelope fates handler.handler_name ran.made := by
      rintro ⟨attempt, hmem, hattempt, -⟩
      rw [hran.sound.own attempt hmem] at hattempt
      exact hname hattempt
    simp [hnone]

/-- A dispatch records those an attempt took effect for. -/
theorem dispatch_loop_rows (handle : Handling χ W) (immediate_retries : ℤ)
    (envelope : MessageEnvelope) (fates : MessageHandler → ℕ → AttemptFate χ) :
    ∀ (subscribers : List MessageHandler) (failures : List PyException) (worker : Worker W),
      ∃ made, (dispatch_loop handle immediate_retries envelope fates failures subscribers
          worker).2.attempts = worker.attempts ++ made
        ∧ ∀ handler : MessageHandler,
          (dispatch_loop handle immediate_retries envelope fates failures subscribers
            worker).2.database.row_count handler envelope.message_id ≠ 0
          ↔ worker.database.row_count handler envelope.message_id ≠ 0
            ∨ TookEffect handle envelope fates handler.handler_name made := by
  intro subscribers
  induction subscribers with
  | nil =>
      intro failures worker
      exact ⟨[], by simp [dispatch_loop], by simp [dispatch_loop, TookEffect]⟩
  | cons first rest ih =>
      intro failures worker
      obtain ⟨ran, hran⟩ := run_served handle immediate_retries first envelope (fates first) worker
      -- either the loop ends with this subscriber, or goes on from what its run has left
      have hstop : ∃ made, (ran.on first envelope worker).2.attempts = worker.attempts ++ made
          ∧ ∀ handler : MessageHandler, (ran.on first envelope worker).2.database.row_count handler
              envelope.message_id ≠ 0
            ↔ worker.database.row_count handler envelope.message_id ≠ 0
              ∨ TookEffect handle envelope fates handler.handler_name made :=
        ⟨ran.made, rfl, fun handler => served_rows handler hran⟩
      have hgo : ∀ failures', ∃ made, (dispatch_loop handle immediate_retries envelope fates
            failures' rest (ran.on first envelope worker).2).2.attempts = worker.attempts ++ made
          ∧ ∀ handler : MessageHandler, (dispatch_loop handle immediate_retries envelope fates
              failures' rest (ran.on first envelope worker).2).2.database.row_count handler
              envelope.message_id ≠ 0
            ↔ worker.database.row_count handler envelope.message_id ≠ 0
              ∨ TookEffect handle envelope fates handler.handler_name made := by
        intro failures'
        obtain ⟨made, hattempts, hrows⟩ := ih failures' (ran.on first envelope worker).2
        refine ⟨ran.made ++ made, ?_, fun handler => ?_⟩
        · rw [hattempts, Ran.on, List.append_assoc]
        · rw [hrows handler, served_rows handler hran, TookEffect.append, or_assoc]
      rw [dispatch_loop_cons failures rest (hran.alone worker rfl)]
      cases ran.ending with
      | returned _ => exact hgo failures
      | raised error => exact hgo (failures ++ [error])
      | cancelled => exact hstop

/-- A loop that reports nothing has recorded every subscriber. -/
theorem dispatch_loop_returned {handle : Handling χ W} {immediate_retries : ℤ}
    {envelope : MessageEnvelope} {fates : MessageHandler → ℕ → AttemptFate χ} :
    ∀ {subscribers : List MessageHandler} {failures reported : List PyException}
      {worker : Worker W},
      (dispatch_loop handle immediate_retries envelope fates failures subscribers worker).1
        = .returned reported →
      failures.length ≤ reported.length ∧ (reported.length = failures.length →
        ∀ handler ∈ subscribers, (dispatch_loop handle immediate_retries envelope fates failures
          subscribers worker).2.database.row_count handler envelope.message_id ≠ 0) := by
  intro subscribers
  induction subscribers with
  | nil =>
      intro failures reported worker h
      simp only [dispatch_loop, pure_apply, Outcome.returned.injEq] at h
      simp [h]
  | cons first rest ih =>
      intro failures reported worker h
      obtain ⟨ran, hran⟩ := run_served handle immediate_retries first envelope (fates first) worker
      rw [dispatch_loop_cons failures rest (hran.alone worker rfl)] at h ⊢
      cases hending : ran.ending with
      | returned _ =>
          rw [hending] at h
          obtain ⟨hle, hall⟩ := ih h
          refine ⟨hle, fun hlength handler hmem => ?_⟩
          rcases List.mem_cons.mp hmem with rfl | hmem
          · -- recorded by its own run, and the rest of the loop takes no row back
            obtain ⟨made, -, hrows⟩ := dispatch_loop_rows handle immediate_retries envelope fates
              rest failures (ran.on handler envelope worker).2
            refine (hrows handler).mpr (.inl ?_)
            have hone := hran.rows
            rcases hran.sound.returned hending with hbefore | ⟨hbefore, writes, hwritten⟩
            · omega
            · rw [hwritten] at hone
              simp only [Option.toList_some, List.length_singleton] at hone
              omega
          · exact hall hlength handler hmem
      | raised error =>
          rw [hending] at h
          -- a failure more: what is reported is longer than what there was
          obtain ⟨hle, -⟩ := ih h
          rw [List.length_append, List.length_singleton] at hle
          exact ⟨by omega, fun hlength => by omega⟩
      | cancelled =>
          rw [hending] at h
          simp at h

/-- The same of a whole dispatch. -/
theorem dispatch_rows (handle : Handling χ W) (registry : MessageHandlerRegistry)
    (immediate_retries : ℤ) (envelope : MessageEnvelope)
    (fates : MessageHandler → ℕ → AttemptFate χ) (db : ModuleDatabase W)
    (handler : MessageHandler) :
    (dispatch handle registry immediate_retries envelope fates ⟨db, []⟩).2.database.row_count
        handler envelope.message_id ≠ 0
      ↔ db.row_count handler envelope.message_id ≠ 0
        ∨ TookEffect handle envelope fates handler.handler_name
          (dispatch handle registry immediate_retries envelope fates ⟨db, []⟩).2.attempts := by
  obtain ⟨made, hattempts, hrows⟩ := dispatch_loop_rows handle immediate_retries envelope fates
    (registry.handlers_for envelope.message_type) [] ⟨db, []⟩
  rw [dispatch_worker, hattempts, List.nil_append]
  exact hrows handler

theorem dispatch_returned {handle : Handling χ W} {registry : MessageHandlerRegistry}
    {immediate_retries : ℤ} {envelope : MessageEnvelope}
    {fates : MessageHandler → ℕ → AttemptFate χ} {worker worker' : Worker W}
    (h : dispatch handle registry immediate_retries envelope fates worker
      = (.returned (), worker')) :
    ∀ handler ∈ registry.handlers_for envelope.message_type,
      worker'.database.row_count handler envelope.message_id ≠ 0 := by
  rw [dispatch] at h
  split at h
  · next hnone =>
      rw [hnone]
      simp
  · rw [bind_apply] at h
    rcases hloop : dispatch_loop handle immediate_retries envelope fates []
      (registry.handlers_for envelope.message_type) worker with ⟨ending, final⟩
    rw [hloop] at h
    cases ending with
    | returned failures =>
        have hall := dispatch_loop_returned (congrArg Prod.fst hloop)
        rw [hloop] at hall
        -- a dispatch with failures raises, so there was none
        by_cases hnil : failures = []
        · subst hnil
          simp only [List.isEmpty_nil, if_true, pure_apply, Prod.mk.injEq] at h
          rw [← h.2]
          exact hall.2 rfl
        · simp [hnil, raise] at h
    | raised error => simp at h
    | cancelled => simp at h

/-! ## 7. The result -/

/-- An acknowledged delivery is not lost: it was refused, or handled by every subscriber,
or a copy of it is parked with the broker. -/
def AcknowledgedSafely (json : JsonModule) (topology : BrokerTopology)
    (registry : MessageHandlerRegistry) (message : Message) (after : Delivery W) : Prop :=
  after.acked = true →
    _should_process topology registry message = .ok false
    ∨ (∃ envelope, envelope_of json message = .ok envelope
      ∧ ∀ handler ∈ registry.handlers_for envelope.message_type,
        after.worker.database.row_count handler envelope.message_id ≠ 0)
    ∨ ∃ copy ∈ after.accepted, Parks topology message copy

/-- Every subscriber had its row before, or one of these attempts gave it one. -/
def AllRecorded (handle : Handling χ W) (registry : MessageHandlerRegistry)
    (envelope : MessageEnvelope) (fates : MessageHandler → ℕ → AttemptFate χ)
    (db : ModuleDatabase W) (made : List AttemptMade) : Prop :=
  ∀ handler ∈ registry.handlers_for envelope.message_type,
    db.row_count handler envelope.message_id ≠ 0
      ∨ TookEffect handle envelope fates handler.handler_name made

/-- What the fates of a delivery must be for nothing to be lost by acknowledging it. -/
def NothingLost (json : JsonModule) (topology : BrokerTopology)
    (registry : MessageHandlerRegistry) (handle : Handling χ W) (message : Message)
    (fate : DeliveryFate χ) (db : ModuleDatabase W) : Prop :=
  ∀ envelope, Processed json topology registry message envelope → fate.ack.took_effect = true →
    match dispatch handle registry topology.immediate_retries envelope fate.attempts ⟨db, []⟩ with
    | (.returned _, _) => True
    | (.raised _, worker) => fate.recovery.reaches = true
        ∨ AllRecorded handle registry envelope fate.attempts db worker.attempts
    | (.cancelled, worker) => AllRecorded handle registry envelope fate.attempts db worker.attempts

/-- **Acknowledged and not lost, exactly.** For every delivery and every way everything it
awaits can end, it is acknowledged safely precisely when the copy of a failed message
reaches the broker and a dispatch that is cancelled has recorded every subscriber. -/
theorem acknowledged_safely_iff (json : JsonModule) (topology : BrokerTopology)
    (registry : MessageHandlerRegistry) (handle : Handling χ W) (message : Message)
    (fate : DeliveryFate χ) (db : ModuleDatabase W) :
    AcknowledgedSafely json topology registry message
        (handle_delivery json topology registry handle message fate ⟨⟨db, []⟩, [], false⟩).2
      ↔ NothingLost json topology registry handle message fate db := by
  by_cases hprocessed : ∃ envelope, Processed json topology registry message envelope
  · obtain ⟨envelope, hprocessed⟩ := hprocessed
    obtain ⟨count, hcount⟩ := should_process_count hprocessed.1
    have hrows := dispatch_rows handle registry topology.immediate_retries envelope fate.attempts db
    have hreturned := @dispatch_returned χ W handle registry topology.immediate_retries envelope
      fate.attempts ⟨db, []⟩
    have hsame : ∀ other, Processed json topology registry message other ↔ other = envelope := by
      intro other
      refine ⟨fun h => ?_, fun h => h ▸ hprocessed⟩
      exact Except.ok.inj (h.2.symm.trans hprocessed.2)
    rw [handle_delivery_processed handle fate _ hprocessed hcount]
    unfold AcknowledgedSafely NothingLost
    simp only [hsame, forall_eq, hprocessed.1, hprocessed.2, Except.ok.injEq, exists_eq_left',
      Bool.true_eq_false, false_or]
    rcases hdispatch : dispatch handle registry topology.immediate_retries envelope fate.attempts
      ⟨db, []⟩ with ⟨ending, worker⟩
    rw [hdispatch] at hrows
    have hall : (∀ handler ∈ registry.handlers_for envelope.message_type,
        worker.database.row_count handler envelope.message_id ≠ 0)
        ↔ AllRecorded handle registry envelope fate.attempts db worker.attempts :=
      forall₂_congr fun handler _ => hrows handler
    cases hack : fate.ack.took_effect with
    | false => simp
    | true =>
        simp only [if_true, true_implies]
        cases ending with
        | returned _ => simpa using hreturned hdispatch
        | raised error =>
            cases hreach : fate.recovery.reaches with
            | true => simpa using .inr (recovery_copy_parks topology message error _ count)
            | false => simpa using hall
        | cancelled => simpa using hall
  · have hnever : NothingLost json topology registry handle message fate db :=
      fun envelope h => absurd ⟨envelope, h⟩ hprocessed
    refine iff_of_true ?_ hnever
    -- The delivery is refused, or an error before the `try` leaves it unacknowledged.
    unfold AcknowledgedSafely handle_delivery
    rw [reading_bind]
    cases hshould : _should_process topology registry message with
    | error error => simp
    | ok process =>
        cases process with
        | false => exact fun _ => .inl rfl
        | true =>
            simp only [Bool.not_true, Bool.false_eq_true, if_false, reading_bind]
            cases henvelope : envelope_of json message with
            | error error => simp
            | ok envelope => exact absurd ⟨envelope, hshould, henvelope⟩ hprocessed

end Deliveries

/-! ### A failed handler, and a broker that refuses the copy -/

def customs_topology : BrokerTopology where
  app_name := "customs_clearance"
  primary_queue := "trade-logistics.customs"
  retry_exchange := "trade-logistics.retry"
  retry_binding_key := "customs.retry"
  retry_dead_letter_exchange := ""
  retry_dead_letter_routing_key := ""
  error_exchange := "trade-logistics.error"
  error_routing_key := "customs.error"
  immediate_retries := 0
  delayed_retries := 3

/-- `json` on empty objects. -/
def empty_json : JsonModule where
  dumps := fun _ => [0x7b, 0x7d]
  loads := fun _ => .ok (.object [])

def finalized_message : Message where
  body := [0x7b, 0x7d]
  content_type := some "application/json"
  message_id := some finalized.message_id.str
  type := some "ShipmentManifestFinalized"
  headers := []

theorem finalized_message_named :
    Uuid.parse (finalized_message.message_id.getD "None") = some finalized.message_id := rfl

theorem finalized_message_typed : finalized_message.type.getD "" ≠ "" := by decide

theorem finalized_message_fresh :
    finalized_message.headers.get REDELIVERY_COUNT_HEADER = none := rfl

/-- The handler fails, and this becomes of the copy. -/
def failing_delivery (publish : RemoteCall) : DeliveryFate Unit where
  attempts := fun _ _ => { completing () with handle := .raises lost_connection }
  recovery := { declare := .completes, publish, now := "2026-01-01T00:00:00+00:00" }
  ack := ⟨.completes, true⟩

/-- The broker does not take the copy, and the message is acknowledged and gone. -/
theorem refused_copy_is_lost :
    ¬ AcknowledgedSafely empty_json customs_topology
        (MessageHandlerRegistry.register_all [opener]) finalized_message
        (handle_delivery empty_json customs_topology
          (MessageHandlerRegistry.register_all [opener]) marking finalized_message
          (failing_delivery ⟨.raises lost_connection, false⟩) ⟨⟨⟨[], []⟩, []⟩, [], false⟩).2 := by
  intro h
  rcases h rfl with hrefused | ⟨envelope, henvelope, hrows⟩ | ⟨copy, hcopy, -⟩
  · have hours : _should_process customs_topology (MessageHandlerRegistry.register_all [opener])
        finalized_message = .ok true := rfl
    rw [hours] at hrefused
    simp at hrefused
  · have hsame : envelope = finalized := Except.ok.inj (henvelope.symm.trans rfl)
    subst hsame
    exact absurd (hrows opener (by decide)) (by decide)
  · exact absurd hcopy List.not_mem_nil

end TradeLogistics.MessageBus
