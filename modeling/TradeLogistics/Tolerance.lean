/-
What a delivery may hold without stopping the consumer.

Nothing in a message is to be trusted: the identifier may be any text, the headers any
table, the body any bytes. Part of the reading is done by the filter, which raises nothing
but an overflow; part between the filter and the `try`, where an identifier that is no
`UUID` and a body too deep to decode raise with nothing there to acknowledge the delivery.
Past that point every way out leads through one acknowledgement.
-/
import TradeLogistics.Recoverability

set_option autoImplicit false

namespace TradeLogistics.MessageBus

open TradeLogistics.PyText TradeLogistics.PyAsync Async

/-! ## 1. The filter -/

/-- The message has an identifier and a type somebody subscribes to. -/
def Addressed (registry : MessageHandlerRegistry) (message : Message) : Prop :=
  message.message_id.getD "" ≠ "" ∧ message.type.getD "" ≠ ""
    ∧ message.type.getD "" ∈ registry.subscribed_types

/-- A retry that names another endpoint, or none. -/
def ForeignRetry (topology : BrokerTopology) (headers : Headers) (count : ℤ) : Prop :=
  0 < count ∧ headers.get RETRY_ENDPOINT_HEADER ≠ some (.str topology.app_name)

theorem should_process_unaddressed {topology : BrokerTopology}
    {registry : MessageHandlerRegistry} {message : Message}
    (h : ¬ Addressed registry message) : _should_process topology registry message = .ok false := by
  unfold _should_process
  by_cases hid : message.message_id.getD "" = ""
  · rw [if_pos hid]
  · rw [if_neg hid]
    by_cases htype : message.type.getD "" = ""
    · rw [if_pos htype]
    · rw [if_neg htype]
      by_cases hsubscribed : message.type.getD "" ∈ registry.subscribed_types
      · exact absurd ⟨hid, htype, hsubscribed⟩ h
      · rw [if_pos hsubscribed]

/-- What is addressed here is refused only as a retry of another endpoint. -/
theorem should_process_addressed (topology : BrokerTopology) {registry : MessageHandlerRegistry}
    {message : Message} (h : Addressed registry message) {count : ℤ}
    (hcount : redelivery_count message.headers = .ok count) :
    _should_process topology registry message = .ok true
        ∧ ¬ ForeignRetry topology message.headers count
      ∨ _should_process topology registry message = .ok false
        ∧ ForeignRetry topology message.headers count := by
  obtain ⟨hid, htype, hsubscribed⟩ := h
  unfold _should_process
  rw [if_neg hid, if_neg htype, if_neg (not_not.mpr hsubscribed), hcount]
  dsimp only
  -- a message that was never retried is nobody's in particular
  by_cases hretried : 0 < count
  · by_cases hours : message.headers.get RETRY_ENDPOINT_HEADER = some (.str topology.app_name)
    · refine .inl ⟨?_, fun hforeign => hforeign.2 hours⟩
      rw [hours]
      simp
    · refine .inr ⟨?_, hretried, hours⟩
      split
      · next endpoint hendpoint =>
          have hne : endpoint ≠ topology.app_name := by
            rintro rfl
            exact hours hendpoint
          simp [hretried, hne]
      · simp [hretried]
  · refine .inl ⟨?_, fun hforeign => hretried hforeign.1⟩
    split <;> simp [hretried]

/-- The one error of the filter. -/
theorem should_process_overflow (topology : BrokerTopology) {registry : MessageHandlerRegistry}
    {message : Message} (h : Addressed registry message) {error : PyException}
    (hcount : redelivery_count message.headers = .error error) :
    _should_process topology registry message = .error error := by
  obtain ⟨hid, htype, hsubscribed⟩ := h
  unfold _should_process
  rw [if_neg hid, if_neg htype, if_neg (not_not.mpr hsubscribed), hcount]

/-! ## 2. One delivery -/

section Deliveries

variable {χ W : Type}

/-- A delivery that returns, acknowledged by its last statement and by no other: what
comes before leaves it as it is. -/
structure AcknowledgedOnce (json : JsonModule) (topology : BrokerTopology)
    (registry : MessageHandlerRegistry) (handle : Handling χ W) (message : Message)
    (fate : DeliveryFate χ) (delivery : Delivery W) : Prop where
  returned : (handle_delivery json topology registry handle message fate delivery).1 = .returned ()
  acked : (handle_delivery json topology registry handle message fate delivery).2.acked = true
  once : ∃ work : Async (Delivery W) Unit, (∀ before, (work before).2.acked = before.acked)
    ∧ handle_delivery json topology registry handle message fate
      = try_finally work (ack fate.ack)

/-- When an envelope can be built. -/
theorem envelope_iff (json : JsonModule) (message : Message) :
    (∃ envelope, envelope_of json message = .ok envelope)
      ↔ (Uuid.parse (message.message_id.getD "None")).isSome
        ∧ ∃ body, _decode json message.body = .ok body := by
  unfold envelope_of
  cases Uuid.parse (message.message_id.getD "None") with
  | none => simp
  | some message_id =>
      cases _decode json message.body with
      | error error => simp
      | ok body => simp

/-- Nothing in the message makes the consumer raise. -/
def Tolerated (json : JsonModule) (topology : BrokerTopology) (registry : MessageHandlerRegistry)
    (message : Message) : Prop :=
  Addressed registry message → ∃ count, redelivery_count message.headers = .ok count
    ∧ (ForeignRetry topology message.headers count
      ∨ (Uuid.parse (message.message_id.getD "None")).isSome
        ∧ ∃ body, _decode json message.body = .ok body)

/-- A delivery that is refused is acknowledged, and that is all. -/
theorem handle_delivery_refused (json : JsonModule) {topology : BrokerTopology}
    {registry : MessageHandlerRegistry} (handle : Handling χ W) {message : Message}
    (fate : DeliveryFate χ) (h : _should_process topology registry message = .ok false) :
    handle_delivery json topology registry handle message fate = ack fate.ack := by
  funext delivery
  unfold handle_delivery
  rw [reading_bind, h]
  rfl

/-- A delivery whose counter does not convert raises in the filter. -/
theorem handle_delivery_uncounted (json : JsonModule) (topology : BrokerTopology)
    {registry : MessageHandlerRegistry} (handle : Handling χ W) {message : Message}
    (fate : DeliveryFate χ) (delivery : Delivery W) (h : Addressed registry message)
    {error : PyException} (hcount : redelivery_count message.headers = .error error) :
    handle_delivery json topology registry handle message fate delivery
      = (.raised error, delivery) := by
  unfold handle_delivery
  rw [reading_bind, should_process_overflow topology h hcount]

/-- A delivery that is processed is acknowledged after the dispatch and the recovery. -/
theorem handle_delivery_work {json : JsonModule} {topology : BrokerTopology}
    {registry : MessageHandlerRegistry} (handle : Handling χ W) {message : Message}
    (fate : DeliveryFate χ) {envelope : MessageEnvelope} {count : ℤ}
    (hprocessed : Processed json topology registry message envelope)
    (hcount : redelivery_count message.headers = .ok count) :
    handle_delivery json topology registry handle message fate
      = try_finally
        (try_except
          (on Delivery.worker (fun delivery worker => { delivery with worker })
            (dispatch handle registry topology.immediate_retries envelope fate.attempts))
          fun error =>
            on Delivery.accepted (fun delivery accepted => { delivery with accepted })
              (_recover topology message envelope error fate.recovery))
        (ack fate.ack) := by
  funext delivery
  obtain ⟨hshould, henvelope⟩ := hprocessed
  unfold handle_delivery
  rw [reading_bind, hshould]
  simp only [Bool.not_true, Bool.false_eq_true, if_false, reading_bind, henvelope,
    envelope_of_headers henvelope, hcount]

/-- What a dispatch and a recovery do does not acknowledge anything. -/
theorem work_keeps_acked (body : Async (Worker W) Unit)
    (recover : PyException → Async (List Publication) Unit) (before : Delivery W) :
    (try_except (on Delivery.worker (fun delivery worker => { delivery with worker }) body)
      (fun error => on Delivery.accepted (fun delivery accepted => { delivery with accepted })
        (recover error)) before).2.acked = before.acked := by
  unfold try_except on
  rcases body before.worker with ⟨ending, worker⟩
  cases ending <;> rfl

/-- With a calm fate, what is processed returns. -/
theorem processed_acknowledged {json : JsonModule} {topology : BrokerTopology}
    {registry : MessageHandlerRegistry} (handle : Handling χ W) {message : Message}
    (pattern : Pattern χ) {envelope : MessageEnvelope} {count : ℤ} (delivery : Delivery W)
    (hprocessed : Processed json topology registry message envelope)
    (hcount : redelivery_count message.headers = .ok count) :
    AcknowledgedOnce json topology registry handle message pattern.fate delivery := by
  have hwork := handle_delivery_work handle pattern.fate hprocessed hcount
  have hcalm := dispatch_calm handle registry topology.immediate_retries envelope pattern.attempts
    delivery.worker
  have hfate : pattern.fate.attempts
      = fun handler attempt => (pattern.attempts handler attempt).fate := rfl
  constructor
  · rw [hwork, hfate]
    unfold try_finally try_except on
    rcases hdispatch : dispatch handle registry topology.immediate_retries envelope
      (fun handler attempt => (pattern.attempts handler attempt).fate) delivery.worker
      with ⟨ending, worker⟩
    rw [hdispatch] at hcalm
    cases ending with
    | returned _ => rfl
    | raised error =>
        -- the republish succeeds, so the recovery ends as the dispatch did not
        dsimp only
        rw [recover_apply error pattern.fate.recovery _
          (envelope_of_headers hprocessed.2) hcount]
        rfl
    | cancelled => exact absurd rfl hcalm
  · rw [handle_delivery_processed handle pattern.fate delivery hprocessed hcount]
    rfl
  · exact ⟨_, fun before => work_keeps_acked _ _ before, hwork⟩

/-- What becomes of a delivery: it is tolerated and acknowledged once, or it is not and
raises, and nothing has been done with it. -/
theorem delivery_cases (json : JsonModule) (topology : BrokerTopology)
    (registry : MessageHandlerRegistry) (handle : Handling χ W) (message : Message)
    (pattern : Pattern χ) (delivery : Delivery W) :
    (Tolerated json topology registry message
        ∧ AcknowledgedOnce json topology registry handle message pattern.fate delivery)
    ∨ (¬ Tolerated json topology registry message
        ∧ ∃ error, handle_delivery json topology registry handle message pattern.fate delivery
          = (.raised error, delivery)) := by
  have hrefused : _should_process topology registry message = .ok false →
      AcknowledgedOnce json topology registry handle message pattern.fate delivery := by
    intro hshould
    have hack := handle_delivery_refused json handle pattern.fate hshould
    refine ⟨by rw [hack]; rfl, by rw [hack]; rfl, pure (), fun _ => rfl, ?_⟩
    rw [hack]
    rfl
  by_cases haddressed : Addressed registry message
  · cases hcount : redelivery_count message.headers with
    | error error =>
        -- the filter itself raises, before anything that would acknowledge
        refine .inr ⟨fun htolerated => ?_, error,
          handle_delivery_uncounted json topology handle pattern.fate delivery haddressed hcount⟩
        obtain ⟨count, hok, -⟩ := htolerated haddressed
        rw [hcount] at hok
        simp at hok
    | ok count =>
        rcases should_process_addressed topology haddressed hcount with
          ⟨hshould, hours⟩ | ⟨hshould, hforeign⟩
        · cases henvelope : envelope_of json message with
          | ok envelope =>
              have hreadable := (envelope_iff json message).mp ⟨envelope, henvelope⟩
              exact .inl ⟨fun _ => ⟨count, hcount, .inr hreadable⟩,
                processed_acknowledged handle pattern delivery ⟨hshould, henvelope⟩ hcount⟩
          | error error =>
              -- between the filter and the `try`: the same
              refine .inr ⟨fun htolerated => ?_, error,
                handle_delivery_unreadable handle pattern.fate delivery hshould henvelope⟩
              obtain ⟨other, hok, hrest⟩ := htolerated haddressed
              rw [hcount, Except.ok.injEq] at hok
              rw [← hok] at hrest
              rcases hrest with hforeign | hreadable
              · exact hours hforeign
              · obtain ⟨envelope, henv⟩ := (envelope_iff json message).mpr hreadable
                rw [henvelope] at henv
                simp at henv
        · exact .inl ⟨fun _ => ⟨count, hcount, .inl hforeign⟩, hrefused hshould⟩
  · exact .inl ⟨fun h => absurd h haddressed, hrefused (should_process_unaddressed haddressed)⟩

/-- **Which deliveries stop the consumer.** Whatever a message holds, and however its
attempts go, the delivery returns after one acknowledgement exactly when, if the message
is addressed here, its counter converts, and it is a retry of another endpoint or has a
`UUID` for an identifier and a body that decodes. -/
theorem acknowledged_once_iff (json : JsonModule) (topology : BrokerTopology)
    (registry : MessageHandlerRegistry) (handle : Handling χ W) (message : Message)
    (pattern : Pattern χ) (delivery : Delivery W) :
    AcknowledgedOnce json topology registry handle message pattern.fate delivery
      ↔ Tolerated json topology registry message := by
  rcases delivery_cases json topology registry handle message pattern delivery with
    ⟨htolerated, honce⟩ | ⟨huntolerated, error, hraised⟩
  · exact iff_of_true honce htolerated
  · refine iff_of_false (fun honce => ?_) huntolerated
    have hreturned := honce.returned
    rw [hraised] at hreturned
    simp at hreturned

/-! ## 3. The loop -/

/-- `consume`: the deliveries in turn, until one raises. What is left is the worker, what
the broker has accepted, and for each delivery taken whether it is acknowledged. -/
def consume (json : JsonModule) (topology : BrokerTopology) (registry : MessageHandlerRegistry)
    (handle : Handling χ W) (worker : Worker W) (accepted : List Publication) :
    List (Message × Pattern χ) → Outcome Unit × List Bool
  | [] => (.returned (), [])
  | (message, pattern) :: rest =>
    match handle_delivery json topology registry handle message pattern.fate
      ⟨worker, accepted, false⟩ with
    | (.returned (), delivery) =>
      let (ending, acked) := consume json topology registry handle delivery.worker
        delivery.accepted rest
      (ending, delivery.acked :: acked)
    | (ending, delivery) => (ending, [delivery.acked])

/-- The loop goes through its deliveries, and acknowledges each, exactly when there is
none that stops it. -/
theorem consume_goes_on_iff (json : JsonModule) (topology : BrokerTopology)
    (registry : MessageHandlerRegistry) (handle : Handling χ W) :
    ∀ (deliveries : List (Message × Pattern χ)) (worker : Worker W) (accepted : List Publication),
      consume json topology registry handle worker accepted deliveries
          = (.returned (), deliveries.map fun _ => true)
        ↔ ∀ delivery ∈ deliveries, Tolerated json topology registry delivery.1 := by
  intro deliveries
  induction deliveries with
  | nil => exact fun worker accepted => iff_of_true rfl (by simp)
  | cons first rest ih =>
      obtain ⟨message, pattern⟩ := first
      intro worker accepted
      rw [List.forall_mem_cons, consume]
      rcases delivery_cases json topology registry handle message pattern
        ⟨worker, accepted, false⟩ with ⟨htolerated, honce⟩ | ⟨huntolerated, error, hraised⟩
      · have hreturned := honce.returned
        have hacked := honce.acked
        rcases hdelivery : handle_delivery json topology registry handle message pattern.fate
          ⟨worker, accepted, false⟩ with ⟨ending, delivery⟩
        rw [hdelivery] at hreturned hacked
        dsimp only at hreturned hacked
        subst hreturned
        dsimp only
        rw [hacked, List.map_cons, Prod.mk.injEq, List.cons.injEq, eq_self_iff_true, true_and,
          ← Prod.mk.injEq, and_iff_right htolerated]
        exact ih delivery.worker delivery.accepted
      · rw [hraised]
        exact iff_of_false (by simp) fun h => huntolerated h.1

end Deliveries

/-! ### An identifier that is no `UUID` -/

/-- An announcement under an identifier of another kind. -/
def misnamed_message : Message := { finalized_message with message_id := some "shipment-42" }

/-- It is neither handled nor acknowledged, and the loop ends with it. -/
theorem misnamed_message_stops_the_consumer :
    ¬ AcknowledgedOnce empty_json customs_topology (MessageHandlerRegistry.register_all [opener])
        marking misnamed_message (pattern_of succeeding succeeding).fate
        ⟨⟨⟨[], []⟩, []⟩, [], false⟩ := by
  intro honce
  exact absurd honce.acked (by decide)

end TradeLogistics.MessageBus
