/-
Bounded recoverability: one message, its worker, and the queues it may be in.

A delivery that fails is copied to the retry queue with its counter raised, or, once the
counter has reached the number of delayed retries, to the error queue; an expiry brings
the copy back. As long as publications succeed and the worker does not crash there is one
copy in one place, and its counter is the number of trips it has made.

When it ends in the error queue is a statement about deliveries: some handler failed all
its attempts on each of them. It need not be the same handler, because a handler that has
handled the message can still fail, on reading the inbox that says so. Where that does
not happen it is one handler, and it has failed every attempt there was.
-/
import TradeLogistics.Consumer
import TradeLogistics.Runs

set_option autoImplicit false

namespace TradeLogistics.MessageBus

open TradeLogistics.PyText TradeLogistics.PyAsync TradeLogistics.Runs

/-! ## 1. Deliveries without a crash -/

/-- How an attempt goes whose awaits complete or raise: the errors, and whether a commit
that raises took effect. -/
structure CalmFate (χ : Type) where
  enter : Option PyException
  was_handled : Option PyException
  handle : Option PyException
  choice : χ
  record : Option PyException
  commit : Option PyException
  commit_reached : Bool
  rollback : Option PyException
  leave : Option PyException

/-- An await that raises this error, or completes. -/
def raising : Option PyException → Fate
  | none => .completes
  | some error => .raises error

section Queues

variable {χ W : Type}

def CalmFate.fate (calm : CalmFate χ) : AttemptFate χ where
  enter := raising calm.enter
  was_handled := raising calm.was_handled
  handle := raising calm.handle
  choice := calm.choice
  record := raising calm.record
  commit := ⟨raising calm.commit, calm.commit_reached⟩
  rollback := raising calm.rollback
  leave := raising calm.leave

/-- How the attempts of one delivery go, and when it is. -/
structure Pattern (χ : Type) where
  attempts : MessageHandler → ℕ → CalmFate χ
  now : String

/-- A delivery whose publication and acknowledgement succeed. -/
def Pattern.fate (pattern : Pattern χ) : DeliveryFate χ where
  attempts := fun handler attempt => (pattern.attempts handler attempt).fate
  recovery := ⟨.completes, ⟨.completes, true⟩, pattern.now⟩
  ack := ⟨.completes, true⟩

/-! ## 2. The queues -/

/-- One delivery that was made: the database it found, and its attempts. -/
structure DeliveryMade (W : Type) where
  before : ModuleDatabase W
  made : List AttemptMade

/-- The queues of one worker, the messages acknowledged without a copy, and what the
worker has done so far. -/
structure Queues (W : Type) where
  primary : List Message
  retry : List Message
  error : List Message
  acknowledged : List Message
  database : ModuleDatabase W
  trips : ℕ
  log : List (DeliveryMade W)

/-- Every copy there is. -/
def Queues.copies (s : Queues W) : List Message :=
  s.primary ++ s.retry ++ s.error ++ s.acknowledged

/-- Every attempt made. -/
def Queues.attempts (s : Queues W) : List AttemptMade := s.log.flatMap DeliveryMade.made

/-- What a queue bound under this key receives. -/
def routed (exchange routing_key : String) (accepted : List Publication) : List Message :=
  (accepted.filter fun copy => copy.exchange = exchange ∧ copy.routing_key = routing_key).map
    Publication.message

inductive QueueStep (χ : Type) where
  | deliver (pattern : Pattern χ)
  | expire

/-- The queues after a delivery of the first message that has come to this. -/
def Queues.delivered (s : Queues W) (topology : BrokerTopology) (message : Message)
    (rest : List Message) (after : Delivery W) : Queues W :=
  let returning := routed topology.retry_exchange topology.retry_binding_key after.accepted
  { primary := if after.acked then rest else s.primary
    retry := s.retry ++ returning
    error := s.error ++ routed topology.error_exchange topology.error_routing_key after.accepted
    acknowledged := if after.acked && after.accepted.isEmpty then s.acknowledged ++ [message]
      else s.acknowledged
    database := after.worker.database
    trips := s.trips + returning.length
    log := s.log ++ [⟨s.database, after.worker.attempts⟩] }

/-- One step: the first message of the primary queue is handled up to its ack, or the
first of the retry queue returns. -/
def queue_step (json : JsonModule) (topology : BrokerTopology) (registry : MessageHandlerRegistry)
    (handle : Handling χ W) (s : Queues W) : QueueStep χ → Option (Queues W)
  | .deliver pattern => match s.primary with
    | [] => none
    | message :: rest => some (s.delivered topology message rest
        (handle_delivery json topology registry handle message pattern.fate
          ⟨⟨s.database, []⟩, [], false⟩).2)
  | .expire => match s.retry with
    | [] => none
    | message :: rest => some { s with primary := s.primary ++ [message], retry := rest }

/-! ## 3. What recovery promises -/

/-- A topology with its numbers of retries, and retry and error queues bound apart. -/
structure RecoveryPolicy where
  topology : BrokerTopology
  immediate : ℕ
  delayed : ℕ
  immediate_eq : topology.immediate_retries = immediate
  delayed_eq : topology.delayed_retries = delayed
  apart : ¬ (topology.retry_exchange = topology.error_exchange
    ∧ topology.retry_binding_key = topology.error_routing_key)

/-- A message as it enters: its identifier is a `UUID`, its type is subscribed to, and it
has not been retried. Its headers and its body are anything. -/
structure Entering (registry : MessageHandlerRegistry) where
  message : Message
  message_id : Uuid
  has_id : Uuid.parse (message.message_id.getD "None") = some message_id
  has_type : message.type.getD "" ≠ ""
  subscribed : message.type.getD "" ∈ registry.subscribed_types
  fresh : message.headers.get REDELIVERY_COUNT_HEADER = none

/-- The handlers subscribed to it. -/
def Entering.subscribers {registry : MessageHandlerRegistry} (entering : Entering registry) :
    List MessageHandler :=
  registry.handlers_for (entering.message.type.getD "")

/-- The envelope of a copy whose body decodes to this. -/
def Entering.envelope {registry : MessageHandlerRegistry} (entering : Entering registry)
    (body : Body) (headers : Headers) : MessageEnvelope where
  message_id := entering.message_id
  message_type := entering.message.type.getD ""
  body
  headers

/-- The message in the primary queue, and nothing done yet. -/
def entered (message : Message) (db : ModuleDatabase W) : Queues W where
  primary := [message]
  retry := []
  error := []
  acknowledged := []
  database := db
  trips := 0
  log := []

/-- An attempt that raised. -/
def AttemptMade.failed (attempt : AttemptMade) : Bool :=
  match attempt.ending with
  | .raised _ => true
  | _ => false

/-- So many attempts were made for a handler, and all of them raised. -/
def FailedAll (n : ℕ) (handler : MessageHandler) (made : List AttemptMade) : Prop :=
  (made.filter fun attempt => attempt.handler = handler).length = n
    ∧ ∀ attempt ∈ made, attempt.handler = handler → attempt.failed = true

instance (n : ℕ) (handler : MessageHandler) (made : List AttemptMade) :
    Decidable (FailedAll n handler made) := inferInstanceAs (Decidable (_ ∧ _))

/-- No delivery found a handler recorded and had all its attempts fail. -/
def Readable (immediate : ℕ) (subscribers : List MessageHandler) (message_id : Uuid)
    (log : List (DeliveryMade W)) : Prop :=
  ∀ delivery ∈ log, ∀ handler ∈ subscribers, delivery.before.row_count handler message_id ≠ 0 →
    ¬ FailedAll (immediate + 1) handler delivery.made

/-- What holds of the queues between steps. -/
structure Recovered (policy : RecoveryPolicy) (subscribers : List MessageHandler)
    (message_id : Uuid) (message : Message) (s : Queues W) : Prop where
  one_copy : ∃ copy, s.copies = [copy] ∧ SameContent copy message
    ∧ redelivery_count copy.headers = .ok (s.trips : ℤ)
  -- What is acknowledged without a copy has been handled by every subscriber.
  handled : s.acknowledged ≠ [] → ∀ handler ∈ subscribers,
    s.database.row_count handler message_id ≠ 0
  trips : s.trips ≤ policy.delayed
  attempts : ∀ handler, (s.attempts.filter fun attempt => attempt.handler = handler).length
    ≤ (policy.delayed + 1) * (policy.immediate + 1)
  error_iff : s.error ≠ [] ↔ s.log.length = policy.delayed + 1 ∧ ∀ delivery ∈ s.log,
    ∃ handler ∈ subscribers, FailedAll (policy.immediate + 1) handler delivery.made
  error_iff_one : Readable policy.immediate subscribers message_id s.log →
    (s.error ≠ [] ↔ ∃ handler ∈ subscribers,
      FailedAll ((policy.delayed + 1) * (policy.immediate + 1)) handler s.attempts)

/-! ## 4. One delivery

Nothing is cancelled, so a dispatch returns or raises, and it raises exactly when some
handler has failed all the attempts it gets. -/

theorem attempt_calm (handle : Handling χ W) (handler : MessageHandler)
    (envelope : MessageEnvelope) (calm : CalmFate χ) (rows : ℕ) :
    attempt_ending handle handler envelope calm.fate rows ≠ .cancelled := by
  have hthen : ∀ {α : Type} (error : Option PyException) {ending : Outcome α},
      ending ≠ .cancelled → (raising error).then ending ≠ .cancelled := by
    intro α error ending h
    cases error with
    | none => exact h
    | some e => simp [raising]
  have htransaction : transaction_ending handle handler envelope calm.fate rows ≠ .cancelled := by
    unfold transaction_ending
    refine hthen calm.was_handled ?_
    rcases rows with _ | _ | n
    · refine hthen calm.handle ?_
      dsimp only [CalmFate.fate]
      cases handle handler envelope calm.choice with
      | error e => simp
      | ok writes => exact hthen calm.record (hthen calm.commit (by simp))
    · simp
    · simp
  unfold attempt_ending
  refine hthen calm.enter (hthen calm.leave ?_)
  split
  · exact hthen calm.rollback (by simp)
  · exact htransaction

theorem run_loop_calm (handle : Handling χ W) (handler : MessageHandler)
    (envelope : MessageEnvelope) (calm : ℕ → CalmFate χ) :
    ∀ (attempts : List ℕ) (last_error : Option PyException) (worker : Worker W),
      (_run_loop handle handler envelope (fun attempt => (calm attempt).fate) last_error attempts
        worker).1 ≠ .cancelled := by
  intro attempts
  induction attempts with
  | nil =>
      intro last_error worker
      simp [_run_loop, Async.raise]
  | cons attempt rest ih =>
      intro last_error worker
      have hnot := attempt_calm handle handler envelope (calm attempt)
        (worker.database.row_count handler envelope.message_id)
      rw [run_loop_cons handle _ last_error attempt rest rfl]
      split
      · simp
      · exact ih _ _
      · next hcancelled => exact absurd hcancelled hnot

theorem dispatch_loop_calm (handle : Handling χ W) (immediate_retries : ℤ)
    (envelope : MessageEnvelope) (calm : MessageHandler → ℕ → CalmFate χ) :
    ∀ (subscribers : List MessageHandler) (failures : List PyException) (worker : Worker W),
      (dispatch_loop handle immediate_retries envelope
        (fun handler attempt => (calm handler attempt).fate) failures subscribers worker).1
        ≠ .cancelled := by
  intro subscribers
  induction subscribers with
  | nil =>
      intro failures worker
      simp [dispatch_loop]
  | cons first rest ih =>
      intro failures worker
      obtain ⟨ran, hran⟩ := run_served handle immediate_retries first envelope
        (fun attempt => (calm first attempt).fate) worker
      have hrun := hran.alone worker rfl
      have hnot : ran.ending ≠ .cancelled := by
        have hcalm := run_loop_calm handle first envelope (calm first)
          (attempt_range immediate_retries) none worker
        rw [_run] at hrun
        rw [hrun] at hcalm
        exact hcalm
      rw [dispatch_loop_cons failures rest hrun]
      cases hending : ran.ending with
      | returned _ => exact ih _ _
      | raised error => exact ih _ _
      | cancelled => exact absurd hending hnot

theorem dispatch_calm (handle : Handling χ W) (registry : MessageHandlerRegistry)
    (immediate_retries : ℤ) (envelope : MessageEnvelope)
    (calm : MessageHandler → ℕ → CalmFate χ) (worker : Worker W) :
    (dispatch handle registry immediate_retries envelope
      (fun handler attempt => (calm handler attempt).fate) worker).1 ≠ .cancelled := by
  have hloop := dispatch_loop_calm handle immediate_retries envelope calm
    (registry.handlers_for envelope.message_type) [] worker
  rw [dispatch]
  split
  · simp
  · rw [Async.bind_apply]
    split
    · split <;> simp [Async.raise]
    · simp
    · next hcancelled =>
        rw [hcancelled] at hloop
        exact absurd rfl hloop

/-- The attempts of a dispatch are for its subscribers. -/
theorem dispatch_loop_made (handle : Handling χ W) (immediate_retries : ℤ)
    (envelope : MessageEnvelope) (fates : MessageHandler → ℕ → AttemptFate χ) :
    ∀ (subscribers : List MessageHandler) (failures : List PyException) (worker : Worker W),
      ∀ attempt ∈ (dispatch_loop handle immediate_retries envelope fates failures subscribers
        worker).2.attempts, attempt ∈ worker.attempts ∨ attempt.handler ∈ subscribers := by
  intro subscribers
  induction subscribers with
  | nil => exact fun failures worker attempt h => .inl h
  | cons first rest ih =>
      intro failures worker
      obtain ⟨ran, hran⟩ := run_served handle immediate_retries first envelope (fates first) worker
      have hfirst : ∀ attempt ∈ (ran.on first envelope worker).2.attempts,
          attempt ∈ worker.attempts ∨ attempt.handler ∈ first :: rest := by
        intro attempt hattempt
        rcases List.mem_append.mp hattempt with hbefore | hmade
        · exact .inl hbefore
        · rw [hran.sound.own attempt hmade]
          exact .inr List.mem_cons_self
      have hrest : ∀ failures', ∀ attempt ∈ (dispatch_loop handle immediate_retries envelope fates
          failures' rest (ran.on first envelope worker).2).2.attempts,
          attempt ∈ worker.attempts ∨ attempt.handler ∈ first :: rest := by
        intro failures' attempt hattempt
        rcases ih failures' _ attempt hattempt with hbefore | hin
        · exact hfirst attempt hbefore
        · exact .inr (List.mem_cons_of_mem first hin)
      rw [dispatch_loop_cons failures rest (hran.alone worker rfl)]
      cases ran.ending with
      | returned _ => exact hrest _
      | raised error => exact hrest _
      | cancelled => exact hfirst

/-- A handler has failed all it gets exactly when its run raised. -/
theorem failed_all_iff {handle : Handling χ W} {immediate_retries : ℤ} {immediate : ℕ}
    (himmediate : immediate_retries = immediate) {handler : MessageHandler}
    {envelope : MessageEnvelope} {fates : ℕ → AttemptFate χ} {before after : Worker W}
    {ran : Ran W}
    (hserved : Served handle immediate_retries handler envelope fates before after ran)
    (hbefore : before.attempts_of handler = []) :
    FailedAll (immediate + 1) handler after.attempts ↔ ∃ error, ran.ending = .raised error := by
  have hmade : after.attempts_of handler = ran.made := by
    rw [hserved.attempts, hbefore, List.nil_append]
  constructor
  · rintro ⟨hlength, hfailed⟩
    have hending := hserved.sound.ending_eq
    rw [← hmade] at hending
    -- a run ends as its last attempt ended
    rcases hlast : (after.attempts_of handler).getLast? with _ | last
    · rw [List.getLast?_eq_none_iff] at hlast
      rw [Worker.attempts_of] at hlast
      rw [hlast] at hlength
      simp at hlength
    · have hmem := List.mem_of_getLast? hlast
      rw [Worker.attempts_of, List.mem_filter] at hmem
      have hlast_failed := hfailed last hmem.1 (by simpa using hmem.2)
      rw [hlast] at hending
      cases hattempt : last.ending with
      | raised error => exact ⟨error, by simpa [ending_of, hattempt] using hending⟩
      | _ => simp [AttemptMade.failed, hattempt] at hlast_failed
  · rintro ⟨error, hraised⟩
    have hreported := reported_of_served hserved hbefore hraised
      (List.mem_singleton_self (handler, error))
    refine ⟨?_, fun attempt hmem hown => ?_⟩
    · have hattempts := hreported.attempts
      rw [himmediate, Worker.attempts_of] at hattempts
      omega
    · obtain ⟨e, he⟩ := hreported.raised attempt
        (List.mem_filter.mpr ⟨hmem, by simpa using hown⟩)
      simp [AttemptMade.failed, he]

/-- What one dispatch without a crash leaves, among handlers of different names. -/
structure Dispatched (immediate : ℕ) (subscribers : List MessageHandler) (message_id : Uuid)
    (before : ModuleDatabase W) (ending : Outcome Unit) (after : Worker W) : Prop where
  ended : ending = .returned () ∨ ∃ error, ending = .raised error
  returned_iff : ending = .returned () ↔
    ∀ handler ∈ subscribers, ¬ FailedAll (immediate + 1) handler after.attempts
  recorded : ∀ handler ∈ subscribers, ¬ FailedAll (immediate + 1) handler after.attempts →
    after.database.row_count handler message_id ≠ 0
  kept : ∀ handler ∈ subscribers, before.row_count handler message_id ≠ 0 →
    after.database.row_count handler message_id ≠ 0
  bounded : ∀ handler, (after.attempts.filter fun attempt => attempt.handler = handler).length
    ≤ immediate + 1

theorem dispatched (handle : Handling χ W) (set : HandlerSet) {immediate_retries : ℤ}
    {immediate : ℕ} (himmediate : immediate_retries = immediate) (envelope : MessageEnvelope)
    (calm : MessageHandler → ℕ → CalmFate χ) (db : ModuleDatabase W) {ending : Outcome Unit}
    {after : Worker W}
    (hdispatch : dispatch handle (MessageHandlerRegistry.register_all set.handlers)
      immediate_retries envelope (fun handler attempt => (calm handler attempt).fate) ⟨db, []⟩
      = (ending, after)) :
    Dispatched immediate
      ((MessageHandlerRegistry.register_all set.handlers).handlers_for envelope.message_type)
      envelope.message_id db ending after := by
  have hmade : ∀ attempt ∈ after.attempts, attempt.handler ∈
      (MessageHandlerRegistry.register_all set.handlers).handlers_for envelope.message_type := by
    have hloop := dispatch_loop_made handle immediate_retries envelope
      (fun handler attempt => (calm handler attempt).fate)
      ((MessageHandlerRegistry.register_all set.handlers).handlers_for envelope.message_type) []
      ⟨db, []⟩
    rw [← dispatch_worker, hdispatch] at hloop
    intro attempt hattempt
    exact (hloop attempt hattempt).resolve_left List.not_mem_nil
  have hnodup := MessageHandlerRegistry.handlers_for_nodup set.handlers envelope.message_type
  have hfinished : ending ≠ .cancelled := by
    have hcalm := dispatch_calm handle (MessageHandlerRegistry.register_all set.handlers)
      immediate_retries envelope calm ⟨db, []⟩
    rw [hdispatch] at hcalm
    exact hcalm
  obtain ⟨reported, hsublist, hend, hserved⟩ := dispatch_served hnodup hdispatch hfinished
  set subscribers :=
    (MessageHandlerRegistry.register_all set.handlers).handlers_for envelope.message_type
  have hunshared : ∀ handler ∈ subscribers, Unshared handler subscribers :=
    fun handler hmem other hother hname => set.distinct other
      (MessageHandlerRegistry.mem_of_mem_handlers_for hother) handler
      (MessageHandlerRegistry.mem_of_mem_handlers_for hmem) hname
  have hran := fun handler hmem => hserved handler hmem (hunshared handler hmem)
  -- with no crash, a handler is reported exactly when all its attempts failed
  constructor
  · by_cases hnil : reported = []
    · exact .inl (by rw [hend, if_pos hnil])
    · exact .inr ⟨_, by rw [hend, if_neg hnil]⟩
  · constructor
    · intro hreturned handler hmem hfailed
      have hnil : reported = [] := by
        by_contra hne
        rw [hend, if_neg hne] at hreturned
        simp at hreturned
      obtain ⟨ran, hran, hgroup⟩ := hran handler hmem
      obtain ⟨error, hraised⟩ := (failed_all_iff himmediate hran rfl).mp hfailed
      rcases hgroup with ⟨hreturned', -⟩ | ⟨e, -, hin⟩
      · rw [hraised] at hreturned'
        simp at hreturned'
      · simp [hnil] at hin
    · intro hnone
      rw [hend, if_pos]
      by_contra hne
      obtain ⟨entry, hentry⟩ := List.exists_mem_of_ne_nil reported hne
      have hmem : entry.1 ∈ subscribers := hsublist.subset (List.mem_map_of_mem hentry)
      obtain ⟨ran, hran, hgroup⟩ := hran entry.1 hmem
      rcases hgroup with ⟨-, hnot⟩ | ⟨e, hraised, -⟩
      · exact hnot (List.mem_map_of_mem hentry)
      · exact hnone entry.1 hmem ((failed_all_iff himmediate hran rfl).mpr ⟨e, hraised⟩)
  · intro handler hmem hnot
    obtain ⟨ran, hran, hgroup⟩ := hran handler hmem
    have hrows := hran.rows
    rcases hgroup with ⟨hreturned, -⟩ | ⟨e, hraised, -⟩
    · rcases hran.sound.returned hreturned with hone | ⟨-, writes, hwritten⟩
      · omega
      · rw [hwritten, Option.toList_some, List.length_singleton] at hrows
        omega
    · exact absurd ((failed_all_iff himmediate hran rfl).mpr ⟨e, hraised⟩) hnot
  · intro handler hmem hbefore
    obtain ⟨ran, hran, -⟩ := hran handler hmem
    have hrows := hran.rows
    dsimp only at hrows
    omega
  · intro handler
    by_cases hmem : handler ∈ subscribers
    · obtain ⟨ran, hran, -⟩ := hran handler hmem
      have hattempts : after.attempts_of handler = ran.made := hran.attempts
      have hlength := hran.sound.numbered.length_le
      rw [List.length_map, attempt_range, List.length_range', himmediate] at hlength
      rw [Worker.attempts_of] at hattempts
      rw [hattempts]
      omega
    · have hnone : (after.attempts.filter fun attempt => attempt.handler = handler) = [] := by
        rw [List.filter_eq_nil_iff]
        intro attempt hattempt
        have hother : attempt.handler ≠ handler := fun h => hmem (h ▸ hmade attempt hattempt)
        simpa using hother
      rw [hnone]
      exact Nat.zero_le _

/-! ## 5. One step

A copy that is under way is processed, whatever trips it has made: it has kept its
identifier, type and body, and a retried one names this worker. -/

/-- A copy of the message as it is after so many trips. -/
structure Current (topology : BrokerTopology) (message : Message) (trips : ℕ) (copy : Message) :
    Prop where
  content : SameContent copy message
  count : redelivery_count copy.headers = .ok (trips : ℤ)
  returning : trips = 0 ∨ copy.headers.get RETRY_ENDPOINT_HEADER = some (.str topology.app_name)

/-- A message that was never retried is current. -/
theorem current_of_fresh (topology : BrokerTopology) {message : Message}
    (hfresh : message.headers.get REDELIVERY_COUNT_HEADER = none) :
    Current topology message 0 message := by
  refine ⟨⟨rfl, rfl, rfl⟩, ?_, .inl rfl⟩
  rw [redelivery_count, _redelivery_count, hfresh]
  rfl

theorem Entering.id_ne {registry : MessageHandlerRegistry} (entering : Entering registry) :
    entering.message.message_id.getD "" ≠ "" := by
  intro hempty
  have hnone : Uuid.parse (entering.message.message_id.getD "None") = none := by
    cases hid : entering.message.message_id with
    | none => decide
    | some text =>
        rw [hid, Option.getD_some] at hempty
        rw [Option.getD_some, hempty]
        decide
  have hsome := entering.has_id
  rw [hnone] at hsome
  simp at hsome

theorem Entering.type_eq {registry : MessageHandlerRegistry} (entering : Entering registry) :
    entering.message.type.getD "None" = entering.message.type.getD "" := by
  have htype := entering.has_type
  cases hoption : entering.message.type with
  | none => simp [hoption] at htype
  | some type => rfl

/-- A current copy is not refused. -/
theorem Current.should_process {topology : BrokerTopology} {registry : MessageHandlerRegistry}
    (entering : Entering registry) {trips : ℕ} {copy : Message}
    (h : Current topology entering.message trips copy) :
    _should_process topology registry copy = .ok true := by
  obtain ⟨⟨hid, htype, hbody⟩, hcount, hreturning⟩ := h
  rw [_should_process, hid, htype, if_neg entering.id_ne, if_neg entering.has_type,
    if_neg (not_not.mpr entering.subscribed), hcount]
  dsimp only
  rcases hreturning with rfl | hendpoint
  · cases copy.headers.get RETRY_ENDPOINT_HEADER with
    | none => rfl
    | some value => cases value <;> rfl
  · rw [hendpoint]
    simp

theorem Current.processed {json : JsonModule} {topology : BrokerTopology}
    {registry : MessageHandlerRegistry} (entering : Entering registry) {body : Body}
    (hbody : _decode json entering.message.body = .ok body) {trips : ℕ} {copy : Message}
    (h : Current topology entering.message trips copy) :
    Processed json topology registry copy (entering.envelope body copy.headers) := by
  refine ⟨h.should_process entering, ?_⟩
  obtain ⟨hid, htype, hsame⟩ := h.content
  rw [envelope_of, hid, entering.has_id, hsame]
  dsimp only
  rw [hbody, htype, entering.type_eq]
  rfl

/-- What the delivery of a copy leaves is what its dispatch comes to. -/
def delivered_as (topology : BrokerTopology) (copy : Message) (now : String) (trips : ℕ) :
    Outcome Unit × Worker W → Delivery W
  | (.raised error, worker) =>
    { worker, acked := true, accepted := [recovery_copy topology copy error now trips] }
  | (_, worker) => { worker, acked := true, accepted := [] }

/-- **One delivery of a current copy.** -/
theorem deliver_current (policy : RecoveryPolicy) {registry : MessageHandlerRegistry}
    {json : JsonModule} (handle : Handling χ W) (entering : Entering registry) {body : Body}
    (hbody : _decode json entering.message.body = .ok body) (pattern : Pattern χ)
    (db : ModuleDatabase W) {trips : ℕ} {copy : Message}
    (h : Current policy.topology entering.message trips copy) :
    (handle_delivery json policy.topology registry handle copy pattern.fate
        ⟨⟨db, []⟩, [], false⟩).2
      = delivered_as policy.topology copy pattern.now trips
        (dispatch handle registry policy.immediate (entering.envelope body copy.headers)
          (fun handler attempt => (pattern.attempts handler attempt).fate) ⟨db, []⟩) := by
  have hprocessed := h.processed entering hbody
  rw [handle_delivery_processed handle pattern.fate _ hprocessed h.count, policy.immediate_eq]
  have hfate : pattern.fate.attempts
      = fun handler attempt => (pattern.attempts handler attempt).fate := rfl
  rw [hfate]
  rcases dispatch handle registry policy.immediate (entering.envelope body copy.headers)
    (fun handler attempt => (pattern.attempts handler attempt).fate) ⟨db, []⟩ with ⟨ending, worker⟩
  cases ending <;> rfl

/-- The step that delivers it. -/
theorem queue_step_deliver (policy : RecoveryPolicy) {registry : MessageHandlerRegistry}
    {json : JsonModule} (handle : Handling χ W) (entering : Entering registry) {body : Body}
    (hbody : _decode json entering.message.body = .ok body) (pattern : Pattern χ)
    {s : Queues W} {copy : Message} (hprimary : s.primary = [copy])
    (h : Current policy.topology entering.message s.trips copy) :
    queue_step json policy.topology registry handle s (.deliver pattern)
      = some (s.delivered policy.topology copy []
        (delivered_as policy.topology copy pattern.now s.trips
          (dispatch handle registry policy.immediate (entering.envelope body copy.headers)
            (fun handler attempt => (pattern.attempts handler attempt).fate)
            ⟨s.database, []⟩))) := by
  rw [queue_step, hprimary]
  dsimp only
  rw [deliver_current policy handle entering hbody pattern s.database h]

/-- The counter and the endpoint are the headers a copy's standing depends on. -/
theorem redelivery_count_congr {headers headers' : Headers}
    (h : headers'.get REDELIVERY_COUNT_HEADER = headers.get REDELIVERY_COUNT_HEADER) :
    redelivery_count headers' = redelivery_count headers := by
  unfold redelivery_count _redelivery_count
  rw [h]

/-- A copy in the error queue stands where the message stood. -/
theorem Current.error_copy {topology : BrokerTopology} {message : Message} {trips : ℕ}
    {copy : Message} (h : Current topology message trips copy) (error : PyException)
    (now : String) :
    Current topology message trips (error_copy topology copy error now).message := by
  obtain ⟨hcontent, hcount, hreturning⟩ := h
  have hkept : ∀ key, key ≠ EXCEPTION_DETAILS_HEADER → key ≠ ENDPOINT_HEADER →
      (MessageBus.error_copy topology copy error now).message.headers.get key
        = copy.headers.get key := by
    intro key hdetails hendpoint
    rw [MessageBus.error_copy, Headers.get_set_of_ne _ _ hendpoint,
      Headers.get_set_of_ne _ _ hdetails]
  refine ⟨hcontent, ?_, hreturning.imp_right fun h => ?_⟩
  · rw [redelivery_count_congr (hkept _ (by decide) (by decide))]
    exact hcount
  · rw [hkept _ (by decide) (by decide)]
    exact h

/-- A copy in the retry queue is one trip further, and names this worker. -/
theorem Current.retry_copy {topology : BrokerTopology} {message : Message} {trips : ℕ}
    {copy : Message} (h : Current topology message trips copy) :
    Current topology message (trips + 1) (retry_copy topology copy trips).message := by
  refine ⟨h.content, ?_, .inr ?_⟩
  · have hcounted : (MessageBus.retry_copy topology copy trips).message.headers.get
        REDELIVERY_COUNT_HEADER = some (.int (trips + 1)) := by
      rw [MessageBus.retry_copy, Headers.get_set_of_ne _ _ (by decide), Headers.get_set]
    rw [redelivery_count, redelivery_count_of_int hcounted]
    rfl
  · rw [MessageBus.retry_copy, Headers.get_set]

/-- The queue a recovery's copy goes to, and how the copy stands. -/
theorem recovery_copy_routed (policy : RecoveryPolicy) {message : Message} {trips : ℕ}
    {copy : Message} (h : Current policy.topology message trips copy) (error : PyException)
    (now : String) :
    (trips < policy.delayed ∧ ∃ next,
      routed policy.topology.retry_exchange policy.topology.retry_binding_key
          [recovery_copy policy.topology copy error now trips] = [next]
      ∧ routed policy.topology.error_exchange policy.topology.error_routing_key
          [recovery_copy policy.topology copy error now trips] = []
      ∧ Current policy.topology message (trips + 1) next)
    ∨ (policy.delayed ≤ trips ∧ ∃ next,
      routed policy.topology.retry_exchange policy.topology.retry_binding_key
          [recovery_copy policy.topology copy error now trips] = []
      ∧ routed policy.topology.error_exchange policy.topology.error_routing_key
          [recovery_copy policy.topology copy error now trips] = [next]
      ∧ Current policy.topology message trips next) := by
  have hdelayed := policy.delayed_eq
  have hapart := policy.apart
  by_cases hlast : policy.delayed ≤ trips
  · have hcopy : recovery_copy policy.topology copy error now trips
        = error_copy policy.topology copy error now := by
      rw [recovery_copy, if_pos]
      omega
    -- the error queue is bound apart from the retry queue, so one of them receives it
    have hother : ¬ (policy.topology.error_exchange = policy.topology.retry_exchange
        ∧ policy.topology.error_routing_key = policy.topology.retry_binding_key) :=
      fun hsame => hapart ⟨hsame.1.symm, hsame.2.symm⟩
    rw [hcopy]
    refine .inr ⟨hlast, (error_copy policy.topology copy error now).message, ?_, ?_,
      h.error_copy error now⟩
    · simpa [routed, error_copy] using hother
    · simp [routed, error_copy]
  · have hcopy : recovery_copy policy.topology copy error now trips
        = retry_copy policy.topology copy trips := by
      rw [recovery_copy, if_neg]
      omega
    rw [hcopy]
    refine .inl ⟨by omega, (retry_copy policy.topology copy trips).message, ?_, ?_, h.retry_copy⟩
    · simp [routed, retry_copy]
    · simpa [routed, retry_copy] using hapart

/-! ## 6. Where the copy is -/

inductive Place where
  | primary | retry | error | acknowledged
  deriving DecidableEq

/-- The message will not be delivered any more. -/
def Place.settled : Place → Bool
  | .primary => false
  | .retry => false
  | .error => true
  | .acknowledged => true

/-- One copy, in this place. -/
structure Queues.Holds (s : Queues W) (place : Place) (copy : Message) : Prop where
  primary : s.primary = if place = .primary then [copy] else []
  retry : s.retry = if place = .retry then [copy] else []
  error : s.error = if place = .error then [copy] else []
  acknowledged : s.acknowledged = if place = .acknowledged then [copy] else []

theorem Queues.Holds.copies {s : Queues W} {place : Place} {copy : Message}
    (h : s.Holds place copy) : s.copies = [copy] := by
  rw [Queues.copies, h.primary, h.retry, h.error, h.acknowledged]
  cases place <;> rfl

theorem Queues.Holds.error_iff {s : Queues W} {place : Place} {copy : Message}
    (h : s.Holds place copy) : s.error ≠ [] ↔ place = .error := by
  rw [h.error]
  by_cases hplace : place = .error
  · simp [hplace]
  · simp [hplace]

/-- What a delivery of the copy leaves behind. -/
structure Delivered (policy : RecoveryPolicy) (subscribers : List MessageHandler)
    (message_id : Uuid) (message : Message) (s : Queues W) (copy : Message) (worker : Worker W)
    (ending : Outcome Unit) (s' : Queues W) : Prop where
  dispatched : Dispatched policy.immediate subscribers message_id s.database ending worker
  log : s'.log = s.log ++ [⟨s.database, worker.attempts⟩]
  database : s'.database = worker.database
  moved : (ending = .returned () ∧ s'.trips = s.trips ∧ s'.Holds .acknowledged copy)
    ∨ ending ≠ .returned () ∧ ∃ next, Current policy.topology message s'.trips next
      ∧ ((s.trips < policy.delayed ∧ s'.trips = s.trips + 1 ∧ s'.Holds .retry next)
        ∨ (policy.delayed ≤ s.trips ∧ s'.trips = s.trips ∧ s'.Holds .error next))

/-- **What a step can do.** The copy returns to the primary queue, or is delivered. -/
theorem queue_step_cases (policy : RecoveryPolicy) (set : HandlerSet) {json : JsonModule}
    (handle : Handling χ W)
    (entering : Entering (MessageHandlerRegistry.register_all set.handlers)) {body : Body}
    (hbody : _decode json entering.message.body = .ok body)
    {s s' : Queues W} {label : QueueStep χ} {place : Place} {copy : Message}
    (hheld : s.Holds place copy)
    (hcurrent : Current policy.topology entering.message s.trips copy)
    (hstep : queue_step json policy.topology (MessageHandlerRegistry.register_all set.handlers)
      handle s label = some s') :
    (place = .retry ∧ s'.Holds .primary copy ∧ s'.trips = s.trips ∧ s'.log = s.log
        ∧ s'.database = s.database)
    ∨ (place = .primary ∧ ∃ worker ending, Delivered policy
        entering.subscribers entering.message_id entering.message s copy worker ending s') := by
  obtain ⟨hprimary, hretry, herror, hacknowledged⟩ := hheld
  cases label with
  | expire =>
      by_cases hplace : place = .retry
      · subst hplace
        simp only [if_true] at hretry
        simp only [queue_step, hretry, Option.some.injEq] at hstep
        refine .inl ⟨rfl, ?_⟩
        rw [← hstep]
        exact ⟨⟨by simpa using hprimary, by simp, by simpa using herror,
          by simpa using hacknowledged⟩, rfl, rfl, rfl⟩
      · rw [if_neg hplace] at hretry
        simp [queue_step, hretry] at hstep
  | deliver pattern =>
      by_cases hplace : place = .primary
      · subst hplace
        simp only [reduceCtorEq, if_true, if_false] at hprimary hretry herror hacknowledged
        rw [queue_step_deliver policy handle entering hbody pattern hprimary hcurrent] at hstep
        rcases hdispatch : dispatch handle (MessageHandlerRegistry.register_all set.handlers)
          policy.immediate (entering.envelope body copy.headers)
          (fun handler attempt => (pattern.attempts handler attempt).fate) ⟨s.database, []⟩
          with ⟨ending, worker⟩
        have hdispatched := dispatched handle set rfl _ pattern.attempts s.database hdispatch
        rw [hdispatch, Option.some.injEq] at hstep
        have hworker : (delivered_as policy.topology copy pattern.now s.trips
            (ending, worker)).worker = worker := by
          cases ending <;> rfl
        refine .inr ⟨rfl, worker, ending, hdispatched, by rw [← hstep, Queues.delivered, hworker],
          by rw [← hstep, Queues.delivered, hworker], ?_⟩
        -- a dispatch that returns settles the copy; after one that raises it is parked
        rcases hdispatched.ended with rfl | ⟨error, rfl⟩
        · refine .inl ⟨rfl, ?_, ?_⟩
          · rw [← hstep]
            simp [Queues.delivered, delivered_as, routed]
          · rw [← hstep]
            simp only [Queues.delivered, delivered_as]
            exact ⟨by simp, by simp [routed, hretry], by simp [routed, herror],
              by simp [hacknowledged]⟩
        · refine .inr ⟨by simp, ?_⟩
          rcases recovery_copy_routed policy hcurrent error pattern.now with
            ⟨hless, next, hreturning, hparked, hnext⟩ | ⟨hlast, next, hreturning, hparked, hnext⟩
          · simp only [Queues.delivered, delivered_as, hreturning, hparked] at hstep
            have htrips : s'.trips = s.trips + 1 := by rw [← hstep]; rfl
            refine ⟨next, by rw [htrips]; exact hnext, .inl ⟨hless, htrips, ?_⟩⟩
            rw [← hstep]
            exact ⟨by simp, by simp [hretry], by simp [herror], by simp [hacknowledged]⟩
          · simp only [Queues.delivered, delivered_as, hreturning, hparked] at hstep
            have htrips : s'.trips = s.trips := by rw [← hstep]; rfl
            refine ⟨next, by rw [htrips]; exact hnext, .inr ⟨hlast, htrips, ?_⟩⟩
            rw [← hstep]
            exact ⟨by simp, by simp [hretry], by simp [herror], by simp [hacknowledged]⟩
      · rw [if_neg hplace] at hprimary
        simp [queue_step, hprimary] at hstep

/-! ## 7. Counting attempts

Each delivery gives a handler at most so many attempts, so as many as all the deliveries
together allow are reached only by reaching the most in each. -/

/-- The attempts of one handler, over the deliveries made. -/
def made_for (handler : MessageHandler) (log : List (DeliveryMade W)) : ℕ :=
  ((log.flatMap DeliveryMade.made).filter fun attempt => attempt.handler = handler).length

theorem made_for_cons (handler : MessageHandler) (delivery : DeliveryMade W)
    (log : List (DeliveryMade W)) :
    made_for handler (delivery :: log)
      = (delivery.made.filter fun attempt => attempt.handler = handler).length
        + made_for handler log := by
  rw [made_for, List.flatMap_cons, List.filter_append, List.length_append]
  rfl

/-- No delivery gives a handler more than this. -/
def Bounded (n : ℕ) (log : List (DeliveryMade W)) : Prop :=
  ∀ delivery ∈ log, ∀ handler,
    (delivery.made.filter fun attempt => attempt.handler = handler).length ≤ n

theorem Bounded.made_for_le {n : ℕ} {log : List (DeliveryMade W)} (h : Bounded n log)
    (handler : MessageHandler) : made_for handler log ≤ log.length * n := by
  induction log with
  | nil => simp [made_for]
  | cons delivery log ih =>
      have hrest := ih fun d hd => h d (List.mem_cons_of_mem delivery hd)
      have hfirst := h delivery List.mem_cons_self handler
      rw [made_for_cons, List.length_cons, Nat.succ_mul]
      omega

/-- A sum that reaches its bound reaches it in every summand. -/
theorem Bounded.each_eq {n : ℕ} {log : List (DeliveryMade W)} (h : Bounded n log)
    {handler : MessageHandler} (hall : made_for handler log = log.length * n) :
    ∀ delivery ∈ log,
      (delivery.made.filter fun attempt => attempt.handler = handler).length = n := by
  induction log with
  | nil => simp
  | cons delivery log ih =>
      have hrest : Bounded n log := fun d hd => h d (List.mem_cons_of_mem delivery hd)
      have hle := hrest.made_for_le handler
      have hfirst := h delivery List.mem_cons_self handler
      rw [made_for_cons, List.length_cons, Nat.succ_mul] at hall
      intro d hd
      rcases List.mem_cons.mp hd with rfl | hd
      · omega
      · exact ih hrest (by omega) d hd

/-- Failing all of every delivery is failing all there is. -/
theorem failed_all_of_each {n : ℕ} {handler : MessageHandler} {log : List (DeliveryMade W)}
    (h : ∀ delivery ∈ log, FailedAll n handler delivery.made) :
    FailedAll (log.length * n) handler (log.flatMap DeliveryMade.made) := by
  have hcount : made_for handler log = log.length * n := by
    induction log with
    | nil => simp [made_for]
    | cons delivery log ih =>
        have hfirst := (h delivery List.mem_cons_self).1
        have hrest := ih fun d hd => h d (List.mem_cons_of_mem delivery hd)
        rw [made_for_cons, List.length_cons, Nat.succ_mul]
        omega
  refine ⟨hcount, fun attempt hattempt hown => ?_⟩
  obtain ⟨delivery, hdelivery, hmade⟩ := List.mem_flatMap.mp hattempt
  exact (h delivery hdelivery).2 attempt hmade hown

/-- And the other way round, when no more deliveries are made than that takes. -/
theorem Bounded.each_failed {n deliveries : ℕ} {handler : MessageHandler}
    {log : List (DeliveryMade W)} (h : Bounded n log) (hpos : 0 < n)
    (hlength : log.length ≤ deliveries)
    (hall : FailedAll (deliveries * n) handler (log.flatMap DeliveryMade.made)) :
    log.length = deliveries ∧ ∀ delivery ∈ log, FailedAll n handler delivery.made := by
  obtain ⟨hcount, hfailed⟩ := hall
  have hle : deliveries * n ≤ log.length * n := by
    rw [← hcount]
    exact h.made_for_le handler
  have hdeliveries : log.length = deliveries :=
    Nat.le_antisymm hlength (Nat.le_of_mul_le_mul_right hle hpos)
  refine ⟨hdeliveries, fun delivery hdelivery => ⟨?_, fun attempt hattempt hown => ?_⟩⟩
  · rw [← hdeliveries] at hcount
    exact h.each_eq hcount delivery hdelivery
  · exact hfailed attempt (List.mem_flatMap.mpr ⟨delivery, hdelivery, hattempt⟩) hown

/-! ## 8. The invariant -/

/-- The state of one message on its way: where its copy is, how often it has travelled,
and what the deliveries so far have come to. -/
structure Tracked (policy : RecoveryPolicy) (subscribers : List MessageHandler)
    (message_id : Uuid) (message : Message) (s : Queues W) (place : Place) (copy : Message) :
    Prop where
  held : s.Holds place copy
  current : Current policy.topology message s.trips copy
  trips : s.trips ≤ policy.delayed
  length : s.log.length = s.trips + place.settled.toNat
  bounded : Bounded (policy.immediate + 1) s.log
  -- Who is not recorded has failed whatever there was.
  unrecorded : ∀ handler ∈ subscribers, s.database.row_count handler message_id = 0 →
    ∀ delivery ∈ s.log, FailedAll (policy.immediate + 1) handler delivery.made
  failing : place ≠ .acknowledged → ∀ delivery ∈ s.log,
    ∃ handler ∈ subscribers, FailedAll (policy.immediate + 1) handler delivery.made
  handled : place = .acknowledged → ∃ delivery ∈ s.log,
    ∀ handler ∈ subscribers, ¬ FailedAll (policy.immediate + 1) handler delivery.made
  parked : place = .error → s.trips = policy.delayed
    ∧ (Readable policy.immediate subscribers message_id s.log → ∃ handler ∈ subscribers,
      ∀ delivery ∈ s.log, FailedAll (policy.immediate + 1) handler delivery.made)

theorem tracked_entered (policy : RecoveryPolicy) (subscribers : List MessageHandler)
    (message_id : Uuid) {message : Message} (db : ModuleDatabase W)
    (hfresh : message.headers.get REDELIVERY_COUNT_HEADER = none) :
    Tracked policy subscribers message_id message (entered message db) .primary message := by
  constructor
  · exact ⟨rfl, rfl, rfl, rfl⟩
  · exact current_of_fresh policy.topology hfresh
  · exact Nat.zero_le _
  · rfl
  · exact fun delivery hdelivery => absurd hdelivery List.not_mem_nil
  · exact fun handler _ _ delivery hdelivery => absurd hdelivery List.not_mem_nil
  · exact fun _ delivery hdelivery => absurd hdelivery List.not_mem_nil
  · exact fun hplace => absurd hplace (by simp)
  · exact fun hplace => absurd hplace (by simp)

/-- A delivery keeps the invariant: the case it comes to is the place the copy moves to. -/
theorem Tracked.delivered {policy : RecoveryPolicy} {subscribers : List MessageHandler}
    {message_id : Uuid} {message copy : Message} {s s' : Queues W} {worker : Worker W}
    {ending : Outcome Unit} (h : Tracked policy subscribers message_id message s .primary copy)
    (hdelivered : Delivered policy subscribers message_id message s copy worker ending s') :
    ∃ place next, Tracked policy subscribers message_id message s' place next := by
  obtain ⟨hdispatched, hlog, hdatabase, hmoved⟩ := hdelivered
  have hmem : ∀ delivery, delivery ∈ s'.log ↔
      delivery ∈ s.log ∨ delivery = ⟨s.database, worker.attempts⟩ := by
    intro delivery
    rw [hlog, List.mem_append, List.mem_singleton]
  have hlength : s'.log.length = s.trips + 1 := by
    have hbefore := h.length
    rw [Place.settled, Bool.toNat_false] at hbefore
    rw [hlog, List.length_append, List.length_singleton, hbefore]
  have hbounded : Bounded (policy.immediate + 1) s'.log := by
    intro delivery hdelivery handler
    rcases (hmem delivery).mp hdelivery with hold | rfl
    · exact h.bounded delivery hold handler
    · exact hdispatched.bounded handler
  have hunrecorded : ∀ handler ∈ subscribers, s'.database.row_count handler message_id = 0 →
      ∀ delivery ∈ s'.log, FailedAll (policy.immediate + 1) handler delivery.made := by
    intro handler hsub hzero delivery hdelivery
    rw [hdatabase] at hzero
    rcases (hmem delivery).mp hdelivery with hold | rfl
    · refine h.unrecorded handler hsub ?_ delivery hold
      by_contra hbefore
      exact hdispatched.kept handler hsub hbefore hzero
    · by_contra hnot
      exact hdispatched.recorded handler hsub hnot hzero
  rcases hmoved with ⟨hreturned, htrips, hheld⟩ | ⟨hfailed, next, hcurrent, hmoved⟩
  · refine ⟨.acknowledged, copy, hheld, ?_, ?_, ?_, hbounded, hunrecorded, ?_, ?_, ?_⟩
    · rw [htrips]
      exact h.current
    · rw [htrips]
      exact h.trips
    · rw [hlength, htrips]
      rfl
    · exact fun hplace => absurd rfl hplace
    · exact fun _ => ⟨⟨s.database, worker.attempts⟩, (hmem _).mpr (.inr rfl),
        hdispatched.returned_iff.mp hreturned⟩
    · exact fun hplace => absurd hplace (by simp)
  · have hlast : ∃ handler ∈ subscribers,
        FailedAll (policy.immediate + 1) handler worker.attempts := by
      by_contra hnone
      refine hfailed (hdispatched.returned_iff.mpr fun handler hsub hall => ?_)
      exact hnone ⟨handler, hsub, hall⟩
    have hfailing : ∀ delivery ∈ s'.log,
        ∃ handler ∈ subscribers, FailedAll (policy.immediate + 1) handler delivery.made := by
      intro delivery hdelivery
      rcases (hmem delivery).mp hdelivery with hold | rfl
      · exact h.failing (by simp) delivery hold
      · exact hlast
    rcases hmoved with ⟨hless, htrips, hheld⟩ | ⟨hdelayed, htrips, hheld⟩
    · refine ⟨.retry, next, hheld, hcurrent, ?_, ?_, hbounded, hunrecorded, fun _ => hfailing,
        ?_, ?_⟩
      · omega
      · rw [hlength, htrips]
        rfl
      · exact fun hplace => absurd hplace (by simp)
      · exact fun hplace => absurd hplace (by simp)
    · have hbefore := h.trips
      refine ⟨.error, next, hheld, hcurrent, ?_, ?_, hbounded, hunrecorded, fun _ => hfailing,
        ?_, ?_⟩
      · omega
      · rw [hlength, htrips]
        rfl
      · exact fun hplace => absurd hplace (by simp)
      -- The one who failed the last delivery was not recorded before it, so failed them all.
      · refine fun _ => ⟨by omega, fun hreadable => ?_⟩
        obtain ⟨handler, hsub, hall⟩ := hlast
        refine ⟨handler, hsub, fun delivery hdelivery => ?_⟩
        rcases (hmem delivery).mp hdelivery with hold | rfl
        · refine h.unrecorded handler hsub ?_ delivery hold
          by_contra hrecorded
          exact hreadable ⟨s.database, worker.attempts⟩ ((hmem _).mpr (.inr rfl)) handler hsub
            hrecorded hall
        · exact hall

/-! ## 9. The result -/

/-- How far the message is from where it ends: two steps a trip, and the last delivery. -/
def Queues.rank (delayed : ℕ) (s : Queues W) : ℕ :=
  2 * (delayed - s.trips) + 2 * s.retry.length + s.primary.length

theorem Queues.Holds.rank_eq {s : Queues W} {place : Place} {copy : Message}
    (h : s.Holds place copy) (delayed : ℕ) :
    s.rank delayed = 2 * (delayed - s.trips)
      + (match place with | .primary => 1 | .retry => 2 | _ => 0) := by
  rw [Queues.rank, h.retry, h.primary]
  cases place <;> simp

/-- One step keeps the invariant and brings the end nearer. -/
theorem Tracked.step (policy : RecoveryPolicy) (set : HandlerSet) {json : JsonModule}
    (handle : Handling χ W)
    (entering : Entering (MessageHandlerRegistry.register_all set.handlers)) {body : Body}
    (hbody : _decode json entering.message.body = .ok body)
    {s s' : Queues W} {label : QueueStep χ}
    (h : ∃ place copy, Tracked policy entering.subscribers entering.message_id entering.message
      s place copy)
    (hstep : queue_step json policy.topology (MessageHandlerRegistry.register_all set.handlers)
      handle s label = some s') :
    (∃ place copy, Tracked policy entering.subscribers entering.message_id entering.message
      s' place copy) ∧ s'.rank policy.delayed < s.rank policy.delayed := by
  obtain ⟨place, copy, h⟩ := h
  rcases queue_step_cases policy set handle entering hbody h.held h.current hstep with
    ⟨rfl, hheld, htrips, hlog, hdatabase⟩ | ⟨rfl, worker, ending, hdelivered⟩
  · -- the expired copy is back in the primary queue, one step nearer
    refine ⟨⟨.primary, copy, hheld, ?_, ?_, ?_, ?_, ?_, ?_, ?_, ?_⟩, ?_⟩
    · rw [htrips]
      exact h.current
    · rw [htrips]
      exact h.trips
    · rw [hlog, htrips]
      exact h.length
    · rw [hlog]
      exact h.bounded
    · rw [hlog, hdatabase]
      exact h.unrecorded
    · rw [hlog]
      exact fun _ => h.failing (by simp)
    · exact fun hplace => absurd hplace (by simp)
    · exact fun hplace => absurd hplace (by simp)
    · rw [hheld.rank_eq, h.held.rank_eq, htrips]
      dsimp only
      omega
  · refine ⟨h.delivered hdelivered, ?_⟩
    have hbefore := h.trips
    rcases hdelivered.moved with ⟨-, htrips, hheld⟩ | ⟨-, next, -, ⟨hless, htrips, hheld⟩
      | ⟨hdelayed, htrips, hheld⟩⟩
    · rw [hheld.rank_eq, h.held.rank_eq, htrips]
      dsimp only
      omega
    · rw [hheld.rank_eq, h.held.rank_eq, htrips]
      dsimp only
      omega
    · rw [hheld.rank_eq, h.held.rank_eq, htrips]
      dsimp only
      omega

theorem Tracked.recovered {policy : RecoveryPolicy} {subscribers : List MessageHandler}
    {message_id : Uuid} {message copy : Message} {s : Queues W} {place : Place}
    (h : Tracked policy subscribers message_id message s place copy) :
    Recovered policy subscribers message_id message s := by
  have htrips := h.trips
  have hlength := h.length
  have hsettled : place.settled.toNat ≤ 1 := Bool.toNat_le place.settled
  -- All deliveries are made and some handler failed each of them: it is in the error queue.
  have hparked : s.log.length = policy.delayed + 1 → (∀ delivery ∈ s.log,
      ∃ handler ∈ subscribers, FailedAll (policy.immediate + 1) handler delivery.made) →
      place = .error := by
    intro hall hfailing
    cases place with
    | error => rfl
    | acknowledged =>
        obtain ⟨delivery, hdelivery, hnone⟩ := h.handled rfl
        obtain ⟨handler, hsub, hfailed⟩ := hfailing delivery hdelivery
        exact absurd hfailed (hnone handler hsub)
    | primary =>
        rw [Place.settled, Bool.toNat_false] at hlength
        omega
    | retry =>
        rw [Place.settled, Bool.toNat_false] at hlength
        omega
  have hall : place = .error → s.log.length = policy.delayed + 1 := by
    rintro rfl
    rw [hlength, (h.parked rfl).1]
    rfl
  constructor
  · exact ⟨copy, h.held.copies, h.current.content, h.current.count⟩
  · intro hsome handler hsub hzero
    have hplace : place = .acknowledged := by
      by_contra hnot
      exact hsome (by rw [h.held.acknowledged, if_neg hnot])
    -- who is not recorded has failed the delivery that was acknowledged, too
    obtain ⟨delivery, hdelivery, hnone⟩ := h.handled hplace
    exact hnone handler hsub (h.unrecorded handler hsub hzero delivery hdelivery)
  · exact htrips
  · intro handler
    have hmade := h.bounded.made_for_le handler
    refine hmade.trans (Nat.mul_le_mul_right _ ?_)
    omega
  · rw [h.held.error_iff]
    constructor
    · intro hplace
      exact ⟨hall hplace, h.failing (by rw [hplace]; simp)⟩
    · rintro ⟨hdeliveries, hfailing⟩
      exact hparked hdeliveries hfailing
  · intro hreadable
    rw [h.held.error_iff]
    constructor
    · intro hplace
      obtain ⟨handler, hsub, heach⟩ := (h.parked hplace).2 hreadable
      refine ⟨handler, hsub, ?_⟩
      rw [← hall hplace]
      exact failed_all_of_each heach
    · rintro ⟨handler, hsub, hfailed⟩
      have hdeliveries : s.log.length ≤ policy.delayed + 1 := by omega
      obtain ⟨hcount, heach⟩ :=
        h.bounded.each_failed (Nat.succ_pos policy.immediate) hdeliveries hfailed
      exact hparked hcount fun delivery hdelivery => ⟨handler, hsub, heach delivery hdelivery⟩

/-- The message is where it entered, and no delivery has come to an attempt. -/
structure Stuck (message : Message) (s : Queues W) : Prop where
  held : s.Holds .primary message
  trips : s.trips = 0
  unattempted : ∀ delivery ∈ s.log, delivery.made = []

/-- A message whose body cannot be decoded is delivered, not acknowledged, and is where it
was. -/
theorem Stuck.step (policy : RecoveryPolicy) {registry : MessageHandlerRegistry}
    {json : JsonModule} (handle : Handling χ W) (entering : Entering registry)
    {error : PyException} (hbody : _decode json entering.message.body = .error error)
    {s s' : Queues W} {label : QueueStep χ} (h : Stuck entering.message s)
    (hstep : queue_step json policy.topology registry handle s label = some s') :
    Stuck entering.message s' := by
  obtain ⟨⟨hprimary, hretry, herror, hacknowledged⟩, htrips, hunattempted⟩ := h
  simp only [reduceCtorEq, if_true, if_false] at hprimary hretry herror hacknowledged
  cases label with
  | expire => simp [queue_step, hretry] at hstep
  | deliver pattern =>
      have henvelope : envelope_of json entering.message = .error error := by
        rw [envelope_of, entering.has_id]
        dsimp only
        rw [hbody]
      -- raised before the `try`: nothing acknowledges it, and it is delivered again
      have hafter := handle_delivery_unreadable handle pattern.fate ⟨⟨s.database, []⟩, [], false⟩
        ((current_of_fresh policy.topology entering.fresh).should_process entering) henvelope
      simp only [queue_step, hprimary, hafter, Queues.delivered, Option.some.injEq] at hstep
      rw [← hstep]
      refine ⟨⟨by simp, by simp [routed, hretry], by simp [routed, herror],
        by simp [hacknowledged]⟩, by simp [routed, htrips], fun delivery hdelivery => ?_⟩
      rcases List.mem_append.mp hdelivery with hold | hnew
      · exact hunattempted delivery hold
      · rw [List.mem_singleton.mp hnew]

theorem Stuck.recovered {policy : RecoveryPolicy} (subscribers : List MessageHandler)
    (message_id : Uuid) {message : Message} {s : Queues W} (h : Stuck message s)
    (hfresh : message.headers.get REDELIVERY_COUNT_HEADER = none) :
    Recovered policy subscribers message_id message s := by
  have hcurrent := current_of_fresh policy.topology hfresh
  have hnone : s.error = [] := h.held.error
  have hmade : s.attempts = [] := List.flatMap_eq_nil_iff.mpr h.unattempted
  have hunfailed : ∀ n handler, ¬ FailedAll (n + 1) handler ([] : List AttemptMade) :=
    fun n handler hall => absurd hall.1 (by simp)
  constructor
  · rw [h.trips]
    exact ⟨message, h.held.copies, hcurrent.content, hcurrent.count⟩
  · exact fun hsome => absurd h.held.acknowledged hsome
  · rw [h.trips]
    exact Nat.zero_le _
  · intro handler
    rw [hmade]
    exact Nat.zero_le _
  · refine iff_of_false (fun hsome => hsome hnone) ?_
    rintro ⟨hlength, hfailing⟩
    obtain ⟨delivery, hdelivery⟩ := List.exists_mem_of_length_pos (by omega : 0 < s.log.length)
    obtain ⟨handler, -, hall⟩ := hfailing delivery hdelivery
    rw [h.unattempted delivery hdelivery] at hall
    exact hunfailed _ handler hall
  · intro _
    refine iff_of_false (fun hsome => hsome hnone) ?_
    rintro ⟨handler, -, hall⟩
    rw [hmade, Nat.succ_mul, Nat.add_succ] at hall
    exact hunfailed _ handler hall

/-- **Bounded recoverability.** Between steps there is one copy of the message, in one
place, with its content and its count of trips; it is acknowledged without a copy only once
every subscriber has handled it, and in the error queue exactly when some handler has failed
each of the deliveries a message gets. Unless its body makes the decoder give up it is
somewhere for good after at most two steps a retry and one more. -/
theorem recoverability (policy : RecoveryPolicy) (set : HandlerSet) {json : JsonModule}
    (handle : Handling χ W)
    (entering : Entering (MessageHandlerRegistry.register_all set.handlers))
    (db : ModuleDatabase W) {steps : List (QueueStep χ)} {s : Queues W}
    (hrun : run (queue_step json policy.topology
      (MessageHandlerRegistry.register_all set.handlers) handle)
      (entered entering.message db) steps = some s) :
    Recovered policy entering.subscribers entering.message_id entering.message s
      ∧ ((∃ body, _decode json entering.message.body = .ok body) →
        steps.length ≤ 2 * policy.delayed + 1) := by
  have hentered := tracked_entered policy entering.subscribers entering.message_id db
    entering.fresh
  cases hbody : _decode json entering.message.body with
  | error error =>
      -- no delivery gets as far as a handler
      refine ⟨?_, by simp⟩
      have hstuck : Stuck entering.message (entered entering.message db) :=
        ⟨hentered.held, rfl, fun delivery hdelivery => absurd hdelivery List.not_mem_nil⟩
      have hlast := run_inv _
        (fun _ _ _ h hstep => Stuck.step policy handle entering hbody h hstep) hstuck hrun
      exact hlast.recovered entering.subscribers entering.message_id entering.fresh
  | ok body =>
      constructor
      · obtain ⟨place, copy, htracked⟩ := run_inv _
          (fun _ _ _ h hstep => (Tracked.step policy set handle entering hbody h hstep).1)
          ⟨.primary, entering.message, hentered⟩ hrun
        exact htracked.recovered
      · intro _
        have hlength := run_length_le _
          (fun _ _ _ h hstep => Tracked.step policy set handle entering hbody h hstep)
          ⟨.primary, entering.message, hentered⟩ hrun
        rw [hentered.held.rank_eq] at hlength
        have hzero : (entered entering.message db).trips = 0 := rfl
        rw [hzero] at hlength
        dsimp only at hlength
        omega

end Queues

/-! ### One retry, and a handler that cannot read what it has done -/

/-- One delayed retry, and no immediate ones. -/
def one_retry : RecoveryPolicy where
  topology := { customs_topology with delayed_retries := 1 }
  immediate := 0
  delayed := 1
  immediate_eq := rfl
  delayed_eq := rfl
  apart := by decide

def two_subscribers : HandlerSet where
  handlers := [opener, assessor]
  distinct := by decide

def finalized_entering :
    Entering (MessageHandlerRegistry.register_all two_subscribers.handlers) where
  message := finalized_message
  message_id := finalized.message_id
  has_id := finalized_message_named
  has_type := finalized_message_typed
  subscribed := by decide
  fresh := finalized_message_fresh

theorem finalized_body : _decode empty_json finalized_entering.message.body = .ok [] := rfl

/-- The fate of an attempt that succeeds. -/
def succeeding : CalmFate Unit where
  enter := none
  was_handled := none
  handle := none
  choice := ()
  record := none
  commit := none
  commit_reached := true
  rollback := none
  leave := none

def failing : CalmFate Unit := { succeeding with handle := some lost_connection }

/-- The inbox cannot be read. -/
def unread : CalmFate Unit := { succeeding with was_handled := some lost_connection }

/-- The attempts of a delivery, for the opener and for the others. -/
def pattern_of (opening assessing : CalmFate Unit) : Pattern Unit where
  attempts := fun handler _ => if handler = opener then opening else assessing
  now := "2026-01-01T00:00:00+00:00"

/-- One step of the announcement. -/
def announcement_step : Queues Unit → QueueStep Unit → Option (Queues Unit) :=
  queue_step empty_json one_retry.topology
    (MessageHandlerRegistry.register_all two_subscribers.handlers) marking

/-- The announcement is back after a delivery that only the opener has handled. -/
def returned_once : Queues Unit where
  primary := [(retry_copy one_retry.topology finalized_message 0).message]
  retry := []
  error := []
  acknowledged := []
  database := opened_before
  trips := 1
  log := [⟨⟨[], []⟩, [⟨opener, 1, .returned true⟩, ⟨assessor, 1, .raised lost_connection⟩]⟩]

theorem returned_once_reached :
    run announcement_step (entered finalized_message ⟨[], []⟩)
      [.deliver (pattern_of succeeding failing), .expire] = some returned_once := by
  have hfirst : (entered finalized_message (ModuleDatabase.mk ([] : List InboxMessage)
      ([] : List (Effect Unit)))).primary = [finalized_message] := rfl
  have hdelivered := queue_step_deliver one_retry marking finalized_entering finalized_body
    (pattern_of succeeding failing) hfirst (current_of_fresh one_retry.topology rfl)
  rw [run_cons, announcement_step, hdelivered]
  rfl

/-- The second delivery, whose attempts go like this. -/
theorem second_delivery (pattern : Pattern Unit) :
    announcement_step returned_once (.deliver pattern)
      = some (returned_once.delivered one_retry.topology
        (retry_copy one_retry.topology finalized_message 0).message []
        (delivered_as one_retry.topology
          (retry_copy one_retry.topology finalized_message 0).message pattern.now 1
          (dispatch marking (MessageHandlerRegistry.register_all two_subscribers.handlers) 0
            (finalized_entering.envelope []
              (retry_copy one_retry.topology finalized_message 0).message.headers)
            (fun handler attempt => (pattern.attempts handler attempt).fate)
            ⟨opened_before, []⟩))) :=
  queue_step_deliver one_retry marking finalized_entering finalized_body pattern rfl
    (Current.retry_copy (current_of_fresh one_retry.topology rfl))

/-- The assessor fails both deliveries, and the message is parked. -/
theorem recoverability_sample : ∃ s : Queues Unit, s.error.length = 1
    ∧ Recovered one_retry [opener, assessor] finalized.message_id finalized_message s
    ∧ ((∃ body, _decode empty_json finalized_message.body = .ok body) →
      3 ≤ 2 * one_retry.delayed + 1) := by
  have hrun := run_append announcement_step (entered finalized_message ⟨[], []⟩)
    [.deliver (pattern_of succeeding failing), .expire] [.deliver (pattern_of succeeding failing)]
  rw [returned_once_reached, Option.bind_some, run_cons, second_delivery] at hrun
  exact ⟨_, rfl, recoverability one_retry two_subscribers marking finalized_entering ⟨[], []⟩ hrun⟩

/-- The assessor fails the first delivery; the opener, which has handled it, cannot read
that it has and fails the second. The message is parked, and no handler has failed both. -/
theorem parked_without_a_failed_handler : ∃ (steps : List (QueueStep Unit)) (s : Queues Unit),
    run announcement_step (entered finalized_message ⟨[], []⟩) steps = some s
    ∧ s.error.length = 1
    ∧ ∀ handler ∈ (MessageHandlerRegistry.register_all two_subscribers.handlers).handlers_for
        finalized.message_type,
      ¬ FailedAll ((one_retry.delayed + 1) * (one_retry.immediate + 1)) handler s.attempts := by
  have hrun := run_append announcement_step (entered finalized_message ⟨[], []⟩)
    [.deliver (pattern_of succeeding failing), .expire] [.deliver (pattern_of unread succeeding)]
  rw [returned_once_reached, Option.bind_some, run_cons, second_delivery] at hrun
  exact ⟨_, _, hrun, rfl, by decide⟩

end TradeLogistics.MessageBus
