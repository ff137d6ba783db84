/-
Several workers on one queue.

The workers differ in their names and in how often they retry; the queue, the exchanges
and keys of retry and error, the handlers and the database are common. A message that
fails on one worker comes back to the queue, and whichever worker is free receives it.

The filter lets a worker process a retry that names it and acknowledges one that names
another, without a copy: it is meant for two queues bound to one return key, where the
other queue has a copy of its own. On a common queue there is no other copy. So what
keeps a message is that its retries are received by a worker of the name that scheduled
them, and this is exact: the first time the only copy left is received by another, with
a subscriber not yet recorded, the message is gone.
-/
import TradeLogistics.Tolerance
import TradeLogistics.Runs

set_option autoImplicit false

namespace TradeLogistics.MessageBus

open TradeLogistics.PyText TradeLogistics.PyAsync TradeLogistics.Runs

/-! ## 1. The workers and the queues -/

/-- Workers whose retry and error topology is one. -/
structure SharedTopology (ι : Type*) where
  topology : ι → BrokerTopology
  retry_exchange : String
  retry_binding_key : String
  error_exchange : String
  error_routing_key : String
  retries : ∀ worker, (topology worker).retry_exchange = retry_exchange
    ∧ (topology worker).retry_binding_key = retry_binding_key
  errors : ∀ worker, (topology worker).error_exchange = error_exchange
    ∧ (topology worker).error_routing_key = error_routing_key

/-- The copies of one message in the queues and on the workers, each with the worker it
was delivered to, and the database of the module. -/
structure SharedQueue (ι W : Type*) where
  primary : List Message
  retry : List Message
  error : List Message
  processing : List (ι × Message)
  database : ModuleDatabase W

/-- What may happen to the message. -/
inductive SharedStep (ι : Type*) (χ W : Type) where
  /-- It is published once more, as it entered. -/
  | publish
  /-- The broker delivers the first copy to this worker. -/
  | deliver (worker : ι)
  /-- A worker is through with a delivery. -/
  | handle (position : ℕ) (pattern : Pattern χ)
  /-- The first retry returns to the primary queue. -/
  | expire
  /-- Somebody commits the effects of a handler, for any message. -/
  | elsewhere (handler : MessageHandler) (envelope : MessageEnvelope) (writes : W)

section Sharing

variable {ι : Type*} {χ W : Type}

/-- The queues once a worker is through with the delivery at a position. What is not
acknowledged goes back; copies go where they are addressed to. -/
def SharedQueue.handled (s : SharedQueue ι W) (shared : SharedTopology ι) (position : ℕ)
    (copy : Message) (after : Delivery W) : SharedQueue ι W where
  primary := if after.acked then s.primary else copy :: s.primary
  retry := s.retry ++ routed shared.retry_exchange shared.retry_binding_key after.accepted
  error := s.error ++ routed shared.error_exchange shared.error_routing_key after.accepted
  processing := s.processing.eraseIdx position
  database := after.worker.database

/-- One step of the queue and its workers. A delivery is handled at one go: what others
commit meanwhile can only make an attempt raise or find its row. -/
def shared_step (json : JsonModule) (shared : SharedTopology ι)
    (registry : MessageHandlerRegistry) (handle : Handling χ W) (message : Message)
    (s : SharedQueue ι W) : SharedStep ι χ W → Option (SharedQueue ι W)
  | .publish => some { s with primary := s.primary ++ [message] }
  | .deliver worker => match s.primary with
    | [] => none
    | copy :: rest =>
      some { s with primary := rest, processing := s.processing ++ [(worker, copy)] }
  | .handle position pattern => match s.processing[position]? with
    | none => none
    | some (worker, copy) =>
      some (s.handled shared position copy
        (handle_delivery json (shared.topology worker) registry handle copy pattern.fate
          ⟨⟨s.database, []⟩, [], false⟩).2)
  | .expire => match s.retry with
    | [] => none
    | copy :: rest => some { s with primary := s.primary ++ [copy], retry := rest }
  | .elsewhere handler envelope writes =>
    if s.database.holds (inbox_row handler envelope) then none
    else some { s with database := s.database.commit handler envelope writes }

/-- The message in the queue, and nothing done yet. -/
def queued (message : Message) (db : ModuleDatabase W) : SharedQueue ι W where
  primary := [message]
  retry := []
  error := []
  processing := []
  database := db

/-! ## 2. What is claimed -/

/-- A message as it is sent: its identifier is a `UUID` and its type is subscribed to. Its
headers and its body are anything; it may bear the count and the endpoint of an earlier
retry, as a replayed one does. -/
structure SentMessage (registry : MessageHandlerRegistry) where
  message : Message
  message_id : Uuid
  has_id : Uuid.parse (message.message_id.getD "None") = some message_id
  addressed : Addressed registry message

/-- The handlers subscribed to it. -/
def SentMessage.subscribers {registry : MessageHandlerRegistry} (sent : SentMessage registry) :
    List MessageHandler :=
  registry.handlers_for (sent.message.type.getD "")

/-- Every subscriber has its inbox row. -/
def Recorded {registry : MessageHandlerRegistry} (sent : SentMessage registry)
    (db : ModuleDatabase W) : Prop :=
  ∀ handler ∈ sent.subscribers, db.row_count handler sent.message_id ≠ 0

/-- The message is in no queue and on no worker, and somebody has not handled it. -/
def SharedQueue.Lost {registry : MessageHandlerRegistry} (sent : SentMessage registry)
    (s : SharedQueue ι W) : Prop :=
  s.primary = [] ∧ s.retry = [] ∧ s.error = [] ∧ s.processing = []
    ∧ ¬ Recorded sent s.database

/-- The delivery at a position is the only copy there is. -/
def SharedQueue.OnlyCopy (s : SharedQueue ι W) (position : ℕ) : Prop :=
  s.primary = [] ∧ s.retry = [] ∧ s.error = [] ∧ s.processing.eraseIdx position = []

/-- A worker that is given the only copy of a message not handled by everybody, as a
retry, bears the name that scheduled it. -/
def HomeReturned {registry : MessageHandlerRegistry} (shared : SharedTopology ι)
    (sent : SentMessage registry) (s : SharedQueue ι W) : SharedStep ι χ W → Prop
  | .handle position _ => ∀ worker copy count, s.processing[position]? = some (worker, copy) →
      redelivery_count copy.headers = .ok count → 0 < count → s.OnlyCopy position →
      ¬ Recorded sent s.database →
      copy.headers.get RETRY_ENDPOINT_HEADER = some (.str (shared.topology worker).app_name)
  | _ => True

/-! ## 3. One delivery -/

/-- The delivery of a retry that another worker scheduled. -/
def ForeignTo (topology : BrokerTopology) (copy : Message) : Prop :=
  ∃ count, redelivery_count copy.headers = .ok count ∧ ForeignRetry topology copy.headers count

theorem foreignTo_iff {topology : BrokerTopology} {copy : Message} {count : ℤ}
    (hcount : redelivery_count copy.headers = .ok count) :
    ForeignTo topology copy ↔ ForeignRetry topology copy.headers count := by
  constructor
  · rintro ⟨count', hcount', hforeign⟩
    rw [hcount, Except.ok.injEq] at hcount'
    exact hcount' ▸ hforeign
  · exact fun hforeign => ⟨count, hcount, hforeign⟩

theorem SentMessage.addressed_copy {registry : MessageHandlerRegistry}
    (sent : SentMessage registry) {copy : Message} (h : SameContent copy sent.message) :
    Addressed registry copy := by
  obtain ⟨hid, htype, -⟩ := h
  have haddressed := sent.addressed
  rw [Addressed, ← hid, ← htype] at haddressed
  exact haddressed

theorem SentMessage.type_eq {registry : MessageHandlerRegistry} (sent : SentMessage registry) :
    sent.message.type.getD "None" = sent.message.type.getD "" := by
  cases htype : sent.message.type with
  | none => exact absurd (by rw [htype]; rfl) sent.addressed.2.1
  | some type => rfl

/-- The envelope of a copy has the identifier and the type of the message. -/
theorem SentMessage.envelope_copy {registry : MessageHandlerRegistry}
    (sent : SentMessage registry) {json : JsonModule} {copy : Message}
    {envelope : MessageEnvelope} (h : SameContent copy sent.message)
    (henvelope : envelope_of json copy = .ok envelope) :
    envelope.message_id = sent.message_id
      ∧ envelope.message_type = sent.message.type.getD "" := by
  obtain ⟨hid, htype, -⟩ := h
  rw [envelope_of, hid, sent.has_id, htype, sent.type_eq] at henvelope
  dsimp only at henvelope
  cases hbody : _decode json copy.body with
  | error error =>
      rw [hbody] at henvelope
      simp at henvelope
  | ok body =>
      rw [hbody, Except.ok.injEq] at henvelope
      rw [← henvelope]
      exact ⟨rfl, rfl⟩

/-- What is published of a failed copy is a copy too. -/
theorem sameContent_recovery {message copy : Message} (h : SameContent copy message)
    (topology : BrokerTopology) (error : PyException) (now : String) (count : ℤ) :
    SameContent (recovery_copy topology copy error now count).message message := by
  obtain ⟨-, hid, htype, hbody⟩ := recovery_copy_parks topology copy error now count
  obtain ⟨hid', htype', hbody'⟩ := h
  exact ⟨hid.trans hid', htype.trans htype', hbody.trans hbody'⟩

/-- What a delivery without a crash comes to. -/
inductive Comes {registry : MessageHandlerRegistry} (sent : SentMessage registry)
    (topology : BrokerTopology) (copy : Message) (now : String) (db : ModuleDatabase W) :
    Delivery W → Prop where
  /-- The retry of another worker is acknowledged, and that is all. -/
  | refused (foreign : ForeignTo topology copy) :
    Comes sent topology copy now db ⟨⟨db, []⟩, [], true⟩
  /-- An error before the `try` leaves it unacknowledged. -/
  | returned (ours : ¬ ForeignTo topology copy) :
    Comes sent topology copy now db ⟨⟨db, []⟩, [], false⟩
  /-- Everybody has handled it. -/
  | handled (ours : ¬ ForeignTo topology copy) (worker : Worker W)
      (recorded : Recorded sent worker.database) :
    Comes sent topology copy now db ⟨worker, [], true⟩
  /-- Somebody has failed, and a copy is published. -/
  | recovered (ours : ¬ ForeignTo topology copy) (worker : Worker W) (error : PyException)
      (count : ℤ) :
    Comes sent topology copy now db
      ⟨worker, [recovery_copy topology copy error now count], true⟩

/-- **One delivery.** -/
theorem delivery_comes (json : JsonModule) (topology : BrokerTopology)
    {registry : MessageHandlerRegistry} (handle : Handling χ W) {sent : SentMessage registry}
    {copy : Message} (h : SameContent copy sent.message) (pattern : Pattern χ)
    (db : ModuleDatabase W) :
    Comes sent topology copy pattern.now db
      (handle_delivery json topology registry handle copy pattern.fate
        ⟨⟨db, []⟩, [], false⟩).2 := by
  have haddressed := sent.addressed_copy h
  cases hcount : redelivery_count copy.headers with
  | error error =>
      -- the filter raises, so nothing acknowledges the delivery
      rw [handle_delivery_uncounted json topology handle pattern.fate _ haddressed hcount]
      refine .returned ?_
      rintro ⟨count, hok, -⟩
      rw [hcount] at hok
      simp at hok
  | ok count =>
      -- an addressed copy with a readable count is refused only as the retry of another
      rcases should_process_addressed topology haddressed hcount with
        ⟨hshould, hours⟩ | ⟨hshould, hforeign⟩
      · rw [← foreignTo_iff hcount] at hours
        cases henvelope : envelope_of json copy with
        | error error =>
            rw [handle_delivery_unreadable handle pattern.fate _ hshould henvelope]
            exact .returned hours
        | ok envelope =>
            have hprocessed : Processed json topology registry copy envelope := ⟨hshould, henvelope⟩
            rw [handle_delivery_processed handle pattern.fate _ hprocessed hcount]
            have hcalm := dispatch_calm handle registry topology.immediate_retries envelope
              pattern.attempts ⟨db, []⟩
            have hfate : pattern.fate.attempts
                = fun handler attempt => (pattern.attempts handler attempt).fate := rfl
            rw [hfate]
            rcases hdispatch : dispatch handle registry topology.immediate_retries envelope
              (fun handler attempt => (pattern.attempts handler attempt).fate) ⟨db, []⟩
              with ⟨ending, worker⟩
            rw [hdispatch] at hcalm
            cases ending with
            | returned value =>
                obtain ⟨hid, htype⟩ := sent.envelope_copy h henvelope
                have hall := dispatch_returned hdispatch
                rw [hid, htype] at hall
                exact .handled hours worker hall
            | raised error => exact .recovered hours worker error count
            | cancelled => exact absurd rfl hcalm
      · rw [handle_delivery_refused json handle pattern.fate hshould]
        exact .refused ⟨count, hcount, hforeign⟩

/-! ## 4. One step -/

/-- What every step keeps, as long as retries are received at home: whatever is under way
is a copy of the message, and the message is not lost. -/
structure SharedQueue.Kept {registry : MessageHandlerRegistry} (sent : SentMessage registry)
    (s : SharedQueue ι W) : Prop where
  waiting : ∀ copy ∈ s.primary ++ s.retry, SameContent copy sent.message
  working : ∀ delivery ∈ s.processing, SameContent delivery.2 sent.message
  present : ¬ s.Lost sent

/-- Rows are never taken back. -/
theorem Recorded.commit {registry : MessageHandlerRegistry} {sent : SentMessage registry}
    {db : ModuleDatabase W} (h : Recorded sent db) (handler : MessageHandler)
    (envelope : MessageEnvelope) (writes : W) :
    Recorded sent (db.commit handler envelope writes) := by
  intro other hother
  have hbefore := h other hother
  unfold ModuleDatabase.row_count ModuleDatabase.rows_of at hbefore ⊢
  rw [ModuleDatabase.commit, List.filter_append, List.length_append]
  omega

/-- A copy published by a worker is in one of the two queues. -/
theorem routed_recovery (shared : SharedTopology ι) (worker : ι) (copy : Message)
    (error : PyException) (now : String) (count : ℤ) :
    routed shared.retry_exchange shared.retry_binding_key
        [recovery_copy (shared.topology worker) copy error now count] ≠ []
      ∨ routed shared.error_exchange shared.error_routing_key
        [recovery_copy (shared.topology worker) copy error now count] ≠ [] := by
  obtain ⟨hretry, hretry_key⟩ := shared.retries worker
  obtain ⟨herror, herror_key⟩ := shared.errors worker
  unfold recovery_copy
  by_cases hlast : count ≥ (shared.topology worker).delayed_retries
  · rw [if_pos hlast]
    refine .inr ?_
    simp [routed, error_copy, herror, herror_key]
  · rw [if_neg hlast]
    refine .inl ?_
    simp [routed, retry_copy, hretry, hretry_key]

/-- What a queue takes of the copies published is copies. -/
theorem routed_copies {message : Message} {exchange routing_key : String}
    {accepted : List Publication} (h : ∀ copy ∈ accepted, SameContent copy.message message) :
    ∀ copy ∈ routed exchange routing_key accepted, SameContent copy message := by
  intro copy hcopy
  obtain ⟨publication, hmem, rfl⟩ := List.mem_map.mp hcopy
  exact h publication (List.mem_of_mem_filter hmem)

/-- Once a delivery is handled, what is under way is still copies. -/
theorem SharedQueue.Kept.copies_handled {registry : MessageHandlerRegistry}
    {sent : SentMessage registry} {s : SharedQueue ι W} (h : s.Kept sent)
    (shared : SharedTopology ι) (position : ℕ) {copy : Message}
    (hcopy : SameContent copy sent.message) {after : Delivery W}
    (haccepted : ∀ copy ∈ after.accepted, SameContent copy.message sent.message) :
    (∀ other ∈ (s.handled shared position copy after).primary
        ++ (s.handled shared position copy after).retry, SameContent other sent.message)
      ∧ ∀ delivery ∈ (s.handled shared position copy after).processing,
        SameContent delivery.2 sent.message := by
  refine ⟨fun other hother => ?_, fun delivery hdelivery => ?_⟩
  · rcases List.mem_append.mp hother with hprimary | hretry
    · cases hacked : after.acked with
      | true =>
          rw [SharedQueue.handled, hacked] at hprimary
          exact h.waiting other (List.mem_append_left _ hprimary)
      | false =>
          rw [SharedQueue.handled, hacked] at hprimary
          rcases List.mem_cons.mp hprimary with rfl | hprimary
          · exact hcopy
          · exact h.waiting other (List.mem_append_left _ hprimary)
    · rcases List.mem_append.mp hretry with hold | hnew
      · exact h.waiting other (List.mem_append_right _ hold)
      · exact routed_copies haccepted other hnew
  · exact h.working delivery (List.mem_of_mem_eraseIdx hdelivery)

/-- **A delivery that is handled.** The message is lost by it exactly when it was the only
copy, the retry of another worker, and somebody is not recorded. -/
theorem SharedQueue.Kept.handled {registry : MessageHandlerRegistry}
    {sent : SentMessage registry} {s : SharedQueue ι W} (h : s.Kept sent)
    {json : JsonModule} {shared : SharedTopology ι} {handle : Handling χ W} {position : ℕ}
    {worker : ι} {copy : Message}
    (hposition : s.processing[position]? = some (worker, copy)) (pattern : Pattern χ)
    {s' : SharedQueue ι W}
    (hs' : s' = s.handled shared position copy
      (handle_delivery json (shared.topology worker) registry handle copy pattern.fate
        ⟨⟨s.database, []⟩, [], false⟩).2) :
    (s'.Lost sent ↔ ForeignTo (shared.topology worker) copy
        ∧ s.OnlyCopy position ∧ ¬ Recorded sent s.database)
      ∧ (¬ s'.Lost sent → s'.Kept sent) := by
  have hcopy : SameContent copy sent.message := h.working _ (List.mem_of_getElem? hposition)
  have hcomes := delivery_comes json (shared.topology worker) handle hcopy pattern s.database
  subst hs'
  generalize (handle_delivery json (shared.topology worker) registry handle copy pattern.fate
    ⟨⟨s.database, []⟩, [], false⟩).2 = after at hcomes ⊢
  have hkept : (∀ other ∈ after.accepted, SameContent other.message sent.message) →
      ¬ (s.handled shared position copy after).Lost sent →
      (s.handled shared position copy after).Kept sent := by
    intro haccepted hpresent
    obtain ⟨hwaiting, hworking⟩ := h.copies_handled shared position hcopy haccepted
    exact ⟨hwaiting, hworking, hpresent⟩
  cases hcomes with
  | refused hforeign =>
      -- the one way a copy goes and none comes in its place
      refine ⟨?_, hkept (by simp)⟩
      simp [SharedQueue.Lost, SharedQueue.OnlyCopy, SharedQueue.handled, routed, hforeign,
        and_assoc]
  | returned hours =>
      -- not acknowledged, it is back at the head of the primary queue
      refine ⟨iff_of_false (fun hlost => ?_) (fun hbad => hours hbad.1), hkept (by simp)⟩
      exact absurd hlost.1 (by simp [SharedQueue.handled])
  | handled hours worker hrecorded =>
      refine ⟨iff_of_false (fun hlost => ?_) (fun hbad => hours hbad.1), hkept (by simp)⟩
      exact hlost.2.2.2.2 hrecorded
  | recovered hours worker' error count =>
      -- what is published instead is in the retry queue or in the error queue
      refine ⟨iff_of_false (fun hlost => ?_) (fun hbad => hours hbad.1), hkept ?_⟩
      · obtain ⟨-, hretry, herror, -⟩ := hlost
        rcases routed_recovery shared worker copy error pattern.now count with hne | hne
        · exact hne (List.append_eq_nil_iff.mp hretry).2
        · exact hne (List.append_eq_nil_iff.mp herror).2
      · intro other hother
        rw [List.mem_singleton] at hother
        rw [hother]
        exact sameContent_recovery hcopy _ error pattern.now count

/-- The condition of a delivery, for the worker and the copy it is about. -/
theorem homeReturned_handle {registry : MessageHandlerRegistry} {shared : SharedTopology ι}
    {sent : SentMessage registry} {s : SharedQueue ι W} {position : ℕ} {pattern : Pattern χ}
    {worker : ι} {copy : Message}
    (hposition : s.processing[position]? = some (worker, copy)) :
    HomeReturned shared sent s (.handle position pattern : SharedStep ι χ W)
      ↔ ¬ (ForeignTo (shared.topology worker) copy
        ∧ s.OnlyCopy position ∧ ¬ Recorded sent s.database) := by
  constructor
  · rintro h ⟨⟨count, hcount, hretried, hname⟩, honly, hrecorded⟩
    exact hname (h worker copy count hposition hcount hretried honly hrecorded)
  · intro h worker' copy' count hposition' hcount hretried honly hrecorded
    rw [hposition, Option.some.injEq, Prod.mk.injEq] at hposition'
    obtain ⟨rfl, rfl⟩ := hposition'
    by_contra hname
    exact h ⟨⟨count, hcount, hretried, hname⟩, honly, hrecorded⟩

/-- **One step.** It loses the message exactly if it breaks the condition. -/
theorem SharedQueue.Kept.step {registry : MessageHandlerRegistry} {sent : SentMessage registry}
    {s s' : SharedQueue ι W} (h : s.Kept sent) {json : JsonModule} {shared : SharedTopology ι}
    {handle : Handling χ W} {l : SharedStep ι χ W}
    (hstep : shared_step json shared registry handle sent.message s l = some s') :
    (¬ s'.Lost sent ↔ HomeReturned shared sent s l)
      ∧ (¬ s'.Lost sent → s'.Kept sent) := by
  cases l with
  | publish =>
      rw [shared_step, Option.some.injEq] at hstep
      subst hstep
      have hpresent : ¬ SharedQueue.Lost sent
          { s with primary := s.primary ++ [sent.message] } :=
        fun hlost => absurd hlost.1 (by simp)
      refine ⟨iff_of_true hpresent trivial, fun _ => ⟨fun copy hcopy => ?_, h.working, hpresent⟩⟩
      rw [List.mem_append, List.mem_append, List.mem_singleton] at hcopy
      rcases hcopy with (hcopy | rfl) | hcopy
      · exact h.waiting copy (List.mem_append_left _ hcopy)
      · exact ⟨rfl, rfl, rfl⟩
      · exact h.waiting copy (List.mem_append_right _ hcopy)
  | deliver worker =>
      rw [shared_step] at hstep
      cases hprimary : s.primary with
      | nil =>
          rw [hprimary] at hstep
          simp at hstep
      | cons copy rest =>
          rw [hprimary, Option.some.injEq] at hstep
          subst hstep
          have hwaiting := h.waiting
          rw [hprimary] at hwaiting
          have hpresent : ¬ SharedQueue.Lost sent { s with
              primary := rest, processing := s.processing ++ [(worker, copy)] } :=
            fun hlost => absurd hlost.2.2.2.1 (by simp)
          refine ⟨iff_of_true hpresent trivial, fun _ =>
            ⟨fun other hother => hwaiting other (List.mem_cons_of_mem copy hother),
              fun delivery hdelivery => ?_, hpresent⟩⟩
          rcases List.mem_append.mp hdelivery with hold | hnew
          · exact h.working delivery hold
          · rw [List.mem_singleton.mp hnew]
            exact hwaiting copy List.mem_cons_self
  | handle position pattern =>
      rw [shared_step] at hstep
      cases hposition : s.processing[position]? with
      | none =>
          rw [hposition] at hstep
          simp at hstep
      | some delivery =>
          obtain ⟨worker, copy⟩ := delivery
          rw [hposition, Option.some.injEq] at hstep
          obtain ⟨hlost, hkept⟩ := h.handled hposition pattern hstep.symm
          rw [homeReturned_handle hposition, hlost]
          exact ⟨Iff.rfl, by rwa [hlost] at hkept⟩
  | expire =>
      rw [shared_step] at hstep
      cases hretry : s.retry with
      | nil =>
          rw [hretry] at hstep
          simp at hstep
      | cons copy rest =>
          rw [hretry, Option.some.injEq] at hstep
          subst hstep
          have hpresent : ¬ SharedQueue.Lost sent
              { s with primary := s.primary ++ [copy], retry := rest } :=
            fun hlost => absurd hlost.1 (by simp)
          refine ⟨iff_of_true hpresent trivial, fun _ =>
            ⟨fun other hother => h.waiting other ?_, h.working, hpresent⟩⟩
          rw [hretry]
          simpa using hother
  | elsewhere handler envelope writes =>
      rw [shared_step, Option.ite_none_left_eq_some, Option.some.injEq] at hstep
      obtain ⟨-, rfl⟩ := hstep
      -- a row more makes nobody unrecorded
      have hpresent : ¬ SharedQueue.Lost sent
          { s with database := s.database.commit handler envelope writes } := by
        rintro ⟨hprimary, hretry, herror, hprocessing, hmissing⟩
        exact h.present ⟨hprimary, hretry, herror, hprocessing,
          fun hall => hmissing (hall.commit handler envelope writes)⟩
      exact ⟨iff_of_true hpresent trivial, fun _ => ⟨h.waiting, h.working, hpresent⟩⟩

theorem queued_kept {registry : MessageHandlerRegistry} (sent : SentMessage registry)
    (db : ModuleDatabase W) : (queued sent.message db : SharedQueue ι W).Kept sent := by
  refine ⟨fun copy hcopy => ?_, fun delivery hdelivery => ?_, fun hlost => ?_⟩
  · rw [queued, List.append_nil, List.mem_singleton] at hcopy
    exact hcopy ▸ ⟨rfl, rfl, rfl⟩
  · exact absurd hdelivery List.not_mem_nil
  · exact absurd hlost.1 (by simp [queued])

/-! ## 5. The result -/

/-- **A message is kept exactly as long as its retries are received at home.** For any
workers on the queue and any order of their steps: no state of a run has lost the message
if and only if no worker of the run is given the only copy of it as the retry of another
name, with a subscriber still to be recorded. -/
theorem message_kept_iff (json : JsonModule) (shared : SharedTopology ι)
    {registry : MessageHandlerRegistry} (handle : Handling χ W) (sent : SentMessage registry)
    (db : ModuleDatabase W) (steps : List (SharedStep ι χ W)) :
    Along (shared_step json shared registry handle sent.message)
        (fun _ _ s => ¬ s.Lost sent) (queued sent.message db) steps
      ↔ Along (shared_step json shared registry handle sent.message)
        (fun s l _ => HomeReturned shared sent s l) (queued sent.message db) steps := by
  refine along_exact _ (SharedQueue.Kept sent) _ _ ?_ ?_ (queued_kept sent db)
  · intro s l s' hs hstep hhome
    obtain ⟨hiff, hkept⟩ := hs.step hstep
    exact ⟨hiff.mpr hhome, hkept (hiff.mpr hhome)⟩
  · intro s l s' hs hstep hpresent
    exact (hs.step hstep).1.mp hpresent

end Sharing

/-! ### Two workers of different names -/

def topology_named (app_name : String) : BrokerTopology := { customs_topology with app_name }

/-- Two workers on the customs queue, one of which was given another name. -/
def two_workers : SharedTopology Bool where
  topology := fun renamed => topology_named (if renamed then "customs" else "customs_clearance")
  retry_exchange := customs_topology.retry_exchange
  retry_binding_key := customs_topology.retry_binding_key
  error_exchange := customs_topology.error_exchange
  error_routing_key := customs_topology.error_routing_key
  retries := fun _ => ⟨rfl, rfl⟩
  errors := fun _ => ⟨rfl, rfl⟩

def opening_sent : SentMessage (MessageHandlerRegistry.register_all [opener]) where
  message := finalized_message
  message_id := finalized.message_id
  has_id := finalized_message_named
  addressed := ⟨by decide, finalized_message_typed, by decide⟩

/-- One step of the announcement on their queue. -/
def common_step : SharedQueue Bool Unit → SharedStep Bool Unit Unit →
    Option (SharedQueue Bool Unit) :=
  shared_step empty_json two_workers (MessageHandlerRegistry.register_all [opener]) marking
    finalized_message

/-- The retry the first worker schedules. -/
def scheduled : Message :=
  (retry_copy (topology_named "customs_clearance") finalized_message 0).message

/-- The first worker fails and its retry comes back to the second. -/
def retry_received : SharedQueue Bool Unit where
  primary := []
  retry := []
  error := []
  processing := [(true, scheduled)]
  database := ⟨[], []⟩

theorem retry_received_reached :
    run common_step (queued finalized_message ⟨[], []⟩)
      [.deliver false, .handle 0 (pattern_of failing failing), .expire, .deliver true]
      = some retry_received := by
  have hprocessed : Processed empty_json (topology_named "customs_clearance")
      (MessageHandlerRegistry.register_all [opener]) finalized_message finalized := ⟨rfl, rfl⟩
  have hfailed := handle_delivery_processed marking (pattern_of failing failing).fate
    ⟨⟨⟨[], []⟩, []⟩, [], false⟩ hprocessed rfl
  have hhandled : common_step ⟨[], [], [], [(false, finalized_message)], ⟨[], []⟩⟩
      (.handle 0 (pattern_of failing failing)) = some ⟨[], [scheduled], [], [], ⟨[], []⟩⟩ := by
    change some _ = _
    rw [show two_workers.topology false = topology_named "customs_clearance" from rfl, hfailed]
    rfl
  rw [run_cons]
  change run common_step ⟨[], [], [], [(false, finalized_message)], ⟨[], []⟩⟩ _ = _
  rw [run_cons, hhandled]
  rfl

/-- The second worker acknowledges the retry, and the announcement is gone. -/
theorem renamed_worker_drops_the_retry :
    ¬ Along common_step (fun _ _ s => ¬ s.Lost opening_sent) (queued finalized_message ⟨[], []⟩)
      ([.deliver false, .handle 0 (pattern_of failing failing), .expire, .deliver true]
        ++ [.handle 0 (pattern_of succeeding succeeding)]) := by
  intro h
  have hrefused : _should_process (topology_named "customs")
      (MessageHandlerRegistry.register_all [opener]) scheduled = .ok false := rfl
  have hdropped : common_step retry_received (.handle 0 (pattern_of succeeding succeeding))
      = some ⟨[], [], [], [], ⟨[], []⟩⟩ := by
    change some _ = _
    rw [show two_workers.topology true = topology_named "customs" from rfl,
      handle_delivery_refused empty_json marking _ hrefused]
    rfl
  have hrun := run_append common_step (queued finalized_message ⟨[], []⟩)
    [.deliver false, .handle 0 (pattern_of failing failing), .expire, .deliver true]
    [.handle 0 (pattern_of succeeding succeeding)]
  rw [retry_received_reached, Option.bind_some, run_cons, hdropped] at hrun
  obtain ⟨before, -, hpresent⟩ := along_last common_step h hrun
  exact hpresent ⟨rfl, rfl, rfl, rfl, fun hall => hall opener (by decide) (by decide)⟩

end TradeLogistics.MessageBus
