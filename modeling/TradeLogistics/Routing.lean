/-
Where the copies of a failed message go: the topology a consumer declares, routed.

A worker declares three queues on up to three exchanges, the retry queue with the pair an
expired message leaves under, and binds its primary queue a second time under that pair.
Four keys meet on these exchanges: the binding key of the primary queue, the key it takes
its retries back under, which is derived from its name, and the keys of the retry and of
the error queue. The first and the last two are whatever the operator types, and nothing
compares them.

The name of the retry queue is not derived from the primary queue either. Two workers
that differ in nothing but their primary queue ask for one retry queue with two return
keys, and the broker refuses the second.
-/
import TradeLogistics.Consumer
import TradeLogistics.AmqpBroker

set_option autoImplicit false

namespace TradeLogistics.MessageBus

open TradeLogistics.PyText TradeLogistics.Amqp

/-! ## 1. The topology a consumer declares -/

/-- `BrokerTopology`, with the fields that only its declaration reads. -/
structure ConsumerTopology extends BrokerTopology where
  primary_exchange : String
  primary_exchange_type : String
  primary_binding_key : String
  retry_exchange_type : String
  retry_queue : String
  retry_message_ttl_ms : ℤ
  primary_retry_binding_exchange : String
  primary_retry_binding_key : String
  error_exchange_type : String
  error_queue : String

namespace ConsumerTopology

/-- `overridden_with`, of the one override these results are about. -/
def overridden_with (topology : ConsumerTopology) (primary_queue : Option String) :
    ConsumerTopology :=
  { topology with primary_queue := primary_queue.getD topology.primary_queue }

def resolved_primary_retry_binding_exchange (topology : ConsumerTopology) : String :=
  if topology.primary_retry_binding_exchange = "" then
    topology.resolved_retry_dead_letter_exchange
  else topology.primary_retry_binding_exchange

def resolved_primary_retry_binding_key (topology : ConsumerTopology) : String :=
  if topology.primary_retry_binding_key = "" then
    topology.resolved_retry_dead_letter_routing_key
  else topology.primary_retry_binding_key

end ConsumerTopology

/-- `EXCHANGE_TYPES`, with its default. -/
def EXCHANGE_TYPES (exchange_type : String) : ExchangeType :=
  if exchange_type = "direct" then .direct
  else if exchange_type = "fanout" then .fanout
  else if exchange_type = "headers" then .headers
  else .topic

/-- `declare_exchange` on one connection after another: a name it has declared before is
not sent to the broker again, whatever the type. -/
def declare_exchanges (_exchanges : List String) : List (String × String) → List Command
  | [] => []
  | (name, exchange_type) :: rest =>
    if name ∈ _exchanges then declare_exchanges _exchanges rest
    else .declare_exchange name (EXCHANGE_TYPES exchange_type)
      :: declare_exchanges (name :: _exchanges) rest

namespace ConsumerTopology

/-- The exchanges of `declare_consumer_topology`, in its order. -/
def exchanges (topology : ConsumerTopology) : List (String × String) :=
  [(topology.primary_exchange, topology.primary_exchange_type),
    (topology.retry_exchange, topology.retry_exchange_type),
    (topology.error_exchange, topology.error_exchange_type),
    (topology.resolved_primary_retry_binding_exchange, topology.retry_exchange_type),
    (topology.resolved_retry_dead_letter_exchange, topology.retry_exchange_type)]

/-- The arguments of the retry queue. -/
def retry_arguments (topology : ConsumerTopology) : DeadLettering where
  message_ttl := topology.retry_message_ttl_ms
  exchange := topology.resolved_retry_dead_letter_exchange
  routing_key := topology.resolved_retry_dead_letter_routing_key

def primary_binding (topology : ConsumerTopology) : Binding :=
  ⟨topology.primary_queue, topology.primary_exchange, topology.primary_binding_key⟩

/-- The way back in for the primary queue's own expired retries. -/
def return_binding (topology : ConsumerTopology) : Binding :=
  ⟨topology.primary_queue, topology.resolved_primary_retry_binding_exchange,
    topology.resolved_primary_retry_binding_key⟩

def retry_binding (topology : ConsumerTopology) : Binding :=
  ⟨topology.retry_queue, topology.retry_exchange, topology.retry_binding_key⟩

def error_binding (topology : ConsumerTopology) : Binding :=
  ⟨topology.error_queue, topology.error_exchange, topology.error_routing_key⟩

/-- The queues of `declare_consumer_topology`, with their bindings. -/
def queues (topology : ConsumerTopology) : List Command :=
  [.declare_queue topology.primary_queue none, .bind topology.primary_binding,
    .bind topology.return_binding,
    .declare_queue topology.retry_queue (some topology.retry_arguments),
    .bind topology.retry_binding,
    .declare_queue topology.error_queue none, .bind topology.error_binding]

/-- `declare_consumer_topology`: what a connection that has declared nothing yet sends. -/
def declare_consumer_topology (topology : ConsumerTopology) : List Command :=
  declare_exchanges [] topology.exchanges ++ topology.queues

end ConsumerTopology

/-! ## 2. What the declaration leaves -/

/-- The connection's cache lets the first type of a name stand. -/
theorem declare_exchanges_type (name : String) :
    ∀ (exchanges : List (String × String)) (_exchanges : List String),
      (declare_exchanges _exchanges exchanges).findSome? (Command.type_of name)
        = if name ∈ _exchanges then none else (exchanges.lookup name).map EXCHANGE_TYPES := by
  intro exchanges
  induction exchanges with
  | nil => intro _exchanges; simp [declare_exchanges]
  | cons exchange rest ih =>
      intro _exchanges
      obtain ⟨declared, exchange_type⟩ := exchange
      rw [declare_exchanges]
      by_cases hcached : declared ∈ _exchanges
      · -- in the cache, so the command is not sent
        rw [if_pos hcached, ih]
        by_cases hname : name = declared
        · rw [hname, if_pos hcached, if_pos hcached]
        · have hne : (name == declared) = false := by simpa using hname
          rw [List.lookup_cons, hne]
      · rw [if_neg hcached, List.findSome?_cons, Command.type_of]
        by_cases hname : name = declared
        · rw [if_pos hname, hname, if_neg hcached, List.lookup_cons, beq_self_eq_true]
          rfl
        · have hne : (name == declared) = false := by simpa using hname
          rw [if_neg hname, List.lookup_cons, hne]
          dsimp only
          rw [ih]
          simp [hname]

theorem declare_exchanges_queues (exchanges : List (String × String)) :
    ∀ _exchanges : List String,
      (∀ name, (declare_exchanges _exchanges exchanges).findSome? (Command.arguments_of name)
        = none)
      ∧ (declare_exchanges _exchanges exchanges).filterMap Command.binding = [] := by
  induction exchanges with
  | nil => intro _exchanges; simp [declare_exchanges]
  | cons exchange rest ih =>
      intro _exchanges
      obtain ⟨declared, exchange_type⟩ := exchange
      rw [declare_exchanges]
      by_cases hcached : declared ∈ _exchanges
      · rw [if_pos hcached]
        exact ih _exchanges
      · rw [if_neg hcached]
        obtain ⟨harguments, hbindings⟩ := ih (declared :: _exchanges)
        refine ⟨fun name => ?_, ?_⟩
        · rw [List.findSome?_cons]
          exact harguments name
        · rw [List.filterMap_cons]
          exact hbindings

/-- Exchanges the broker does not have yet are declared without refusal. -/
theorem declare_exchanges_accepted (exchanges : List (String × String)) :
    ∀ (_exchanges : List String) (b : Broker),
      (∀ exchange ∈ exchanges, exchange.1 ∉ _exchanges → b.exchange_type exchange.1 = none) →
      ∃ b', b.obey_all (declare_exchanges _exchanges exchanges) = (true, b') := by
  induction exchanges with
  | nil => exact fun _exchanges b _ => ⟨b, rfl⟩
  | cons exchange rest ih =>
      intro _exchanges b hnew
      obtain ⟨name, exchange_type⟩ := exchange
      rw [declare_exchanges]
      by_cases hcached : name ∈ _exchanges
      · rw [if_pos hcached]
        exact ih _exchanges b fun e he => hnew e (List.mem_cons_of_mem _ he)
      · rw [if_neg hcached]
        obtain ⟨next, hnext⟩ : ∃ next,
            b.obey (.declare_exchange name (EXCHANGE_TYPES exchange_type)) = some next := by
          rw [Broker.obey, hnew (name, exchange_type) List.mem_cons_self hcached]
          exact ⟨_, rfl⟩
        rw [Broker.obey_all_cons hnext]
        apply ih
        intro e he hfresh
        rw [List.mem_cons, not_or] at hfresh
        rw [(Broker.obey_declared hnext).1, hnew e (List.mem_cons_of_mem _ he) hfresh.2,
          Command.type_of, if_neg hfresh.1]
        rfl

namespace ConsumerTopology

/-- The type an exchange gets from the declaration. -/
def type_of (topology : ConsumerTopology) (name : String) : ExchangeType :=
  EXCHANGE_TYPES ((topology.exchanges.lookup name).getD "")

/-- What an accepted declaration leaves on a broker that had nothing: the bindings are the
four of the topology, and an exchange has the type it was first named with. -/
structure Declares (topology : ConsumerTopology) (b : Broker) : Prop where
  types : ∀ exchange ∈ topology.exchanges,
    b.exchange_type exchange.1 = some (topology.type_of exchange.1)
  bindings : b.bindings = [topology.primary_binding, topology.return_binding,
    topology.retry_binding, topology.error_binding]
  retry_arguments : b.arguments topology.retry_queue = some (some topology.retry_arguments)

theorem lookup_of_mem {exchanges : List (String × String)} {exchange : String × String}
    (h : exchange ∈ exchanges) :
    ∃ exchange_type, exchanges.lookup exchange.1 = some exchange_type := by
  induction exchanges with
  | nil => simp at h
  | cons first rest ih =>
      obtain ⟨name, exchange_type⟩ := first
      rw [List.lookup_cons]
      by_cases hname : exchange.1 = name
      · rw [hname, beq_self_eq_true]
        exact ⟨exchange_type, rfl⟩
      · have hne : (exchange.1 == name) = false := by simpa using hname
        rw [hne]
        apply ih
        rcases List.mem_cons.mp h with rfl | hrest
        · exact absurd rfl hname
        · exact hrest

theorem declares_of_accepted {topology : ConsumerTopology} {b : Broker}
    (h : Broker.empty.obey_all topology.declare_consumer_topology = (true, b)) :
    topology.Declares b := by
  obtain ⟨htypes, -, hbindings⟩ := Broker.obey_all_declared h
  constructor
  · intro exchange hexchange
    obtain ⟨exchange_type, hlookup⟩ := lookup_of_mem hexchange
    rw [htypes, declare_consumer_topology, List.findSome?_append, declare_exchanges_type,
      type_of, hlookup]
    simp [Broker.empty, Broker.exchange_type]
  · rw [hbindings, declare_consumer_topology, List.filterMap_append,
      (declare_exchanges_queues topology.exchanges []).2]
    rfl
  · apply Broker.declared_arguments h
    rw [declare_consumer_topology, List.mem_append]
    exact .inr (by simp [queues])

/-- Where the exchanges are declared and no queue is, the queues and their bindings are
accepted if the retry queue shares its name with neither of the others. -/
theorem queues_accepted {topology : ConsumerTopology} {b : Broker}
    (htypes : ∀ exchange ∈ topology.exchanges, (b.exchange_type exchange.1).isSome)
    (hnone : ∀ name, b.arguments name = none)
    (hprimary : topology.primary_queue ≠ topology.retry_queue)
    (herror : topology.error_queue ≠ topology.retry_queue) :
    ∃ b', b.obey_all topology.queues = (true, b') := by
  have hprimary_type := htypes (topology.primary_exchange, topology.primary_exchange_type)
    (by simp [exchanges])
  have hretry_type := htypes (topology.retry_exchange, topology.retry_exchange_type)
    (by simp [exchanges])
  have herror_type := htypes (topology.error_exchange, topology.error_exchange_type)
    (by simp [exchanges])
  have hreturn_type := htypes
    (topology.resolved_primary_retry_binding_exchange, topology.retry_exchange_type)
    (by simp [exchanges])
  apply Broker.obey_all_allowed
  rw [funext hnone]
  simp only [queues, Broker.AllAllowed, Broker.Allowed, Command.type_of, Command.arguments_of,
    primary_binding, return_binding, retry_binding, error_binding, Option.or_none,
    Option.none_or, hprimary_type, hreturn_type, hretry_type, herror_type]
  -- only the error queue may have a name that is taken, and then by the primary queue
  by_cases hsame : topology.error_queue = topology.primary_queue
  · simp [hsame, hprimary, hprimary.symm]
  · simp [hsame, hprimary.symm, herror]

/-- On a broker that had nothing, the declaration is accepted unless the retry queue is
given the name of one of the other two. -/
theorem declaration_accepted_iff (topology : ConsumerTopology) :
    (∃ b, Broker.empty.obey_all topology.declare_consumer_topology = (true, b))
      ↔ topology.primary_queue ≠ topology.retry_queue
        ∧ topology.error_queue ≠ topology.retry_queue := by
  constructor
  · rintro ⟨b, h⟩
    have hretry := (declares_of_accepted h).retry_arguments
    -- the other two queues are declared with no arguments
    have hplain : ∀ name, .declare_queue name none ∈ topology.queues →
        name ≠ topology.retry_queue := by
      intro name hmem hname
      have harguments : b.arguments name = some none := by
        apply Broker.declared_arguments h
        exact List.mem_append_right _ hmem
      rw [hname, hretry] at harguments
      simp at harguments
    exact ⟨hplain _ (by simp [queues]), hplain _ (by simp [queues])⟩
  · rintro ⟨hprimary, herror⟩
    obtain ⟨next, hexchanges⟩ := declare_exchanges_accepted topology.exchanges [] Broker.empty
      (fun _ _ _ => rfl)
    obtain ⟨htypes, harguments, -⟩ := Broker.obey_all_declared hexchanges
    have hdeclared : ∀ exchange ∈ topology.exchanges, (next.exchange_type exchange.1).isSome := by
      intro exchange hexchange
      obtain ⟨exchange_type, hlookup⟩ := lookup_of_mem hexchange
      rw [htypes, declare_exchanges_type, hlookup]
      simp [Broker.empty, Broker.exchange_type]
    have hnone : ∀ name, next.arguments name = none := by
      intro name
      rw [harguments, (declare_exchanges_queues topology.exchanges []).1]
      rfl
    obtain ⟨b, hqueues⟩ := queues_accepted hdeclared hnone hprimary herror
    exact ⟨b, Broker.obey_all_append_accepted.mpr ⟨next, hexchanges, hqueues⟩⟩

/-! ## 3. One worker, and the hops of its recovery path -/

/-- The key an expired retry comes back under when nothing else is said. -/
def return_key (topology : ConsumerTopology) : String :=
  topology.primary_queue ++ "." ++ RETRY_RETURN_SUFFIX

/-- The four parts of the return path, left to be derived. -/
structure ReturnPathUnset (topology : ConsumerTopology) : Prop where
  dead_letter_exchange : topology.retry_dead_letter_exchange = ""
  dead_letter_routing_key : topology.retry_dead_letter_routing_key = ""
  binding_exchange : topology.primary_retry_binding_exchange = ""
  binding_key : topology.primary_retry_binding_key = ""

namespace ReturnPathUnset

variable {topology : ConsumerTopology}

theorem exchange_eq (h : topology.ReturnPathUnset) :
    topology.resolved_retry_dead_letter_exchange = topology.retry_exchange :=
  if_pos h.dead_letter_exchange

theorem key_eq (h : topology.ReturnPathUnset) :
    topology.resolved_retry_dead_letter_routing_key = topology.return_key :=
  if_pos h.dead_letter_routing_key

/-- Both halves of the return path are the same exchange and the same key. -/
theorem return_binding_eq (h : topology.ReturnPathUnset) :
    topology.return_binding
      = ⟨topology.primary_queue, topology.retry_exchange, topology.return_key⟩ := by
  rw [return_binding, resolved_primary_retry_binding_exchange, if_pos h.binding_exchange,
    resolved_primary_retry_binding_key, if_pos h.binding_key, h.exchange_eq, h.key_eq]

end ReturnPathUnset

/-- A message sent there reaches this queue and no other. -/
def OnlyTo (b : Broker) (exchange routing_key queue : String) : Prop :=
  ∀ reached, reached ∈ b.route exchange routing_key ↔ reached = queue

/-- Every hop of the recovery path addresses one queue: the copy `schedule_retry`
publishes, that copy when it expires, the copy `dead_letter` publishes, and a replay to
the pair its endpoint descriptor names. -/
structure Hops (topology : ConsumerTopology) (b : Broker) : Prop where
  scheduled : ∀ message count,
    OnlyTo b (retry_copy topology.toBrokerTopology message count).exchange
      (retry_copy topology.toBrokerTopology message count).routing_key topology.retry_queue
  returned : ∀ reached, reached ∈ b.expired topology.retry_queue ↔ reached = topology.primary_queue
  parked : ∀ message error now,
    OnlyTo b (error_copy topology.toBrokerTopology message error now).exchange
      (error_copy topology.toBrokerTopology message error now).routing_key topology.error_queue
  replayed : ∀ message_type name type exchange routing_key,
    _endpoint_descriptor topology.toBrokerTopology message_type
      = .table [("name", name), ("delivery_metadata", .table [("message_type", type),
        ("exchange", .str exchange), ("routing_key", .str routing_key)])] →
    OnlyTo b exchange routing_key topology.primary_queue

/-- A topology as the recovery path is meant for: its retry and error exchanges are
direct, its queues three, and the way back is derived. -/
structure DirectTopology where
  topology : ConsumerTopology
  retry_direct : topology.type_of topology.retry_exchange = .direct
  error_direct : topology.type_of topology.error_exchange = .direct
  unset : topology.ReturnPathUnset
  primary_retry : topology.primary_queue ≠ topology.retry_queue
  primary_error : topology.primary_queue ≠ topology.error_queue
  retry_error : topology.retry_queue ≠ topology.error_queue

/-- The keys that must not meet. The return key is on the retry exchange with the retry
key; the others share it only when their exchange is that one. -/
structure KeysApart (topology : ConsumerTopology) : Prop where
  retry : topology.retry_binding_key ≠ topology.return_key
  error : topology.error_exchange = topology.retry_exchange →
    topology.error_routing_key ≠ topology.retry_binding_key
      ∧ topology.error_routing_key ≠ topology.return_key
  primary_retry : topology.primary_exchange = topology.retry_exchange →
    topology.primary_binding_key ≠ topology.retry_binding_key
  primary_error : topology.primary_exchange = topology.error_exchange →
    topology.primary_binding_key ≠ topology.error_routing_key

/-- What a direct exchange of the topology does with a key. -/
theorem Declares.mem_route_direct {topology : ConsumerTopology} {b : Broker}
    (h : topology.Declares b) (hunset : topology.ReturnPathUnset) {exchange : String}
    (hmem : exchange ∈ topology.exchanges.map Prod.fst)
    (hdirect : topology.type_of exchange = .direct) (routing_key reached : String) :
    reached ∈ b.route exchange routing_key
      ↔ (topology.primary_exchange = exchange ∧ topology.primary_binding_key = routing_key
          ∧ topology.primary_queue = reached)
        ∨ (topology.retry_exchange = exchange ∧ topology.return_key = routing_key
          ∧ topology.primary_queue = reached)
        ∨ (topology.retry_exchange = exchange ∧ topology.retry_binding_key = routing_key
          ∧ topology.retry_queue = reached)
        ∨ (topology.error_exchange = exchange ∧ topology.error_routing_key = routing_key
          ∧ topology.error_queue = reached) := by
  obtain ⟨declared, hdeclared, rfl⟩ := List.mem_map.mp hmem
  have htype := h.types declared hdeclared
  rw [hdirect] at htype
  rw [Broker.mem_route htype, h.bindings, hunset.return_binding_eq]
  simp [primary_binding, retry_binding, error_binding]

section Hops

variable (direct : DirectTopology) {b : Broker}

/-- The retry exchange and the error exchange, hop by hop. -/
theorem hops_iff_routes (h : direct.topology.Declares b) :
    direct.topology.Hops b
      ↔ OnlyTo b direct.topology.retry_exchange direct.topology.retry_binding_key
          direct.topology.retry_queue
        ∧ OnlyTo b direct.topology.retry_exchange direct.topology.return_key
          direct.topology.primary_queue
        ∧ OnlyTo b direct.topology.error_exchange direct.topology.error_routing_key
          direct.topology.error_queue := by
  have hexpired : b.expired direct.topology.retry_queue
      = b.route direct.topology.retry_exchange direct.topology.return_key := by
    rw [Broker.expired, h.retry_arguments]
    dsimp only [retry_arguments]
    rw [direct.unset.exchange_eq, direct.unset.key_eq]
  constructor
  · intro hops
    have hscheduled := hops.scheduled ⟨[], none, none, none, []⟩ 0
    have hparked := hops.parked ⟨[], none, none, none, []⟩ ⟨"", "", []⟩ ""
    refine ⟨hscheduled, fun reached => ?_, hparked⟩
    rw [← hexpired]
    exact hops.returned reached
  · rintro ⟨hscheduled, hreturned, hparked⟩
    constructor
    · exact fun _ _ => hscheduled
    · rw [hexpired]
      exact hreturned
    · exact fun _ _ _ => hparked
    · intro message_type name type exchange routing_key hdescriptor
      -- the descriptor names the retry queue's own dead-letter pair
      rw [_endpoint_descriptor, direct.unset.exchange_eq, direct.unset.key_eq] at hdescriptor
      simp only [HeaderValue.table.injEq, List.cons.injEq, Prod.mk.injEq, HeaderValue.str.injEq,
        true_and, and_true] at hdescriptor
      obtain ⟨-, -, rfl, rfl⟩ := hdescriptor
      exact hreturned

/-- Every hop addresses one queue exactly when no two of the keys meet. -/
theorem hops_iff_apart (h : direct.topology.Declares b) :
    direct.topology.Hops b ↔ direct.topology.KeysApart := by
  have hretry := fun key => h.mem_route_direct direct.unset (by simp [exchanges])
    direct.retry_direct key
  have herror := fun key => h.mem_route_direct direct.unset (by simp [exchanges])
    direct.error_direct key
  rw [hops_iff_routes direct h]
  constructor
  · rintro ⟨hscheduled, hreturned, hparked⟩
    constructor
    · intro hmeet
      -- the retry comes straight back to the primary queue
      apply direct.primary_retry
      exact (hscheduled _).mp ((hretry _ _).mpr (.inr (.inl ⟨rfl, hmeet.symm, rfl⟩)))
    · intro hsame
      refine ⟨fun hmeet => direct.retry_error.symm ?_, fun hmeet => direct.primary_error.symm ?_⟩
      · exact (hscheduled _).mp ((hretry _ _).mpr (.inr (.inr (.inr ⟨hsame, hmeet, rfl⟩))))
      · exact (hreturned _).mp ((hretry _ _).mpr (.inr (.inr (.inr ⟨hsame, hmeet, rfl⟩))))
    · intro hsame hmeet
      apply direct.primary_retry
      exact (hscheduled _).mp ((hretry _ _).mpr (.inl ⟨hsame, hmeet, rfl⟩))
    · intro hsame hmeet
      apply direct.primary_error
      exact (hparked _).mp ((herror _ _).mpr (.inl ⟨hsame, hmeet, rfl⟩))
  · intro hapart
    refine ⟨fun reached => ?_, fun reached => ?_, fun reached => ?_⟩
    · rw [hretry]
      constructor
      · rintro (⟨hsame, hmeet, -⟩ | ⟨-, hmeet, -⟩ | ⟨-, -, hqueue⟩ | ⟨hsame, hmeet, -⟩)
        · exact absurd hmeet (hapart.primary_retry hsame)
        · exact absurd hmeet.symm hapart.retry
        · exact hqueue.symm
        · exact absurd hmeet (hapart.error hsame).1
      · rintro rfl
        exact .inr (.inr (.inl ⟨rfl, rfl, rfl⟩))
    · rw [hretry]
      constructor
      · -- the primary queue may well be bound under the return key twice
        rintro (⟨-, -, hqueue⟩ | ⟨-, -, hqueue⟩ | ⟨-, hmeet, -⟩ | ⟨hsame, hmeet, -⟩)
        · exact hqueue.symm
        · exact hqueue.symm
        · exact absurd hmeet hapart.retry
        · exact absurd hmeet (hapart.error hsame).2
      · rintro rfl
        exact .inr (.inl ⟨rfl, rfl, rfl⟩)
    · rw [herror]
      constructor
      · rintro (⟨hsame, hmeet, -⟩ | ⟨hsame, hmeet, -⟩ | ⟨hsame, hmeet, -⟩ | ⟨-, -, hqueue⟩)
        · exact absurd hmeet (hapart.primary_error hsame)
        · exact absurd hmeet.symm (hapart.error hsame.symm).2
        · exact absurd hmeet.symm (hapart.error hsame.symm).1
        · exact hqueue.symm
      · rintro rfl
        exact .inr (.inr (.inr ⟨rfl, rfl, rfl⟩))

/-- **The hops of the recovery path.** A direct topology is accepted by a broker that had
nothing, and then each hop addresses one queue exactly when its keys are apart. -/
theorem recovery_hops (direct : DirectTopology) :
    ∃ b, Broker.empty.obey_all direct.topology.declare_consumer_topology = (true, b)
      ∧ (direct.topology.Hops b ↔ direct.topology.KeysApart) := by
  obtain ⟨b, h⟩ := (declaration_accepted_iff direct.topology).mpr
    ⟨direct.primary_retry, direct.retry_error.symm⟩
  exact ⟨b, h, hops_iff_apart direct (declares_of_accepted h)⟩

end Hops

/-- The customs worker, with the key of its retry queue named after the queue. -/
def meeting_topology : DirectTopology where
  topology :=
    { app_name := "customs-worker"
      primary_queue := "customs"
      retry_exchange := "direct"
      retry_binding_key := "customs.retry"
      retry_dead_letter_exchange := ""
      retry_dead_letter_routing_key := ""
      error_exchange := "direct"
      error_routing_key := "dead-letter"
      immediate_retries := 3
      delayed_retries := 3
      primary_exchange := "topic"
      primary_exchange_type := "topic"
      primary_binding_key := "shipment.#"
      retry_exchange_type := "direct"
      retry_queue := "customs.retry"
      retry_message_ttl_ms := 10000
      primary_retry_binding_exchange := ""
      primary_retry_binding_key := ""
      error_exchange_type := "direct"
      error_queue := "error" }
  retry_direct := by decide
  error_direct := by decide
  unset := ⟨rfl, rfl, rfl, rfl⟩
  primary_retry := by decide
  primary_error := by decide
  retry_error := by decide

/-- A retry goes back to the customs queue at once, besides waiting in the retry queue. -/
theorem meeting_keys_fan_out : ∃ b,
    Broker.empty.obey_all meeting_topology.topology.declare_consumer_topology = (true, b)
      ∧ ¬ meeting_topology.topology.Hops b := by
  obtain ⟨b, h⟩ := (declaration_accepted_iff meeting_topology.topology).mpr (by decide)
  refine ⟨b, h, fun hops => ?_⟩
  have hapart := (hops_iff_apart meeting_topology (declares_of_accepted h)).mp hops
  exact hapart.retry (by decide)

/-! ## 4. Several workers on one broker -/

/-- Workers that differ in nothing but the name of their primary queue. -/
structure WorkerFamily where
  base : ConsumerTopology
  retry_direct : base.retry_exchange_type = "direct"
  unset : base.ReturnPathUnset
  primary_queues : List String
  distinct : primary_queues.Nodup
  named : ∀ primary_queue ∈ primary_queues, primary_queue ≠ ""

/-- The topology of one worker. -/
def WorkerFamily.worker (family : WorkerFamily) (primary_queue : String) : ConsumerTopology :=
  family.base.overridden_with (some primary_queue)

/-- The workers come up one after another, each on a connection of its own: whether each
was accepted, and what is declared then. What a refused worker had declared stays. -/
def declare_workers (b : Broker) : List ConsumerTopology → List Bool × Broker
  | [] => ([], b)
  | worker :: workers =>
    let (accepted, declared) := b.obey_all worker.declare_consumer_topology
    let (rest, final) := declare_workers declared workers
    (accepted :: rest, final)

/-- Where a message is delivered once the copy published of it has expired. -/
def returns_to (b : Broker) (copy : Publication) : List String :=
  (b.route copy.exchange copy.routing_key).flatMap b.expired

/-- The primary queue is all that has to be unique: every worker is accepted, and its
retries come back to its own queue and to the queue of no other worker. -/
structure OnlyQueueUnique (family : WorkerFamily) : Prop where
  accepted : ∀ accepted ∈ (declare_workers .empty (family.primary_queues.map family.worker)).1,
    accepted = true
  returned : ∀ primary_queue ∈ family.primary_queues, ∀ other ∈ family.primary_queues,
    ∀ message count,
      other ∈ returns_to (declare_workers .empty (family.primary_queues.map family.worker)).2
          (retry_copy (family.worker primary_queue).toBrokerTopology message count)
        ↔ other = primary_queue

/-- One worker at most, and a retry queue that is neither its queue nor the error queue. -/
def Alone (family : WorkerFamily) : Prop :=
  family.primary_queues = [] ∨ ∃ primary_queue, family.primary_queues = [primary_queue]
    ∧ primary_queue ≠ family.base.retry_queue
    ∧ family.base.error_queue ≠ family.base.retry_queue

section Workers

variable (family : WorkerFamily)

theorem worker_unset (primary_queue : String) :
    (family.worker primary_queue).ReturnPathUnset :=
  ⟨family.unset.dead_letter_exchange, family.unset.dead_letter_routing_key,
    family.unset.binding_exchange, family.unset.binding_key⟩

/-- Two workers ask for one retry queue with two return keys. -/
theorem retry_arguments_ne {first second : String} (hne : first ≠ second) :
    (family.worker first).retry_arguments ≠ (family.worker second).retry_arguments := by
  intro hsame
  have hkey : (family.worker first).retry_arguments.routing_key
      = (family.worker second).retry_arguments.routing_key := by rw [hsame]
  apply hne
  dsimp only [retry_arguments] at hkey
  rw [(worker_unset family first).key_eq, (worker_unset family second).key_eq] at hkey
  simpa [return_key, WorkerFamily.worker, overridden_with] using hkey

/-- The second of two workers is refused where the first was accepted. -/
theorem second_refused {first second : String} (hne : first ≠ second) {b b' b'' : Broker}
    (hfirst : b.obey_all (family.worker first).declare_consumer_topology = (true, b')) :
    b'.obey_all (family.worker second).declare_consumer_topology ≠ (true, b'') := by
  intro hsecond
  have hdeclares : ∀ name, .declare_queue family.base.retry_queue
      (some (family.worker name).retry_arguments)
        ∈ (family.worker name).declare_consumer_topology := by
    intro name
    apply List.mem_append_right
    simp [queues, WorkerFamily.worker, overridden_with]
  -- what the first declared is there still, and is what the second asks for
  have hkept := Broker.arguments_kept hsecond (Broker.declared_arguments hfirst (hdeclares first))
  rw [Broker.declared_arguments hsecond (hdeclares second), Option.some.injEq,
    Option.some.injEq] at hkept
  exact retry_arguments_ne family hne hkept.symm

/-- One worker on a broker of its own gets its retries back. -/
theorem returns_home {primary_queue : String} {b : Broker}
    (h : (family.worker primary_queue).Declares b) (message : Message) (count : ℤ) :
    primary_queue ∈ returns_to b
      (retry_copy (family.worker primary_queue).toBrokerTopology message count) := by
  have hunset := worker_unset family primary_queue
  have htype := h.types ((family.worker primary_queue).retry_exchange,
    (family.worker primary_queue).retry_exchange_type) (by simp [exchanges])
  rw [returns_to, List.mem_flatMap]
  -- out to the retry queue by its own binding, and home by the return binding
  refine ⟨(family.worker primary_queue).retry_queue, ?_, ?_⟩
  · apply (Broker.mem_route htype _ _).mpr
    refine ⟨(family.worker primary_queue).retry_binding, ?_, rfl, ?_, rfl⟩
    · rw [h.bindings]
      simp
    · exact ExchangeType.takes_self _ _
  · rw [Broker.expired, h.retry_arguments]
    dsimp only [retry_arguments]
    rw [hunset.exchange_eq, hunset.key_eq]
    apply (Broker.mem_route htype _ _).mpr
    refine ⟨(family.worker primary_queue).return_binding, ?_, ?_, ?_, rfl⟩
    · rw [h.bindings]
      simp
    · rw [hunset.return_binding_eq]
    · rw [hunset.return_binding_eq]
      exact ExchangeType.takes_self _ _

end Workers

/-- **What has to be unique.** Workers that differ in their primary queue alone are all
accepted, and get their own retries back, exactly when there is at most one of them, and
its retry queue is named apart from its queue and from the error queue. -/
theorem only_queue_unique_iff (family : WorkerFamily) :
    OnlyQueueUnique family ↔ Alone family := by
  constructor
  · intro hunique
    have haccepted := hunique.accepted
    rcases hqueues : family.primary_queues with _ | ⟨first, _ | ⟨second, rest⟩⟩
    · exact .inl hqueues
    · rw [hqueues] at haccepted
      refine .inr ⟨first, hqueues, ?_⟩
      apply (declaration_accepted_iff (family.worker first)).mp
      refine ⟨_, Prod.ext ?_ rfl⟩
      exact haccepted _ List.mem_cons_self
    · -- a second worker is refused, whatever comes after it
      exfalso
      rw [hqueues] at haccepted
      have hne : first ≠ second := by
        have hdistinct := family.distinct
        rw [hqueues, List.nodup_cons] at hdistinct
        intro hsame
        rw [hsame] at hdistinct
        exact hdistinct.1 List.mem_cons_self
      have hfirst : (Broker.empty.obey_all (family.worker first).declare_consumer_topology).1
          = true := haccepted _ List.mem_cons_self
      have hsecond : ((Broker.empty.obey_all
          (family.worker first).declare_consumer_topology).2.obey_all
            (family.worker second).declare_consumer_topology).1 = true :=
        haccepted _ (List.mem_cons_of_mem _ List.mem_cons_self)
      exact second_refused family hne (Prod.ext hfirst rfl) (Prod.ext hsecond rfl)
  · rintro (hnone | ⟨first, hqueues, hapart⟩)
    · constructor
      · rw [hnone]
        simp [declare_workers]
      · rw [hnone]
        simp
    · obtain ⟨b, h⟩ := (declaration_accepted_iff (family.worker first)).mpr hapart
      have hworkers : declare_workers .empty (family.primary_queues.map family.worker)
          = ([true], b) := by
        rw [hqueues, List.map_cons, List.map_nil, declare_workers, h]
        rfl
      constructor
      · rw [hworkers]
        simp
      · rw [hworkers, hqueues]
        intro primary_queue hprimary other hother message count
        rw [List.mem_singleton] at hprimary hother
        rw [hprimary, hother]
        exact iff_of_true (returns_home family (declares_of_accepted h) message count) rfl

/-- The topology of the settings, as they come. -/
def default_topology : ConsumerTopology where
  app_name := "trade-logistics-management"
  primary_queue := "trade-logistics.default"
  retry_exchange := "trade-logistics.direct"
  retry_binding_key := "trade-logistics.default.delayed-retry"
  retry_dead_letter_exchange := ""
  retry_dead_letter_routing_key := ""
  error_exchange := "trade-logistics.direct"
  error_routing_key := "trade-logistics.dead-letter"
  immediate_retries := 3
  delayed_retries := 3
  primary_exchange := "trade-logistics.topic"
  primary_exchange_type := "topic"
  primary_binding_key := "trade-logistics.#"
  retry_exchange_type := "direct"
  retry_queue := "trade-logistics.default.delayed-retry"
  retry_message_ttl_ms := 10000
  primary_retry_binding_exchange := ""
  primary_retry_binding_key := ""
  error_exchange_type := "direct"
  error_queue := "trade-logistics.error"

/-- A customs and a shipment worker over it. -/
def two_workers : WorkerFamily where
  base := default_topology
  retry_direct := rfl
  unset := ⟨rfl, rfl, rfl, rfl⟩
  primary_queues := ["trade-logistics.customs", "trade-logistics.shipment"]
  distinct := by decide
  named := by decide

/-- The broker refuses the shipment worker. -/
theorem second_worker_is_refused : ¬ OnlyQueueUnique two_workers := by
  intro hunique
  have hflags : (declare_workers .empty (two_workers.primary_queues.map two_workers.worker)).1
      = [true, false] := by decide
  have haccepted := hunique.accepted
  rw [hflags] at haccepted
  simp at haccepted

end ConsumerTopology

end TradeLogistics.MessageBus
