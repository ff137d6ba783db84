/-
Processes of the message bus coming up together.

A worker declares its whole topology and a dispatcher its primary exchange, and after that
whatever exchange the next row names, as a topic exchange, unless the connection has it
already. Every process has its own settings, and its own cache of declared exchanges.
Nothing orders one process before another, so the commands of all of them reach the broker
interleaved, and a name that two of them declare two ways is lost to the later one: a
worker ends there, and so does the pass of a dispatcher whose primary exchange it is; with
the exchange of a row, the dispatcher leaves the row and goes on.

Three questions are settled here for any number of processes: which settings can be
started in every order, where a message goes once all processes are up, and what a worker
that is up can rely on while the others still come up, or fail to.

A process that is restarted is one more process with the same settings.
-/
import TradeLogistics.Routing
import TradeLogistics.Declarations

set_option autoImplicit false

namespace TradeLogistics.MessageBus

open TradeLogistics.Amqp TradeLogistics.Runs

/-! ## 1. What a process declares -/

namespace ConsumerTopology

/-- `declare_publisher_topology`. -/
def declare_publisher_topology (topology : ConsumerTopology) : List (String × String) :=
  [(topology.primary_exchange, topology.primary_exchange_type)]

/-- The four bindings of `declare_consumer_topology`. -/
def bindings (topology : ConsumerTopology) : List Binding :=
  [topology.primary_binding, topology.return_binding, topology.retry_binding,
    topology.error_binding]

end ConsumerTopology

/-- `publish`, of one row after another: an exchange the connection does not have is
declared as a topic exchange. -/
def publish_exchanges (rows : List String) : List (String × String) :=
  rows.map fun exchange => (exchange, "topic")

/-- A worker, or a dispatcher with the exchanges of the rows it will publish. -/
inductive Process where
  | worker (topology : ConsumerTopology)
  | dispatcher (topology : ConsumerTopology) (rows : List String)

namespace Process

/-- The exchanges a process names to `declare_exchange`, with the types it gives. -/
def exchanges : Process → List (String × String)
  | .worker topology => topology.exchanges
  | .dispatcher topology rows => topology.declare_publisher_topology ++ publish_exchanges rows

def queues : Process → List Command
  | .worker topology => topology.queues
  | .dispatcher _ _ => []

/-- What the process sends to the broker. -/
def commands (process : Process) : List Command :=
  declare_exchanges [] process.exchanges ++ process.queues

/-- After a refusal a worker ends with the error, and so does a dispatcher that does not get
its primary exchange; one that cannot publish a row goes on with the next. -/
def goes_on : Process → Command → Bool
  | .dispatcher topology _, .declare_exchange name _ => name ≠ topology.primary_exchange
  | _, _ => false

/-- The type the process declares an exchange with, if it does: the cache lets the first
type of a name stand. -/
def type_of (process : Process) (name : String) : Option ExchangeType :=
  (process.exchanges.lookup name).map EXCHANGE_TYPES

/-- For a worker this is `declare_consumer_topology`. -/
theorem worker_commands (topology : ConsumerTopology) :
    (worker topology).commands = topology.declare_consumer_topology := rfl

end Process

/-- Only declarations of exchanges are sent for exchanges. -/
theorem declare_exchanges_only {command : Command} {exchanges : List (String × String)} :
    ∀ {_exchanges : List String}, command ∈ declare_exchanges _exchanges exchanges →
      ∃ name type, command = .declare_exchange name type := by
  induction exchanges with
  | nil =>
      intro _exchanges h
      simp [declare_exchanges] at h
  | cons exchange rest ih =>
      intro _exchanges h
      rw [declare_exchanges] at h
      split at h
      · exact ih h
      · rcases List.mem_cons.mp h with rfl | hrest
        · exact ⟨_, _, rfl⟩
        · exact ih hrest

/-- Which declarations are sent: one for each name that is not in the cache, under the
first type given. -/
theorem mem_declare_exchanges {name : String} {type : ExchangeType}
    {exchanges : List (String × String)} :
    ∀ {_exchanges : List String},
      .declare_exchange name type ∈ declare_exchanges _exchanges exchanges
        ↔ name ∉ _exchanges ∧ (exchanges.lookup name).map EXCHANGE_TYPES = some type := by
  induction exchanges with
  | nil => simp [declare_exchanges]
  | cons exchange rest ih =>
      intro _exchanges
      obtain ⟨declared, exchange_type⟩ := exchange
      rw [declare_exchanges]
      by_cases hname : name = declared
      · subst hname
        rw [List.lookup_cons, beq_self_eq_true]
        by_cases hcached : name ∈ _exchanges
        · rw [if_pos hcached, ih]
          simp [hcached]
        · -- what comes later finds the name in the cache
          rw [if_neg hcached, List.mem_cons, ih]
          simp [hcached, eq_comm]
      · have hne : (name == declared) = false := by simpa using hname
        rw [List.lookup_cons, hne]
        by_cases hcached : declared ∈ _exchanges
        · rw [if_pos hcached, ih]
        · rw [if_neg hcached, List.mem_cons, ih]
          simp [hname]

namespace Process

theorem mem_exchange {process : Process} {name : String} {type : ExchangeType} :
    .declare_exchange name type ∈ process.commands ↔ process.type_of name = some type := by
  rw [commands, List.mem_append, mem_declare_exchanges, type_of]
  cases process with
  | worker topology => simp [queues, ConsumerTopology.queues]
  | dispatcher topology rows => simp [queues]

theorem mem_queue {process : Process} {name : String} {arguments : Option DeadLettering} :
    .declare_queue name arguments ∈ process.commands
      ↔ ∃ topology, process = .worker topology
        ∧ ((name = topology.primary_queue ∧ arguments = none)
          ∨ (name = topology.retry_queue ∧ arguments = some topology.retry_arguments)
          ∨ (name = topology.error_queue ∧ arguments = none)) := by
  have hnone : .declare_queue name arguments ∉ declare_exchanges [] process.exchanges := by
    intro hmem
    obtain ⟨_, _, hcommand⟩ := declare_exchanges_only hmem
    simp at hcommand
  rw [commands, List.mem_append]
  cases process with
  | worker topology => simp [hnone, queues, ConsumerTopology.queues]
  | dispatcher topology rows => simp [hnone, queues]

theorem mem_binding {process : Process} {binding : Binding} :
    .bind binding ∈ process.commands
      ↔ ∃ topology, process = .worker topology ∧ binding ∈ topology.bindings := by
  have hnone : .bind binding ∉ declare_exchanges [] process.exchanges := by
    intro hmem
    obtain ⟨_, _, hcommand⟩ := declare_exchanges_only hmem
    simp at hcommand
  rw [commands, List.mem_append]
  cases process with
  | worker topology =>
      simp [hnone, queues, ConsumerTopology.queues, ConsumerTopology.bindings]
  | dispatcher topology rows => simp [hnone, queues]

/-- A worker binds to exchanges it has named. -/
theorem binding_exchange {topology : ConsumerTopology} {binding : Binding}
    (h : binding ∈ topology.bindings) :
    ∃ exchange ∈ topology.exchanges, exchange.1 = binding.exchange := by
  simp only [ConsumerTopology.bindings, List.mem_cons, List.not_mem_nil, or_false] at h
  rcases h with rfl | rfl | rfl | rfl
  · exact ⟨(topology.primary_exchange, topology.primary_exchange_type),
      by simp [ConsumerTopology.exchanges], rfl⟩
  · exact ⟨(topology.resolved_primary_retry_binding_exchange, topology.retry_exchange_type),
      by simp [ConsumerTopology.exchanges], rfl⟩
  · exact ⟨(topology.retry_exchange, topology.retry_exchange_type),
      by simp [ConsumerTopology.exchanges], rfl⟩
  · exact ⟨(topology.error_exchange, topology.error_exchange_type),
      by simp [ConsumerTopology.exchanges], rfl⟩

/-- The type a worker gives an exchange it has named. -/
theorem worker_type {topology : ConsumerTopology} {name : String}
    (h : ∃ exchange ∈ topology.exchanges, exchange.1 = name) :
    (worker topology).type_of name = some (topology.type_of name) := by
  obtain ⟨exchange, hexchange, rfl⟩ := h
  obtain ⟨exchange_type, hlookup⟩ := ConsumerTopology.lookup_of_mem hexchange
  rw [type_of, exchanges, hlookup, ConsumerTopology.type_of, hlookup]
  rfl

/-- Every process declares before it binds. -/
theorem prepared (process : Process) : Prepared process.commands := by
  apply preparedAfter_append
  · intro binding hmem
    obtain ⟨_, _, hcommand⟩ := declare_exchanges_only hmem
    simp at hcommand
  · cases process with
    | dispatcher topology rows => exact trivial
    | worker topology =>
        have hexchange : ∀ binding ∈ topology.bindings, ∃ type,
            .declare_exchange binding.exchange type ∈ declare_exchanges [] topology.exchanges := by
          intro binding hbinding
          refine ⟨topology.type_of binding.exchange, mem_declare_exchanges.mpr ?_⟩
          exact ⟨List.not_mem_nil, worker_type (binding_exchange hbinding)⟩
        -- behind the exchanges, each binding stands behind the queue it binds
        simpa [queues, exchanges, ConsumerTopology.queues, ConsumerTopology.bindings,
          ConsumerTopology.primary_binding, ConsumerTopology.return_binding,
          ConsumerTopology.retry_binding, ConsumerTopology.error_binding, PreparedAfter,
          exists_or] using hexchange

end Process

/-! ## 2. Which settings start in every order -/

section Startup

variable {ι : Type} (processes : ι → Process)

/-- What the processes start from: a broker with nothing declared, and nothing sent. -/
def starting : Config ι Broker Client := start fun i => (processes i).commands

/-- One process sends its next command. -/
def sending [DecidableEq ι] : Config ι Broker Client → ι × Unit → Option (Config ι Broker Client) :=
  fire (send fun i => (processes i).goes_on)

/-- No name is declared two ways: an exchange gets one type from every process that names
it, the workers of one retry queue agree on its delay and on the way back, and no queue is
the retry queue of one worker and the primary or the error queue of one. -/
structure StartTogether : Prop where
  exchanges : ∀ i j name type type', (processes i).type_of name = some type →
    (processes j).type_of name = some type' → type = type'
  retry_queues : ∀ i j s t, processes i = .worker s → processes j = .worker t →
    s.retry_queue = t.retry_queue → s.retry_arguments = t.retry_arguments
  apart : ∀ i j s t, processes i = .worker s → processes j = .worker t →
    s.primary_queue ≠ t.retry_queue ∧ s.error_queue ≠ t.retry_queue

/-- That is what it takes for no command to disagree with another. -/
theorem agree_iff_start_together :
    (∀ i j, ∀ command ∈ (processes i).commands, ∀ other ∈ (processes j).commands,
        command.Agrees other)
      ↔ StartTogether processes := by
  constructor
  · intro hagree
    have hqueue : ∀ {i j : ι} {name : String} {first second : Option DeadLettering},
        .declare_queue name first ∈ (processes i).commands →
        .declare_queue name second ∈ (processes j).commands → first = second :=
      fun hfirst hsecond => hagree _ _ _ hfirst _ hsecond rfl
    constructor
    · intro i j name type type' htype htype'
      exact hagree i j _ (Process.mem_exchange.mpr htype) _ (Process.mem_exchange.mpr htype') rfl
    · intro i j s t hs ht hsame
      have hfirst := Process.mem_queue.mpr ⟨s, hs, .inr (.inl ⟨rfl, rfl⟩)⟩
      have hsecond := Process.mem_queue.mpr ⟨t, ht, .inr (.inl ⟨hsame, rfl⟩)⟩
      exact Option.some.inj (hqueue hfirst hsecond)
    · intro i j s t hs ht
      constructor
      · intro hsame
        have hfirst := Process.mem_queue.mpr ⟨s, hs, .inl ⟨rfl, rfl⟩⟩
        have hsecond := Process.mem_queue.mpr ⟨t, ht, .inr (.inl ⟨hsame, rfl⟩)⟩
        have hnone := hqueue hfirst hsecond
        simp at hnone
      · intro hsame
        have hfirst := Process.mem_queue.mpr ⟨s, hs, .inr (.inr ⟨rfl, rfl⟩)⟩
        have hsecond := Process.mem_queue.mpr ⟨t, ht, .inr (.inl ⟨hsame, rfl⟩)⟩
        have hnone := hqueue hfirst hsecond
        simp at hnone
  · intro htogether i j command hcommand other hother
    cases command with
    | declare_exchange name type =>
        cases other with
        | declare_exchange name' type' =>
            rintro rfl
            exact htogether.exchanges i j name type type' (Process.mem_exchange.mp hcommand)
              (Process.mem_exchange.mp hother)
        | declare_queue name' arguments' => exact trivial
        | bind binding' => exact trivial
    | declare_queue name arguments =>
        cases other with
        | declare_exchange name' type' => exact trivial
        | declare_queue name' arguments' =>
            rintro rfl
            obtain ⟨s, hs, hcommand⟩ := Process.mem_queue.mp hcommand
            obtain ⟨t, ht, hother⟩ := Process.mem_queue.mp hother
            have hst := htogether.apart i j s t hs ht
            have hts := htogether.apart j i t s ht hs
            rcases hcommand with ⟨hname, rfl⟩ | ⟨hname, rfl⟩ | ⟨hname, rfl⟩
            · rcases hother with ⟨-, rfl⟩ | ⟨hretry, -⟩ | ⟨-, rfl⟩
              · rfl
              · exact absurd (hname.symm.trans hretry) hst.1
              · rfl
            · rcases hother with ⟨hprimary, -⟩ | ⟨hretry, rfl⟩ | ⟨herror, -⟩
              · exact absurd (hprimary.symm.trans hname) hts.1
              · rw [htogether.retry_queues i j s t hs ht (hname.symm.trans hretry)]
              · exact absurd (herror.symm.trans hname) hts.2
            · rcases hother with ⟨-, rfl⟩ | ⟨hretry, -⟩ | ⟨-, rfl⟩
              · rfl
              · exact absurd (hname.symm.trans hretry) hst.2
              · rfl
        | bind binding' => exact trivial
    | bind binding => exact trivial

/-- **Starting in any order.** No order of starting gets a process refused exactly when no
name is declared two ways. -/
theorem start_in_any_order_iff [DecidableEq ι] :
    (∀ events c, run (sending processes) (starting processes) events = some c →
        ∀ i, (c.locals i).refused = false)
      ↔ StartTogether processes := by
  rw [← agree_iff_start_together]
  exact never_refused_iff fun i => (processes i).prepared

/-! ## 3. Where a message goes once all are up -/

/-- Some worker binds this queue to this exchange under a key that takes the message. -/
def Delivers (exchange routing_key queue : String) : Prop :=
  ∃ i topology, processes i = .worker topology ∧ ∃ binding ∈ topology.bindings,
    binding.exchange = exchange
      ∧ (topology.type_of exchange).takes binding.binding_key routing_key = true
      ∧ binding.queue = queue

/-- A message goes where the settings say, and one that expires in a retry queue goes where
the pair of its workers says. The order of starting is not in it. -/
structure Routed (b : Broker) : Prop where
  routes : ∀ exchange routing_key queue,
    queue ∈ b.route exchange routing_key ↔ Delivers processes exchange routing_key queue
  expired : ∀ queue reached, reached ∈ b.expired queue
    ↔ ∃ i topology, processes i = .worker topology ∧ topology.retry_queue = queue
      ∧ Delivers processes topology.retry_arguments.exchange topology.retry_arguments.routing_key
        reached

variable {processes}

/-- What a worker that is up has declared, as it stands on the broker. -/
theorem worker_stands [DecidableEq ι] {events : List (ι × Unit)} {c : Config ι Broker Client}
    (hrun : run (sending processes) (starting processes) events = some c) {i : ι}
    {topology : ConsumerTopology} (hi : processes i = .worker topology) (hup : (c.locals i).Up) :
    (∀ binding ∈ topology.bindings, c.shared.Standing (.bind binding)
        ∧ c.shared.Standing
          (.declare_exchange binding.exchange (topology.type_of binding.exchange)))
      ∧ c.shared.Standing
        (.declare_queue topology.retry_queue (some topology.retry_arguments)) := by
  have hstanding := (reached_standing hrun).2 i hup
  constructor
  · intro binding hbinding
    refine ⟨hstanding _ (Process.mem_binding.mpr ⟨topology, hi, hbinding⟩), hstanding _ ?_⟩
    apply Process.mem_exchange.mpr
    rw [hi]
    exact Process.worker_type (Process.binding_exchange hbinding)
  · exact hstanding _ (Process.mem_queue.mpr ⟨topology, hi, .inr (.inl ⟨rfl, rfl⟩)⟩)

theorem routed_of_up [DecidableEq ι] {events : List (ι × Unit)} {c : Config ι Broker Client}
    (hrun : run (sending processes) (starting processes) events = some c)
    (hup : ∀ i, (c.locals i).Up) : Routed processes c.shared := by
  have hroutes : ∀ exchange routing_key queue, queue ∈ c.shared.route exchange routing_key
      ↔ Delivers processes exchange routing_key queue := by
    intro exchange routing_key queue
    rw [Broker.mem_route_standing]
    constructor
    · rintro ⟨type, htype, binding, hbinding, rfl, htakes, hqueue⟩
      obtain ⟨i, hbinding⟩ := (finished_standing hrun hup _).mp hbinding
      obtain ⟨topology, hi, hmem⟩ := Process.mem_binding.mp hbinding
      -- the worker declared the exchange itself, so the type is its own
      have hown := ((worker_stands hrun hi (hup i)).1 binding hmem).2
      have hsame : type = topology.type_of binding.exchange :=
        Broker.standing_agrees htype hown rfl
      rw [hsame] at htakes
      exact ⟨i, topology, hi, binding, hmem, rfl, htakes, hqueue⟩
    · rintro ⟨i, topology, hi, binding, hmem, rfl, htakes, hqueue⟩
      obtain ⟨hbinding, htype⟩ := (worker_stands hrun hi (hup i)).1 binding hmem
      exact ⟨topology.type_of binding.exchange, htype, binding, hbinding, rfl, htakes, hqueue⟩
  refine ⟨hroutes, fun queue reached => ?_⟩
  rw [Broker.mem_expired_standing]
  constructor
  · rintro ⟨pair, hpair, hreached⟩
    obtain ⟨i, hqueue⟩ := (finished_standing hrun hup _).mp hpair
    obtain ⟨topology, hi, hcase⟩ := Process.mem_queue.mp hqueue
    -- only a retry queue is declared with a pair
    rcases hcase with ⟨-, hnone⟩ | ⟨hretry, harguments⟩ | ⟨-, hnone⟩
    · simp at hnone
    · rw [Option.some.inj harguments, hroutes] at hreached
      exact ⟨i, topology, hi, hretry.symm, hreached⟩
    · simp at hnone
  · rintro ⟨i, topology, hi, rfl, hreached⟩
    exact ⟨topology.retry_arguments, (worker_stands hrun hi (hup i)).2,
      (hroutes _ _ _).mpr hreached⟩

/-- **One topology, whatever the order.** Processes that start together can be brought up
from every state on the way, and once they are up messages go where the settings say. -/
theorem startup_converges [DecidableEq ι] [Finite ι] (htogether : StartTogether processes)
    {events : List (ι × Unit)} {c : Config ι Broker Client}
    (hrun : run (sending processes) (starting processes) events = some c) :
    (∃ more c', run (sending processes) c more = some c' ∧ ∀ i, (c'.locals i).Up)
      ∧ ∀ more c', run (sending processes) c more = some c' → (∀ i, (c'.locals i).Up) →
        Routed processes c'.shared := by
  constructor
  · exact can_finish (fun i => (processes i).prepared)
      ((agree_iff_start_together processes).mpr htogether) hrun
  · intro more c' hmore hup
    have hall : run (sending processes) (starting processes) (events ++ more) = some c' := by
      rw [run_append, hrun]
      exact hmore
    exact routed_of_up hall hup

/-- The worker of the default settings, and a dispatcher of the same. -/
def worker_and_dispatcher : Fin 2 → Process
  | 0 => .worker ConsumerTopology.default_topology
  | 1 => .dispatcher ConsumerTopology.default_topology ["trade-logistics.topic"]

theorem worker_and_dispatcher_together : StartTogether worker_and_dispatcher := by
  have htype : ∀ i name type, (worker_and_dispatcher i).type_of name = some type →
      type = if name = "trade-logistics.topic" then .topic else .direct := by
    intro i name type h
    rw [Process.type_of, Option.map_eq_some_iff] at h
    obtain ⟨exchange_type, hlookup, rfl⟩ := h
    obtain ⟨front, rest, hsplit, -⟩ := List.lookup_eq_some_iff.mp hlookup
    have hmem : (name, exchange_type) ∈ (worker_and_dispatcher i).exchanges := by
      rw [hsplit]
      simp
    have hall : ∀ i, ∀ exchange ∈ (worker_and_dispatcher i).exchanges,
        EXCHANGE_TYPES exchange.2
          = if exchange.1 = "trade-logistics.topic" then .topic else .direct := by
      decide
    exact hall i _ hmem
  have hworker : ∀ i topology, worker_and_dispatcher i = .worker topology →
      topology = ConsumerTopology.default_topology := by
    intro i topology h
    match i with
    | 0 => exact (Process.worker.inj h).symm
    | 1 => simp [worker_and_dispatcher] at h
  constructor
  · intro i j name type type' h h'
    rw [htype i name type h, htype j name type' h']
  · intro i j s t hs ht _
    rw [hworker i s hs, hworker j t ht]
  · intro i j s t hs ht
    rw [hworker i s hs, hworker j t ht]
    decide

/-- The dispatcher has its exchange before the worker has declared its queues, say. -/
def under_way : List (Fin 2 × Unit) := [(0, ()), (1, ()), (0, ())]

theorem startup_converges_sample : ∃ c,
    run (sending worker_and_dispatcher) (starting worker_and_dispatcher) under_way = some c
      ∧ (∃ more c', run (sending worker_and_dispatcher) c more = some c'
        ∧ ∀ i, (c'.locals i).Up)
      ∧ ∀ more c', run (sending worker_and_dispatcher) c more = some c' →
        (∀ i, (c'.locals i).Up) → Routed worker_and_dispatcher c'.shared := by
  have hsome : (run (sending worker_and_dispatcher) (starting worker_and_dispatcher)
      under_way).isSome = true := by decide +kernel
  obtain ⟨c, hrun⟩ := Option.isSome_iff_exists.mp hsome
  exact ⟨c, hrun, startup_converges worker_and_dispatcher_together hrun⟩

/-! ## 4. What a worker that is up can rely on -/

/-- The pair an expired retry leaves under meets the second binding of the primary queue. -/
def ReturnsMeet (topology : ConsumerTopology) : Prop :=
  topology.resolved_primary_retry_binding_exchange = topology.resolved_retry_dead_letter_exchange
    ∧ (topology.type_of topology.resolved_retry_dead_letter_exchange).takes
      topology.resolved_primary_retry_binding_key
      topology.resolved_retry_dead_letter_routing_key = true

/-- Left to be derived, the second binding is that pair. -/
theorem returnsMeet_of_unset {topology : ConsumerTopology}
    (hexchange : topology.primary_retry_binding_exchange = "")
    (hkey : topology.primary_retry_binding_key = "") : ReturnsMeet topology := by
  refine ⟨if_pos hexchange, ?_⟩
  rw [ConsumerTopology.resolved_primary_retry_binding_key, if_pos hkey]
  exact ExchangeType.takes_self _ _

/-- The events the worker asked for reach its queue, and so does every hop of its recovery
path: the retry, the retry when it expires, the parked message, and its replay. -/
structure WorkerServed (topology : ConsumerTopology) (b : Broker) : Prop where
  events : ∀ routing_key, (topology.type_of topology.primary_exchange).takes
      topology.primary_binding_key routing_key = true →
    topology.primary_queue ∈ b.route topology.primary_exchange routing_key
  scheduled : ∀ message count, topology.retry_queue ∈
    b.route (retry_copy topology.toBrokerTopology message count).exchange
      (retry_copy topology.toBrokerTopology message count).routing_key
  returned : ReturnsMeet topology → topology.primary_queue ∈ b.expired topology.retry_queue
  parked : ∀ message error now, topology.error_queue ∈
    b.route (error_copy topology.toBrokerTopology message error now).exchange
      (error_copy topology.toBrokerTopology message error now).routing_key
  replayed : ReturnsMeet topology → ∀ message_type name type exchange routing_key,
    _endpoint_descriptor topology.toBrokerTopology message_type
      = .table [("name", name), ("delivery_metadata", .table [("message_type", type),
        ("exchange", .str exchange), ("routing_key", .str routing_key)])] →
    topology.primary_queue ∈ b.route exchange routing_key

/-- A binding of a worker that is up takes what matches its key. -/
theorem up_worker_delivers [DecidableEq ι] {events : List (ι × Unit)}
    {c : Config ι Broker Client}
    (hrun : run (sending processes) (starting processes) events = some c) {i : ι}
    {topology : ConsumerTopology} (hi : processes i = .worker topology) (hup : (c.locals i).Up)
    {binding : Binding} (hmem : binding ∈ topology.bindings) {routing_key : String}
    (htakes : (topology.type_of binding.exchange).takes binding.binding_key routing_key = true) :
    binding.queue ∈ c.shared.route binding.exchange routing_key := by
  obtain ⟨hbinding, htype⟩ := (worker_stands hrun hi hup).1 binding hmem
  exact Broker.mem_route_standing.mpr ⟨_, htype, binding, hbinding, rfl, htakes, rfl⟩

/-- **A worker that is up is served**, while others still come up and where others were
refused. -/
theorem up_worker_served [DecidableEq ι] {events : List (ι × Unit)} {c : Config ι Broker Client}
    (hrun : run (sending processes) (starting processes) events = some c) {i : ι}
    {topology : ConsumerTopology} (hi : processes i = .worker topology)
    (hup : (c.locals i).Up) : WorkerServed topology c.shared := by
  have hown : ∀ binding ∈ topology.bindings, ∀ routing_key,
      (topology.type_of binding.exchange).takes binding.binding_key routing_key = true →
      binding.queue ∈ c.shared.route binding.exchange routing_key :=
    fun _ hmem _ htakes => up_worker_delivers hrun hi hup hmem htakes
  have hreturn : ReturnsMeet topology → topology.primary_queue ∈ c.shared.route
      topology.resolved_retry_dead_letter_exchange
      topology.resolved_retry_dead_letter_routing_key := by
    rintro ⟨hexchange, htakes⟩
    rw [← hexchange] at htakes ⊢
    exact hown topology.return_binding (by simp [ConsumerTopology.bindings]) _ htakes
  constructor
  · exact fun routing_key htakes =>
      hown topology.primary_binding (by simp [ConsumerTopology.bindings]) routing_key htakes
  · intro message count
    exact hown topology.retry_binding (by simp [ConsumerTopology.bindings]) _
      (ExchangeType.takes_self _ _)
  · intro hmeet
    rw [Broker.mem_expired_standing]
    exact ⟨topology.retry_arguments, (worker_stands hrun hi hup).2, hreturn hmeet⟩
  · intro message error now
    exact hown topology.error_binding (by simp [ConsumerTopology.bindings]) _
      (ExchangeType.takes_self _ _)
  · intro hmeet message_type name type exchange routing_key hdescriptor
    rw [_endpoint_descriptor] at hdescriptor
    simp only [HeaderValue.table.injEq, List.cons.injEq, Prod.mk.injEq, HeaderValue.str.injEq,
      true_and, and_true] at hdescriptor
    obtain ⟨-, -, rfl, rfl⟩ := hdescriptor
    exact hreturn hmeet

/-- The default worker comes up beside a dispatcher. -/
theorem up_worker_served_sample : ∃ events c,
    run (sending worker_and_dispatcher) (starting worker_and_dispatcher) events = some c
      ∧ WorkerServed ConsumerTopology.default_topology c.shared := by
  obtain ⟨events, c, hrun, hup⟩ := can_finish (fun i => (worker_and_dispatcher i).prepared)
    ((agree_iff_start_together worker_and_dispatcher).mpr worker_and_dispatcher_together)
    (run_nil (sending worker_and_dispatcher) _)
  exact ⟨events, c, hrun, up_worker_served hrun (i := 0) rfl (hup 0)⟩

end Startup

end TradeLogistics.MessageBus
