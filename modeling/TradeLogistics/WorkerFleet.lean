/-
Workers over one base of settings, each with names of its own.

What an operator types for a worker of its own is the name of its primary queue, of its
retry queue and the key of the retry queue; the rest comes from the environment, and the
way back from the primary queue's name. This file says which of these names have to differ
for the workers to come up in any order and for every retry to come home, and nowhere else.

The retry exchange is direct, so a hop is a key. On that exchange there are two keys for
each worker, the one its retries wait under and the one they come back under, and perhaps
the key of the error queue. The keys of the way back differ because the queues do; every
other pair is the operator's business.
-/
import TradeLogistics.Startup

set_option autoImplicit false

namespace TradeLogistics.MessageBus

open TradeLogistics.Amqp TradeLogistics.Runs

/-! ## 1. A fleet -/

/-- The settings the workers share, and the names each is started with. The way back is left
to be derived, and the error queue is nobody's primary queue. -/
structure WorkerFleet (ι : Type) where
  base : ConsumerTopology
  retry_direct : base.retry_exchange_type = "direct"
  exchanges_apart : base.primary_exchange ≠ base.retry_exchange
  unset : base.ReturnPathUnset
  primary_queue : ι → String
  retry_queue : ι → String
  retry_binding_key : ι → String
  distinct : Function.Injective primary_queue
  error_apart : ∀ i, primary_queue i ≠ base.error_queue

namespace WorkerFleet

variable {ι : Type} (fleet : WorkerFleet ι)

/-- `overridden_with`, of `--primary-queue`, `--retry-queue` and
`--retry-queue-binding-key`. -/
def worker (i : ι) : ConsumerTopology :=
  { fleet.base with
    primary_queue := fleet.primary_queue i
    retry_queue := fleet.retry_queue i
    retry_binding_key := fleet.retry_binding_key i }

def processes (i : ι) : Process := .worker (fleet.worker i)

/-- The key the retries of a worker come back under. -/
def return_key (i : ι) : String := fleet.primary_queue i ++ "." ++ RETRY_RETURN_SUFFIX

theorem worker_unset (i : ι) : (fleet.worker i).ReturnPathUnset :=
  ⟨fleet.unset.dead_letter_exchange, fleet.unset.dead_letter_routing_key,
    fleet.unset.binding_exchange, fleet.unset.binding_key⟩

theorem return_key_injective : Function.Injective fleet.return_key := by
  intro i j hsame
  apply fleet.distinct
  simpa [return_key] using hsame

/-- The retry exchange is direct for every worker. -/
theorem retry_type (i : ι) : (fleet.worker i).type_of fleet.base.retry_exchange = .direct := by
  have hne : (fleet.base.retry_exchange == fleet.base.primary_exchange) = false := by
    simpa using Ne.symm fleet.exchanges_apart
  simp [ConsumerTopology.type_of, ConsumerTopology.exchanges, worker, List.lookup_cons, hne,
    fleet.retry_direct, EXCHANGE_TYPES]

/-- What the retry queue of a worker is declared with. -/
theorem retry_arguments_eq (i : ι) : (fleet.worker i).retry_arguments
    = ⟨fleet.base.retry_message_ttl_ms, fleet.base.retry_exchange, fleet.return_key i⟩ := by
  rw [ConsumerTopology.retry_arguments, (fleet.worker_unset i).exchange_eq,
    (fleet.worker_unset i).key_eq]
  rfl

/-- **The keys of the retry exchange**: the way back of each worker, the wait of each, and
the error queue's if it is there. -/
theorem delivers_iff (routing_key queue : String) :
    Delivers fleet.processes fleet.base.retry_exchange routing_key queue
      ↔ ∃ i, (fleet.return_key i = routing_key ∧ fleet.primary_queue i = queue)
        ∨ (fleet.retry_binding_key i = routing_key ∧ fleet.retry_queue i = queue)
        ∨ (fleet.base.error_exchange = fleet.base.retry_exchange
          ∧ fleet.base.error_routing_key = routing_key ∧ fleet.base.error_queue = queue) := by
  have hworker : ∀ i, (∃ binding ∈ (fleet.worker i).bindings,
      binding.exchange = fleet.base.retry_exchange
        ∧ ((fleet.worker i).type_of fleet.base.retry_exchange).takes binding.binding_key routing_key
          = true
        ∧ binding.queue = queue)
      ↔ (fleet.return_key i = routing_key ∧ fleet.primary_queue i = queue)
        ∨ (fleet.retry_binding_key i = routing_key ∧ fleet.retry_queue i = queue)
        ∨ (fleet.base.error_exchange = fleet.base.retry_exchange
          ∧ fleet.base.error_routing_key = routing_key ∧ fleet.base.error_queue = queue) := by
    intro i
    rw [ConsumerTopology.bindings, (fleet.worker_unset i).return_binding_eq, fleet.retry_type i]
    simp [ConsumerTopology.primary_binding, ConsumerTopology.retry_binding,
      ConsumerTopology.error_binding, worker, return_key, ConsumerTopology.return_key,
      fleet.exchanges_apart]
  constructor
  · rintro ⟨i, topology, hprocess, hbinding⟩
    obtain rfl := Process.worker.inj hprocess
    exact ⟨i, (hworker i).mp hbinding⟩
  · rintro ⟨i, hcase⟩
    exact ⟨i, fleet.worker i, rfl, (hworker i).mpr hcase⟩

/-! ## 2. What has to differ -/

/-- The names an operator has to keep apart. -/
structure NamesApart : Prop where
  retry_queues : Function.Injective fleet.retry_queue
  retry_keys : Function.Injective fleet.retry_binding_key
  queues : ∀ i j, fleet.primary_queue i ≠ fleet.retry_queue j
  error_queue : ∀ i, fleet.base.error_queue ≠ fleet.retry_queue i
  return_keys : ∀ i j, fleet.retry_binding_key i ≠ fleet.return_key j
  error_key : fleet.base.error_exchange = fleet.base.retry_exchange → ∀ i,
    fleet.base.error_routing_key ≠ fleet.retry_binding_key i
      ∧ fleet.base.error_routing_key ≠ fleet.return_key i

/-- The names that decide whether the workers can be started in any order. -/
theorem startTogether_iff : StartTogether fleet.processes
    ↔ Function.Injective fleet.retry_queue
      ∧ (∀ i j, fleet.primary_queue i ≠ fleet.retry_queue j)
      ∧ ∀ i, fleet.base.error_queue ≠ fleet.retry_queue i := by
  constructor
  · intro htogether
    refine ⟨fun i j hsame => ?_, fun i j => ?_, fun i => ?_⟩
    · -- one retry queue, and two ways back
      have harguments := htogether.retry_queues i j _ _ rfl rfl hsame
      rw [retry_arguments_eq, retry_arguments_eq] at harguments
      exact fleet.return_key_injective (DeadLettering.mk.inj harguments).2.2
    · exact (htogether.apart i j _ _ rfl rfl).1
    · exact (htogether.apart i i _ _ rfl rfl).2
  · rintro ⟨hinjective, hqueues, herror⟩
    constructor
    · intro i j name type type' htype htype'
      -- the exchanges are those of the base, whoever declares them
      have hsame : (fleet.processes i).type_of name = (fleet.processes j).type_of name := rfl
      rw [hsame, htype'] at htype
      exact (Option.some.inj htype).symm
    · intro i j s t hs ht hsame
      obtain rfl := Process.worker.inj hs
      obtain rfl := Process.worker.inj ht
      rw [hinjective hsame]
    · intro i j s t hs ht
      obtain rfl := Process.worker.inj hs
      obtain rfl := Process.worker.inj ht
      exact ⟨hqueues i j, herror j⟩

/-- A retry of this worker waits in its retry queue and comes home to its primary queue, and
no other queue sees it. -/
structure RetriesHome (topology : ConsumerTopology) (b : Broker) : Prop where
  waiting : ∀ message count, ConsumerTopology.OnlyTo b
    (retry_copy topology.toBrokerTopology message count).exchange
    (retry_copy topology.toBrokerTopology message count).routing_key topology.retry_queue
  returned : ∀ reached, reached ∈ b.expired topology.retry_queue
    ↔ reached = topology.primary_queue

/-- The fleet does what it is for: no order of starting gets a worker refused, and every
worker that is up has its retries come home, whoever else is up. -/
structure Works [DecidableEq ι] : Prop where
  started : ∀ events c, run (sending fleet.processes) (starting fleet.processes) events = some c →
    ∀ i, (c.locals i).refused = false
  home : ∀ events c, run (sending fleet.processes) (starting fleet.processes) events = some c →
    ∀ i, (c.locals i).Up → RetriesHome (fleet.worker i) c.shared

section Works

variable {fleet} [DecidableEq ι] {events : List (ι × Unit)} {c : Config ι Broker Client}

/-- Whatever the retry exchange delivers on the way, it delivers for a worker. -/
theorem delivers_of_route
    (hrun : run (sending fleet.processes) (starting fleet.processes) events = some c)
    {routing_key queue : String}
    (h : queue ∈ c.shared.route fleet.base.retry_exchange routing_key) :
    Delivers fleet.processes fleet.base.retry_exchange routing_key queue := by
  obtain ⟨type, htype, binding, hbinding, hexchange, htakes, hqueue⟩ :=
    Broker.mem_route_standing.mp h
  have hasked := (reached_standing hrun).1
  obtain ⟨i, hi⟩ := hasked _ hbinding
  obtain ⟨topology, hprocess, hmem⟩ := Process.mem_binding.mp hi
  obtain rfl := Process.worker.inj hprocess
  -- whoever declared the exchange declared it direct
  obtain ⟨j, hj⟩ := hasked _ htype
  have hdirect : type = .direct := by
    have hown := Process.mem_exchange.mp hj
    rw [processes, Process.worker_type, fleet.retry_type] at hown
    · exact (Option.some.inj hown).symm
    · exact ⟨(fleet.base.retry_exchange, fleet.base.retry_exchange_type),
        by simp [ConsumerTopology.exchanges, worker], rfl⟩
  rw [hdirect] at htakes
  refine ⟨i, fleet.worker i, rfl, binding, hmem, hexchange, ?_, hqueue⟩
  rw [fleet.retry_type]
  exact htakes

/-- What a worker that is up has on the retry exchange: its wait, and its way back. -/
theorem up_on_retry_exchange
    (hrun : run (sending fleet.processes) (starting fleet.processes) events = some c) {i : ι}
    (hup : (c.locals i).Up) :
    fleet.retry_queue i ∈ c.shared.route fleet.base.retry_exchange (fleet.retry_binding_key i)
      ∧ fleet.primary_queue i ∈ c.shared.route fleet.base.retry_exchange (fleet.return_key i)
      ∧ (fleet.base.error_exchange = fleet.base.retry_exchange →
        fleet.base.error_queue ∈ c.shared.route fleet.base.retry_exchange
          fleet.base.error_routing_key) := by
  have hown : ∀ binding ∈ (fleet.worker i).bindings,
      binding.queue ∈ c.shared.route binding.exchange binding.binding_key :=
    fun _ hmem => up_worker_delivers hrun rfl hup hmem (ExchangeType.takes_self _ _)
  refine ⟨hown (fleet.worker i).retry_binding (by simp [ConsumerTopology.bindings]), ?_, ?_⟩
  · have hreturn := hown (fleet.worker i).return_binding (by simp [ConsumerTopology.bindings])
    rw [(fleet.worker_unset i).return_binding_eq] at hreturn
    exact hreturn
  · intro hsame
    have herror := hown (fleet.worker i).error_binding (by simp [ConsumerTopology.bindings])
    rw [← hsame]
    exact herror

/-- What expires in the retry queue of a worker that is up leaves under its way back. -/
theorem up_expired
    (hrun : run (sending fleet.processes) (starting fleet.processes) events = some c) {i : ι}
    (hup : (c.locals i).Up) : c.shared.expired (fleet.retry_queue i)
      = c.shared.route fleet.base.retry_exchange (fleet.return_key i) := by
  have hdeclared : c.shared.arguments (fleet.retry_queue i)
      = some (some (fleet.worker i).retry_arguments) := (worker_stands hrun rfl hup).2
  rw [Broker.expired, hdeclared, retry_arguments_eq]

/-- Where the names are apart, retries come home. -/
theorem home_of_apart (h : fleet.NamesApart)
    (hrun : run (sending fleet.processes) (starting fleet.processes) events = some c) {i : ι}
    (hup : (c.locals i).Up) : RetriesHome (fleet.worker i) c.shared := by
  obtain ⟨hwait, hreturn, -⟩ := up_on_retry_exchange hrun hup
  constructor
  · intro message count reached
    constructor
    · intro hreached
      obtain ⟨j, hkey | hkey | hkey⟩ :=
        (fleet.delivers_iff _ _).mp (delivers_of_route hrun hreached)
      · exact absurd hkey.1.symm (h.return_keys i j)
      · rw [← hkey.2, h.retry_keys hkey.1]
        rfl
      · exact absurd hkey.2.1 (h.error_key hkey.1 i).1
    · rintro rfl
      exact hwait
  · intro reached
    change reached ∈ c.shared.expired (fleet.retry_queue i) ↔ reached = fleet.primary_queue i
    rw [up_expired hrun hup]
    constructor
    · intro hreached
      obtain ⟨j, hkey | hkey | hkey⟩ :=
        (fleet.delivers_iff _ _).mp (delivers_of_route hrun hreached)
      · rw [← hkey.2, fleet.return_key_injective hkey.1]
      · exact absurd hkey.1 (h.return_keys j i)
      · exact absurd hkey.2.1 (h.error_key hkey.1 i).2
    · rintro rfl
      exact hreturn

end Works

/-- **What has to be unique.** A fleet works exactly when its names are apart: the retry
queues and their keys among each other, the retry queues from the primary and the error
queues, and on the retry exchange each key that waits from each that comes back and from
the error queue's. -/
theorem works_iff [DecidableEq ι] : fleet.Works ↔ fleet.NamesApart := by
  constructor
  · intro hworks
    obtain ⟨hretry, hqueues, herror⟩ := fleet.startTogether_iff.mp
      ((agree_iff_start_together fleet.processes).mp
        ((never_refused_iff fun i => (fleet.processes i).prepared).mp hworks.started))
    -- two workers that are both up see each other's keys
    have hboth := fun i j => two_up hworks.started i j
    constructor
    · exact hretry
    · intro i j hsame
      obtain ⟨events, c, hrun, hi, hj⟩ := hboth i j
      have hother := (up_on_retry_exchange hrun hj).1
      rw [← hsame] at hother
      have hone := (hworks.home events c hrun i hi).waiting ⟨[], none, none, none, []⟩ 0
      exact (hretry ((hone _).mp hother)).symm
    · exact hqueues
    · exact herror
    · intro i j hsame
      obtain ⟨events, c, hrun, hi, hj⟩ := hboth i j
      have hother := (up_on_retry_exchange hrun hj).2.1
      rw [← hsame] at hother
      have hone := (hworks.home events c hrun i hi).waiting ⟨[], none, none, none, []⟩ 0
      exact hqueues j i ((hone _).mp hother)
    · intro hexchange i
      obtain ⟨events, c, hrun, hi, -⟩ := hboth i i
      have hparked := (up_on_retry_exchange hrun hi).2.2 hexchange
      have hhome := hworks.home events c hrun i hi
      constructor
      · intro hsame
        rw [hsame] at hparked
        have hone := hhome.waiting ⟨[], none, none, none, []⟩ 0
        exact herror i ((hone _).mp hparked)
      · intro hsame
        rw [hsame, ← up_expired hrun hi] at hparked
        exact fleet.error_apart i ((hhome.returned _).mp hparked).symm
  · intro hapart
    refine ⟨?_, fun events c hrun i hup => home_of_apart hapart hrun hup⟩
    apply (never_refused_iff fun i => (fleet.processes i).prepared).mpr
    apply (agree_iff_start_together fleet.processes).mpr
    exact fleet.startTogether_iff.mpr ⟨hapart.retry_queues, hapart.queues, hapart.error_queue⟩

/-! ## 3. The names of the README -/

/-- The retry queue and its key, as the commands of the README name them. -/
def Documented : Prop :=
  ∀ i, fleet.retry_queue i = fleet.primary_queue i ++ ".delayed-retry"
    ∧ fleet.retry_binding_key i = fleet.primary_queue i ++ ".delayed-retry"

/-- A key that waits is never one that comes back: they end differently. -/
theorem delayed_retry_ne (queue other : String) :
    queue ++ ".delayed-retry" ≠ other ++ "." ++ RETRY_RETURN_SUFFIX := by
  intro hsame
  have hlists := congrArg (fun s => s.toList.reverse) hsame
  simp [RETRY_RETURN_SUFFIX] at hlists

/-- Of fleets that follow the README, all that is left to look after is that no primary and
no error queue is called as a retry queue is, and the key of the error queue. -/
theorem documented_apart_iff (h : fleet.Documented) : fleet.NamesApart
    ↔ (∀ i j, fleet.primary_queue i ≠ fleet.primary_queue j ++ ".delayed-retry")
      ∧ (∀ i, fleet.base.error_queue ≠ fleet.primary_queue i ++ ".delayed-retry")
      ∧ (fleet.base.error_exchange = fleet.base.retry_exchange → ∀ i,
        fleet.base.error_routing_key ≠ fleet.primary_queue i ++ ".delayed-retry"
          ∧ fleet.base.error_routing_key ≠ fleet.return_key i) := by
  have hqueue : fleet.retry_queue = fun i => fleet.primary_queue i ++ ".delayed-retry" :=
    funext fun i => (h i).1
  have hkey : fleet.retry_binding_key = fun i => fleet.primary_queue i ++ ".delayed-retry" :=
    funext fun i => (h i).2
  have hinjective : Function.Injective fun i => fleet.primary_queue i ++ ".delayed-retry" := by
    intro i j hsame
    apply fleet.distinct
    simpa using hsame
  constructor
  · intro hapart
    refine ⟨fun i j => ?_, fun i => ?_, fun hexchange i => ?_⟩
    · have hne := hapart.queues i j
      rwa [hqueue] at hne
    · have hne := hapart.error_queue i
      rwa [hqueue] at hne
    · have hne := hapart.error_key hexchange i
      rwa [hkey] at hne
  · rintro ⟨hqueues, herror, hparked⟩
    constructor
    · rw [hqueue]
      exact hinjective
    · rw [hkey]
      exact hinjective
    · rw [hqueue]
      exact hqueues
    · rw [hqueue]
      exact herror
    · rw [hkey]
      exact fun i j => delayed_retry_ne _ _
    · rw [hkey]
      exact hparked

end WorkerFleet

end TradeLogistics.MessageBus
