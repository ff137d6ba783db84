/-
An AMQP broker as far as routing goes: exchanges, queues, bindings, and the declarations
that make them.

Declarations are idempotent, and only so far: an exchange that is declared again under
another type, or a queue under other arguments, is refused, and what was declared first
stays. A message goes to every queue bound to its exchange under a key that its routing
key matches; what "matches" means is the exchange's type. A message that expires in a
queue with a dead-letter pair is routed once more, under that pair.

A broker here takes any name and any arguments. RabbitMQ also refuses to have the default
exchange `''` or one called `amq.*` declared by a client, and a negative `x-message-ttl`.

Nothing here is about one program. What a program gets from it are three equations for a
list of commands that was accepted: the type of an exchange is the one it was first
declared with, and so are the arguments of a queue, and the bindings are those there were
and those that were asked for.
-/
import Mathlib.Data.List.Infix
import Mathlib.Data.List.Basic

set_option autoImplicit false

namespace TradeLogistics.Amqp

/-! ## 1. Types of exchange -/

inductive ExchangeType where
  | direct | topic | fanout | headers
  deriving DecidableEq, Repr

/-- A topic key, word by word. -/
def words (key : String) : List (List Char) := key.toList.splitOn '.'

/-- A topic pattern against the words of a routing key: `*` stands for one word, `#` for
any number of them. -/
def topic_matches : List (List Char) → List (List Char) → Bool
  | [], key => key.isEmpty
  | word :: pattern, key =>
    if word = ['#'] then key.tails.any (topic_matches pattern)
    else match key with
      | [] => false
      | first :: rest => (word = ['*'] || word = first) && topic_matches pattern rest

/-- Whether a binding under the first key takes a message under the second. A binding
here carries no arguments, so one to a `headers` exchange takes everything. -/
def ExchangeType.takes : ExchangeType → String → String → Bool
  | .direct, binding_key, routing_key => binding_key = routing_key
  | .topic, binding_key, routing_key => topic_matches (words binding_key) (words routing_key)
  | .fanout, _, _ => true
  | .headers, _, _ => true

example : ExchangeType.topic.takes "orders.#" "orders.paid.late" = true := by decide

/-- A pattern takes itself as a key. -/
theorem topic_matches_self (pattern : List (List Char)) : topic_matches pattern pattern = true := by
  induction pattern with
  | nil => rfl
  | cons word pattern ih =>
      rw [topic_matches]
      by_cases hhash : word = ['#']
      · -- `#` takes the word `#`, and the rest is the induction hypothesis
        rw [if_pos hhash, List.any_eq_true]
        refine ⟨pattern, ?_, ih⟩
        rw [List.mem_tails]
        exact List.suffix_cons word pattern
      · rw [if_neg hhash]
        simp [ih]

@[simp] theorem ExchangeType.takes_self (type : ExchangeType) (key : String) :
    type.takes key key = true := by
  cases type with
  | direct => simp [ExchangeType.takes]
  | topic => exact topic_matches_self (words key)
  | fanout => rfl
  | headers => rfl

@[simp] theorem ExchangeType.direct_takes (binding_key routing_key : String) :
    ExchangeType.direct.takes binding_key routing_key = true ↔ binding_key = routing_key := by
  simp [ExchangeType.takes]

/-! ## 2. The broker -/

/-- `x-message-ttl`, `x-dead-letter-exchange` and `x-dead-letter-routing-key`. -/
structure DeadLettering where
  message_ttl : ℤ
  exchange : String
  routing_key : String
  deriving DecidableEq

structure Binding where
  queue : String
  exchange : String
  binding_key : String
  deriving DecidableEq

/-- What is declared: exchanges with their types, queues with their arguments, bindings. -/
structure Broker where
  exchanges : List (String × ExchangeType)
  queues : List (String × Option DeadLettering)
  bindings : List Binding

/-- A broker nothing is declared on. -/
def Broker.empty : Broker := ⟨[], [], []⟩

inductive Command where
  | declare_exchange (name : String) (type : ExchangeType)
  | declare_queue (name : String) (arguments : Option DeadLettering)
  | bind (binding : Binding)

/-- The type this exchange is declared with, if the command declares it. -/
def Command.type_of (name : String) : Command → Option ExchangeType
  | .declare_exchange declared type => if name = declared then some type else none
  | _ => none

/-- The arguments this queue is declared with, if the command declares it. -/
def Command.arguments_of (name : String) : Command → Option (Option DeadLettering)
  | .declare_queue declared arguments => if name = declared then some arguments else none
  | _ => none

def Command.binding : Command → Option Binding
  | .bind binding => some binding
  | _ => none

namespace Broker

def exchange_type (b : Broker) (name : String) : Option ExchangeType := b.exchanges.lookup name

def arguments (b : Broker) (name : String) : Option (Option DeadLettering) := b.queues.lookup name

/-- One command; `none` when it is refused. -/
def obey (b : Broker) : Command → Option Broker
  | .declare_exchange name type => match b.exchange_type name with
    | none => some { b with exchanges := b.exchanges ++ [(name, type)] }
    | some declared => if declared = type then some b else none
  | .declare_queue name arguments => match b.arguments name with
    | none => some { b with queues := b.queues ++ [(name, arguments)] }
    | some declared => if declared = arguments then some b else none
  | .bind binding =>
    if (b.exchange_type binding.exchange).isSome && (b.arguments binding.queue).isSome then
      some { b with bindings := b.bindings ++ [binding] }
    else none

/-- The commands of one client in turn, up to the first that is refused: whether all were
accepted, and what is declared then. -/
def obey_all : Broker → List Command → Bool × Broker
  | b, [] => (true, b)
  | b, command :: commands => match b.obey command with
    | none => (false, b)
    | some b' => b'.obey_all commands

/-- The queues a message reaches. -/
def route (b : Broker) (exchange routing_key : String) : List String :=
  match b.exchange_type exchange with
  | none => []
  | some type =>
    (b.bindings.filter fun binding =>
      binding.exchange = exchange && type.takes binding.binding_key routing_key).map Binding.queue

/-- The queues a message reaches that expires in this one. -/
def expired (b : Broker) (queue : String) : List String :=
  match b.arguments queue with
  | some (some dead_lettering) => b.route dead_lettering.exchange dead_lettering.routing_key
  | _ => []

/-! ## 3. What accepted commands leave -/

theorem mem_route {b : Broker} {exchange : String} {type : ExchangeType}
    (htype : b.exchange_type exchange = some type) (routing_key queue : String) :
    queue ∈ b.route exchange routing_key ↔ ∃ binding ∈ b.bindings, binding.exchange = exchange
      ∧ type.takes binding.binding_key routing_key = true ∧ binding.queue = queue := by
  rw [route, htype]
  simp only [List.mem_map, List.mem_filter, Bool.and_eq_true, decide_eq_true_eq, and_assoc]

theorem obey_all_cons {b b' : Broker} {command : Command} (h : b.obey command = some b')
    (commands : List Command) : b.obey_all (command :: commands) = b'.obey_all commands := by
  rw [obey_all, h]

theorem obey_all_refused {b : Broker} {command : Command} (h : b.obey command = none)
    (commands : List Command) : b.obey_all (command :: commands) = (false, b) := by
  rw [obey_all, h]

/-- Commands that were accepted were accepted one by one. -/
theorem obey_all_cons_accepted {b b' : Broker} {command : Command} {commands : List Command} :
    b.obey_all (command :: commands) = (true, b')
      ↔ ∃ next, b.obey command = some next ∧ next.obey_all commands = (true, b') := by
  cases h : b.obey command with
  | none => simp [obey_all_refused h]
  | some next => simp [obey_all_cons h]

theorem obey_all_append_accepted {b b' : Broker} {first second : List Command} :
    b.obey_all (first ++ second) = (true, b')
      ↔ ∃ next, b.obey_all first = (true, next) ∧ next.obey_all second = (true, b') := by
  induction first generalizing b with
  | nil => simp [obey_all]
  | cons command first ih =>
      rw [List.cons_append, obey_all_cons_accepted]
      constructor
      · rintro ⟨next, hcommand, hrest⟩
        obtain ⟨mid, hfirst, hsecond⟩ := ih.mp hrest
        exact ⟨mid, obey_all_cons_accepted.mpr ⟨next, hcommand, hfirst⟩, hsecond⟩
      · rintro ⟨mid, hfirst, hsecond⟩
        obtain ⟨next, hcommand, hrest⟩ := obey_all_cons_accepted.mp hfirst
        exact ⟨next, hcommand, ih.mpr ⟨mid, hrest, hsecond⟩⟩

/-- A name declared behind those there were: the first declaration of a name counts. -/
theorem lookup_declared {α : Type} (xs : List (String × α)) (declared name : String) (a : α) :
    (xs ++ [(declared, a)]).lookup name
      = (xs.lookup name).or (if name = declared then some a else none) := by
  rw [List.lookup_append]
  by_cases hname : name = declared
  · simp [hname]
  · have hne : (name == declared) = false := by simpa using hname
    simp [List.lookup_cons, hne, hname]

/-- A name declared again as it is. -/
theorem lookup_redeclared {α : Type} {xs : List (String × α)} {declared : String} {a : α}
    (h : xs.lookup declared = some a) (name : String) :
    xs.lookup name = (xs.lookup name).or (if name = declared then some a else none) := by
  by_cases hname : name = declared
  · rw [hname, h, Option.some_or]
  · rw [if_neg hname, Option.or_none]

/-- What one accepted command leaves declared. -/
theorem obey_declared {b b' : Broker} {command : Command} (h : b.obey command = some b') :
    (∀ name, b'.exchange_type name = (b.exchange_type name).or (command.type_of name))
      ∧ (∀ name, b'.arguments name = (b.arguments name).or (command.arguments_of name))
      ∧ b'.bindings = b.bindings ++ command.binding.toList := by
  cases command with
  | declare_exchange declared type =>
      rw [obey] at h
      cases htype : b.exchange_type declared with
      | none =>
          rw [htype, Option.some.injEq] at h
          subst h
          refine ⟨fun name => lookup_declared b.exchanges declared name type, ?_, ?_⟩
          · simp [Command.arguments_of, arguments]
          · simp [Command.binding]
      | some existing =>
          rw [htype] at h
          by_cases hsame : existing = type
          · subst hsame
            simp only [if_true, Option.some.injEq] at h
            subst h
            refine ⟨lookup_redeclared htype, ?_, ?_⟩
            · simp [Command.arguments_of]
            · simp [Command.binding]
          · -- under another type it is refused
            simp [hsame] at h
  | declare_queue declared declaration =>
      rw [obey] at h
      cases harguments : b.arguments declared with
      | none =>
          rw [harguments, Option.some.injEq] at h
          subst h
          refine ⟨?_, fun name => lookup_declared b.queues declared name declaration, ?_⟩
          · simp [Command.type_of, exchange_type]
          · simp [Command.binding]
      | some existing =>
          rw [harguments] at h
          by_cases hsame : existing = declaration
          · subst hsame
            simp only [if_true, Option.some.injEq] at h
            subst h
            refine ⟨?_, lookup_redeclared harguments, ?_⟩
            · simp [Command.type_of]
            · simp [Command.binding]
          · -- under other arguments it is refused
            simp [hsame] at h
  | bind binding =>
      rw [obey] at h
      split at h
      · rw [Option.some.injEq] at h
        subst h
        refine ⟨?_, ?_, ?_⟩
        · simp [Command.type_of, exchange_type]
        · simp [Command.arguments_of, arguments]
        · simp [Command.binding]
      · simp at h

/-- **What accepted commands leave declared.** The first declaration of a name is the one
that counts, and every binding is added to those there were. -/
theorem obey_all_declared {b' : Broker} :
    ∀ {commands : List Command} {b : Broker}, b.obey_all commands = (true, b') →
      (∀ name, b'.exchange_type name
        = (b.exchange_type name).or (commands.findSome? (Command.type_of name)))
      ∧ (∀ name, b'.arguments name
        = (b.arguments name).or (commands.findSome? (Command.arguments_of name)))
      ∧ b'.bindings = b.bindings ++ commands.filterMap Command.binding := by
  intro commands
  induction commands with
  | nil =>
      intro b h
      rw [obey_all, Prod.mk.injEq] at h
      obtain ⟨-, rfl⟩ := h
      simp
  | cons command commands ih =>
      intro b h
      obtain ⟨next, hcommand, hrest⟩ := obey_all_cons_accepted.mp h
      obtain ⟨htype, harguments, hbindings⟩ := obey_declared hcommand
      obtain ⟨htypes, harguments', hbindings'⟩ := ih hrest
      -- the command's own declaration stands before those of the rest
      refine ⟨fun name => ?_, fun name => ?_, ?_⟩
      · rw [htypes, htype, Option.or_assoc, List.findSome?_cons]
        cases command.type_of name <;> simp
      · rw [harguments', harguments, Option.or_assoc, List.findSome?_cons]
        cases command.arguments_of name <;> simp
      · rw [hbindings', hbindings, List.append_assoc, List.filterMap_cons]
        cases command.binding <;> simp

/-- A command is accepted by a broker with these types and arguments declared. -/
def Allowed (types : String → Option ExchangeType)
    (declared : String → Option (Option DeadLettering)) : Command → Prop
  | .declare_exchange name type => types name = none ∨ types name = some type
  | .declare_queue name arguments => declared name = none ∨ declared name = some arguments
  | .bind binding => (types binding.exchange).isSome ∧ (declared binding.queue).isSome

/-- Each command is accepted after those before it. -/
def AllAllowed : (String → Option ExchangeType) → (String → Option (Option DeadLettering)) →
    List Command → Prop
  | _, _, [] => True
  | types, declared, command :: commands =>
    Allowed types declared command
      ∧ AllAllowed (fun name => (types name).or (command.type_of name))
        (fun name => (declared name).or (command.arguments_of name)) commands

theorem obey_allowed {b : Broker} {command : Command}
    (h : Allowed b.exchange_type b.arguments command) : ∃ b', b.obey command = some b' := by
  cases command with
  | declare_exchange name type =>
      rw [obey]
      rcases h with hnone | hsame
      · rw [hnone]
        exact ⟨_, rfl⟩
      · rw [hsame]
        exact ⟨b, if_pos rfl⟩
  | declare_queue name arguments =>
      rw [obey]
      rcases h with hnone | hsame
      · rw [hnone]
        exact ⟨_, rfl⟩
      · rw [hsame]
        exact ⟨b, if_pos rfl⟩
  | bind binding =>
      obtain ⟨htype, harguments⟩ := h
      rw [obey, htype, harguments]
      exact ⟨_, rfl⟩

/-- Whether commands are accepted depends only on what is declared, and can be told
without running them. -/
theorem obey_all_allowed :
    ∀ {commands : List Command} {b : Broker}, AllAllowed b.exchange_type b.arguments commands →
      ∃ b', b.obey_all commands = (true, b') := by
  intro commands
  induction commands with
  | nil => exact fun {b} _ => ⟨b, rfl⟩
  | cons command commands ih =>
      intro b h
      obtain ⟨hcommand, hrest⟩ := h
      obtain ⟨next, hnext⟩ := obey_allowed hcommand
      obtain ⟨htypes, harguments, -⟩ := obey_declared hnext
      rw [obey_all_cons hnext]
      apply ih
      rw [funext htypes, funext harguments]
      exact hrest

/-- A queue keeps the arguments it has. -/
theorem arguments_kept {b b' : Broker} {commands : List Command} {name : String}
    {declared : Option DeadLettering} (h : b.obey_all commands = (true, b'))
    (hname : b.arguments name = some declared) : b'.arguments name = some declared := by
  rw [(obey_all_declared h).2.1, hname, Option.some_or]

/-- A declaration that was accepted says what the queue's arguments are. -/
theorem declared_arguments {b' : Broker} {name : String} {arguments : Option DeadLettering} :
    ∀ {commands : List Command} {b : Broker}, b.obey_all commands = (true, b') →
      .declare_queue name arguments ∈ commands → b'.arguments name = some arguments := by
  intro commands
  induction commands with
  | nil =>
      intro b _ hmem
      simp at hmem
  | cons command commands ih =>
      intro b h hmem
      obtain ⟨next, hcommand, hrest⟩ := obey_all_cons_accepted.mp h
      rcases List.mem_cons.mp hmem with hhead | htail
      · subst hhead
        apply arguments_kept hrest
        rw [(obey_declared hcommand).2.1, Command.arguments_of, if_pos rfl]
        -- it is new, or it was there with these arguments
        rw [obey] at hcommand
        cases hdeclared : b.arguments name with
        | none => rfl
        | some declared =>
            rw [hdeclared] at hcommand
            by_cases hsame : declared = arguments
            · rw [hsame]
              rfl
            · simp [hsame] at hcommand
      · exact ih hrest htail

end Broker

end TradeLogistics.Amqp
