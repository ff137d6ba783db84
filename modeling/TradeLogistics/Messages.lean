/-
The messages of the bus: what a module schedules, what a row of its outbox holds, what
travels through the broker, and what a handler is given.

Four shapes of the same thing, in the order a message takes them. A domain message
becomes an `OutboxMessage` row under a fresh identifier; the relay publishes the row as
an AMQP `Message`; a consumer copies the AMQP message on when handling fails, keeping
its body, identifier and type; and a delivery becomes a `MessageEnvelope`. The
identifier is what ties them together: a `UUID` in a row and an envelope, its text in
between.

JSON is a value here, and the two functions of the `json` module are a parameter. A
header is any AMQP value; the only one the code reads as a number is the redelivery
counter, through `int`, so that conversion is modelled for every kind of value.
-/
import TradeLogistics.PyNumber

set_option autoImplicit false

namespace TradeLogistics.MessageBus

open TradeLogistics.PyText TradeLogistics.PyNumber

/-! ## 1. Bodies -/

inductive Json where
  | null
  | bool (b : Bool)
  | int (n : ℤ)
  | float (x : PyFloat)
  | str (s : String)
  | array (items : List Json)
  | object (members : List (String × Json))

/-- A decoded body, a Python `dict`. -/
abbrev Body := List (String × Json)

abbrev Bytes := List UInt8

/-- How `json.loads` fails: a `ValueError`, or the interpreter's stack running out on a
deeply nested text. -/
inductive JsonError where
  | ValueError | RecursionError
  deriving DecidableEq, Repr

/-- `json.dumps(body).encode()` and `json.loads`. -/
structure JsonModule where
  dumps : Body → Bytes
  loads : Bytes → Except JsonError Json

/-! ## 2. Headers -/

/-- What an AMQP header may hold. -/
inductive HeaderValue where
  | null
  | bool (b : Bool)
  | int (n : ℤ)
  | float (x : PyFloat)
  | str (s : String)
  | bytes (b : Bytes)
  | decimal (q : ℚ)
  | timestamp (t : ℤ)
  | array (items : List HeaderValue)
  | table (members : List (String × HeaderValue))

abbrev Headers := List (String × HeaderValue)

def REDELIVERY_COUNT_HEADER : String := "redelivery_count"

def RETRY_ENDPOINT_HEADER : String := "retry_endpoint"

def EXCEPTION_DETAILS_HEADER : String := "exception_details"

def ENDPOINT_HEADER : String := "endpoint"

/-- `headers[key] = value` on a copy of the mapping. -/
def Headers.set (headers : Headers) (key : String) (value : HeaderValue) : Headers :=
  headers.filter (fun entry => entry.1 != key) ++ [(key, value)]

/-- `headers.get(key)`. -/
def Headers.get (headers : Headers) (key : String) : Option HeaderValue :=
  (headers.find? fun entry => entry.1 == key).map (·.2)

/-- `bool(value)`. -/
def HeaderValue.truthy : HeaderValue → Bool
  | .null => false
  | .bool b => b
  | .int n => n != 0
  | .float x => x != .finite 0
  | .str s => s != ""
  | .bytes b => !b.isEmpty
  | .decimal q => q != 0
  | .timestamp _ => true
  | .array items => !items.isEmpty
  | .table members => !members.isEmpty

/-- How `int(value)` fails. -/
inductive IntError where
  | TypeError | ValueError | OverflowError
  deriving DecidableEq, Repr

/-- `int(value)`. -/
def HeaderValue.to_int : HeaderValue → Except IntError ℤ
  | .null => .error .TypeError
  | .bool b => .ok (if b then 1 else 0)
  | .int n => .ok n
  | .float (.finite q) => .ok (truncate q)
  | .float .nan => .error .ValueError
  | .float _ => .error .OverflowError
  | .str s => match int_of_str s with
    | some n => .ok n
    | none => .error .ValueError
  | .bytes b => match int_of_bytes b with
    | some n => .ok n
    | none => .error .ValueError
  | .decimal q => .ok (truncate q)
  | .timestamp _ => .error .TypeError
  | .array _ => .error .TypeError
  | .table _ => .error .TypeError

/-- `_redelivery_count`, of which the envelope has a copy: a missing or odd header
counts as zero, but an infinite float overflows the conversion, and that error is not
among those it catches. -/
def _redelivery_count (headers : Headers) : Except IntError ℤ :=
  match headers.get REDELIVERY_COUNT_HEADER with
  | none => .ok 0
  | some value =>
    if value.truthy then
      match value.to_int with
      | .ok n => .ok n
      | .error .OverflowError => .error .OverflowError
      | .error _ => .ok 0
    else .ok 0

theorem Headers.get_set (headers : Headers) (key : String) (value : HeaderValue) :
    (headers.set key value).get key = some value := by
  have hnone : (headers.filter fun entry => entry.1 != key).find? (fun entry => entry.1 == key)
      = none := by
    rw [List.find?_eq_none]
    intro entry hentry
    simpa using (List.mem_filter.mp hentry).2
  simp [Headers.get, Headers.set, List.find?_append, hnone]

theorem Headers.get_set_of_ne (headers : Headers) {key key' : String} (value : HeaderValue)
    (h : key' ≠ key) : (headers.set key value).get key' = headers.get key' := by
  have hkeep : (headers.filter fun entry => entry.1 != key).find? (fun entry => entry.1 == key')
      = headers.find? fun entry => entry.1 == key' := by
    induction headers with
    | nil => rfl
    | cons entry rest ih =>
        by_cases he : entry.1 = key'
        · simp [he, h]
        · by_cases hk : entry.1 = key
          · simp [hk, Ne.symm h, ih]
          · simp [he, hk, ih]
  have hlast : (key == key') = false := by simpa using Ne.symm h
  simp [Headers.get, Headers.set, List.find?_append, hkeep, hlast]

/-- A counter that is written as a number is read as that number. -/
theorem redelivery_count_of_int {headers : Headers} {n : ℤ}
    (h : headers.get REDELIVERY_COUNT_HEADER = some (.int n)) :
    _redelivery_count headers = .ok n := by
  rw [_redelivery_count, h]
  by_cases hn : n = 0
  · simp [HeaderValue.truthy, hn]
  · simp [HeaderValue.truthy, HeaderValue.to_int, hn]

/-! ## 3. Rows, messages, envelopes -/

/-- A domain message: its wire type, and its `to_body()`. -/
structure IntegrationMessage where
  message_type : String
  body : Body

/-- `message_type`, as `__init_subclass__` leaves it: an empty one is replaced by the name
of the class. -/
def IntegrationMessage.declared_type (class_name : String) (declared : Option String) : String :=
  match declared with
  | none => class_name
  | some name => if name = "" then class_name else name

structure MessageDestination where
  exchange : String
  routing_key : String
  deriving DecidableEq, Repr

inductive OutboxStatus where
  | PENDING | SENT
  deriving DecidableEq, Repr

/-- A row of an outbox; `created_at` is set by the database when the row is inserted. -/
structure OutboxMessage where
  message_id : Uuid
  message_type : String
  exchange : String
  routing_key : String
  body : Body
  headers : Headers
  status : OutboxStatus
  sent_at : Option ℕ
  created_at : ℕ

namespace OutboxMessage

/-- `schedule`, with the identifier `uuid4()` answers. -/
def schedule (message : IntegrationMessage) (destination : MessageDestination)
    (message_id : Uuid) (created_at : ℕ) : OutboxMessage where
  message_id
  message_type := message.message_type
  exchange := destination.exchange
  routing_key := destination.routing_key
  body := message.body
  headers := []
  status := .PENDING
  sent_at := none
  created_at

/-- `mark_as_sent`. -/
def mark_as_sent (self : OutboxMessage) (now : ℕ) : OutboxMessage :=
  { self with status := .SENT, sent_at := some now }

end OutboxMessage

/-- An AMQP message, as `aio_pika` sends and delivers it. -/
structure Message where
  body : Bytes
  content_type : Option String
  message_id : Option String
  type : Option String
  headers : Headers

/-- What the broker was handed: a message, and where. -/
structure Publication where
  exchange : String
  routing_key : String
  message : Message

/-- `publish`, as the relay calls it for one row. -/
def OutboxMessage.publication (json : JsonModule) (row : OutboxMessage) : Publication where
  exchange := row.exchange
  routing_key := row.routing_key
  message :=
    { body := json.dumps row.body
      content_type := some "application/json"
      message_id := some row.message_id.str
      type := some row.message_type
      headers := row.headers }

/-- What a handler is given. -/
structure MessageEnvelope where
  message_id : Uuid
  message_type : String
  body : Body
  headers : Headers

end TradeLogistics.MessageBus
