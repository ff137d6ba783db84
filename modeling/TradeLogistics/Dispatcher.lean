/-
The inbox dispatcher: one delivered message, every handler subscribed to its type, each
attempted a few times.

Here the statements of `InboxAttempts` stand in their order, inside the `try` blocks they
are in, and how each `await` ends is an input. A run of one handler depends on the
database only through the rows of its own key, and changes only those and its own
effects. So handlers of different names are independent, and what a dispatch does for
one of them is what it would do for it alone; that is how the loop over the subscribers
is taken apart below.
-/
import TradeLogistics.InboxAttempts
import Mathlib.Data.List.Sort

set_option autoImplicit false

namespace TradeLogistics.MessageBus

open TradeLogistics.PyText TradeLogistics.PyAsync TradeLogistics.Runs

/-! ## 1. The registry -/

/-- `MessageHandlerRegistry`, its dictionary. -/
abbrev MessageHandlerRegistry := List (String × List MessageHandler)

namespace MessageHandlerRegistry

/-- `setdefault` on the type, and the append to the list found there. -/
def subscribe (message_type : String) (handler : MessageHandler) :
    MessageHandlerRegistry → MessageHandlerRegistry
  | [] => [(message_type, [handler])]
  | (key, subscribers) :: rest =>
    if key = message_type then
      (key, if handler ∈ subscribers then subscribers else subscribers ++ [handler]) :: rest
    else (key, subscribers) :: subscribe message_type handler rest

/-- `register`. -/
def register (registry : MessageHandlerRegistry) (handler : MessageHandler) :
    MessageHandlerRegistry :=
  subscribe handler.message_type handler registry

/-- `register_all`, on a registry that is empty. -/
def register_all (handlers : List MessageHandler) : MessageHandlerRegistry :=
  handlers.foldl register []

/-- `handlers_for`, of a type's name. -/
def handlers_for (registry : MessageHandlerRegistry) (message_type : String) :
    List MessageHandler :=
  (registry.lookup message_type).getD []

/-- `subscribed_types`. -/
def subscribed_types (registry : MessageHandlerRegistry) : List String :=
  (registry.map (·.1)).insertionSort fun a b => a ≤ b

end MessageHandlerRegistry

/-! ### The registry's order -/

namespace MessageHandlerRegistry

theorem handlers_for_subscribe (message_type : String) (handler : MessageHandler)
    (registry : MessageHandlerRegistry) (key : String) :
    (subscribe message_type handler registry).handlers_for key
      = if key = message_type then
          (if handler ∈ registry.handlers_for message_type then registry.handlers_for message_type
            else registry.handlers_for message_type ++ [handler])
        else registry.handlers_for key := by
  induction registry with
  | nil =>
      by_cases h : key = message_type
      · simp [subscribe, handlers_for, h]
      · simp [subscribe, handlers_for, List.lookup_cons, beq_false_of_ne h, h]
  | cons entry rest ih =>
      obtain ⟨type, subscribers⟩ := entry
      by_cases htype : type = message_type
      · by_cases h : key = message_type
        · simp [subscribe, handlers_for, htype, h]
        · simp [subscribe, handlers_for, htype, h, List.lookup_cons, beq_false_of_ne h]
      · have hne : (message_type == type) = false := beq_false_of_ne (Ne.symm htype)
        simp only [handlers_for] at ih
        by_cases hkey : key = type
        · subst hkey
          simp [subscribe, handlers_for, htype]
        · simp only [subscribe, handlers_for, htype, if_false, List.lookup_cons,
            beq_false_of_ne hkey, hne]
          exact ih

/-- No class is subscribed twice. -/
theorem handlers_for_nodup (handlers : List MessageHandler) (message_type : String) :
    ((register_all handlers).handlers_for message_type).Nodup := by
  have hfold : ∀ registry : MessageHandlerRegistry,
      (∀ key, (registry.handlers_for key).Nodup) →
      ∀ key, ((handlers.foldl register registry).handlers_for key).Nodup := by
    induction handlers with
    | nil => exact fun registry h => h
    | cons handler rest ih =>
        intro registry h
        refine ih _ fun key => ?_
        rw [register, handlers_for_subscribe]
        split
        · split
          · exact h _
          · next hnot =>
              rw [List.nodup_append]
              refine ⟨h _, List.nodup_singleton handler, fun a ha b hb => ?_⟩
              rw [List.mem_singleton] at hb
              subst hb
              rintro rfl
              exact hnot ha
        · exact h key
  exact hfold [] (fun _ => List.nodup_nil) message_type

/-- Only what was registered is subscribed. -/
theorem mem_of_mem_handlers_for {handlers : List MessageHandler} {message_type : String}
    {handler : MessageHandler}
    (h : handler ∈ (register_all handlers).handlers_for message_type) : handler ∈ handlers := by
  have hfold : ∀ (rest : List MessageHandler) (registry : MessageHandlerRegistry),
      (∀ key, ∀ other ∈ registry.handlers_for key, other ∈ handlers) →
      (∀ other ∈ rest, other ∈ handlers) →
      ∀ key, ∀ other ∈ (rest.foldl register registry).handlers_for key, other ∈ handlers := by
    intro rest
    induction rest with
    | nil => exact fun registry hregistry _ => hregistry
    | cons first rest ih =>
        intro registry hregistry hrest
        refine ih _ (fun key other hother => ?_)
          fun other hother => hrest other (List.mem_cons_of_mem first hother)
        rw [register, handlers_for_subscribe] at hother
        split at hother
        · split at hother
          · exact hregistry _ other hother
          · rw [List.mem_append, List.mem_singleton] at hother
            rcases hother with hother | rfl
            · exact hregistry _ other hother
            · exact hrest other List.mem_cons_self
        · exact hregistry key other hother
  exact hfold handlers [] (by simp [handlers_for]) (fun _ h => h) message_type handler h

end MessageHandlerRegistry

/-! ## 2. The dispatcher -/

/-- How the awaits of one attempt end, and what its handler's run depends on. -/
structure AttemptFate (χ : Type*) where
  enter : Fate
  was_handled : Fate
  handle : Fate
  choice : χ
  record : Fate
  commit : RemoteCall
  rollback : Fate
  leave : Fate

/-- One attempt that was made, and how it ended. -/
structure AttemptMade where
  handler : MessageHandler
  attempt : ℕ
  ending : Outcome Bool

/-- What a dispatch works on: the committed database, and the attempts so far. -/
structure Worker (W : Type*) where
  database : ModuleDatabase W
  attempts : List AttemptMade

section Dispatcher

variable {χ W : Type}

open Async

/-- The statements inside the `try` of `_attempt`. -/
def transaction (handle : Handling χ W) (handler : MessageHandler) (envelope : MessageEnvelope)
    (fate : AttemptFate χ) : Async (ModuleDatabase W) Bool := do
  await fate.was_handled
  let already_handled ← reading fun db =>
    db.was_handled envelope.message_id handler.handler_name
  if already_handled then return false
  await fate.handle
  let writes ← reading fun _ => handle handler envelope fate.choice
  await fate.record
  reading fun db => db.record (inbox_row handler envelope)
  send fate.commit fun db => db.commit handler envelope writes
  return true

/-- `_attempt`. Closing the session is the last thing on every way out. -/
def _attempt (handle : Handling χ W) (handler : MessageHandler) (envelope : MessageEnvelope)
    (fate : AttemptFate χ) : Async (ModuleDatabase W) Bool := do
  await fate.enter
  try_finally
    (try_except (transaction handle handler envelope fate)
      (fun error => do
        await fate.rollback
        raise error))
    (await fate.leave)

/-- An attempt on the worker's database, noted as it is in the log. -/
def noted (handler : MessageHandler) (attempt : ℕ) (m : Async (ModuleDatabase W) Bool) :
    Async (Worker W) Bool := fun worker =>
  match m worker.database with
  | (ending, database) =>
    (ending, { database, attempts := worker.attempts ++ [⟨handler, attempt, ending⟩] })

/-- The `for` of `_run`, from the attempts still to make and the last error. -/
def _run_loop (handle : Handling χ W) (handler : MessageHandler) (envelope : MessageEnvelope)
    (fates : ℕ → AttemptFate χ) (last_error : Option PyException) :
    List ℕ → Async (Worker W) Unit
  | [] => raise (last_error.getD ⟨"AssertionError", "unreachable", []⟩)
  | attempt :: rest => do
    let failure ← try_except
      (do
        let _ ← noted handler attempt (_attempt handle handler envelope (fates attempt))
        return none)
      (fun error => return some error)
    match failure with
    | none => return ()
    | some error => _run_loop handle handler envelope fates (some error) rest

/-- `range(1, self._immediate_retries + 2)`. -/
def attempt_range (immediate_retries : ℤ) : List ℕ :=
  List.range' 1 (max immediate_retries 0 + 1).toNat

/-- `_run`. -/
def _run (handle : Handling χ W) (immediate_retries : ℤ) (handler : MessageHandler)
    (envelope : MessageEnvelope) (fates : ℕ → AttemptFate χ) : Async (Worker W) Unit :=
  _run_loop handle handler envelope fates none (attempt_range immediate_retries)

/-- The `for` of `dispatch`, from the subscribers still to run and the failures so far. -/
def dispatch_loop (handle : Handling χ W) (immediate_retries : ℤ) (envelope : MessageEnvelope)
    (fates : MessageHandler → ℕ → AttemptFate χ) (failures : List PyException) :
    List MessageHandler → Async (Worker W) (List PyException)
  | [] => return failures
  | handler :: rest => do
    let failure ← try_except
      (do
        _run handle immediate_retries handler envelope (fates handler)
        return none)
      (fun error => return some error)
    dispatch_loop handle immediate_retries envelope fates (failures ++ failure.toList) rest

/-- The error of a dispatch that failed. -/
def MessageHandlingError (envelope : MessageEnvelope) (failures : List PyException) :
    PyException where
  type_name := "MessageHandlingError"
  text := s!"{failures.length} handler(s) failed for message {envelope.message_id.str} of type {envelope.message_type}."
  failures := failures

/-- `dispatch`. -/
def dispatch (handle : Handling χ W) (registry : MessageHandlerRegistry) (immediate_retries : ℤ)
    (envelope : MessageEnvelope) (fates : MessageHandler → ℕ → AttemptFate χ) :
    Async (Worker W) Unit := do
  let subscribers := registry.handlers_for envelope.message_type
  if subscribers = [] then return ()
  let failures ← dispatch_loop handle immediate_retries envelope fates [] subscribers
  if failures.isEmpty then return () else raise (MessageHandlingError envelope failures)

/-! ## 3. What one attempt does

It depends on the database only through the number of rows of its own key. Given that
number, how it ends and what it commits are functions of its fate. -/

/-- How many inbox rows a handler has for a message. -/
def ModuleDatabase.row_count (db : ModuleDatabase W) (handler : MessageHandler)
    (message_id : Uuid) : ℕ :=
  (db.rows_of message_id handler.handler_name).length

/-- The database after a transaction that committed, or did not. -/
def ModuleDatabase.after (db : ModuleDatabase W) (handler : MessageHandler)
    (envelope : MessageEnvelope) : Option W → ModuleDatabase W
  | none => db
  | some writes => db.commit handler envelope writes

/-- How the statements in the `try` end, by the number of rows found. -/
def transaction_ending (handle : Handling χ W) (handler : MessageHandler)
    (envelope : MessageEnvelope) (fate : AttemptFate χ) (rows : ℕ) : Outcome Bool :=
  fate.was_handled.then <| match rows with
    | 0 => fate.handle.then <| match handle handler envelope fate.choice with
      | .error error => .raised error
      | .ok _ => fate.record.then <| fate.commit.fate.then <| .returned true
    | 1 => .returned false
    | _ + 2 => .raised ⟨"MultipleResultsFound",
      "Multiple rows were found when one or none was required", []⟩

/-- How an attempt ends. -/
def attempt_ending (handle : Handling χ W) (handler : MessageHandler)
    (envelope : MessageEnvelope) (fate : AttemptFate χ) (rows : ℕ) : Outcome Bool :=
  fate.enter.then <| fate.leave.then <|
    match transaction_ending handle handler envelope fate rows with
    | .raised error => fate.rollback.then (.raised error)
    | ending => ending

/-- What an attempt that finds no row commits, if its commit takes effect. -/
def AttemptFate.written (handle : Handling χ W) (handler : MessageHandler)
    (envelope : MessageEnvelope) (fate : AttemptFate χ) : Option W :=
  match fate.enter, fate.was_handled, fate.handle, handle handler envelope fate.choice,
    fate.record, fate.commit.took_effect with
  | .completes, .completes, .completes, .ok writes, .completes, true => some writes
  | _, _, _, _, _, _ => none

/-- What an attempt commits. -/
def attempt_written (handle : Handling χ W) (handler : MessageHandler)
    (envelope : MessageEnvelope) (fate : AttemptFate χ) (rows : ℕ) : Option W :=
  if rows = 0 then fate.written handle handler envelope else none

/-- A commit that takes effect, in an attempt that ends as if it had not. -/
def AttemptFate.Unreported (fate : AttemptFate χ) : Prop :=
  fate.commit.took_effect = true ∧ ¬ (fate.commit.fate = .completes ∧ fate.leave = .completes)

theorem was_handled_eq (db : ModuleDatabase W) (handler : MessageHandler) (message_id : Uuid) :
    db.was_handled message_id handler.handler_name = match db.row_count handler message_id with
      | 0 => .ok false
      | 1 => .ok true
      | _ + 2 => .error ⟨"MultipleResultsFound",
        "Multiple rows were found when one or none was required", []⟩ := by
  unfold ModuleDatabase.was_handled ModuleDatabase.row_count
  rcases db.rows_of message_id handler.handler_name with _ | ⟨row, _ | ⟨other, rest⟩⟩ <;> rfl

/-- A key with no row is free. -/
theorem record_eq {db : ModuleDatabase W} {handler : MessageHandler} {envelope : MessageEnvelope}
    (h : db.row_count handler envelope.message_id = 0) :
    db.record (inbox_row handler envelope) = .ok () := by
  have hfree : db.holds (inbox_row handler envelope) = false := by
    rw [ModuleDatabase.row_count, List.length_eq_zero_iff, ModuleDatabase.rows_of,
      List.filter_eq_nil_iff] at h
    rw [ModuleDatabase.holds, List.any_eq_false]
    intro row hrow
    have hne := h row hrow
    simpa [InboxMessage.key, inbox_row] using hne
  rw [ModuleDatabase.record, hfree]
  rfl

theorem transaction_apply (handle : Handling χ W) (handler : MessageHandler)
    (envelope : MessageEnvelope) (fate : AttemptFate χ) (db : ModuleDatabase W)
    (henter : fate.enter = .completes) :
    transaction handle handler envelope fate db
      = (transaction_ending handle handler envelope fate
          (db.row_count handler envelope.message_id),
        db.after handler envelope (attempt_written handle handler envelope fate
          (db.row_count handler envelope.message_id))) := by
  have hread := was_handled_eq db handler envelope.message_id
  unfold transaction transaction_ending attempt_written AttemptFate.written
  rw [henter]
  -- statement by statement: whatever ends the transaction early ends both sides alike
  cases fate.was_handled with
  | raises e => cases db.row_count handler envelope.message_id <;> rfl
  | cancelled => cases db.row_count handler envelope.message_id <;> rfl
  | completes =>
      rw [await_completes_bind, reading_bind, hread]
      rcases hrows : db.row_count handler envelope.message_id with _ | _ | n
      · simp only [Bool.false_eq_true, if_false]
        cases fate.handle with
        | raises e => rfl
        | cancelled => rfl
        | completes =>
            rw [await_completes_bind, reading_bind]
            cases handle handler envelope fate.choice with
            | error e => rfl
            | ok writes =>
                cases fate.record with
                | raises e => rfl
                | cancelled => rfl
                | completes =>
                    simp only [await_completes_bind, reading_bind, record_eq hrows]
                    obtain ⟨_ | _ | _, _ | _⟩ := fate.commit <;> rfl
      · rfl
      · rfl

/-- **One attempt.** -/
theorem attempt_apply (handle : Handling χ W) (handler : MessageHandler)
    (envelope : MessageEnvelope) (fate : AttemptFate χ) (db : ModuleDatabase W) :
    _attempt handle handler envelope fate db
      = (attempt_ending handle handler envelope fate (db.row_count handler envelope.message_id),
        db.after handler envelope (attempt_written handle handler envelope fate
          (db.row_count handler envelope.message_id))) := by
  unfold _attempt attempt_ending
  cases henter : fate.enter with
  | raises e => simp [attempt_written, AttemptFate.written, henter, ModuleDatabase.after]
  | cancelled => simp [attempt_written, AttemptFate.written, henter, ModuleDatabase.after]
  | completes =>
      rw [await_completes_bind, Fate.completes_then, try_finally, try_except,
        transaction_apply handle handler envelope fate db henter]
      cases transaction_ending handle handler envelope fate
        (db.row_count handler envelope.message_id) with
      | returned handled => cases fate.leave <;> rfl
      | cancelled => cases fate.leave <;> rfl
      | raised e => cases fate.rollback <;> cases fate.leave <;> rfl

/-- An attempt returns only when its key has exactly one row afterwards. -/
theorem attempt_returned {handle : Handling χ W} {handler : MessageHandler}
    {envelope : MessageEnvelope} {fate : AttemptFate χ} {rows : ℕ} {handled : Bool}
    (h : attempt_ending handle handler envelope fate rows = .returned handled) :
    rows = 1 ∨ (rows = 0 ∧ ∃ writes, fate.written handle handler envelope = some writes) := by
  rw [attempt_ending, Fate.then_eq_returned, Fate.then_eq_returned] at h
  obtain ⟨henter, -, h⟩ := h
  have htransaction : transaction_ending handle handler envelope fate rows = .returned handled := by
    split at h
    · simp [Fate.then_eq_returned] at h
    · exact h
  unfold transaction_ending at htransaction
  rw [Fate.then_eq_returned] at htransaction
  obtain ⟨hread, hrows⟩ := htransaction
  -- `scalar_one_or_none` raises on a second row, so there is none, or one
  rcases rows with _ | _ | n
  · refine .inr ⟨rfl, ?_⟩
    simp only [Fate.then_eq_returned] at hrows
    obtain ⟨hhandle, hrows⟩ := hrows
    cases hwrites : handle handler envelope fate.choice with
    | error e => simp [hwrites] at hrows
    | ok writes =>
        simp only [hwrites, Fate.then_eq_returned] at hrows
        obtain ⟨hrecord, hcommit, -⟩ := hrows
        refine ⟨writes, ?_⟩
        simp [AttemptFate.written, henter, hread, hhandle, hwrites, hrecord,
          RemoteCall.took_effect, hcommit]
  · exact .inl rfl
  · simp at hrows

/-- An attempt that commits and does not return has left its commit unreported. -/
theorem attempt_unreported {handle : Handling χ W} {handler : MessageHandler}
    {envelope : MessageEnvelope} {fate : AttemptFate χ} {writes : W} {error : PyException}
    (h : attempt_ending handle handler envelope fate 0 = .raised error)
    (hwritten : fate.written handle handler envelope = some writes) : fate.Unreported := by
  unfold AttemptFate.written at hwritten
  split at hwritten
  · next henter hread hhandle hok hrecord heffect =>
      refine ⟨heffect, fun ⟨hcommit, hleave⟩ => ?_⟩
      simp [attempt_ending, transaction_ending, henter, hread, hhandle, hok, hrecord, hcommit,
        hleave] at h
  · simp at hwritten

/-! ## 4. One handler -/

/-- What a run of one handler does: how it ends, what it commits, what it attempts. -/
structure Ran (W : Type) where
  ending : Outcome Unit
  written : Option W
  made : List AttemptMade

/-- A run, from a given worker. -/
def Ran.on (ran : Ran W) (handler : MessageHandler) (envelope : MessageEnvelope)
    (worker : Worker W) : Outcome Unit × Worker W :=
  (ran.ending, { database := worker.database.after handler envelope ran.written,
                 attempts := worker.attempts ++ ran.made })

/-- How a run ends whose last attempt ended so. -/
def ending_of (last_error : Option PyException) : Option AttemptMade → Outcome Unit
  | none => .raised (last_error.getD ⟨"AssertionError", "unreachable", []⟩)
  | some attempt => match attempt.ending with
    | .returned _ => .returned ()
    | .raised error => .raised error
    | .cancelled => .cancelled

/-- What is true of a run over some attempts, from a database with some rows of its key. -/
structure Ran.Sound (ran : Ran W) (handle : Handling χ W) (handler : MessageHandler)
    (envelope : MessageEnvelope) (fates : ℕ → AttemptFate χ) (last_error : Option PyException)
    (attempts : List ℕ) (rows : ℕ) : Prop where
  fresh : ∀ writes, ran.written = some writes → rows = 0
  returned : ran.ending = .returned () →
    rows = 1 ∨ (rows = 0 ∧ ∃ writes, ran.written = some writes)
  own : ∀ attempt ∈ ran.made, attempt.handler = handler
  numbered : (ran.made.map AttemptMade.attempt) <+: attempts
  complete : ∀ error, ran.ending = .raised error → ran.made.map AttemptMade.attempt = attempts
  failing : ∀ attempt ∈ ran.made.dropLast, ∃ error, attempt.ending = .raised error
  ending_eq : ran.ending = ending_of last_error ran.made.getLast?
  unreported : ∀ error writes, ran.ending = .raised error → ran.written = some writes →
    ∃ attempt ∈ attempts, (fates attempt).Unreported
  effective : rows = 0 → ((∃ writes, ran.written = some writes) ↔
    ∃ attempt ∈ ran.made, ∃ writes, (fates attempt.attempt).written handle handler envelope
      = some writes)

theorem row_count_after (db : ModuleDatabase W) (handler : MessageHandler)
    (envelope : MessageEnvelope) (written : Option W) :
    (db.after handler envelope written).row_count handler envelope.message_id
      = db.row_count handler envelope.message_id + written.toList.length := by
  cases written with
  | none => rfl
  | some writes =>
      simp [ModuleDatabase.after, ModuleDatabase.row_count, ModuleDatabase.rows_of,
        ModuleDatabase.commit, inbox_row]

/-- A worker after one more attempt. -/
def Worker.attempted (worker : Worker W) (handler : MessageHandler) (envelope : MessageEnvelope)
    (written : Option W) (attempt : ℕ) (ending : Outcome Bool) : Worker W where
  database := worker.database.after handler envelope written
  attempts := worker.attempts ++ [⟨handler, attempt, ending⟩]

/-- The first attempt of a loop, and what is left to do after it. -/
theorem run_loop_cons (handle : Handling χ W) {handler : MessageHandler}
    {envelope : MessageEnvelope} (fates : ℕ → AttemptFate χ) (last_error : Option PyException)
    (attempt : ℕ) (rest : List ℕ) {worker : Worker W} {rows : ℕ}
    (hrows : worker.database.row_count handler envelope.message_id = rows) :
    _run_loop handle handler envelope fates last_error (attempt :: rest) worker
      = match attempt_ending handle handler envelope (fates attempt) rows with
        | .returned handled => (.returned (), worker.attempted handler envelope
            (attempt_written handle handler envelope (fates attempt) rows) attempt
            (.returned handled))
        | .raised error => _run_loop handle handler envelope fates (some error) rest
            (worker.attempted handler envelope
              (attempt_written handle handler envelope (fates attempt) rows) attempt
              (.raised error))
        | .cancelled => (.cancelled, worker.attempted handler envelope
            (attempt_written handle handler envelope (fates attempt) rows) attempt .cancelled) := by
  rw [_run_loop]
  simp only [bind_apply, try_except, noted, attempt_apply, hrows]
  cases attempt_ending handle handler envelope (fates attempt) rows <;> rfl

/-- An attempt commits only what its fate writes, and only where there is no row. -/
theorem attempt_written_eq_some {handle : Handling χ W} {handler : MessageHandler}
    {envelope : MessageEnvelope} {fate : AttemptFate χ} {rows : ℕ} {writes : W} :
    attempt_written handle handler envelope fate rows = some writes
      ↔ rows = 0 ∧ fate.written handle handler envelope = some writes := by
  simp [attempt_written]

/-- A run whose first attempt does not raise ends with it. -/
theorem sound_of_first {handle : Handling χ W} {handler : MessageHandler}
    {envelope : MessageEnvelope} {fates : ℕ → AttemptFate χ} {last_error : Option PyException}
    {attempt : ℕ} {rest : List ℕ} {rows : ℕ} {ending : Outcome Bool}
    (h : attempt_ending handle handler envelope (fates attempt) rows = ending)
    (hnot : ∀ error, ending ≠ .raised error) :
    Ran.Sound ⟨ending_of none (some ⟨handler, attempt, ending⟩),
        attempt_written handle handler envelope (fates attempt) rows, [⟨handler, attempt, ending⟩]⟩
      handle handler envelope fates last_error (attempt :: rest) rows := by
  have hending : ∀ error, ending_of none (some ⟨handler, attempt, ending⟩) ≠ .raised error := by
    intro error
    cases ending with
    | raised e => exact absurd rfl (hnot e)
    | _ => simp [ending_of]
  -- the loop stops here: the clauses about a run that raises are void
  constructor
  · intro writes hwrites
    exact (attempt_written_eq_some.mp hwrites).1
  · intro hreturned
    cases ending with
    | returned handled =>
        rcases attempt_returned h with hone | ⟨hzero, hwritten⟩
        · exact .inl hone
        · simp only [attempt_written, hzero, if_true]
          exact .inr ⟨trivial, hwritten⟩
    | _ => simp [ending_of] at hreturned
  · simp
  · simp
  · intro error herror
    exact absurd herror (hending error)
  · simp
  · rfl
  · intro error writes herror
    exact absurd herror (hending error)
  · intro hzero
    simp [attempt_written, hzero]

/-- What two transactions of one key commit, where at most one of them commits. -/
theorem after_after (db : ModuleDatabase W) (handler : MessageHandler) (envelope : MessageEnvelope)
    {first second : Option W} (h : first = none ∨ second = none) :
    (db.after handler envelope first).after handler envelope second
      = db.after handler envelope (first.or second) := by
  rcases h with rfl | rfl
  · cases second <;> rfl
  · cases first <;> rfl

/-- A run whose first attempt raises goes on as a run over the rest. -/
theorem sound_of_rest {handle : Handling χ W} {handler : MessageHandler}
    {envelope : MessageEnvelope} {fates : ℕ → AttemptFate χ} {last_error : Option PyException}
    {attempt : ℕ} {rest : List ℕ} {rows : ℕ} {error : PyException} {ran : Ran W}
    (h : attempt_ending handle handler envelope (fates attempt) rows = .raised error)
    (hran : ran.Sound handle handler envelope fates (some error) rest (rows
      + (attempt_written handle handler envelope (fates attempt) rows).toList.length)) :
    Ran.Sound ⟨ran.ending,
        (attempt_written handle handler envelope (fates attempt) rows).or ran.written,
        ⟨handler, attempt, .raised error⟩ :: ran.made⟩
      handle handler envelope fates last_error (attempt :: rest) rows := by
  have hfailing : ∀ made ∈ (⟨handler, attempt, .raised error⟩ :: ran.made : List _).dropLast,
      ∃ e, AttemptMade.ending made = .raised e := by
    intro a ha
    rcases hmade : ran.made with _ | ⟨b, made⟩
    · simp [hmade] at ha
    · rw [hmade, List.dropLast_cons_of_ne_nil (List.cons_ne_nil b made), List.mem_cons] at ha
      rcases ha with rfl | ha
      · exact ⟨error, rfl⟩
      · exact hran.failing a (hmade ▸ ha)
  have hending : ran.ending
      = ending_of last_error (⟨handler, attempt, .raised error⟩ :: ran.made : List _).getLast? := by
    rw [hran.ending_eq]
    rcases ran.made with _ | ⟨b, made⟩
    · rfl
    · rw [List.getLast?_cons_cons, List.getLast?_eq_some_getLast (List.cons_ne_nil b made)]
      rfl
  cases hwritten : attempt_written handle handler envelope (fates attempt) rows with
  | none =>
      rw [hwritten] at hran
      refine ⟨hran.fresh, hran.returned, by simpa using hran.own, by simpa using hran.numbered,
        fun e he => by simpa using hran.complete e he, hfailing, hending, ?_, ?_⟩
      · intro e writes he hw
        obtain ⟨j, hj, hun⟩ := hran.unreported e writes he hw
        exact ⟨j, List.mem_cons_of_mem attempt hj, hun⟩
      · intro hzero
        have hnone : (fates attempt).written handle handler envelope = none := by
          simpa [attempt_written, hzero] using hwritten
        simpa [hnone] using hran.effective hzero
  | some writes =>
      rw [hwritten] at hran
      obtain ⟨hzero, hfate⟩ := attempt_written_eq_some.mp hwritten
      -- The row is there now, so nothing later in the run commits.
      refine ⟨fun _ _ => hzero, fun _ => .inr ⟨hzero, writes, rfl⟩, by simpa using hran.own,
        by simpa using hran.numbered, fun e he => by simpa using hran.complete e he, hfailing,
        hending, ?_, ?_⟩
      · intro e _ _ _
        rw [hzero] at h
        exact ⟨attempt, List.mem_cons_self, attempt_unreported h hfate⟩
      · intro _
        refine iff_of_true ⟨writes, rfl⟩ ⟨_, List.mem_cons_self, writes, hfate⟩

/-- **One handler.** What a run does is fixed by its fates and the number of rows found. -/
theorem run_loop_sound (handle : Handling χ W) (handler : MessageHandler)
    (envelope : MessageEnvelope) (fates : ℕ → AttemptFate χ) :
    ∀ (attempts : List ℕ) (last_error : Option PyException) (rows : ℕ),
      ∃ ran : Ran W, ran.Sound handle handler envelope fates last_error attempts rows
        ∧ ∀ worker : Worker W, worker.database.row_count handler envelope.message_id = rows →
          _run_loop handle handler envelope fates last_error attempts worker
            = ran.on handler envelope worker := by
  intro attempts
  induction attempts with
  | nil =>
      intro last_error rows
      refine ⟨⟨ending_of last_error none, none, []⟩, ?_, fun worker _ => ?_⟩
      · constructor <;> simp [ending_of]
      · simp [Ran.on, ModuleDatabase.after, _run_loop, raise, ending_of]
  | cons attempt rest ih =>
      intro last_error rows
      cases hending : attempt_ending handle handler envelope (fates attempt) rows with
      | returned handled =>
          refine ⟨_, sound_of_first hending (by simp), fun worker hrows => ?_⟩
          rw [run_loop_cons handle fates last_error attempt rest hrows, hending]
          rfl
      | cancelled =>
          refine ⟨_, sound_of_first hending (by simp), fun worker hrows => ?_⟩
          rw [run_loop_cons handle fates last_error attempt rest hrows, hending]
          rfl
      | raised error =>
          obtain ⟨ran, hran, hrun⟩ := ih (some error) (rows
            + (attempt_written handle handler envelope (fates attempt) rows).toList.length)
          refine ⟨_, sound_of_rest hending hran, fun worker hrows => ?_⟩
          rw [run_loop_cons handle fates last_error attempt rest hrows, hending]
          have hafter := row_count_after worker.database handler envelope
            (attempt_written handle handler envelope (fates attempt) rows)
          rw [hrows] at hafter
          refine (hrun _ hafter).trans ?_
          -- the rest finds the row of a first attempt that committed
          have honce : attempt_written handle handler envelope (fates attempt) rows = none
              ∨ ran.written = none := by
            cases hfirst : attempt_written handle handler envelope (fates attempt) rows with
            | none => exact .inl rfl
            | some first =>
                cases hsecond : ran.written with
                | none => exact .inr rfl
                | some second =>
                    have hzero := hran.fresh second hsecond
                    simp [hfirst] at hzero
          simp [Ran.on, Worker.attempted, after_after _ _ _ honce]

/-! ## 5. The loop over the subscribers

Handlers of different names do not meet: not in the inbox, not in what they write, not
in the log. So each is served as if it were alone. -/

/-- The attempts made for one handler. -/
def Worker.attempts_of (worker : Worker W) (handler : MessageHandler) : List AttemptMade :=
  worker.attempts.filter fun attempt => attempt.handler = handler

/-- Nothing has happened between two states that concerns this handler. -/
structure SameFor (handler : MessageHandler) (message_id : Uuid) (worker worker' : Worker W) :
    Prop where
  rows : worker'.database.row_count handler message_id
    = worker.database.row_count handler message_id
  effects : worker'.database.effects_of handler message_id
    = worker.database.effects_of handler message_id
  attempts : worker'.attempts_of handler = worker.attempts_of handler

theorem SameFor.refl (handler : MessageHandler) (message_id : Uuid) (worker : Worker W) :
    SameFor handler message_id worker worker := ⟨rfl, rfl, rfl⟩

theorem SameFor.trans {handler : MessageHandler} {message_id : Uuid} {a b c : Worker W}
    (hab : SameFor handler message_id a b) (hbc : SameFor handler message_id b c) :
    SameFor handler message_id a c :=
  ⟨hbc.rows.trans hab.rows, hbc.effects.trans hab.effects, hbc.attempts.trans hab.attempts⟩

/-- What a run does for its own handler. -/
structure Served (handle : Handling χ W) (immediate_retries : ℤ) (handler : MessageHandler)
    (envelope : MessageEnvelope) (fates : ℕ → AttemptFate χ) (worker worker' : Worker W)
    (ran : Ran W) : Prop where
  sound : ran.Sound handle handler envelope fates none (attempt_range immediate_retries)
    (worker.database.row_count handler envelope.message_id)
  alone : ∀ other : Worker W, other.database.row_count handler envelope.message_id
      = worker.database.row_count handler envelope.message_id →
    _run handle immediate_retries handler envelope fates other = ran.on handler envelope other
  rows : worker'.database.row_count handler envelope.message_id
    = worker.database.row_count handler envelope.message_id + ran.written.toList.length
  effects : worker'.database.effects_of handler envelope.message_id
    = worker.database.effects_of handler envelope.message_id
      ++ ran.written.toList.map fun writes => ⟨handler, envelope.message_id, writes⟩
  attempts : worker'.attempts_of handler = worker.attempts_of handler ++ ran.made

theorem Served.of_same {handle : Handling χ W} {immediate_retries : ℤ} {handler : MessageHandler}
    {envelope : MessageEnvelope} {fates : ℕ → AttemptFate χ} {a b c d : Worker W} {ran : Ran W}
    (hab : SameFor handler envelope.message_id a b)
    (hbc : Served handle immediate_retries handler envelope fates b c ran)
    (hcd : SameFor handler envelope.message_id c d) :
    Served handle immediate_retries handler envelope fates a d ran := by
  constructor
  · rw [← hab.rows]
    exact hbc.sound
  · rw [← hab.rows]
    exact hbc.alone
  · rw [hcd.rows, hbc.rows, hab.rows]
  · rw [hcd.effects, hbc.effects, hab.effects]
  · rw [hcd.attempts, hbc.attempts, hab.attempts]

/-- A run leaves the handlers of other names alone. -/
theorem ran_same {handler other : MessageHandler} {envelope : MessageEnvelope} {ran : Ran W}
    (worker : Worker W) (hown : ∀ attempt ∈ ran.made, attempt.handler = other)
    (hname : other.handler_name ≠ handler.handler_name) :
    SameFor handler envelope.message_id worker (ran.on other envelope worker).2 := by
  have hother : other ≠ handler := fun h => hname (h ▸ rfl)
  constructor
  · cases hwritten : ran.written <;>
      simp [Ran.on, hwritten, ModuleDatabase.after, ModuleDatabase.row_count,
        ModuleDatabase.rows_of, ModuleDatabase.commit, inbox_row, hname]
  · cases hwritten : ran.written <;>
      simp [Ran.on, hwritten, ModuleDatabase.after, ModuleDatabase.effects_of,
        ModuleDatabase.commit, hother]
  · have hnone : ran.made.filter (fun attempt => attempt.handler = handler) = [] := by
      rw [List.filter_eq_nil_iff]
      intro attempt hattempt
      simpa [hown attempt hattempt] using hother
    simp [Ran.on, Worker.attempts_of, hnone]

/-- What a run adds for its own handler. -/
theorem ran_own {handler : MessageHandler} (envelope : MessageEnvelope) {ran : Ran W}
    (worker : Worker W) (hown : ∀ attempt ∈ ran.made, attempt.handler = handler) :
    (ran.on handler envelope worker).2.database.row_count handler envelope.message_id
        = worker.database.row_count handler envelope.message_id + ran.written.toList.length
      ∧ (ran.on handler envelope worker).2.database.effects_of handler envelope.message_id
        = worker.database.effects_of handler envelope.message_id
          ++ ran.written.toList.map (fun writes => ⟨handler, envelope.message_id, writes⟩)
      ∧ (ran.on handler envelope worker).2.attempts_of handler
        = worker.attempts_of handler ++ ran.made := by
  refine ⟨row_count_after worker.database handler envelope ran.written, ?_, ?_⟩
  · cases hwritten : ran.written <;>
      simp [Ran.on, hwritten, ModuleDatabase.after, ModuleDatabase.effects_of,
        ModuleDatabase.commit]
  · have hall : ran.made.filter (fun attempt => attempt.handler = handler) = ran.made := by
      rw [List.filter_eq_self]
      intro attempt hattempt
      simpa using hown attempt hattempt
    simp [Ran.on, Worker.attempts_of, hall]

/-- **A run, on a worker.** -/
theorem run_served (handle : Handling χ W) (immediate_retries : ℤ) (handler : MessageHandler)
    (envelope : MessageEnvelope) (fates : ℕ → AttemptFate χ) (worker : Worker W) :
    ∃ ran : Ran W, Served handle immediate_retries handler envelope fates worker
      (ran.on handler envelope worker).2 ran := by
  obtain ⟨ran, hsound, hrun⟩ := run_loop_sound handle handler envelope fates
    (attempt_range immediate_retries) none (worker.database.row_count handler envelope.message_id)
  obtain ⟨hrows, heffects, hattempts⟩ := ran_own envelope worker hsound.own
  exact ⟨ran, hsound, hrun, hrows, heffects, hattempts⟩

/-- No other subscriber has this one's name. -/
def Unshared (handler : MessageHandler) (subscribers : List MessageHandler) : Prop :=
  ∀ other ∈ subscribers, other.handler_name = handler.handler_name → other = handler

/-- The first subscriber of a loop, and the loop over the others. -/
theorem dispatch_loop_cons {handle : Handling χ W} {immediate_retries : ℤ}
    {envelope : MessageEnvelope} {fates : MessageHandler → ℕ → AttemptFate χ}
    (failures : List PyException) {handler : MessageHandler} (rest : List MessageHandler)
    {worker : Worker W} {ran : Ran W}
    (hrun : _run handle immediate_retries handler envelope (fates handler) worker
      = ran.on handler envelope worker) :
    dispatch_loop handle immediate_retries envelope fates failures (handler :: rest) worker
      = match ran.ending with
        | .returned () => dispatch_loop handle immediate_retries envelope fates failures rest
            (ran.on handler envelope worker).2
        | .raised error => dispatch_loop handle immediate_retries envelope fates
            (failures ++ [error]) rest (ran.on handler envelope worker).2
        | .cancelled => (.cancelled, (ran.on handler envelope worker).2) := by
  rw [dispatch_loop]
  simp only [bind_apply, try_except, hrun]
  cases hending : ran.ending <;> simp [Ran.on, hending]

/-- What a dispatch leaves is what its loop leaves. -/
theorem dispatch_worker (handle : Handling χ W) (registry : MessageHandlerRegistry)
    (immediate_retries : ℤ) (envelope : MessageEnvelope)
    (fates : MessageHandler → ℕ → AttemptFate χ) (worker : Worker W) :
    (dispatch handle registry immediate_retries envelope fates worker).2
      = (dispatch_loop handle immediate_retries envelope fates []
          (registry.handlers_for envelope.message_type) worker).2 := by
  rw [dispatch]
  split
  · next hnone =>
      rw [hnone]
      rfl
  · rw [bind_apply]
    rcases dispatch_loop handle immediate_retries envelope fates []
      (registry.handlers_for envelope.message_type) worker with ⟨ending, after⟩
    cases ending with
    | returned failures =>
        dsimp only
        split <;> rfl
    | raised error => rfl
    | cancelled => rfl

/-- A loop leaves alone the handlers whose name none of its subscribers has. -/
theorem dispatch_loop_same (handle : Handling χ W) (immediate_retries : ℤ)
    (envelope : MessageEnvelope) (fates : MessageHandler → ℕ → AttemptFate χ)
    {handler : MessageHandler} :
    ∀ {subscribers : List MessageHandler} (failures : List PyException) (worker : Worker W),
      (∀ other ∈ subscribers, other.handler_name ≠ handler.handler_name) →
      SameFor handler envelope.message_id worker
        (dispatch_loop handle immediate_retries envelope fates failures subscribers worker).2 := by
  intro subscribers
  induction subscribers with
  | nil =>
      intro failures worker _
      exact SameFor.refl _ _ _
  | cons first rest ih =>
      intro failures worker hnames
      obtain ⟨ran, hran⟩ := run_served handle immediate_retries first envelope (fates first) worker
      have hfirst : SameFor handler envelope.message_id worker (ran.on first envelope worker).2 :=
        ran_same worker hran.sound.own (hnames first List.mem_cons_self)
      have hrest := fun failures => ih failures (ran.on first envelope worker).2
        fun other hother => hnames other (List.mem_cons_of_mem first hother)
      rw [dispatch_loop_cons failures rest (hran.alone worker rfl)]
      cases ran.ending with
      | returned _ => exact hfirst.trans (hrest failures)
      | raised error => exact hfirst.trans (hrest (failures ++ [error]))
      | cancelled => exact hfirst

/-- **The loop over the subscribers.** Unless it is cancelled, it reports some of them,
in their order and each with the error its run ended in, and it has served each whose
name no other has: reported if its run raised, and not reported if it returned. -/
theorem dispatch_loop_served (handle : Handling χ W) (immediate_retries : ℤ)
    (envelope : MessageEnvelope) (fates : MessageHandler → ℕ → AttemptFate χ) :
    ∀ {subscribers : List MessageHandler} (failures : List PyException) (worker : Worker W),
      subscribers.Nodup →
      (dispatch_loop handle immediate_retries envelope fates failures subscribers worker).1
          = .cancelled
      ∨ ∃ reported : List (MessageHandler × PyException),
        (dispatch_loop handle immediate_retries envelope fates failures subscribers worker).1
            = .returned (failures ++ reported.map Prod.snd)
        ∧ (reported.map Prod.fst).Sublist subscribers
        ∧ ∀ handler ∈ subscribers, Unshared handler subscribers → ∃ ran : Ran W,
          Served handle immediate_retries handler envelope (fates handler) worker
            (dispatch_loop handle immediate_retries envelope fates failures subscribers worker).2
            ran
          ∧ ((ran.ending = .returned () ∧ handler ∉ reported.map Prod.fst)
            ∨ ∃ error, ran.ending = .raised error ∧ (handler, error) ∈ reported) := by
  intro subscribers
  induction subscribers with
  | nil =>
      intro failures worker _
      exact .inr ⟨[], by simp [dispatch_loop], List.Sublist.slnil, by simp⟩
  | cons first rest ih =>
      intro failures worker hnodup
      obtain ⟨hnotin, hrestnodup⟩ := List.nodup_cons.mp hnodup
      obtain ⟨ran, hran⟩ := run_served handle immediate_retries first envelope (fates first) worker
      rw [dispatch_loop_cons failures rest (hran.alone worker rfl)]
      -- The two ways on differ in whether the first subscriber is reported.
      have hothers : ∀ failures', ∀ handler ∈ rest, Unshared handler (first :: rest) →
          ∀ ran' : Ran W, Served handle immediate_retries handler envelope (fates handler)
            (ran.on first envelope worker).2
            (dispatch_loop handle immediate_retries envelope fates failures' rest
              (ran.on first envelope worker).2).2 ran' →
          Served handle immediate_retries handler envelope (fates handler) worker
            (dispatch_loop handle immediate_retries envelope fates failures' rest
              (ran.on first envelope worker).2).2 ran' := by
        intro failures' handler hmem hunshared ran' hserved
        have hname : first.handler_name ≠ handler.handler_name := by
          intro hname
          have hsame := hunshared first List.mem_cons_self hname
          exact hnotin (hsame ▸ hmem)
        exact Served.of_same (ran_same worker hran.sound.own hname) hserved (SameFor.refl _ _ _)
      have hfirst : ∀ failures', Unshared first (first :: rest) →
          Served handle immediate_retries first envelope (fates first) worker
            (dispatch_loop handle immediate_retries envelope fates failures' rest
              (ran.on first envelope worker).2).2 ran := by
        intro failures' hunshared
        refine Served.of_same (SameFor.refl _ _ _) hran
          (dispatch_loop_same handle immediate_retries envelope fates failures' _ ?_)
        intro other hother hname
        have hsame := hunshared other (List.mem_cons_of_mem first hother) hname
        exact hnotin (hsame ▸ hother)
      have hsublist : ∀ {handler : MessageHandler} {reported : List (MessageHandler × PyException)},
          (reported.map Prod.fst).Sublist rest → handler ∉ rest →
            handler ∉ reported.map Prod.fst :=
        fun hsub hnot hin => hnot (hsub.subset hin)
      cases hending : ran.ending with
      | cancelled => exact .inl rfl
      | returned _ =>
          rcases ih failures (ran.on first envelope worker).2 hrestnodup with
            hcancelled | ⟨reported, hreturned, hsub, hserved⟩
          · exact .inl hcancelled
          · refine .inr ⟨reported, hreturned, hsub.cons first, fun handler hmem hunshared => ?_⟩
            rcases List.mem_cons.mp hmem with rfl | hmem
            · exact ⟨ran, hfirst failures hunshared, .inl ⟨hending, hsublist hsub hnotin⟩⟩
            · obtain ⟨ran', hran', hgroup⟩ := hserved handler hmem
                fun other hother => hunshared other (List.mem_cons_of_mem first hother)
              exact ⟨ran', hothers failures handler hmem hunshared ran' hran', hgroup⟩
      | raised error =>
          rcases ih (failures ++ [error]) (ran.on first envelope worker).2 hrestnodup with
            hcancelled | ⟨reported, hreturned, hsub, hserved⟩
          · exact .inl hcancelled
          · refine .inr ⟨(first, error) :: reported, ?_, hsub.cons_cons first,
              fun handler hmem hunshared => ?_⟩
            · rw [hreturned, List.map_cons, List.append_assoc, List.singleton_append]
            · rcases List.mem_cons.mp hmem with rfl | hmem
              · exact ⟨ran, hfirst _ hunshared, .inr ⟨error, hending, List.mem_cons_self⟩⟩
              · obtain ⟨ran', hran', hgroup⟩ := hserved handler hmem
                  fun other hother => hunshared other (List.mem_cons_of_mem first hother)
                refine ⟨ran', hothers _ handler hmem hunshared ran' hran', ?_⟩
                have hne : handler ≠ first := fun h => hnotin (h ▸ hmem)
                rcases hgroup with ⟨hreturned', hnot⟩ | ⟨e, hraised, hin⟩
                · exact .inl ⟨hreturned', by simpa [hne] using hnot⟩
                · exact .inr ⟨e, hraised, List.mem_cons_of_mem _ hin⟩

/-! ## 6. A dispatch is a run of attempts

Statement by statement, a dispatcher with the database to itself takes steps of
`attempt_step`. So what is proved of all interleavings holds of the dispatches above:
after any number of them the database is matched, which is all the accounting assumes. -/

/-- What one dispatcher can make of a database, one statement at a time. -/
def Reaches (handlers : List MessageHandler) (handle : Handling χ W)
    (db db' : ModuleDatabase W) : Prop :=
  ∃ steps : List (Unit × AttemptStep χ),
    run (fire (attempt_step handlers handle)) ⟨⟨db, []⟩, fun _ => .idle⟩ steps
      = some ⟨⟨db', []⟩, fun _ => .idle⟩

theorem Reaches.refl (handlers : List MessageHandler) (handle : Handling χ W)
    (db : ModuleDatabase W) : Reaches handlers handle db db := ⟨[], rfl⟩

theorem Reaches.trans {handlers : List MessageHandler} {handle : Handling χ W}
    {a b c : ModuleDatabase W} (hab : Reaches handlers handle a b)
    (hbc : Reaches handlers handle b c) : Reaches handlers handle a c := by
  obtain ⟨first, hfirst⟩ := hab
  obtain ⟨second, hsecond⟩ := hbc
  refine ⟨first ++ second, ?_⟩
  rw [run_append, hfirst]
  exact hsecond

/-- An attempt commits nothing, or its statements were taken to the commit. -/
theorem attempt_reaches {handlers : List MessageHandler} (handle : Handling χ W)
    {handler : MessageHandler} (hmem : handler ∈ handlers) (envelope : MessageEnvelope)
    (fate : AttemptFate χ) (db : ModuleDatabase W) :
    Reaches handlers handle db (db.after handler envelope (attempt_written handle handler envelope
      fate (db.row_count handler envelope.message_id))) := by
  cases hwritten : attempt_written handle handler envelope fate
    (db.row_count handler envelope.message_id) with
  | none => exact Reaches.refl handlers handle db
  | some writes =>
      obtain ⟨hrows, hfate⟩ := attempt_written_eq_some.mp hwritten
      have hok : handle handler envelope fate.choice = .ok writes := by
        unfold AttemptFate.written at hfate
        split at hfate
        · next hok _ _ =>
            rw [Option.some.injEq] at hfate
            exact hfate ▸ hok
        · simp at hfate
      have hread : db.was_handled envelope.message_id handler.handler_name = .ok false := by
        rw [was_handled_eq, hrows]
      -- what was committed was read, handled and inserted in this order
      refine ⟨[((), .start handler envelope), ((), .was_handled), ((), .handle fate.choice),
        ((), .record), ((), .commit)], ?_⟩
      simp [run_cons, fire, attempt_step, hmem, hread, hok, record_eq hrows, Inbox.release,
        ModuleDatabase.after]

theorem run_loop_reaches {handlers : List MessageHandler} (handle : Handling χ W)
    {handler : MessageHandler} (hmem : handler ∈ handlers) (envelope : MessageEnvelope)
    (fates : ℕ → AttemptFate χ) :
    ∀ (attempts : List ℕ) (last_error : Option PyException) (worker : Worker W),
      Reaches handlers handle worker.database
        (_run_loop handle handler envelope fates last_error attempts worker).2.database := by
  intro attempts
  induction attempts with
  | nil => exact fun _ worker => Reaches.refl handlers handle worker.database
  | cons attempt rest ih =>
      intro last_error worker
      have hfirst := attempt_reaches handle hmem envelope (fates attempt) worker.database
      rw [run_loop_cons handle fates last_error attempt rest rfl]
      split
      · exact hfirst
      · next error _ => exact hfirst.trans (ih (some error) (worker.attempted ..))
      · exact hfirst

/-- **The code refines the attempts.** -/
theorem dispatch_loop_reaches {handlers : List MessageHandler} (handle : Handling χ W)
    (immediate_retries : ℤ) (envelope : MessageEnvelope)
    (fates : MessageHandler → ℕ → AttemptFate χ) :
    ∀ {subscribers : List MessageHandler} (failures : List PyException) (worker : Worker W),
      (∀ handler ∈ subscribers, handler ∈ handlers) →
      Reaches handlers handle worker.database (dispatch_loop handle immediate_retries envelope
        fates failures subscribers worker).2.database := by
  intro subscribers
  induction subscribers with
  | nil => exact fun _ worker _ => Reaches.refl handlers handle worker.database
  | cons first rest ih =>
      intro failures worker hmem
      obtain ⟨ran, hran⟩ := run_served handle immediate_retries first envelope (fates first) worker
      have hrun := hran.alone worker rfl
      have hfirst : Reaches handlers handle worker.database
          (ran.on first envelope worker).2.database := by
        rw [← hrun]
        exact run_loop_reaches handle (hmem first List.mem_cons_self) envelope (fates first) _ none
          worker
      have hrest := fun failures => ih failures (ran.on first envelope worker).2
        fun handler hhandler => hmem handler (List.mem_cons_of_mem first hhandler)
      rw [dispatch_loop_cons failures rest hrun]
      cases ran.ending with
      | returned _ => exact hfirst.trans (hrest failures)
      | raised error => exact hfirst.trans (hrest (failures ++ [error]))
      | cancelled => exact hfirst

theorem dispatch_reaches {handlers : List MessageHandler} (handle : Handling χ W)
    {registry : MessageHandlerRegistry} (immediate_retries : ℤ) {envelope : MessageEnvelope}
    (fates : MessageHandler → ℕ → AttemptFate χ) (worker : Worker W)
    (hmem : ∀ handler ∈ registry.handlers_for envelope.message_type, handler ∈ handlers) :
    Reaches handlers handle worker.database
      (dispatch handle registry immediate_retries envelope fates worker).2.database := by
  rw [dispatch_worker]
  exact dispatch_loop_reaches handle immediate_retries envelope fates [] worker hmem

/-- So the databases dispatches leave are matched. -/
theorem reached_handled_once {set : HandlerSet} {handle : Handling χ W} {db : ModuleDatabase W}
    (h : Reaches set.handlers handle ⟨[], []⟩ db) : HandledOnce set.handlers db := by
  obtain ⟨steps, hrun⟩ := h
  have hend := (attempt_outline set.handlers handle).run (holds_idle_dispatchers set.handlers) hrun
  exact hend.1.once_each

/-! ## 7. The result -/

/-- A subscriber that is not reported: its effects are committed, with its row. -/
structure Handled (handler : MessageHandler) (message_id : Uuid)
    (reported : List (MessageHandler × PyException)) (after : Worker W) : Prop where
  unreported : handler ∉ reported.map Prod.fst
  effects : (after.database.effects_of handler message_id).length = 1
  row : after.database.row_count handler message_id = 1

/-- A subscriber that is reported: every attempt raised, the last one with the error
reported, and none committed anything, unless its commit went unreported. -/
structure Reported (handler : MessageHandler) (message_id : Uuid) (immediate_retries : ℤ)
    (fates : ℕ → AttemptFate χ) (reported : List (MessageHandler × PyException))
    (before after : Worker W) (error : PyException) : Prop where
  reported : (handler, error) ∈ reported
  attempts : ((after.attempts_of handler).length : ℤ) = max immediate_retries 0 + 1
  raised : ∀ attempt ∈ after.attempts_of handler, ∃ e, attempt.ending = .raised e
  last_error : ((after.attempts_of handler).getLast?).map AttemptMade.ending
    = some (.raised error)
  nothing : (∀ attempt ∈ attempt_range immediate_retries, ¬ (fates attempt).Unreported) →
    after.database.effects_of handler message_id = before.database.effects_of handler message_id
      ∧ after.database.row_count handler message_id = before.database.row_count handler message_id

/-- A run that returns has handled its message. -/
theorem handled_of_served {handle : Handling χ W} {immediate_retries : ℤ}
    {handler : MessageHandler} {envelope : MessageEnvelope} {fates : ℕ → AttemptFate χ}
    {reported : List (MessageHandler × PyException)} {before after : Worker W} {ran : Ran W}
    (hserved : Served handle immediate_retries handler envelope fates before after ran)
    (hmatched : before.database.Matched handler envelope.message_id)
    (hreturned : ran.ending = .returned ()) (hnot : handler ∉ reported.map Prod.fst) :
    Handled handler envelope.message_id reported after := by
  obtain ⟨hle, hiff⟩ := hmatched
  have hrows := hserved.rows
  have heffects := congrArg List.length hserved.effects
  rw [List.length_append, List.length_map] at heffects
  have hiff' : (before.database.effects_of handler envelope.message_id).length ≠ 0
      ↔ before.database.row_count handler envelope.message_id = 1 := by
    rw [ne_eq, List.length_eq_zero_iff]
    exact hiff
  rcases hserved.sound.returned hreturned with hone | ⟨hzero, writes, hwritten⟩
  · -- handled before this dispatch: the run wrote nothing
    have hnone : ran.written = none := by
      cases hwritten : ran.written with
      | none => rfl
      | some writes =>
          have hzero := hserved.sound.fresh writes hwritten
          omega
    rw [hnone] at hrows heffects
    have hne := hiff'.mpr hone
    exact ⟨hnot, by simp only [Option.toList_none, List.length_nil] at heffects; omega,
      by simpa [hone] using hrows⟩
  · -- handled by this run: its row is the first, and so is its effect
    rw [hwritten] at hrows heffects
    have hnone : (before.database.effects_of handler envelope.message_id).length = 0 := by
      by_contra hne
      have hone := hiff'.mp hne
      omega
    exact ⟨hnot, by simpa [hnone] using heffects, by simpa [hzero] using hrows⟩

/-- A run that raises has attempted all it may. -/
theorem reported_of_served {handle : Handling χ W} {immediate_retries : ℤ}
    {handler : MessageHandler} {envelope : MessageEnvelope} {fates : ℕ → AttemptFate χ}
    {reported : List (MessageHandler × PyException)} {before after : Worker W} {ran : Ran W}
    {error : PyException}
    (hserved : Served handle immediate_retries handler envelope fates before after ran)
    (hbefore : before.attempts_of handler = [])
    (hraised : ran.ending = .raised error) (hin : (handler, error) ∈ reported) :
    Reported handler envelope.message_id immediate_retries fates reported before after error := by
  have hmade : after.attempts_of handler = ran.made := by
    rw [hserved.attempts, hbefore, List.nil_append]
  have hnumbers := hserved.sound.complete error hraised
  have hlength : ((ran.made.length : ℕ) : ℤ) = max immediate_retries 0 + 1 := by
    rw [← List.length_map AttemptMade.attempt, hnumbers, attempt_range, List.length_range']
    omega
  have hlast : ran.made.getLast?.map AttemptMade.ending = some (.raised error) := by
    have hending := hserved.sound.ending_eq
    rcases hlast : ran.made.getLast? with _ | last
    · rw [List.getLast?_eq_none_iff] at hlast
      rw [hlast, List.length_nil] at hlength
      omega
    · rw [hraised, hlast] at hending
      cases hattempt : last.ending <;> simp [ending_of, hattempt] at hending
      rw [Option.map_some, hattempt, hending]
  refine ⟨hin, by rw [hmade]; exact hlength, ?_, by rw [hmade]; exact hlast, ?_⟩
  · intro attempt hattempt
    rw [hmade] at hattempt
    -- all but the last raised because the loop went on, the last because the run raised
    rcases List.eq_nil_or_concat ran.made with hnil | ⟨init, last, hconcat⟩
    · simp [hnil] at hattempt
    · have hinit : ran.made.dropLast = init := by simp [hconcat]
      rw [hconcat, List.concat_eq_append, List.mem_append, List.mem_singleton] at hattempt
      rcases hattempt with hattempt | rfl
      · exact hserved.sound.failing attempt (hinit ▸ hattempt)
      · refine ⟨error, ?_⟩
        simpa [hconcat] using hlast
  · intro hnone
    -- a run that raises after a commit had that commit unreported
    have hwritten : ran.written = none := by
      cases hwritten : ran.written with
      | none => rfl
      | some writes =>
          obtain ⟨attempt, hattempt, hun⟩ := hserved.sound.unreported error writes hraised hwritten
          exact absurd hun (hnone attempt hattempt)
    rw [hserved.effects, hserved.rows, hwritten]
    simp

/-- **A dispatch that finishes**, from a worker that has attempted nothing yet: it reports
some subscribers, and it has served each whose name no other has. -/
theorem dispatch_served {handle : Handling χ W} {registry : MessageHandlerRegistry}
    {immediate_retries : ℤ} {envelope : MessageEnvelope}
    {fates : MessageHandler → ℕ → AttemptFate χ} {db : ModuleDatabase W}
    {ending : Outcome Unit} {after : Worker W}
    (hnodup : (registry.handlers_for envelope.message_type).Nodup)
    (hdispatch : dispatch handle registry immediate_retries envelope fates ⟨db, []⟩
      = (ending, after))
    (hfinished : ending ≠ .cancelled) :
    ∃ reported : List (MessageHandler × PyException),
      (reported.map Prod.fst).Sublist (registry.handlers_for envelope.message_type)
      ∧ ending = (if reported = [] then .returned ()
          else .raised (MessageHandlingError envelope (reported.map Prod.snd)))
      ∧ ∀ handler ∈ registry.handlers_for envelope.message_type,
        Unshared handler (registry.handlers_for envelope.message_type) → ∃ ran : Ran W,
          Served handle immediate_retries handler envelope (fates handler) ⟨db, []⟩ after ran
          ∧ ((ran.ending = .returned () ∧ handler ∉ reported.map Prod.fst)
            ∨ ∃ error, ran.ending = .raised error ∧ (handler, error) ∈ reported) := by
  rw [dispatch] at hdispatch
  split at hdispatch
  · next hnone =>
      simp only [pure_apply, Prod.mk.injEq] at hdispatch
      exact ⟨[], List.nil_sublist _, hdispatch.1.symm, by simp [hnone]⟩
  · have hloop := dispatch_loop_served handle immediate_retries envelope fates [] ⟨db, []⟩ hnodup
    rw [bind_apply] at hdispatch
    rcases hres : dispatch_loop handle immediate_retries envelope fates []
      (registry.handlers_for envelope.message_type) ⟨db, []⟩ with ⟨loop_ending, worker⟩
    rw [hres] at hdispatch hloop
    rcases hloop with rfl | ⟨reported, hreturned, hsublist, hserved⟩
    · simp only [Prod.mk.injEq] at hdispatch
      exact absurd hdispatch.1.symm hfinished
    · simp only [List.nil_append] at hreturned
      subst hreturned
      -- the loop gave its report; the dispatch raises unless it is empty
      have hend : ending = (if reported = [] then .returned ()
          else .raised (MessageHandlingError envelope (reported.map Prod.snd)))
          ∧ worker = after := by
        by_cases hnil : reported = []
        · simp [hnil] at hdispatch ⊢
          exact ⟨hdispatch.1.symm, hdispatch.2⟩
        · simp [hnil, raise] at hdispatch ⊢
          exact ⟨hdispatch.1.symm, hdispatch.2⟩
      obtain ⟨hend, rfl⟩ := hend
      exact ⟨reported, hsublist, hend, hserved⟩

/-- What a dispatch that finishes says of the subscribers. -/
def Accounts (handle : Handling χ W) (subscribers : List MessageHandler) (immediate_retries : ℤ)
    (envelope : MessageEnvelope) (fates : MessageHandler → ℕ → AttemptFate χ)
    (before : Worker W) (ending : Outcome Unit) (after : Worker W) : Prop :=
  ∃ reported : List (MessageHandler × PyException),
    (reported.map Prod.fst).Sublist subscribers
    ∧ ending = (if reported = [] then .returned ()
        else .raised (MessageHandlingError envelope (reported.map Prod.snd)))
    ∧ ∀ handler ∈ subscribers, Unshared handler subscribers →
      before.database.Matched handler envelope.message_id →
      (Handled handler envelope.message_id reported after
        ∨ ∃ error, Reported handler envelope.message_id immediate_retries (fates handler) reported
            before after error)
      -- Whatever the others do, it is what a run of this handler alone would do.
      ∧ SameFor handler envelope.message_id
          (_run handle immediate_retries handler envelope (fates handler) before).2 after

/-- **Dispatch accounts for its subscribers.** When it finishes, each handler whose name
no other subscriber has is either handled or reported, as it would be alone, and the
dispatch raises exactly when something is reported, with the errors in order. -/
theorem dispatch_accounts (handle : Handling χ W) (classes : List MessageHandler)
    (immediate_retries : ℤ) (envelope : MessageEnvelope)
    (fates : MessageHandler → ℕ → AttemptFate χ) (db : ModuleDatabase W)
    {ending : Outcome Unit} {after : Worker W}
    (hdispatch : dispatch handle (MessageHandlerRegistry.register_all classes) immediate_retries
      envelope fates ⟨db, []⟩ = (ending, after))
    (hfinished : ending ≠ .cancelled) :
    Accounts handle
      ((MessageHandlerRegistry.register_all classes).handlers_for envelope.message_type)
      immediate_retries envelope fates ⟨db, []⟩ ending after := by
  have hnodup := MessageHandlerRegistry.handlers_for_nodup classes envelope.message_type
  obtain ⟨reported, hsublist, hend, hserved⟩ := dispatch_served hnodup hdispatch hfinished
  refine ⟨reported, hsublist, hend, fun handler hmem hunshared hmatched => ?_⟩
  obtain ⟨ran, hran, hgroup⟩ := hserved handler hmem hunshared
  refine ⟨?_, ?_⟩
  · rcases hgroup with ⟨hreturned, hnot⟩ | ⟨error, hraised, hin⟩
    · exact .inl (handled_of_served hran hmatched hreturned hnot)
    · exact .inr ⟨error, reported_of_served hran rfl hraised hin⟩
  · rw [hran.alone ⟨db, []⟩ rfl]
    obtain ⟨hrows, heffects, hattempts⟩ := ran_own envelope ⟨db, []⟩ hran.sound.own
    exact ⟨hran.rows.trans hrows.symm, hran.effects.trans heffects.symm,
      hran.attempts.trans hattempts.symm⟩

/-! ### Two dispatches on one handler, and on two of one name -/

/-- The awaits of an attempt that succeeds. -/
def completing (choice : χ) : AttemptFate χ where
  enter := .completes
  was_handled := .completes
  handle := .completes
  choice
  record := .completes
  commit := ⟨.completes, true⟩
  rollback := .completes
  leave := .completes

/-- The inbox cannot be read. -/
def unreadable (error : PyException) (choice : χ) : AttemptFate χ :=
  { completing choice with was_handled := .raises error }

end Dispatcher

def opener : MessageHandler where
  path := "modules.customs_clearance.src.features.open_clearance_case"
  class_name := "OpenClearanceCaseMessageHandler"
  message_type := "ShipmentManifestFinalized"
  declared_name := none

/-- A second subscriber to the announcement. -/
def assessor : MessageHandler := { opener with class_name := "RiskAssessor" }

/-- Another class of the same name. -/
def namesake : MessageHandler := { opener with path := "modules.assessment.src.features" }

def finalized : MessageEnvelope where
  message_id := .of_byte 7
  message_type := "ShipmentManifestFinalized"
  body := []
  headers := []

/-- A handler that writes nothing but that it ran. -/
def marking : Handling Unit Unit := fun _ _ _ => .ok ()

def lost_connection : PyException := ⟨"OperationalError", "connection lost", []⟩

/-- What the opener left behind when it handled the message. -/
def opened_before : ModuleDatabase Unit :=
  (ModuleDatabase.mk [] []).commit opener finalized ()

/-- The opener handles the message, and the assessor cannot read the inbox. -/
def one_unreadable (handler : MessageHandler) (_ : ℕ) : AttemptFate Unit :=
  if handler = opener then completing () else unreadable lost_connection ()

theorem dispatch_accounts_sample :
    Accounts marking [opener, assessor] 1 finalized one_unreadable
      ⟨⟨[], []⟩, []⟩ (.raised (MessageHandlingError finalized [lost_connection]))
      ⟨opened_before, [⟨opener, 1, .returned true⟩, ⟨assessor, 1, .raised lost_connection⟩,
        ⟨assessor, 2, .raised lost_connection⟩]⟩ :=
  dispatch_accounts marking [opener, assessor] 1 finalized one_unreadable ⟨[], []⟩ rfl (by simp)

/-- A handler that has handled the message is reported all the same when the inbox cannot
be read; and of two subscribers of one name the second is neither run nor reported. -/
theorem unaccounted_subscribers :
    (∃ after, dispatch marking (MessageHandlerRegistry.register_all [opener]) 0 finalized
          (fun _ _ => unreadable lost_connection ()) ⟨opened_before, []⟩
          = (.raised (MessageHandlingError finalized [lost_connection]), after)
        ∧ after.database.effects_of opener finalized.message_id ≠ [])
    ∧ ∃ after, dispatch marking (MessageHandlerRegistry.register_all [opener, namesake]) 0
          finalized (fun _ _ => completing ()) ⟨⟨[], []⟩, []⟩ = (.returned (), after)
        ∧ after.database.effects_of namesake finalized.message_id = [] :=
  ⟨⟨_, rfl, by decide⟩, ⟨_, rfl, by decide⟩⟩

end TradeLogistics.MessageBus
