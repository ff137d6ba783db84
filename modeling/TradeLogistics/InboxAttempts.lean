/-
The inbox of one module, and the attempts of its dispatchers on it.

An attempt reads whether its handler has already handled the message, runs the handler
and inserts the inbox row, and commits the two together. The read and the insert are
separate statements, so two attempts on one message may both find nothing; what decides
between them is the unique constraint, at the insert.

The invariant is that the committed effects and the committed inbox rows are one list
read two ways, entry by entry, with no key twice, the keys of the open transactions
included. Everything claimed about "at most once" and "exactly when" is read off it.

A handler is what its class says about itself, and a function of the envelope and of
whatever else its run depends on; what it writes is of any type.
-/
import TradeLogistics.Messages
import TradeLogistics.PyAsync
import TradeLogistics.Runs

set_option autoImplicit false

namespace TradeLogistics.MessageBus

open TradeLogistics.PyText TradeLogistics.PyAsync TradeLogistics.Runs

/-! ## 1. Handlers -/

/-- A subclass of `MessageHandler`: where it is defined, its `__name__`, the type it
declares, and the `handler_name` of its own body, if it has one. -/
structure MessageHandler where
  path : String
  class_name : String
  message_type : String
  declared_name : Option String
  deriving DecidableEq

/-- `handler_name`, as `__init_subclass__` leaves it: an empty one is replaced too. -/
def MessageHandler.handler_name (handler : MessageHandler) : String :=
  match handler.declared_name with
  | none => handler.class_name
  | some name => if name = "" then handler.class_name else name

/-- `handler_type(session).handle(envelope)`: what it writes, from the envelope and a
choice that stands for all else its run depends on. -/
abbrev Handling (χ W : Type*) := MessageHandler → MessageEnvelope → χ → Except PyException W

/-! ## 2. The database of one module -/

structure InboxMessage where
  message_id : Uuid
  message_type : String
  handler_name : String
  deriving DecidableEq

/-- What one handler wrote for one message. -/
structure Effect (W : Type*) where
  handler : MessageHandler
  message_id : Uuid
  writes : W

/-- The deduplication key. -/
abbrev Key := Uuid × String

def InboxMessage.key (row : InboxMessage) : Key := (row.message_id, row.handler_name)

def Effect.key {W : Type*} (effect : Effect W) : Key :=
  (effect.message_id, effect.handler.handler_name)

/-- The row `record` adds. -/
def inbox_row (handler : MessageHandler) (envelope : MessageEnvelope) : InboxMessage where
  message_id := envelope.message_id
  message_type := envelope.message_type
  handler_name := handler.handler_name

/-- The committed state: the inbox, and what the handlers wrote. -/
structure ModuleDatabase (W : Type*) where
  inbox : List InboxMessage
  effects : List (Effect W)

namespace ModuleDatabase

variable {W : Type*}

/-- The rows `was_handled` selects. -/
def rows_of (db : ModuleDatabase W) (message_id : Uuid) (handler_name : String) :
    List InboxMessage :=
  db.inbox.filter fun row => row.message_id = message_id ∧ row.handler_name = handler_name

/-- What a handler has written for a message. -/
def effects_of (db : ModuleDatabase W) (handler : MessageHandler) (message_id : Uuid) :
    List (Effect W) :=
  db.effects.filter fun effect => effect.handler = handler ∧ effect.message_id = message_id

/-- `was_handled`: `scalar_one_or_none` refuses a second row. -/
def was_handled (db : ModuleDatabase W) (message_id : Uuid) (handler_name : String) :
    Except PyException Bool :=
  match db.rows_of message_id handler_name with
  | [] => .ok false
  | [_] => .ok true
  | _ => .error ⟨"MultipleResultsFound",
      "Multiple rows were found when one or none was required", []⟩

/-- `uq_inbox_messages_message_id_handler_name` is violated by a row. -/
def holds (db : ModuleDatabase W) (row : InboxMessage) : Bool :=
  db.inbox.any fun other => other.key = row.key

/-- `record`, once flushed. -/
def record (db : ModuleDatabase W) (row : InboxMessage) : Except PyException Unit :=
  if db.holds row then
    .error ⟨"IntegrityError", "uq_inbox_messages_message_id_handler_name", []⟩
  else .ok ()

/-- One transaction, committed. -/
def commit (db : ModuleDatabase W) (handler : MessageHandler) (envelope : MessageEnvelope)
    (writes : W) : ModuleDatabase W where
  inbox := db.inbox ++ [inbox_row handler envelope]
  effects := db.effects ++ [⟨handler, envelope.message_id, writes⟩]

end ModuleDatabase

/-! ## 3. Concurrent attempts -/

/-- What the dispatchers of a module share: its database, and the inbox rows open
transactions have flushed. -/
structure Inbox (ι W : Type*) where
  committed : ModuleDatabase W
  flushed : List (ι × InboxMessage)

/-- Where an attempt stands; a dispatcher between two attempts is `idle`. -/
inductive Attempt (W : Type*) where
  | idle
  | opened (handler : MessageHandler) (envelope : MessageEnvelope)
  | unhandled (handler : MessageHandler) (envelope : MessageEnvelope)
  | handled (handler : MessageHandler) (envelope : MessageEnvelope) (writes : W)
  | recorded (handler : MessageHandler) (envelope : MessageEnvelope) (writes : W)

/-- The atomic actions. `commit_unreported` takes effect and raises; `fail` is any other
way out of the session, which rolls back. -/
inductive AttemptStep (χ : Type*) where
  | start (handler : MessageHandler) (envelope : MessageEnvelope)
  | was_handled
  | handle (choice : χ)
  | record
  | commit
  | commit_unreported
  | fail

section Steps

variable {ι χ W : Type*} [DecidableEq ι]

/-- The rows a dispatcher has flushed and not committed. -/
def Inbox.own (s : Inbox ι W) (i : ι) : List (ι × InboxMessage) :=
  s.flushed.filter fun entry => entry.1 = i

/-- The transaction of a dispatcher ends, and its locks with it. -/
def Inbox.release (s : Inbox ι W) (i : ι) : Inbox ι W :=
  { s with flushed := s.flushed.filter fun entry => entry.1 ≠ i }

/-- `_attempt`, one statement at a time. -/
def attempt_step (handlers : List MessageHandler) (handle : Handling χ W) (i : ι)
    (s : Inbox ι W) : Attempt W → AttemptStep χ → Option (Inbox ι W × Attempt W)
  | .idle, .start handler envelope =>
    if handler ∈ handlers then some (s, .opened handler envelope) else none
  | .opened handler envelope, .was_handled =>
    match s.committed.was_handled envelope.message_id handler.handler_name with
    | .ok false => some (s, .unhandled handler envelope)
    | _ => some (s, .idle)
  | .unhandled handler envelope, .handle choice =>
    match handle handler envelope choice with
    | .ok writes => some (s, .handled handler envelope writes)
    | .error _ => some (s, .idle)
  | .handled handler envelope writes, .record =>
    let row := inbox_row handler envelope
    match s.committed.record row with
    | .error _ => some (s, .idle)
    | .ok () =>
      -- The insert waits for the open transaction that has the key.
      if s.flushed.any fun entry => entry.2.key = row.key then none
      else some ({ s with flushed := s.flushed ++ [(i, row)] }, .recorded handler envelope writes)
  | .recorded handler envelope writes, .commit
  | .recorded handler envelope writes, .commit_unreported =>
    some ({ s.release i with committed := s.committed.commit handler envelope writes }, .idle)
  | .recorded _ _ _, .fail => some (s.release i, .idle)
  | .idle, .fail => none
  | _, .fail => some (s, .idle)
  | _, _ => none

/-! ## 4. What one step can do -/

/-- The handler an attempt is for. -/
def Attempt.handler : Attempt W → Option MessageHandler
  | .idle => none
  | .opened handler _ | .unhandled handler _ | .handled handler _ _ | .recorded handler _ _ =>
    some handler

/-- The row an attempt has flushed. -/
def Attempt.row : Attempt W → Option InboxMessage
  | .recorded handler envelope _ => some (inbox_row handler envelope)
  | _ => none

/-- What one step can do. An attempt goes on, or gives up with nothing flushed, or ends
the transaction that flushed its row. -/
inductive AttemptMove (handlers : List MessageHandler) (handle : Handling χ W) (i : ι)
    (s : Inbox ι W) : Attempt W → AttemptStep χ → Inbox ι W → Attempt W → Prop where
  | started {handler : MessageHandler} {envelope : MessageEnvelope} :
      handler ∈ handlers →
      AttemptMove handlers handle i s .idle (.start handler envelope) s
        (.opened handler envelope)
  | found_new {handler : MessageHandler} {envelope : MessageEnvelope} :
      s.committed.was_handled envelope.message_id handler.handler_name = .ok false →
      AttemptMove handlers handle i s (.opened handler envelope) .was_handled s
        (.unhandled handler envelope)
  | wrote {handler : MessageHandler} {envelope : MessageEnvelope} {choice : χ} {writes : W} :
      handle handler envelope choice = .ok writes →
      AttemptMove handlers handle i s (.unhandled handler envelope) (.handle choice) s
        (.handled handler envelope writes)
  | flushed {handler : MessageHandler} {envelope : MessageEnvelope} {writes : W} :
      s.committed.holds (inbox_row handler envelope) = false →
      (s.flushed.any fun entry => entry.2.key = (inbox_row handler envelope).key) = false →
      AttemptMove handlers handle i s (.handled handler envelope writes) .record
        { s with flushed := s.flushed ++ [(i, inbox_row handler envelope)] }
        (.recorded handler envelope writes)
  | gave_up {attempt : Attempt W} {step : AttemptStep χ} :
      attempt.row = none → AttemptMove handlers handle i s attempt step s .idle
  | committed {handler : MessageHandler} {envelope : MessageEnvelope} {writes : W}
      {step : AttemptStep χ} :
      AttemptMove handlers handle i s (.recorded handler envelope writes) step
        { s.release i with committed := s.committed.commit handler envelope writes } .idle
  | rolled_back {handler : MessageHandler} {envelope : MessageEnvelope} {writes : W} :
      AttemptMove handlers handle i s (.recorded handler envelope writes) .fail
        (s.release i) .idle

/-- **One step of an attempt.** The case split on the statement it has come to and on
what happens there is made once, here. -/
theorem attempt_step_moves {handlers : List MessageHandler} {handle : Handling χ W} {i : ι}
    {s s' : Inbox ι W} {attempt attempt' : Attempt W} {step : AttemptStep χ}
    (h : attempt_step handlers handle i s attempt step = some (s', attempt')) :
    AttemptMove handlers handle i s attempt step s' attempt' := by
  cases attempt with
  | idle =>
      cases step with
      | start handler envelope =>
          simp only [attempt_step, Option.ite_none_right_eq_some, Option.some.injEq,
            Prod.mk.injEq] at h
          obtain ⟨hmem, rfl, rfl⟩ := h
          exact .started hmem
      | _ => simp [attempt_step] at h
  | opened handler envelope =>
      cases step with
      | was_handled =>
          simp only [attempt_step] at h
          split at h <;> simp only [Option.some.injEq, Prod.mk.injEq] at h <;>
            obtain ⟨rfl, rfl⟩ := h
          · next hnew => exact .found_new hnew
          · exact .gave_up rfl
      | fail =>
          simp only [attempt_step, Option.some.injEq, Prod.mk.injEq] at h
          obtain ⟨rfl, rfl⟩ := h
          exact .gave_up rfl
      | _ => simp [attempt_step] at h
  | unhandled handler envelope =>
      cases step with
      | handle choice =>
          simp only [attempt_step] at h
          split at h <;> simp only [Option.some.injEq, Prod.mk.injEq] at h <;>
            obtain ⟨rfl, rfl⟩ := h
          · next hwrites => exact .wrote hwrites
          · exact .gave_up rfl
      | fail =>
          simp only [attempt_step, Option.some.injEq, Prod.mk.injEq] at h
          obtain ⟨rfl, rfl⟩ := h
          exact .gave_up rfl
      | _ => simp [attempt_step] at h
  | handled handler envelope writes =>
      cases step with
      | record =>
          simp only [attempt_step] at h
          split at h
          · -- a committed row has the key: the insert raises
            simp only [Option.some.injEq, Prod.mk.injEq] at h
            obtain ⟨rfl, rfl⟩ := h
            exact .gave_up rfl
          · next hrecord =>
              split at h
              · simp at h
              · next hlocks =>
                  simp only [Option.some.injEq, Prod.mk.injEq] at h
                  obtain ⟨rfl, rfl⟩ := h
                  have hholds : s.committed.holds (inbox_row handler envelope) = false := by
                    simpa [ModuleDatabase.record] using hrecord
                  exact .flushed hholds (by simpa using hlocks)
      | fail =>
          simp only [attempt_step, Option.some.injEq, Prod.mk.injEq] at h
          obtain ⟨rfl, rfl⟩ := h
          exact .gave_up rfl
      | _ => simp [attempt_step] at h
  | recorded handler envelope writes =>
      cases step with
      | commit | commit_unreported =>
          simp only [attempt_step, Option.some.injEq, Prod.mk.injEq] at h
          obtain ⟨rfl, rfl⟩ := h
          exact .committed
      | fail =>
          simp only [attempt_step, Option.some.injEq, Prod.mk.injEq] at h
          obtain ⟨rfl, rfl⟩ := h
          exact .rolled_back
      | _ => simp [attempt_step] at h

/-! ## 5. The invariant

Effects and rows are committed in pairs, and a key is taken once: by a committed row or
by an open transaction. The second half is what the unique constraint enforces at the
insert, and it is what a commit needs, having checked nothing itself. -/

/-- Effects and inbox rows correspond one to one, and no key is taken twice. -/
structure OneToOne (handlers : List MessageHandler) (s : Inbox ι W) : Prop where
  paired : s.committed.effects.map Effect.key = s.committed.inbox.map InboxMessage.key
  once : (s.committed.inbox.map InboxMessage.key ++ s.flushed.map fun entry => entry.2.key).Nodup
  known : ∀ effect ∈ s.committed.effects, effect.handler ∈ handlers

/-- An attempt is for a handler of the module, and has flushed its own row or nothing. -/
def Attempt.Knows (handlers : List MessageHandler) (s : Inbox ι W) (i : ι)
    (attempt : Attempt W) : Prop :=
  (∀ handler, attempt.handler = some handler → handler ∈ handlers)
    ∧ s.own i = attempt.row.toList.map fun row => (i, row)

/-- A dispatcher leaves alone what the others have flushed. -/
def OthersKept (i : ι) (s s' : Inbox ι W) : Prop := ∀ j, j ≠ i → s'.own j = s.own j

theorem own_release (s : Inbox ι W) (i : ι) : (s.release i).own i = [] := by
  rw [Inbox.own, Inbox.release, List.filter_filter, List.filter_eq_nil_iff]
  intro entry _
  simp

theorem own_release_of_ne (s : Inbox ι W) {i j : ι} (h : j ≠ i) :
    (s.release i).own j = s.own j := by
  rw [Inbox.own, Inbox.release, List.filter_filter]
  refine List.filter_congr fun entry _ => ?_
  by_cases hj : entry.1 = j
  · simp [hj, h]
  · simp [hj]

/-- What is flushed is a dispatcher's own rows and those it would leave behind. -/
theorem flushed_perm (s : Inbox ι W) (i : ι) :
    (s.own i ++ (s.release i).flushed).Perm s.flushed := by
  have h := List.filter_append_perm (fun entry : ι × InboxMessage => decide (entry.1 = i)) s.flushed
  simpa only [Inbox.own, Inbox.release, decide_not] using h

omit [DecidableEq ι] in
/-- A row that violates nothing takes a key nobody has. -/
theorem record_once {s : Inbox ι W} {row : InboxMessage} (i : ι)
    (hinv : (s.committed.inbox.map InboxMessage.key
      ++ s.flushed.map fun entry => entry.2.key).Nodup)
    (hholds : s.committed.holds row = false)
    (hlocks : (s.flushed.any fun entry => entry.2.key = row.key) = false) :
    (s.committed.inbox.map InboxMessage.key
      ++ (s.flushed ++ [(i, row)]).map fun entry => entry.2.key).Nodup := by
  rw [List.map_append, ← List.append_assoc, List.nodup_append]
  refine ⟨hinv, List.nodup_singleton _, fun key hkey other hother => ?_⟩
  simp only [List.map_cons, List.map_nil, List.mem_singleton] at hother
  subst hother
  rintro rfl
  rcases List.mem_append.mp hkey with hkey | hkey
  · obtain ⟨taken, htaken, heq⟩ := List.mem_map.mp hkey
    have hnot := List.any_eq_false.mp hholds taken htaken
    simp [heq] at hnot
  · obtain ⟨taken, htaken, heq⟩ := List.mem_map.mp hkey
    have hnot := List.any_eq_false.mp hlocks taken htaken
    simp [heq] at hnot

/-- Ending a transaction frees keys and takes none. -/
theorem release_once {s : Inbox ι W} (i : ι)
    (hinv : (s.committed.inbox.map InboxMessage.key
      ++ s.flushed.map fun entry => entry.2.key).Nodup) :
    (s.committed.inbox.map InboxMessage.key
      ++ (s.release i).flushed.map fun entry => entry.2.key).Nodup := by
  have hsub : ((s.release i).flushed.map fun entry => entry.2.key).Sublist
      (s.flushed.map fun entry => entry.2.key) := List.filter_sublist.map _
  exact hinv.sublist (hsub.append_left _)

/-- A commit takes the key its transaction had. -/
theorem commit_once {s : Inbox ι W} {i : ι} {row : InboxMessage}
    (hinv : (s.committed.inbox.map InboxMessage.key
      ++ s.flushed.map fun entry => entry.2.key).Nodup)
    (hown : s.own i = [(i, row)]) :
    ((s.committed.inbox ++ [row]).map InboxMessage.key
      ++ (s.release i).flushed.map fun entry => entry.2.key).Nodup := by
  have hperm := (flushed_perm s i).map fun entry => entry.2.key
  rw [hown] at hperm
  rw [List.map_append, List.append_assoc]
  exact (hperm.append_left _).nodup_iff.mpr hinv

/-- The outline of the attempts. -/
theorem attempt_outline (handlers : List MessageHandler) (handle : Handling χ W) :
    Outline (attempt_step (ι := ι) handlers handle) (fun _ _ _ => True) (OneToOne handlers)
      (fun s i attempt => attempt.Knows handlers s i) OthersKept where
  own := by
    intro i s attempt step s' attempt' hinv hknows h _
    obtain ⟨hhandler, hown⟩ := hknows
    have hidle : ∀ handler, (Attempt.idle : Attempt W).handler = some handler →
        handler ∈ handlers := fun _ hsome => by simp [Attempt.handler] at hsome
    cases attempt_step_moves h with
    | started hmem =>
        refine ⟨hinv, ⟨fun handler hsome => ?_, hown⟩, fun _ _ => rfl⟩
        rw [Attempt.handler, Option.some.injEq] at hsome
        exact hsome ▸ hmem
    | found_new _ | wrote _ => exact ⟨hinv, ⟨hhandler, hown⟩, fun _ _ => rfl⟩
    | gave_up hrow =>
        rw [hrow] at hown
        exact ⟨hinv, ⟨hidle, hown⟩, fun _ _ => rfl⟩
    | flushed hholds hlocks =>
        refine ⟨⟨hinv.paired, record_once i hinv.once hholds hlocks, hinv.known⟩,
          ⟨hhandler, ?_⟩, fun j hj => ?_⟩
        · rw [Inbox.own, List.filter_append]
          simpa [Attempt.row, Inbox.own] using hown
        · rw [Inbox.own, List.filter_append]
          simp [Inbox.own, Ne.symm hj]
    | rolled_back =>
        exact ⟨⟨hinv.paired, release_once i hinv.once, hinv.known⟩, ⟨hidle, own_release s i⟩,
          fun j hj => own_release_of_ne s hj⟩
    | @committed handler envelope writes =>
        -- the key of the committed row is the one its transaction had locked
        refine ⟨⟨?_, commit_once hinv.once hown, ?_⟩, ⟨hidle, own_release s i⟩,
          fun j hj => own_release_of_ne s hj⟩
        · simp only [ModuleDatabase.commit, List.map_append, hinv.paired]
          rfl
        · intro effect heffect
          rcases List.mem_append.mp heffect with hold | hnew
          · exact hinv.known effect hold
          · rw [List.mem_singleton] at hnew
            rw [hnew]
            exact hhandler handler rfl
  stable := by
    intro i j s s' attempt hij _ hkept hknows
    refine ⟨hknows.1, ?_⟩
    rw [hkept j (Ne.symm hij)]
    exact hknows.2

/-! ### Where effects come from

Nothing is written but by a handler, from an envelope that was delivered. The assertion
of an attempt is what its commit will need. -/

/-- What an effect was written from. -/
def Effect.From (handle : Handling χ W) (Delivered : MessageEnvelope → Prop)
    (effect : Effect W) : Prop :=
  ∃ envelope, Delivered envelope ∧ envelope.message_id = effect.message_id
    ∧ ∃ choice, handle effect.handler envelope choice = .ok effect.writes

/-- What an attempt carries was delivered, and what it holds ready its handler wrote. -/
def Attempt.From (handle : Handling χ W) (Delivered : MessageEnvelope → Prop) :
    Attempt W → Prop
  | .idle => True
  | .opened _ envelope | .unhandled _ envelope => Delivered envelope
  | .handled handler envelope writes | .recorded handler envelope writes =>
    Delivered envelope ∧ ∃ choice, handle handler envelope choice = .ok writes

/-- The envelope an action brings in. -/
def AttemptStep.envelope : AttemptStep χ → Option MessageEnvelope
  | .start _ envelope => some envelope
  | _ => none

/-- The committed effects come from deliveries. -/
def Inbox.From (handle : Handling χ W) (Delivered : MessageEnvelope → Prop)
    (s : Inbox ι W) : Prop :=
  ∀ effect ∈ s.committed.effects, effect.From handle Delivered

omit [DecidableEq ι] in
theorem Inbox.From.mono {handle : Handling χ W} {D D' : MessageEnvelope → Prop}
    (h : ∀ envelope, D envelope → D' envelope) {s : Inbox ι W} (hs : s.From handle D) :
    s.From handle D' := by
  intro effect heffect
  obtain ⟨envelope, hd, hrest⟩ := hs effect heffect
  exact ⟨envelope, h envelope hd, hrest⟩

theorem Attempt.From.mono {handle : Handling χ W} {D D' : MessageEnvelope → Prop}
    (h : ∀ envelope, D envelope → D' envelope) {attempt : Attempt W}
    (hfrom : attempt.From handle D) : attempt.From handle D' := by
  cases attempt with
  | idle => trivial
  | opened handler envelope | unhandled handler envelope => exact h envelope hfrom
  | handled handler envelope writes | recorded handler envelope writes =>
      exact ⟨h envelope hfrom.1, hfrom.2⟩

/-- A step of an attempt starts from a delivery, or goes on with what it has. -/
theorem attempt_step_from {handlers : List MessageHandler} {handle : Handling χ W} {i : ι}
    {Delivered : MessageEnvelope → Prop} {s s' : Inbox ι W} {attempt attempt' : Attempt W}
    {step : AttemptStep χ} (hdelivered : ∀ envelope ∈ step.envelope, Delivered envelope)
    (hfrom : attempt.From handle Delivered)
    (h : attempt_step handlers handle i s attempt step = some (s', attempt')) :
    attempt'.From handle Delivered := by
  cases attempt_step_moves h with
  | started _ => exact hdelivered _ rfl
  | found_new _ => exact hfrom
  | wrote hwrites => exact ⟨hfrom, _, hwrites⟩
  | flushed _ _ => exact hfrom
  | gave_up _ | committed | rolled_back => exact trivial

/-- A step commits what the attempt held ready, or nothing. -/
theorem attempt_step_inbox_from {handlers : List MessageHandler} {handle : Handling χ W} {i : ι}
    {Delivered : MessageEnvelope → Prop} {s s' : Inbox ι W} {attempt attempt' : Attempt W}
    {step : AttemptStep χ} (hs : s.From handle Delivered) (hfrom : attempt.From handle Delivered)
    (h : attempt_step handlers handle i s attempt step = some (s', attempt')) :
    s'.From handle Delivered := by
  cases attempt_step_moves h with
  | started _ | found_new _ | wrote _ | flushed _ _ | gave_up _ | rolled_back => exact hs
  | @committed handler envelope writes =>
      intro effect heffect
      rcases List.mem_append.mp heffect with hold | hnew
      · exact hs effect hold
      · rw [List.mem_singleton] at hnew
        rw [hnew]
        exact ⟨envelope, hfrom.1, rfl, hfrom.2⟩

/-- The outline of where effects come from, for attempts on what is delivered. -/
theorem origin_outline (handlers : List MessageHandler) (handle : Handling χ W)
    (Delivered : MessageEnvelope → Prop) :
    Outline (attempt_step (ι := ι) handlers handle)
      (fun _ _ step => ∀ envelope ∈ step.envelope, Delivered envelope)
      (Inbox.From handle Delivered) (fun _ _ attempt => attempt.From handle Delivered)
      (fun _ _ _ => True) where
  own := fun _ _ _ _ _ _ hs hfrom h hdelivered =>
    ⟨attempt_step_inbox_from hs hfrom h, attempt_step_from hdelivered hfrom h, trivial⟩
  stable := fun _ _ _ _ _ _ _ _ hfrom => hfrom

/-! ## 6. The result -/

/-- The handlers of one module, no two with one name. -/
structure HandlerSet where
  handlers : List MessageHandler
  distinct : ∀ handler ∈ handlers, ∀ other ∈ handlers,
    handler.handler_name = other.handler_name → handler = other

/-- The effects of a handler for a message are there at most once, and exactly when the
inbox holds one row for them. -/
def ModuleDatabase.Matched (db : ModuleDatabase W) (handler : MessageHandler)
    (message_id : Uuid) : Prop :=
  (db.effects_of handler message_id).length ≤ 1
    ∧ (db.effects_of handler message_id ≠ []
      ↔ (db.rows_of message_id handler.handler_name).length = 1)

/-- So it is for every handler and every message. -/
def HandledOnce (handlers : List MessageHandler) (db : ModuleDatabase W) : Prop :=
  ∀ handler ∈ handlers, ∀ message_id, db.Matched handler message_id

/-- Rows are counted by their key. -/
theorem rows_of_length (db : ModuleDatabase W) (message_id : Uuid) (handler_name : String) :
    (db.rows_of message_id handler_name).length
      = (db.inbox.map InboxMessage.key).count (message_id, handler_name) := by
  rw [List.count_eq_countP, List.countP_map, List.countP_eq_length_filter]
  refine congrArg List.length (List.filter_congr fun row _ => ?_)
  rw [Bool.eq_iff_iff]
  simp [InboxMessage.key]

/-- Effects are counted by their key too, where a name is a handler's alone. -/
theorem effects_of_length {set : HandlerSet} {db : ModuleDatabase W}
    (hknown : ∀ effect ∈ db.effects, effect.handler ∈ set.handlers)
    {handler : MessageHandler} (hmem : handler ∈ set.handlers) (message_id : Uuid) :
    (db.effects_of handler message_id).length
      = (db.effects.map Effect.key).count (message_id, handler.handler_name) := by
  rw [List.count_eq_countP, List.countP_map, List.countP_eq_length_filter]
  refine congrArg List.length (List.filter_congr fun effect heffect => ?_)
  have hsame : effect.handler = handler ↔ effect.handler.handler_name = handler.handler_name :=
    ⟨fun h => h ▸ rfl, fun h => set.distinct _ (hknown effect heffect) _ hmem h⟩
  rw [Bool.eq_iff_iff]
  simp [Effect.key, hsame, and_comm]

omit [DecidableEq ι] in
/-- What the invariant says of one handler and one message. -/
theorem OneToOne.once_each {set : HandlerSet} {s : Inbox ι W}
    (h : OneToOne set.handlers s) : HandledOnce set.handlers s.committed := by
  intro handler hmem message_id
  have hcount : (s.committed.effects_of handler message_id).length
      = (s.committed.rows_of message_id handler.handler_name).length := by
    rw [effects_of_length h.known hmem, rows_of_length, h.paired]
  have hnodup : (s.committed.inbox.map InboxMessage.key).Nodup :=
    (List.nodup_append.mp h.once).1
  have hle : (s.committed.rows_of message_id handler.handler_name).length ≤ 1 := by
    rw [rows_of_length]
    exact List.nodup_iff_count_le_one.mp hnodup _
  refine ⟨by omega, ?_⟩
  rw [← hcount, ← List.length_pos_iff]
  omega

/-- An empty database, and dispatchers with nothing under way. -/
def idle_dispatchers : Config ι (Inbox ι W) (Attempt W) where
  shared := { committed := { inbox := [], effects := [] }, flushed := [] }
  locals := fun _ => .idle

theorem holds_idle_dispatchers (handlers : List MessageHandler) :
    Holds (OneToOne handlers) (fun s i attempt => attempt.Knows handlers s i)
      (idle_dispatchers : Config ι (Inbox ι W) (Attempt W)) := by
  refine ⟨⟨rfl, List.nodup_nil, fun effect heffect => ?_⟩, fun i => ⟨fun handler hsome => ?_, rfl⟩⟩
  · exact absurd heffect List.not_mem_nil
  · simp [idle_dispatchers, Attempt.handler] at hsome

/-- **At most once, exactly when the inbox says so.** In any interleaving of the attempts
of any number of dispatchers, on any deliveries and ending in any way, every committed
state has the effects of a handler for a message at most once, and has them precisely
when it has one inbox row for them. -/
theorem handled_once (set : HandlerSet) (handle : Handling χ W)
    (steps : List (ι × AttemptStep χ)) :
    Along (fire (attempt_step set.handlers handle))
      (fun _ _ c' => HandledOnce set.handlers c'.shared.committed) idle_dispatchers steps := by
  refine (attempt_outline set.handlers handle).along (fun c e c' hc hfire => ?_)
    (holds_idle_dispatchers set.handlers)
  exact ((attempt_outline set.handlers handle).fire hc hfire trivial).1.1.once_each

end Steps

end TradeLogistics.MessageBus
