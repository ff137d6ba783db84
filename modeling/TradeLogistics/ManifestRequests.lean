/-
Concurrent requests to finalize manifests.

A request loads one shipment without a lock, lets the aggregate declare the cargo on
its copy, and commits the columns it changed together with the row that announces the
manifest. The guard of the aggregate, that only a draft is finalized, is checked on the
copy: nothing at the commit checks it again.

So a second request that read the draft before the first one committed overwrites the
stored manifest and announces its own beside the first. What survives is exact: along
a run, a shipment is announced at most once and as stored precisely when every commit
on it finds it still a draft. The state has every shipment and any requests; each
result is about one shipment among them.
-/
import TradeLogistics.Shipment
import TradeLogistics.Runs

set_option autoImplicit false

namespace TradeLogistics.Shipments

open TradeLogistics.PyText TradeLogistics.PyNumber TradeLogistics.Runs
open TradeLogistics.UnitOfWork TradeLogistics.MessageBus

/-! ## 1. The committed rows -/

/-- The shipments by primary key, and the outbox of the module. -/
structure ShipmentDatabase where
  shipments : Uuid → Option ShipmentRow
  outbox : List OutboxMessage

def SHIPMENT_MANIFEST_FINALIZED_ROUTING_KEY : String :=
  "trade-logistics.shipment.manifest-finalized"

/-- Where the announcements go: the primary exchange of the settings. -/
def manifest_destination (exchange : String) : MessageDestination where
  exchange
  routing_key := SHIPMENT_MANIFEST_FINALIZED_ROUTING_KEY

/-- The commit of a session that loaded one version of a shipment, leaves another, and
scheduled one event under the identifier `uuid4()` answered. -/
def ShipmentDatabase.commit (db : ShipmentDatabase) (exchange : String) (id : Uuid)
    (loaded after : ShipmentRow) (event : ShipmentManifestFinalized) (message_id : Uuid)
    (now : ℕ) : Option ShipmentDatabase :=
  match (db.shipments id).bind (loaded.flush after) with
  | none => none
  | some row =>
    if db.outbox.any fun message => message.message_id == message_id then none
    else some
      { shipments := Function.update db.shipments id (some row)
        outbox := db.outbox
          ++ [OutboxMessage.schedule event.message (manifest_destination exchange) message_id
                now] }

/-! ## 2. Requests -/

/-- `FinalizeManifestCommand`. -/
structure FinalizeManifestCommand where
  total_weight_kg : PyFloat
  total_volume_cbm : PyFloat
  commodity_code : String

/-- Where a request stands: what it was sent, the row it read, and the row and the
event the aggregate made of it. -/
inductive Finalization where
  | received (shipment_id : String) (command : FinalizeManifestCommand)
  | loaded (id : Uuid) (row : ShipmentRow) (command : FinalizeManifestCommand)
  | handled (id : Uuid) (row after : ShipmentRow) (event : ShipmentManifestFinalized)
  | finished

/-- The atomic actions of a request; a failure at any point rolls the session back. -/
inductive FinalizationStep where
  | find_by_id
  | handle
  | commit (message_id : Uuid) (now : ℕ)
  | fail

/-- What the aggregate makes of the row that was read, `none` where anything raises. -/
def finalize (id : Uuid) (row : ShipmentRow) (command : FinalizeManifestCommand) :
    Option (ShipmentRow × ShipmentManifestFinalized) :=
  match row.to_shipment id with
  | .error _ => none
  | .ok shipment =>
    match CargoManifest.make (.float command.total_weight_kg) (.float command.total_volume_cbm)
        (.str command.commodity_code) with
    | .error _ => none
    | .ok manifest =>
      match shipment.finalize_manifest manifest with
      | (_, .error _) => none
      | (shipment, .ok event) => some (row.assigned shipment, event)

/-- `FinalizeManifestHandler.handle` between two commits of the others. -/
def finalize_step {ι : Type*} (exchange : String) (_ : ι) (db : ShipmentDatabase) :
    Finalization → FinalizationStep → Option (ShipmentDatabase × Finalization)
  | .received shipment_id command, .find_by_id =>
    match Uuid.parse shipment_id with
    | none => some (db, .finished)
    | some id =>
      match db.shipments id with
      | none => some (db, .finished)
      | some row => some (db, .loaded id row command)
  | .loaded id row command, .handle =>
    match finalize id row command with
    | none => some (db, .finished)
    | some (after, event) => some (db, .handled id row after event)
  | .handled id row after event, .commit message_id now =>
    (db.commit exchange id row after event message_id now).map fun db => (db, .finished)
  | .finished, .fail => none
  | _, .fail => some (db, .finished)
  | _, _ => none

/-! ## 3. What is announced, and what is stored -/

/-- A text member of the body of a row. -/
def body_text (message : OutboxMessage) (key : String) : Option String :=
  match message.body.lookup key with
  | some (.str s) => some s
  | _ => none

/-- The rows that announce the manifest of a shipment. -/
def announcements (db : ShipmentDatabase) (id : Uuid) : List OutboxMessage :=
  db.outbox.filter fun message =>
    message.message_type == "ShipmentManifestFinalized"
      && body_text message "shipment_id" == some id.str

/-- A shipment is announced at most once, with the code its row holds. -/
def AnnouncedAsStored (id : Uuid) (db : ShipmentDatabase) : Prop :=
  (announcements db id).length ≤ 1 ∧
    ∀ message ∈ announcements db id, ∃ row code, db.shipments id = some row
      ∧ row.commodity_code = some code ∧ body_text message "commodity_code" = some code

/-- A commit on the shipment finds it still a draft. -/
def OnDraft (id : Uuid) (db : ShipmentDatabase) : Finalization → FinalizationStep → Prop
  | .handled id' _ _ _, .commit _ _ =>
    id' = id → ∃ row, db.shipments id = some row ∧ row.status = .DRAFT
  | _, _ => True

/-! ## 4. One action -/

/-- What the aggregate makes of a row: the row was a draft, and what it announces is
what it assigned. -/
theorem finalize_ok {id : Uuid} {row after : ShipmentRow} {command : FinalizeManifestCommand}
    {event : ShipmentManifestFinalized} (h : finalize id row command = some (after, event)) :
    row.status = .DRAFT ∧ after.status = .READY_FOR_MANIFEST
      ∧ after.commodity_code = some event.commodity_code ∧ event.shipment_id = id.str := by
  unfold finalize at h
  split at h
  · cases h
  · next shipment hload =>
    obtain ⟨hid, hstatus⟩ := ShipmentRow.to_shipment_ok hload
    split at h
    · cases h
    · next manifest _ =>
      rcases shipment.finalize_manifest_cases manifest with ⟨e, he⟩ | ⟨hdraft, -, hok⟩
      · rw [he] at h
        cases h
      · rw [hok] at h
        cases h
        exact ⟨hstatus ▸ hdraft, rfl, rfl, by rw [hid]⟩

/-- What a commit does: one row flushed, one announcement more. -/
theorem commit_ok {db db' : ShipmentDatabase} {exchange : String} {id : Uuid}
    {loaded after : ShipmentRow} {event : ShipmentManifestFinalized} {message_id : Uuid} {now : ℕ}
    (h : db.commit exchange id loaded after event message_id now = some db') :
    ∃ stored row, db.shipments id = some stored ∧ loaded.flush after stored = some row
      ∧ db'.shipments = Function.update db.shipments id (some row)
      ∧ db'.outbox = db.outbox
        ++ [OutboxMessage.schedule event.message (manifest_destination exchange) message_id
          now] := by
  unfold ShipmentDatabase.commit at h
  split at h
  · cases h
  · next row hrow =>
    obtain ⟨stored, hstored, hflush⟩ := Option.bind_eq_some_iff.mp hrow
    split at h
    · cases h
    · cases h
      exact ⟨stored, row, hstored, hflush, rfl, rfl⟩

/-- Only a commit touches the committed rows. -/
theorem finalize_step_cases {ι : Type*} {i : ι} {exchange : String} {db db' : ShipmentDatabase}
    {k k' : Finalization} {a : FinalizationStep}
    (h : finalize_step exchange i db k a = some (db', k')) :
    (db' = db ∧ (∀ message_id now, a ≠ .commit message_id now)
      ∧ (k' = .finished
        ∨ (∃ id row command, db.shipments id = some row ∧ k' = .loaded id row command)
        ∨ (∃ id row command after event, k = .loaded id row command
            ∧ finalize id row command = some (after, event)
            ∧ k' = .handled id row after event)))
    ∨ (∃ id row after event message_id now, k = .handled id row after event
        ∧ a = .commit message_id now ∧ k' = .finished
        ∧ db.commit exchange id row after event message_id now = some db') := by
  unfold finalize_step at h
  split at h
  · split at h
    · cases h
      exact .inl ⟨rfl, by simp, .inl rfl⟩
    · next id _ =>
      split at h
      · cases h
        exact .inl ⟨rfl, by simp, .inl rfl⟩
      · next row hrow =>
        cases h
        exact .inl ⟨rfl, by simp, .inr (.inl ⟨id, row, _, hrow, rfl⟩)⟩
  · next id row command =>
    -- the aggregate refuses, or answers with its event
    split at h
    · cases h
      exact .inl ⟨rfl, by simp, .inl rfl⟩
    · next after event hfinalize =>
      cases h
      exact .inl ⟨rfl, by simp, .inr (.inr ⟨id, row, command, after, event, rfl, hfinalize, rfl⟩)⟩
  · next id row after event message_id now =>
    obtain ⟨stored, hcommit, hpair⟩ := Option.map_eq_some_iff.mp h
    cases hpair
    exact .inr ⟨id, row, after, event, message_id, now, rfl, rfl, rfl, hcommit⟩
  · cases h
  · cases h
    exact .inl ⟨rfl, by simp, .inl rfl⟩
  · cases h

/-! ## 5. The outline, for one shipment -/

/-- As long as every commit found a draft: a draft is unannounced, and the rest is what
was promised. -/
structure Consistent (id : Uuid) (db : ShipmentDatabase) : Prop where
  draft : ∀ row, db.shipments id = some row → row.status = .DRAFT → announcements db id = []
  stored : AnnouncedAsStored id db

/-- The row is still the one that was read, or somebody announced the shipment since. -/
def Unchanged (id : Uuid) (db : ShipmentDatabase) (row : ShipmentRow) : Prop :=
  db.shipments id = some row ∨ announcements db id ≠ []

/-- What a request on the shipment knows of the rows. -/
def Finalization.Knows (id : Uuid) (db : ShipmentDatabase) : Finalization → Prop
  | .received _ _ => True
  | .loaded id' row _ => id' = id → Unchanged id db row
  | .handled id' row after event =>
    event.shipment_id = id'.str ∧ (id' = id → Unchanged id db row ∧ row.status = .DRAFT
      ∧ after.status = .READY_FOR_MANIFEST ∧ after.commodity_code = some event.commodity_code)
  | .finished => True

/-- What the others may rely on: the shipment is as it was, or it has been announced. -/
def Announces (id : Uuid) (db db' : ShipmentDatabase) : Prop :=
  (db'.shipments id = db.shipments id ∧ announcements db' id = announcements db id)
    ∨ announcements db' id ≠ []

theorem Unchanged.mono {id : Uuid} {db db' : ShipmentDatabase} {row : ShipmentRow}
    (h : Announces id db db') (hrow : Unchanged id db row) : Unchanged id db' row := by
  rcases h with ⟨hsame, hann⟩ | hann
  · exact hrow.imp (fun he => hsame.trans he) (fun he => by rwa [hann])
  · exact .inr hann

theorem Finalization.Knows.mono {id : Uuid} {db db' : ShipmentDatabase} {k : Finalization}
    (h : Announces id db db') (hk : k.Knows id db) : k.Knows id db' := by
  cases k with
  | received shipment_id command => trivial
  | loaded id' row command => exact fun he => (hk he).mono h
  | handled id' row after event =>
      refine ⟨hk.1, fun he => ?_⟩
      obtain ⟨hrow, hrest⟩ := hk.2 he
      exact ⟨hrow.mono h, hrest⟩
  | finished => trivial

/-- A commit announces its own shipment and no other. -/
theorem announcements_commit {db db' : ShipmentDatabase} {exchange : String} {id id' : Uuid}
    {event : ShipmentManifestFinalized} {message_id : Uuid} {now : ℕ}
    (hevent : event.shipment_id = id'.str)
    (houtbox : db'.outbox = db.outbox
      ++ [OutboxMessage.schedule event.message (manifest_destination exchange) message_id now]) :
    announcements db' id = announcements db id ++ if id' = id then
      [OutboxMessage.schedule event.message (manifest_destination exchange) message_id now]
      else [] := by
  have hid : body_text (OutboxMessage.schedule event.message (manifest_destination exchange)
      message_id now) "shipment_id" = some id'.str := by
    rw [← hevent]
    rfl
  rw [announcements, houtbox, List.filter_append]
  by_cases h : id' = id
  · rw [if_pos h, List.filter_cons_of_pos]
    · rfl
    · rw [hid, h]
      simp [OutboxMessage.schedule, ShipmentManifestFinalized.message]
  · have hne : ¬ id'.str = id.str := fun he => h (Uuid.str_injective he)
    rw [if_neg h, List.filter_cons_of_neg]
    · rfl
    · rw [hid]
      simp [hne]

/-- A commit that finds a draft stores what it announces, and nobody announced before. -/
theorem commit_on_draft {db db' : ShipmentDatabase} {exchange : String} {id : Uuid}
    {loaded after : ShipmentRow} {event : ShipmentManifestFinalized} {message_id : Uuid} {now : ℕ}
    (h : Consistent id db) (hrow : Unchanged id db loaded)
    (hready : after.status = .READY_FOR_MANIFEST)
    (hcode : after.commodity_code = some event.commodity_code)
    (hevent : event.shipment_id = id.str)
    (hdraft : ∃ row, db.shipments id = some row ∧ row.status = .DRAFT)
    (hcommit : db.commit exchange id loaded after event message_id now = some db') :
    Consistent id db' ∧ Announces id db db' := by
  obtain ⟨stored, row, hstored, hflush, hshipments, houtbox⟩ := commit_ok hcommit
  obtain ⟨current, hcurrent, hstatus⟩ := hdraft
  -- a draft is unannounced, so the row is the one that was loaded
  have hnone : announcements db id = [] := h.draft current hcurrent hstatus
  have hstill : db.shipments id = some loaded := hrow.resolve_right (not_not.mpr hnone)
  have hann : announcements db' id = _ := announcements_commit hevent houtbox
  rw [hnone, if_pos rfl, List.nil_append] at hann
  rw [hstill, Option.some.injEq] at hstored
  subst hstored
  obtain ⟨hrowcode, hrowstatus⟩ := ShipmentRow.flush_ok hflush
  have hnew : db'.shipments id = some row := by rw [hshipments, Function.update_self]
  refine ⟨⟨?_, ?_, ?_⟩, .inr ?_⟩
  · intro row' hrow' hd
    rw [hnew, Option.some.injEq] at hrow'
    subst hrow'
    rw [column_current, hready] at hrowstatus
    rw [hrowstatus] at hd
    cases hd
  · rw [hann]
    exact le_rfl
  · intro message hmessage
    rw [hann, List.mem_singleton] at hmessage
    subst hmessage
    refine ⟨row, event.commodity_code, hnew, ?_, rfl⟩
    rw [hrowcode, column_current, hcode]
  · rw [hann]
    exact List.cons_ne_nil _ _

/-- A commit on another shipment leaves this one as it is. -/
theorem commit_elsewhere {db db' : ShipmentDatabase} {exchange : String} {id id' : Uuid}
    {loaded after : ShipmentRow} {event : ShipmentManifestFinalized} {message_id : Uuid} {now : ℕ}
    (hne : id' ≠ id) (hevent : event.shipment_id = id'.str)
    (hcommit : db.commit exchange id' loaded after event message_id now = some db') :
    db'.shipments id = db.shipments id ∧ announcements db' id = announcements db id := by
  obtain ⟨stored, row, -, -, hshipments, houtbox⟩ := commit_ok hcommit
  refine ⟨by rw [hshipments, Function.update_of_ne (Ne.symm hne)], ?_⟩
  rw [announcements_commit hevent houtbox, if_neg hne, List.append_nil]

theorem Consistent.same {id : Uuid} {db db' : ShipmentDatabase} (h : Consistent id db)
    (hshipments : db'.shipments id = db.shipments id)
    (hann : announcements db' id = announcements db id) : Consistent id db' := by
  refine ⟨?_, ?_, ?_⟩
  · rw [hshipments, hann]
    exact h.draft
  · rw [hann]
    exact h.stored.1
  · rw [hshipments, hann]
    exact h.stored.2

theorem finalize_outline {ι : Type*} (exchange : String) (id : Uuid) :
    Outline (finalize_step (ι := ι) exchange) (OnDraft id) (Consistent id)
      (fun db _ k => k.Knows id db) (fun _ db db' => Announces id db db') where
  own := by
    intro i db k a db' k' h hk hstep hdraft
    rcases finalize_step_cases hstep with
      ⟨rfl, -, hk'⟩ | ⟨id', row, after, event, message_id, now, rfl, rfl, rfl, hcommit⟩
    · refine ⟨h, ?_, .inl ⟨rfl, rfl⟩⟩
      rcases hk' with rfl | ⟨id', row, command, hrow, rfl⟩ |
        ⟨id', row, command, after, event, rfl, hfinalize, rfl⟩
      · trivial
      · rintro rfl
        exact .inl hrow
      · obtain ⟨hloaded, hready, hcode, hevent⟩ := finalize_ok hfinalize
        exact ⟨hevent, fun he => ⟨hk he, hloaded, hready, hcode⟩⟩
    · obtain ⟨hevent, hknows⟩ := hk
      -- a commit on this shipment, or on another, which it does not concern
      by_cases he : id' = id
      · subst he
        obtain ⟨hrow, -, hready, hcode⟩ := hknows rfl
        obtain ⟨h', hann⟩ :=
          commit_on_draft h hrow hready hcode hevent (hdraft rfl) hcommit
        exact ⟨h', trivial, hann⟩
      · obtain ⟨hshipments, hann⟩ := commit_elsewhere he hevent hcommit
        exact ⟨h.same hshipments hann, trivial, .inl ⟨hshipments, hann⟩⟩
  stable := fun _ _ _ _ _ _ _ hann hk => hk.mono hann

/-- A commit after which the shipment is still announced at most once found a draft:
had somebody announced it, there would now be two. -/
theorem on_draft_of_announced_once {ι : Type*} {exchange : String} {id : Uuid} {i : ι}
    {db db' : ShipmentDatabase} {k k' : Finalization} {a : FinalizationStep}
    (hk : k.Knows id db) (hstep : finalize_step exchange i db k a = some (db', k'))
    (honce : AnnouncedAsStored id db') : OnDraft id db k a := by
  rcases finalize_step_cases hstep with
    ⟨-, ha, -⟩ | ⟨id', row, after, event, message_id, now, rfl, rfl, -, hcommit⟩
  · unfold OnDraft
    split
    · exact absurd rfl (ha _ _)
    · trivial
  · rintro rfl
    obtain ⟨hevent, hknows⟩ := hk
    obtain ⟨hrow, hloaded, -, -⟩ := hknows rfl
    obtain ⟨-, -, -, -, -, houtbox⟩ := commit_ok hcommit
    -- one announcement after the commit, and the commit made one
    have hlength := honce.1
    rw [announcements_commit hevent houtbox, if_pos rfl, List.length_append,
      List.length_singleton] at hlength
    have hnone : announcements db id' = [] := List.length_eq_zero_iff.mp (by omega)
    exact ⟨row, hrow.resolve_right (not_not.mpr hnone), hloaded⟩

/-! ## 6. Every run -/

/-- Any shipments, nothing announced yet, and a request for each thread. -/
def before_requests {ι : Type*} (shipments : Uuid → Option ShipmentRow)
    (requests : ι → String × FinalizeManifestCommand) :
    Config ι ShipmentDatabase Finalization where
  shared := { shipments, outbox := [] }
  locals := fun i => .received (requests i).1 (requests i).2

/-- **Concurrent finalizations, exactly.** In any interleaving of any number of
requests on any shipments, a shipment is announced at most once and as stored in every
committed state precisely when every commit on it finds it still a draft. -/
theorem announced_as_stored_iff {ι : Type*} [DecidableEq ι] (exchange : String) (id : Uuid)
    (shipments : Uuid → Option ShipmentRow) (requests : ι → String × FinalizeManifestCommand)
    (steps : List (ι × FinalizationStep)) :
    Along (fire (finalize_step exchange)) (fun _ _ c' => AnnouncedAsStored id c'.shared)
        (before_requests shipments requests) steps
      ↔ Along (fire (finalize_step exchange)) (fun c e _ => OnDraft id c.shared (c.locals e.1) e.2)
        (before_requests shipments requests) steps := by
  have hstart : Holds (Consistent id) (fun db (_ : ι) k => k.Knows id db)
      (before_requests shipments requests) := by
    refine ⟨⟨fun _ _ _ => rfl, Nat.zero_le _, fun message hmessage => ?_⟩, fun _ => trivial⟩
    exact absurd hmessage List.not_mem_nil
  refine (finalize_outline exchange id).along_exact
    (fun _ db' => AnnouncedAsStored id db') ?_ ?_ hstart
  · intro i db k a db' k' h hk hstep hdraft
    exact ((finalize_outline exchange id).own i db k a db' k' h hk hstep hdraft).1.stored
  · intro i db k a db' k' _ hk hstep honce
    exact on_draft_of_announced_once hk hstep honce

/-- A draft shipment, and two declarations of its cargo. -/
def draftRow : ShipmentRow where
  waybill_number := "MUST-0000042"
  total_weight_kg := none
  total_volume_cbm := none
  commodity_code := none
  origin_port_code := "ESVLC"
  destination_port_code := "CNSHA"
  transit_legs := []
  status := .DRAFT
  exception_reason := none

def draftId : Uuid := .of_byte 7

def declarations : Bool → String × FinalizeManifestCommand
  | false => (draftId.str, ⟨.finite 12500, .finite 68, "8471"⟩)
  | true => (draftId.str, ⟨.finite 9000, .finite 40, "0901"⟩)

/-- Both requests read the draft before either commits. -/
def racingSteps : List (Bool × FinalizationStep) :=
  [(false, .find_by_id), (true, .find_by_id), (false, .handle), (true, .handle),
    (false, .commit (.of_byte 101) 1)]

/-- Two racing finalizations announce one shipment twice. -/
theorem racing_finalizations_announce_twice :
    ¬ Along (fire (finalize_step "trade-logistics.topic"))
        (fun _ _ c' => AnnouncedAsStored draftId c'.shared)
        (before_requests (fun id => if id = draftId then some draftRow else none) declarations)
        (racingSteps ++ [(true, .commit ⟨102, by decide⟩ 2)]) := by
  intro h
  have hend : (run (fire (finalize_step "trade-logistics.topic"))
      (before_requests (fun id => if id = draftId then some draftRow else none) declarations)
      (racingSteps ++ [(true, .commit ⟨102, by decide⟩ 2)])).map
        (fun c => (announcements c.shared draftId).length) = some 2 := by decide +kernel
  obtain ⟨c, hrun, hc⟩ := Option.map_eq_some_iff.mp hend
  obtain ⟨-, -, honce, -⟩ := along_last _ h hrun
  rw [hc] at honce
  exact absurd honce (by decide)

end TradeLogistics.Shipments
