/-
One shipment, called in any order by anybody.

A history is a shipment together with everything its calls have answered so far: an event, a
refusal, or nothing. Two calls touch four things, the route, the manifest, the status and
the events, and one step decides for all of them. A refused call changes none. A route that
is assigned changes nothing else. A manifest is accepted only on a draft, which is then one
no more, so there is one manifest and one event about it.
-/
import TradeLogistics.Shipment
import TradeLogistics.Runs

set_option autoImplicit false

namespace TradeLogistics.Shipments

open TradeLogistics.PyText TradeLogistics.PyNumber TradeLogistics.Runs

/-! ## 1. Calls and histories -/

/-- One call on a shipment. -/
inductive ShipmentCall where
  | assign_route (new_route : ShipmentRoute)
  | finalize_manifest (manifest : CargoManifest)

/-- What a call answers: an exception, nothing, or an event. -/
abbrev Answer := Except ShipmentError (Option ShipmentManifestFinalized)

/-- What a call makes of a shipment, and what it answers. -/
def ShipmentCall.perform (call : ShipmentCall) (shipment : Shipment) : Shipment × Answer :=
  match call with
  | .assign_route new_route =>
    let (shipment, result) := shipment.assign_route new_route
    (shipment, result.map fun _ => none)
  | .finalize_manifest manifest =>
    let (shipment, result) := shipment.finalize_manifest manifest
    (shipment, result.map some)

/-- The event in an answer, if there is one. -/
def Answer.events : Answer → List ShipmentManifestFinalized
  | .ok (some event) => [event]
  | _ => []

/-- The route after a call, by the call and its answer. -/
def routed (route : ShipmentRoute) : ShipmentCall × Answer → ShipmentRoute
  | (.assign_route new_route, .ok _) => new_route
  | _ => route

/-- A shipment and its calls so far, with their answers. -/
structure ShipmentHistory where
  shipment : Shipment
  calls : List (ShipmentCall × Answer)

namespace ShipmentHistory

/-- A call is always possible: a refusal is a call too. -/
def step (h : ShipmentHistory) (call : ShipmentCall) : Option ShipmentHistory :=
  let (shipment, answer) := call.perform h.shipment
  some { shipment, calls := h.calls ++ [(call, answer)] }

/-- The events that were returned. -/
def events (h : ShipmentHistory) : List ShipmentManifestFinalized :=
  h.calls.flatMap fun entry => entry.2.events

/-- The route of the last `assign_route` that was not refused, or the original one. -/
def last_route (original : ShipmentRoute) (h : ShipmentHistory) : ShipmentRoute :=
  h.calls.foldl routed original

end ShipmentHistory

/-- The event about a manifest of a shipment. -/
def Shipment.announcement (shipment : Shipment) (manifest : CargoManifest) :
    ShipmentManifestFinalized where
  shipment_id := shipment.id.str
  waybill_number := shipment.waybill_number.value
  commodity_code := manifest.commodity_code

/-- What holds at any point of the history of a shipment; `created` is the shipment as it
was created. -/
structure ShipmentInvariant (created : Shipment) (h : ShipmentHistory) : Prop where
  id : h.shipment.id = created.id
  waybill_number : h.shipment.waybill_number = created.waybill_number
  draft : h.shipment.status = .DRAFT ↔ h.shipment.manifest = none
  ready : h.shipment.status ≠ .DRAFT → h.shipment.status = .READY_FOR_MANIFEST
  announced : h.shipment.status = .READY_FOR_MANIFEST →
    ∃ manifest, h.shipment.manifest = some manifest
      ∧ h.events = [created.announcement manifest]
  unannounced : h.shipment.status ≠ .READY_FOR_MANIFEST → h.events = []
  route : h.shipment.route = h.last_route created.route

/-- A manifest that is held is held ever after. -/
def Keeps (before after : Shipment) : Prop :=
  ∀ manifest, before.manifest = some manifest → after.manifest = some manifest

/-! ## 2. One call -/

/-- `assign_route`: it is refused, or the route is replaced and nothing else. -/
theorem Shipment.assign_route_cases (self : Shipment) (new_route : ShipmentRoute) :
    (∃ e, self.assign_route new_route = (self, .error e))
    ∨ self.assign_route new_route = ({ self with route := new_route }, .ok ()) := by
  unfold Shipment.assign_route
  split
  · exact .inl ⟨_, rfl⟩
  · exact .inr rfl

/-- **What a call can do.** -/
theorem perform_cases (call : ShipmentCall) (shipment : Shipment) :
    (∃ e, call.perform shipment = (shipment, .error e))
    ∨ (∃ new_route, call = .assign_route new_route
      ∧ call.perform shipment = ({ shipment with route := new_route }, .ok none))
    ∨ (∃ manifest, call = .finalize_manifest manifest ∧ shipment.status = .DRAFT
      ∧ call.perform shipment
        = ({ shipment with manifest := some manifest, status := .READY_FOR_MANIFEST },
            .ok (some (shipment.announcement manifest)))) := by
  cases call with
  | assign_route new_route =>
      rcases shipment.assign_route_cases new_route with ⟨e, he⟩ | hok
      · refine .inl ⟨e, ?_⟩
        simp only [ShipmentCall.perform, he]
        rfl
      · refine .inr (.inl ⟨new_route, rfl, ?_⟩)
        simp only [ShipmentCall.perform, hok]
        rfl
  | finalize_manifest manifest =>
      rcases shipment.finalize_manifest_cases manifest with ⟨e, he⟩ | ⟨hdraft, -, hok⟩
      · refine .inl ⟨e, ?_⟩
        simp only [ShipmentCall.perform, he]
        rfl
      · refine .inr (.inr ⟨manifest, rfl, hdraft, ?_⟩)
        simp only [ShipmentCall.perform, hok]
        rfl

/-- A refused call leaves every field unchanged. -/
theorem refused_unchanged {call : ShipmentCall} {shipment : Shipment} {e : ShipmentError}
    (h : (call.perform shipment).2 = .error e) : (call.perform shipment).1 = shipment := by
  rcases perform_cases call shipment with ⟨e', he⟩ | ⟨_, -, hok⟩ | ⟨_, -, -, hok⟩
  · rw [he]
  · rw [hok] at h
    cases h
  · rw [hok] at h
    cases h

namespace ShipmentHistory

theorem step_eq {h h' : ShipmentHistory} {call : ShipmentCall} {shipment : Shipment}
    {answer : Answer} (hperform : call.perform h.shipment = (shipment, answer))
    (hstep : h.step call = some h') :
    h' = { shipment, calls := h.calls ++ [(call, answer)] } := by
  unfold step at hstep
  rw [hperform, Option.some.injEq] at hstep
  exact hstep.symm

/-- What a call adds to the events. -/
theorem events_add (h : ShipmentHistory) (shipment : Shipment) (entry : ShipmentCall × Answer) :
    events { shipment, calls := h.calls ++ [entry] } = h.events ++ entry.2.events := by
  unfold events
  rw [List.flatMap_append, List.flatMap_singleton]

/-- What a call makes of the last route. -/
theorem last_route_add (original : ShipmentRoute) (h : ShipmentHistory) (shipment : Shipment)
    (entry : ShipmentCall × Answer) :
    last_route original { shipment, calls := h.calls ++ [entry] }
      = routed (h.last_route original) entry := by
  unfold last_route
  rw [List.foldl_append, List.foldl_cons, List.foldl_nil]

/-- **One call** keeps the invariant, and the manifest that is held. -/
theorem step_invariant {created : Shipment} {h h' : ShipmentHistory} {call : ShipmentCall}
    (hi : ShipmentInvariant created h) (hstep : h.step call = some h') :
    ShipmentInvariant created h' ∧ Keeps h.shipment h'.shipment := by
  rcases perform_cases call h.shipment with
    ⟨e, he⟩ | ⟨new_route, rfl, hok⟩ | ⟨manifest, rfl, hdraft, hok⟩
  · rw [step_eq he hstep]
    have hevents := events_add h h.shipment (call, .error e)
    have hroute := last_route_add created.route h h.shipment (call, .error e)
    rw [show Answer.events (.error e) = [] from rfl, List.append_nil] at hevents
    have hsame : routed (h.last_route created.route) (call, .error e)
        = h.last_route created.route := by
      cases call <;> rfl
    refine ⟨⟨hi.id, hi.waybill_number, hi.draft, hi.ready, ?_, ?_, ?_⟩, fun _ hm => hm⟩
    · rw [hevents]
      exact hi.announced
    · rw [hevents]
      exact hi.unannounced
    · rw [hroute, hsame]
      exact hi.route
  · rw [step_eq hok hstep]
    have hevents := events_add h { h.shipment with route := new_route }
      (.assign_route new_route, .ok none)
    have hroute := last_route_add created.route h { h.shipment with route := new_route }
      (.assign_route new_route, .ok none)
    rw [show Answer.events (.ok none) = [] from rfl, List.append_nil] at hevents
    refine ⟨⟨hi.id, hi.waybill_number, hi.draft, hi.ready, ?_, ?_, ?_⟩, fun _ hm => hm⟩
    · rw [hevents]
      exact hi.announced
    · rw [hevents]
      exact hi.unannounced
    · rw [hroute]
      rfl
  · rw [step_eq hok hstep]
    have hevents := events_add h
      { h.shipment with manifest := some manifest, status := .READY_FOR_MANIFEST }
      (.finalize_manifest manifest, .ok (some (h.shipment.announcement manifest)))
    have hroute := last_route_add created.route h
      { h.shipment with manifest := some manifest, status := .READY_FOR_MANIFEST }
      (.finalize_manifest manifest, .ok (some (h.shipment.announcement manifest)))
    -- nothing was announced of a draft
    have hbefore : h.events = [] := hi.unannounced (by rw [hdraft]; decide)
    have hsame : h.shipment.announcement manifest = created.announcement manifest := by
      unfold Shipment.announcement
      rw [hi.id, hi.waybill_number]
    refine ⟨⟨hi.id, hi.waybill_number, iff_of_false nofun nofun, fun _ => rfl, ?_, ?_, ?_⟩, ?_⟩
    · intro _
      refine ⟨manifest, rfl, ?_⟩
      rw [hevents, hbefore, ← hsame]
      rfl
    · intro hready
      exact absurd rfl hready
    · rw [hroute]
      exact hi.route
    · intro held hheld
      rw [hi.draft.mp hdraft] at hheld
      cases hheld

/-! ## 3. Every sequence of calls -/

theorem invariant_created {shipment_id : Uuid} {waybill_number : WaybillNumber}
    {origin_port_code destination_port_code : Value} {created : Shipment}
    (h : Shipment.create shipment_id waybill_number origin_port_code destination_port_code
      = .ok created) : ShipmentInvariant created ⟨created, []⟩ := by
  obtain ⟨hstatus, hmanifest⟩ : created.status = .DRAFT ∧ created.manifest = none := by
    unfold Shipment.create at h
    cases hroute : ShipmentRoute.make origin_port_code destination_port_code .none with
    | error e =>
        rw [hroute] at h
        cases h
    | ok route =>
        rw [hroute] at h
        cases h
        exact ⟨rfl, rfl⟩
  refine ⟨rfl, rfl, iff_of_true hstatus hmanifest, fun hne => absurd hstatus hne, ?_, ?_, rfl⟩
  · intro hready
    rw [hstatus] at hready
    cases hready
  · intro _
    rfl

/-- More calls keep the invariant, and the manifest. -/
theorem run_invariant {created : Shipment} {h h' : ShipmentHistory} {calls : List ShipmentCall}
    (hi : ShipmentInvariant created h) (hrun : run step h calls = some h') :
    ShipmentInvariant created h' ∧ Keeps h.shipment h'.shipment := by
  have hkeep : ∀ s call s', ShipmentInvariant created s ∧ Keeps h.shipment s.shipment →
      s.step call = some s' → ShipmentInvariant created s' ∧ Keeps h.shipment s'.shipment := by
    rintro s call s' ⟨hs, hkept⟩ hstep
    obtain ⟨hs', hnext⟩ := step_invariant hs hstep
    exact ⟨hs', fun manifest hm => hnext manifest (hkept manifest hm)⟩
  exact run_inv step hkeep ⟨hi, fun _ hm => hm⟩ hrun

/-- No sequence of calls gets stuck. -/
theorem run_total (h : ShipmentHistory) (calls : List ShipmentCall) :
    ∃ h', run step h calls = some h' := by
  induction calls generalizing h with
  | nil => exact ⟨h, rfl⟩
  | cons call calls ih => exact ih _

/-- **The life of a shipment.** Whatever calls were made since it was created, its invariant
holds; whatever calls follow, a manifest that is held stays; and a call that raises leaves
the shipment as it was. -/
theorem shipment_history {shipment_id : Uuid} {waybill_number : WaybillNumber}
    {origin_port_code destination_port_code : Value} {created : Shipment}
    (hcreate : Shipment.create shipment_id waybill_number origin_port_code
      destination_port_code = .ok created) (calls more : List ShipmentCall) :
    ∃ h h', run step ⟨created, []⟩ calls = some h
      ∧ run step ⟨created, []⟩ (calls ++ more) = some h'
      ∧ ShipmentInvariant created h ∧ Keeps h.shipment h'.shipment
      ∧ ∀ (call : ShipmentCall) (e : ShipmentError),
        (call.perform h.shipment).2 = .error e → (call.perform h.shipment).1 = h.shipment := by
  obtain ⟨h, hcalls⟩ := run_total ⟨created, []⟩ calls
  obtain ⟨h', hmore⟩ := run_total h more
  have hi := (run_invariant (invariant_created hcreate) hcalls).1
  refine ⟨h, h', hcalls, ?_, hi, (run_invariant hi hmore).2, fun _ _ => refused_unchanged⟩
  rw [run_append, hcalls]
  exact hmore

/-- The shipment of the sample history below, as it was created. -/
def sample_created : Shipment where
  id := .of_byte 9
  waybill_number := ⟨"MUST-0000077", by decide⟩
  route := ⟨⟨"SEGOT", by decide⟩, ⟨"JPTYO", by decide⟩, [], by decide⟩
  status := .DRAFT
  manifest := none
  exception_reason := none

/-- The same ends with a call in between. -/
def sample_detour : ShipmentRoute :=
  ⟨⟨"SEGOT", by decide⟩, ⟨"JPTYO", by decide⟩, [⟨"SGSIN", by decide⟩], by decide⟩

/-- So many kilograms under a commodity code. -/
def sample_manifest (kilograms : ℕ) : CargoManifest where
  total_weight_kg := ⟨.finite kilograms, by simp [PyFloat.lt]⟩
  total_volume_cbm := ⟨.finite 3, by decide⟩
  commodity_code := "4407.11"
  code_required := by decide
  code_fits := by decide

/-- A manifest without weight is refused, and so is a second one. -/
def sample_calls : List ShipmentCall :=
  [.finalize_manifest (sample_manifest 0), .finalize_manifest (sample_manifest 900),
    .finalize_manifest (sample_manifest 950), .assign_route sample_detour]

theorem sample_creates : Shipment.create (.of_byte 9) sample_created.waybill_number
    (.str " segot") (.str "JPTYO") = .ok sample_created := by decide +kernel

/-- The history of the sample calls, up to the last one and after it. -/
theorem shipment_history_sample :
    (∃ h h', run step ⟨sample_created, []⟩ (sample_calls.take 3) = some h
      ∧ run step ⟨sample_created, []⟩ (sample_calls.take 3 ++ sample_calls.drop 3) = some h'
      ∧ ShipmentInvariant sample_created h ∧ Keeps h.shipment h'.shipment
      ∧ ∀ (call : ShipmentCall) (e : ShipmentError),
        (call.perform h.shipment).2 = .error e → (call.perform h.shipment).1 = h.shipment)
    ∧ (run step ⟨sample_created, []⟩ sample_calls).map (fun h => (h.shipment.route, h.events))
      = some (sample_detour, [sample_created.announcement (sample_manifest 900)]) :=
  ⟨shipment_history sample_creates (sample_calls.take 3) (sample_calls.drop 3),
    by decide +kernel⟩

end ShipmentHistory

end TradeLogistics.Shipments
