/-
Which itineraries a route is made of, and what is left of one in its columns and its text.

The constructor normalizes every code before it looks for a port that is called at twice,
so what counts is the normalized itinerary: a route is made of it or refused, and it is the
route whose hops are that itinerary (`make_ok_iff`). The rest follows from this and from one
fact about codes, that normalizing leaves them as they are: a route read back from its
columns is made of its own hops.
-/
import TradeLogistics.Shipment

set_option autoImplicit false

namespace TradeLogistics.Shipments

open TradeLogistics.PyText TradeLogistics.PyNumber

/-! ## 1. Codes -/

/-- `value.strip().upper()`. -/
@[irreducible] def normalized (value : String) : String := upper (strip value)

theorem isDigitAscii_iff {c : Char} : isDigitAscii c = true ↔ c.isDigit = true := by
  simp only [isDigitAscii, Char.isDigit, Bool.and_eq_true, decide_eq_true_eq]
  rfl

/-- A code is capital letters and digits. -/
theorem port_code_plain {s : String} (h : PORT_CODE_PATTERN s = true) :
    ∀ c ∈ s.toList, 48 ≤ c.toNat ∧ c.toNat ≤ 90 := by
  have hletter : ∀ c : Char, isUpperAscii c = true → 48 ≤ c.toNat ∧ c.toNat ≤ 90 := by
    intro c hc
    simp only [isUpperAscii, Bool.and_eq_true, decide_eq_true_eq] at hc
    have hlow : 65 ≤ c.toNat := hc.1
    have hhigh : c.toNat ≤ 90 := hc.2
    omega
  have hdigit : ∀ c : Char, isDigitAscii c = true → 48 ≤ c.toNat ∧ c.toNat ≤ 90 := by
    intro c hc
    have hbounds := isDigit_bounds (isDigitAscii_iff.mp hc)
    omega
  unfold PORT_CODE_PATTERN at h
  split at h
  · next a b c d e hs =>
      simp only [Bool.and_eq_true, List.all_eq_true, Bool.or_eq_true] at h
      obtain ⟨⟨ha, hb⟩, hrest⟩ := h
      intro x hx
      rw [hs, List.mem_cons, List.mem_cons] at hx
      rcases hx with rfl | rfl | hx
      · exact hletter x ha
      · exact hletter x hb
      · rcases hrest x hx with hx | hx
        · exact hletter x hx
        · exact hdigit x hx
  · cases h

/-- **Normalizing leaves a code as it is.** -/
theorem normalized_code (code : PortCode) : normalized code.val = code.val := by
  unfold normalized
  apply upper_strip_plain
  intro c hc
  have hplain := port_code_plain code.property c hc
  omega

/-- No blank is in a code, so no separator is. -/
theorem no_blank_in_code (code : PortCode) : ' ' ∉ code.val.toList := by
  intro hblank
  have hplain := port_code_plain code.property ' ' hblank
  exact absurd hplain.1 (by decide)

/-- A visited port is found, at any distance. -/
theorem calledTwice_none_iff {visited hops : List PortCode} :
    calledTwice visited hops = none ↔ hops.Nodup ∧ ∀ hop ∈ hops, hop ∉ visited := by
  constructor
  · exact nodup_of_calledTwice
  · induction hops generalizing visited with
    | nil =>
        intro _
        rfl
    | cons hop hops ih =>
        rintro ⟨hnodup, hfresh⟩
        rw [List.nodup_cons] at hnodup
        rw [calledTwice, if_neg (hfresh hop List.mem_cons_self)]
        refine ih ⟨hnodup.2, fun x hx hvisited => ?_⟩
        rcases List.mem_cons.mp hvisited with rfl | hvisited
        · exact hnodup.1 hx
        · exact hfresh x (List.mem_cons_of_mem hop hx) hvisited

namespace ShipmentRoute

theorem validated_port_code_str (s label : String) : _validated_port_code (.str s) label =
    if h : PORT_CODE_PATTERN (normalized s) = true then .ok ⟨normalized s, h⟩
    else .error (.InvalidShipmentRouteError
      s!"'{s}' is not a valid {label}; expected a UN/LOCODE such as 'ESVLC'.") := by
  unfold normalized
  rfl

/-- A text is a code exactly when its normal form is one, and then it is that one. -/
theorem port_code_ok_iff {s label : String} {code : PortCode} :
    _validated_port_code (.str s) label = .ok code ↔ code.val = normalized s := by
  rw [validated_port_code_str]
  constructor
  · intro h
    split at h
    · rw [Except.ok.injEq] at h
      rw [← h]
    · cases h
  · intro h
    have hcode : PORT_CODE_PATTERN (normalized s) = true := by
      rw [← h]
      exact code.property
    rw [dif_pos hcode, Except.ok.injEq]
    exact Subtype.ext h.symm

/-- The legs are normalized one by one, in their order. -/
theorem legs_ok_iff {legs : List String} {label : String} {codes : List PortCode} :
    ((legs.map Value.str).mapM fun leg => _validated_port_code leg label) = .ok codes
      ↔ codes.map (·.val) = legs.map normalized := by
  induction legs generalizing codes with
  | nil =>
      rw [List.map_nil, List.mapM_nil, List.map_nil, List.map_eq_nil_iff]
      constructor
      · intro h
        cases h
        rfl
      · rintro rfl
        rfl
  | cons leg legs ih =>
      rw [List.map_cons, List.mapM_cons, List.map_cons]
      constructor
      · intro h
        cases hleg : _validated_port_code (.str leg) label with
        | error e =>
            rw [hleg] at h
            cases h
        | ok code =>
            cases hlegs : (legs.map Value.str).mapM fun leg => _validated_port_code leg label with
            | error e =>
                rw [hleg, hlegs] at h
                cases h
            | ok rest =>
                rw [hleg, hlegs] at h
                cases h
                rw [List.map_cons, port_code_ok_iff.mp hleg, ih.mp hlegs]
      · intro h
        obtain ⟨code, rest, rfl⟩ : ∃ code rest, codes = code :: rest := by
          cases codes with
          | nil => cases h
          | cons code rest => exact ⟨code, rest, rfl⟩
        rw [List.map_cons, List.cons.injEq] at h
        rw [port_code_ok_iff.mpr h.1, ih.mpr h.2]
        rfl

/-! ## 2. The constructor -/

/-- Origin, legs in order, destination. -/
def itinerary (origin : String) (legs : List String) (destination : String) : List String :=
  origin :: legs ++ [destination]

section

variable {origin destination : String} {legs : List String} {route : ShipmentRoute}

theorem hops_eq_iff : route.hops.map (·.val) = (itinerary origin legs destination).map normalized
    ↔ route.origin_port_code.val = normalized origin
      ∧ route.destination_port_code.val = normalized destination
      ∧ route.transit_legs.map (·.val) = legs.map normalized := by
  unfold hops itinerary
  rw [List.cons_append, List.cons_append, List.map_cons, List.map_cons, List.cons.injEq,
    List.map_append, List.map_append]
  constructor
  · rintro ⟨horigin, hrest⟩
    obtain ⟨hlegs, hlast⟩ := List.append_inj' hrest rfl
    exact ⟨horigin, (List.cons.inj hlast).1, hlegs⟩
  · rintro ⟨horigin, hdestination, hlegs⟩
    rw [hlegs, List.map_singleton, List.map_singleton, hdestination]
    exact ⟨horigin, rfl⟩

/-- Past the three checks, a route is made of codes that are all different. -/
theorem make_of_codes {o d : PortCode} {codes : List PortCode}
    (horigin : _validated_port_code (.str origin) "origin port code" = .ok o)
    (hdestination : _validated_port_code (.str destination) "destination port code" = .ok d)
    (hlegs : ((legs.map Value.str).mapM fun leg => _validated_port_code leg "transit leg")
      = .ok codes) :
    make (.str origin) (.str destination) (.sequence (legs.map Value.str)) = .ok route
      ↔ route.origin_port_code = o ∧ route.destination_port_code = d
        ∧ route.transit_legs = codes := by
  unfold make
  rw [horigin, hdestination]
  dsimp only [bind, Except.bind, _sequence]
  rw [hlegs]
  constructor
  · intro h
    split at h
    · cases h
    · dsimp only at h
      split at h
      · cases h
      · cases h
        exact ⟨rfl, rfl, rfl⟩
  · rintro ⟨rfl, rfl, rfl⟩
    have hlogical := route.logical
    have hends : route.origin_port_code ≠ route.destination_port_code := by
      rw [List.cons_append, List.nodup_cons, List.mem_append, not_or] at hlogical
      exact fun hsame => hlogical.1.2 (List.mem_singleton.mpr hsame)
    rw [if_neg hends]
    dsimp only
    split
    · next hop hfound =>
        rw [calledTwice_none_iff.mpr ⟨hlogical, fun _ _ => List.not_mem_nil⟩] at hfound
        cases hfound
    · rfl

/-- **A route is the one whose hops are the normalized itinerary.** -/
theorem make_ok_iff :
    make (.str origin) (.str destination) (.sequence (legs.map Value.str)) = .ok route
      ↔ route.hops.map (·.val) = (itinerary origin legs destination).map normalized := by
  rw [hops_eq_iff]
  constructor
  · intro h
    cases horigin : _validated_port_code (.str origin) "origin port code" with
    | error e =>
        unfold make at h
        rw [horigin] at h
        cases h
    | ok o =>
        cases hdestination : _validated_port_code (.str destination) "destination port code" with
        | error e =>
            unfold make at h
            rw [horigin, hdestination] at h
            cases h
        | ok d =>
            cases hlegs : (legs.map Value.str).mapM fun leg =>
                _validated_port_code leg "transit leg" with
            | error e =>
                unfold make at h
                rw [horigin, hdestination] at h
                dsimp only [bind, Except.bind, _sequence] at h
                rw [hlegs] at h
                split at h <;> cases h
            | ok codes =>
                obtain ⟨rfl, rfl, rfl⟩ := (make_of_codes horigin hdestination hlegs).mp h
                exact ⟨port_code_ok_iff.mp horigin, port_code_ok_iff.mp hdestination,
                  legs_ok_iff.mp hlegs⟩
  · rintro ⟨horigin, hdestination, hlegs⟩
    exact (make_of_codes (port_code_ok_iff.mpr horigin) (port_code_ok_iff.mpr hdestination)
      (legs_ok_iff.mpr hlegs)).mpr ⟨rfl, rfl, rfl⟩

/-- **An itinerary is accepted** when every code is one and no port is called at twice. -/
theorem make_accepted_iff :
    (∃ route, make (.str origin) (.str destination) (.sequence (legs.map Value.str)) = .ok route)
      ↔ (∀ code ∈ itinerary origin legs destination, PORT_CODE_PATTERN (normalized code) = true)
        ∧ ((itinerary origin legs destination).map normalized).Nodup := by
  constructor
  · rintro ⟨route, h⟩
    rw [make_ok_iff] at h
    constructor
    · intro code hcode
      have hmem : normalized code ∈ route.hops.map (·.val) := by
        rw [h]
        exact List.mem_map_of_mem hcode
      obtain ⟨hop, -, hhop⟩ := List.mem_map.mp hmem
      rw [← hhop]
      exact hop.property
    · rw [← h]
      exact List.Nodup.map Subtype.val_injective route.logical
  · rintro ⟨hcodes, hnodup⟩
    have hcode : ∀ code ∈ itinerary origin legs destination,
        ∃ c : PortCode, c.val = normalized code := fun code hmem => ⟨⟨_, hcodes code hmem⟩, rfl⟩
    obtain ⟨o, ho⟩ := hcode origin List.mem_cons_self
    obtain ⟨d, hd⟩ := hcode destination (by simp [itinerary])
    obtain ⟨codes, hlegs⟩ : ∃ codes : List PortCode, codes.map (·.val) = legs.map normalized := by
      have hleg : ∀ leg ∈ legs, PORT_CODE_PATTERN (normalized leg) = true :=
        fun leg hmem => hcodes leg (by simp [itinerary, hmem])
      exact ⟨legs.attach.map fun leg => ⟨normalized leg.val, hleg leg.val leg.property⟩, by simp⟩
    have hhops : (o :: codes ++ [d]).map (·.val)
        = (itinerary origin legs destination).map normalized := by
      simp only [itinerary, List.map_append, List.map_cons, List.map_nil, ho, hlegs, hd]
    have hlogical : (o :: codes ++ [d]).Nodup := by
      rw [← hhops] at hnodup
      exact hnodup.of_map _
    exact ⟨⟨o, d, codes, hlogical⟩, make_ok_iff.mpr hhops⟩

end

/-! ## 3. Columns and text -/

/-- `__composite_values__`: what the columns hold. -/
def composite_values (self : ShipmentRoute) : String × String × List String :=
  (self.origin_port_code.val, self.destination_port_code.val, self.transit_legs.map (·.val))

/-- The composite of the mapping: a route made of the columns. -/
def from_columns (columns : String × String × List String) : Except ShipmentError ShipmentRoute :=
  make (.str columns.1) (.str columns.2.1) (.sequence (columns.2.2.map Value.str))

/-- `str(route)`. -/
def str (self : ShipmentRoute) : String := join " > " (self.hops.map (·.val))

/-- A route is its own normal form. -/
theorem from_columns_composite (route : ShipmentRoute) :
    from_columns route.composite_values = .ok route := by
  unfold from_columns composite_values
  rw [make_ok_iff, hops_eq_iff, normalized_code, normalized_code, List.map_map]
  refine ⟨rfl, rfl, ?_⟩
  exact List.map_congr_left fun code _ => (normalized_code code).symm

theorem split_str (route : ShipmentRoute) :
    split " > " route.str = route.hops.map (·.val) := by
  refine @split_join " > " ' ' ['>', ' '] _ (by decide) ?_ ?_
  · rw [ne_eq, List.map_eq_nil_iff]
    exact List.cons_ne_nil _ _
  · intro piece hpiece
    obtain ⟨code, -, rfl⟩ := List.mem_map.mp hpiece
    exact no_blank_in_code code

example : (make (.str " esvlc ") (.str "usnyc") (.sequence [.str "mamir"])).map str =
    .ok "ESVLC > MAMIR > USNYC" := by decide +kernel

/-- **A route is accepted exactly when its normalized itinerary is logical**, and it survives
its columns and its text. -/
theorem route_accepted_iff (origin destination : String) (legs : List String) :
    ((∃ route, make (.str origin) (.str destination) (.sequence (legs.map Value.str)) = .ok route)
      ↔ (∀ code ∈ itinerary origin legs destination, PORT_CODE_PATTERN (normalized code) = true)
        ∧ ((itinerary origin legs destination).map normalized).Nodup)
    ∧ ∀ route, make (.str origin) (.str destination) (.sequence (legs.map Value.str)) = .ok route →
      route.hops.map (·.val) = (itinerary origin legs destination).map normalized
        ∧ from_columns route.composite_values = .ok route
        ∧ split " > " route.str = route.hops.map (·.val) :=
  ⟨make_accepted_iff, fun route h =>
    ⟨make_ok_iff.mp h, from_columns_composite route, split_str route⟩⟩

end ShipmentRoute

end TradeLogistics.Shipments
