/-
The figures of a finalized manifest: whether they are numbers, and whether they are the
same after a reload.

Both rules on the figures are rejections, `value < 0` in the value object and
`weight <= 0` in the use case, and NaN compares false with everything. So what passes
both is a positive finite declaration exactly when what was sent was finite. The columns
hold three decimals and the aggregate holds what was sent, so the answer to a request and
the row it leaves agree exactly on figures of at most three decimals; a weight that the
column rounds to zero was greater than zero when it was checked.
-/
import TradeLogistics.Shipment

set_option autoImplicit false

namespace TradeLogistics.Shipments

open TradeLogistics.PyText TradeLogistics.PyNumber TradeLogistics.UnitOfWork

/-! ## 1. A positive finite declaration -/

/-- A value that holds a finite number. -/
def is_finite (value : Value) : Bool :=
  match value with
  | .int _ => true
  | .float x => x.isfinite
  | _ => false

/-- The weight is a number above zero, the volume one from zero on. -/
def PositiveFinite (manifest : CargoManifest) : Prop :=
  (∃ weight : ℚ, manifest.total_weight_kg.val = .finite weight ∧ 0 < weight)
    ∧ ∃ volume : ℚ, manifest.total_volume_cbm.val = .finite volume ∧ 0 ≤ volume

theorem isfinite_iff {x : PyFloat} : x.isfinite = true ↔ ∃ q, x = .finite q := by
  cases x <;> simp [PyFloat.isfinite]

theorem float_of_int_finite {n : ℤ} {x : PyFloat} (h : float_of_int n = some x) :
    x.isfinite = true := by
  unfold float_of_int at h
  dsimp only at h
  split at h
  · cases h
  · rw [← Option.some.inj h]
    rfl

/-- A figure is finite when what it was made of is. -/
theorem validated_measure_finite {value : Value} {label : String} {figure : Figure}
    (h : CargoManifest._validated_measure value label = .ok figure) :
    figure.val.isfinite = is_finite value := by
  unfold CargoManifest._validated_measure at h
  split at h
  · next n =>
      split at h
      · cases h
      · next hn =>
          split at h
          · next x hx =>
              rw [← Except.ok.inj h]
              exact float_of_int_finite hx
          · cases h
  · next x =>
      split at h
      · rw [← Except.ok.inj h]
        rfl
      · cases h
  · cases h

namespace CargoManifest

/-- A manifest is made of three validated parts. -/
theorem make_cases {total_weight_kg total_volume_cbm commodity_code : Value}
    {manifest : CargoManifest} :
    make total_weight_kg total_volume_cbm commodity_code = .ok manifest ↔
      _validated_measure total_weight_kg "total weight (kg)" = .ok manifest.total_weight_kg
      ∧ _validated_measure total_volume_cbm "total volume (cbm)" = .ok manifest.total_volume_cbm
      ∧ _validated_code commodity_code
        = .ok ⟨manifest.commodity_code, manifest.code_required, manifest.code_fits⟩ := by
  unfold make
  cases hweight : _validated_measure total_weight_kg "total weight (kg)" with
  | error e => exact iff_of_false (by rintro ⟨⟩) (by simp)
  | ok weight =>
      cases hvolume : _validated_measure total_volume_cbm "total volume (cbm)" with
      | error e => exact iff_of_false (by rintro ⟨⟩) (by simp)
      | ok volume =>
          cases hcode : _validated_code commodity_code with
          | error e => exact iff_of_false (by rintro ⟨⟩) (by simp)
          | ok code =>
              simp only [bind, Except.bind, pure, Except.pure, Except.ok.injEq]
              constructor
              · rintro rfl
                exact ⟨rfl, rfl, rfl⟩
              · rintro ⟨rfl, rfl, rfl⟩
                rfl

end CargoManifest

/-- A finite figure is a number from zero on. -/
theorem figure_finite {figure : Figure} (h : figure.val.isfinite = true) :
    ∃ q : ℚ, figure.val = .finite q ∧ 0 ≤ q := by
  obtain ⟨q, hq⟩ := isfinite_iff.mp h
  refine ⟨q, hq, ?_⟩
  have hnot := figure.property
  rw [hq, PyFloat.lt, decide_eq_false_iff_not] at hnot
  exact not_lt.mp hnot

/-- **What passes both rules is positive and finite exactly when what was sent is finite.** -/
theorem positive_finite_iff {total_weight_kg total_volume_cbm commodity_code : Value}
    {manifest : CargoManifest} {shipment after : Shipment} {event : ShipmentManifestFinalized}
    (hmake : CargoManifest.make total_weight_kg total_volume_cbm commodity_code = .ok manifest)
    (hfinal : shipment.finalize_manifest manifest = (after, .ok event)) :
    PositiveFinite manifest
      ↔ is_finite total_weight_kg = true ∧ is_finite total_volume_cbm = true := by
  obtain ⟨hweight, hvolume, -⟩ := CargoManifest.make_cases.mp hmake
  rw [← validated_measure_finite hweight, ← validated_measure_finite hvolume]
  constructor
  · rintro ⟨⟨w, hw, -⟩, v, hv, -⟩
    exact ⟨isfinite_iff.mpr ⟨w, hw⟩, isfinite_iff.mpr ⟨v, hv⟩⟩
  · rintro ⟨hfiniteWeight, hfiniteVolume⟩
    obtain ⟨w, hw, -⟩ := figure_finite hfiniteWeight
    refine ⟨⟨w, hw, ?_⟩, figure_finite hfiniteVolume⟩
    -- the use case refused what is not above zero
    rcases shipment.finalize_manifest_cases manifest with ⟨e, he⟩ | ⟨-, habove, -⟩
    · rw [hfinal, Prod.mk.injEq] at he
      cases he.2
    · rw [hw, PyFloat.le, decide_eq_false_iff_not] at habove
      exact not_le.mp habove

/-! ### A draft, and a declaration that is no number -/

/-- A draft shipment without a manifest. -/
def draft : Shipment where
  id := .of_byte 11
  waybill_number := ⟨"MUST-0000043", by decide⟩
  route := ⟨⟨"BRSSZ", by decide⟩, ⟨"NLRTM", by decide⟩, [], by decide⟩
  status := .DRAFT
  manifest := none
  exception_reason := none

/-- A manifest of coffee, with a volume of one cubic metre. -/
def coffee (weight : Figure) : CargoManifest where
  total_weight_kg := weight
  total_volume_cbm := ⟨.finite 1, by decide +kernel⟩
  commodity_code := "0901"
  code_required := by decide
  code_fits := by decide

theorem positive_finite_sample :
    ∃ manifest after event,
      CargoManifest.make (.int 12) (.float (.finite 1)) (.str " 0901 ") = .ok manifest
        ∧ draft.finalize_manifest manifest = (after, .ok event) ∧ PositiveFinite manifest := by
  have hmake : CargoManifest.make (.int 12) (.float (.finite 1)) (.str " 0901 ")
      = .ok (coffee ⟨.finite 12, by decide +kernel⟩) := by decide +kernel
  have hfinal : draft.finalize_manifest (coffee ⟨.finite 12, by decide +kernel⟩) = (_, .ok _) :=
    rfl
  exact ⟨_, _, _, hmake, hfinal, (positive_finite_iff hmake hfinal).mpr ⟨rfl, rfl⟩⟩

/-- NaN passes both rules. -/
theorem nan_is_finalized :
    ∃ manifest after event,
      CargoManifest.make (.float .nan) (.float (.finite 1)) (.str "0901") = .ok manifest
        ∧ draft.finalize_manifest manifest = (after, .ok event) ∧ ¬ PositiveFinite manifest := by
  have hmake : CargoManifest.make (.float .nan) (.float (.finite 1)) (.str "0901")
      = .ok (coffee ⟨.nan, rfl⟩) := by decide +kernel
  refine ⟨_, _, _, hmake, rfl, ?_⟩
  rintro ⟨⟨weight, hweight, -⟩, -⟩
  cases hweight

/-! ## 2. What a column of three decimals holds -/

/-- A number of at most three decimals. -/
def Thousandths (q : ℚ) : Prop := ∃ n : ℤ, q * 1000 = n

/-- The column keeps a number of thousandths as it is, while it has the digits. -/
theorem numeric_of_int {n : ℤ} (h : n.natAbs < 10 ^ 14) :
    numeric_14_3 (.finite ((n : ℚ) / 1000)) = some (.finite ((n : ℚ) / 1000)) := by
  have hscaled : (n : ℚ) / 1000 * 1000 = n := div_mul_cancel₀ _ (by norm_num)
  have hhalf : ⌊(1 / 2 : ℚ)⌋ = 0 := by norm_num
  have hrounded : (if (n : ℚ) < 0 then -⌊-(n : ℚ) + 1 / 2⌋ else ⌊(n : ℚ) + 1 / 2⌋) = n := by
    split
    · rw [← Int.cast_neg, Int.floor_intCast_add, hhalf, add_zero, neg_neg]
    · rw [Int.floor_intCast_add, hhalf, add_zero]
  unfold numeric_14_3
  simp only [hscaled, hrounded, if_pos h]

theorem numeric_of_thousandths {q : ℚ} (hq : 0 ≤ q) (hmax : q < 10 ^ 11) (h : Thousandths q) :
    numeric_14_3 (.finite q) = some (.finite q) := by
  obtain ⟨n, hn⟩ := h
  have hdigits : n.natAbs < 10 ^ 14 := by
    have hlow : (0 : ℚ) ≤ n := by
      rw [← hn]
      linarith
    have hhigh : (n : ℚ) < 10 ^ 14 := by
      rw [← hn]
      linarith
    have hlowInt : 0 ≤ n := by exact_mod_cast hlow
    have hhighInt : n < 10 ^ 14 := by exact_mod_cast hhigh
    omega
  have hsame : (n : ℚ) / 1000 = q := by rw [← hn, mul_div_cancel_right₀ q (by norm_num)]
  rw [← hsame]
  exact numeric_of_int hdigits

/-- What a column makes of a value: NaN, or a number of thousandths. -/
theorem numeric_cases {x y : PyFloat} (h : numeric_14_3 x = some y) :
    y = .nan ∨ ∃ n : ℤ, n.natAbs < 10 ^ 14 ∧ y = .finite ((n : ℚ) / 1000) := by
  unfold numeric_14_3 at h
  cases x with
  | finite p =>
      dsimp only at h
      generalize (if p * 1000 < 0 then -⌊-(p * 1000) + 1 / 2⌋ else ⌊p * 1000 + 1 / 2⌋) = n at h
      split at h
      · next hdigits => exact .inr ⟨n, hdigits, (Option.some.inj h).symm⟩
      · cases h
  | nan => exact .inl (Option.some.inj h).symm
  | inf => cases h
  | neg_inf => cases h

/-- It keeps that as it is. -/
theorem numeric_again {x y : PyFloat} (h : numeric_14_3 x = some y) : numeric_14_3 y = some y := by
  rcases numeric_cases h with rfl | ⟨n, hdigits, rfl⟩
  · rfl
  · exact numeric_of_int hdigits

theorem thousandths_of_numeric {x : PyFloat} {q : ℚ} (h : numeric_14_3 x = some (.finite q)) :
    Thousandths q := by
  rcases numeric_cases h with hnan | ⟨n, -, hq⟩
  · cases hnan
  · rw [PyFloat.finite.injEq] at hq
    rw [hq]
    exact ⟨n, div_mul_cancel₀ _ (by norm_num)⟩

/-- A row as the table holds it: its figures are values of their columns. -/
def ShipmentRow.Stored (row : ShipmentRow) : Prop :=
  (∀ x ∈ row.total_weight_kg, numeric_14_3 x = some x)
    ∧ ∀ x ∈ row.total_volume_cbm, numeric_14_3 x = some x

/-- A figure that was assigned comes out as the column rounds it, also when the row held
that value before and nothing is written. -/
theorem numeric_column_own {loaded : Option PyFloat} {x y : PyFloat}
    (hloaded : ∀ x ∈ loaded, numeric_14_3 x = some x) :
    ShipmentRow.numeric_column loaded (some x) loaded = some (some y)
      ↔ numeric_14_3 x = some y := by
  rw [ShipmentRow.numeric_column, column_current]
  by_cases hsame : some x = loaded
  · simp only [if_pos hsame, Option.some.injEq]
    rw [hloaded x hsame.symm, Option.some.injEq]
  · simp only [if_neg hsame, Option.map_eq_some_iff, Option.some.injEq, exists_eq_right]

/-! ## 3. Reading a manifest back -/

namespace CargoManifest

theorem validated_measure_float {x : PyFloat} {label : String} {figure : Figure} :
    _validated_measure (.float x) label = .ok figure ↔ figure.val = x := by
  unfold _validated_measure
  dsimp only
  split
  · rw [Except.ok.injEq]
    exact ⟨fun h => by rw [← h], fun h => Subtype.ext h.symm⟩
  · next hneg =>
      refine iff_of_false (by simp) ?_
      rintro rfl
      exact hneg figure.property

/-- An accepted code is accepted again as it is. -/
theorem validated_code_again {value : Value}
    {code : { s : String // s ≠ "" ∧ s.length ≤ MAX_COMMODITY_CODE_LENGTH }}
    (h : _validated_code value = .ok code) : _validated_code (.str code.val) = .ok code := by
  have hstrip := validated_code_ok h
  have hupper : upper code.val = code.val := by
    unfold _validated_code at h
    split at h
    · dsimp only at h
      split at h
      · cases h
      · split at h
        · cases h
        · rw [← Except.ok.inj h]
          exact upper_upper _
    · cases h
  unfold _validated_code
  simp only [hstrip, hupper]
  rw [dif_neg code.property.1, dif_neg (Nat.not_lt_of_le code.property.2)]

/-- **The composite of a manifest is the manifest.** -/
theorem from_columns_own {total_weight_kg total_volume_cbm commodity_code : Value}
    {manifest : CargoManifest}
    (h : make total_weight_kg total_volume_cbm commodity_code = .ok manifest) :
    from_columns (some manifest.total_weight_kg.val) (some manifest.total_volume_cbm.val)
      (some manifest.commodity_code) = .ok (some manifest) := by
  obtain ⟨-, -, hcode⟩ := make_cases.mp h
  have hagain := validated_code_again hcode
  have hmake : make (.float manifest.total_weight_kg.val) (.float manifest.total_volume_cbm.val)
      (.str manifest.commodity_code) = .ok manifest :=
    make_cases.mpr ⟨validated_measure_float.mpr rfl, validated_measure_float.mpr rfl, hagain⟩
  simp only [from_columns, Option.map_some, Option.getD_some, hmake]
  rfl

/-- The figures of a manifest that was read are those of its columns. -/
theorem from_columns_figures {total_weight_kg total_volume_cbm : Option PyFloat}
    {commodity_code : Option String} {manifest : CargoManifest}
    (h : from_columns total_weight_kg total_volume_cbm commodity_code = .ok (some manifest)) :
    total_weight_kg = some manifest.total_weight_kg.val
      ∧ total_volume_cbm = some manifest.total_volume_cbm.val := by
  have hmake : make ((total_weight_kg.map Value.float).getD .none)
      ((total_volume_cbm.map Value.float).getD .none)
      ((commodity_code.map Value.str).getD .none) = .ok manifest := by
    unfold from_columns at h
    split at h
    · cases h
    · cases hmade : make ((total_weight_kg.map Value.float).getD .none)
          ((total_volume_cbm.map Value.float).getD .none)
          ((commodity_code.map Value.str).getD .none) with
      | error e => rw [hmade] at h; cases h
      | ok made =>
          rw [hmade] at h
          cases h
          rfl
  obtain ⟨hweight, hvolume, -⟩ := make_cases.mp hmake
  constructor
  · cases total_weight_kg with
    | none => cases hweight
    | some x => rw [validated_measure_float.mp hweight]
  · cases total_volume_cbm with
    | none => cases hvolume
    | some x => rw [validated_measure_float.mp hvolume]

end CargoManifest

/-! ## 4. The reload -/

/-- A flush writes both figures or nothing. -/
theorem ShipmentRow.flush_cases {loaded after stored row : ShipmentRow} :
    loaded.flush after stored = some row ↔
      ∃ weight volume,
        numeric_column loaded.total_weight_kg after.total_weight_kg stored.total_weight_kg
          = some weight
        ∧ numeric_column loaded.total_volume_cbm after.total_volume_cbm stored.total_volume_cbm
          = some volume
        ∧ row = { stored with
            total_weight_kg := weight
            total_volume_cbm := volume
            commodity_code :=
              column loaded.commodity_code after.commodity_code stored.commodity_code
            status := column loaded.status after.status stored.status } := by
  unfold flush
  simp only [Option.bind_eq_bind, Option.bind_eq_some_iff, Option.pure_def, Option.some.injEq,
    exists_and_left]
  refine exists_congr fun weight => and_congr_right fun _ => ?_
  exact exists_congr fun volume => and_congr_right fun _ => eq_comm

/-- The columns of a manifest that was assigned. -/
theorem ShipmentRow.assigned_manifest {row : ShipmentRow} {after : Shipment}
    {manifest : CargoManifest} (h : after.manifest = some manifest) :
    (row.assigned after).total_weight_kg = some manifest.total_weight_kg.val
      ∧ (row.assigned after).total_volume_cbm = some manifest.total_volume_cbm.val
      ∧ (row.assigned after).commodity_code = some manifest.commodity_code := by
  simp [assigned, h]

theorem numeric_column_stored {loaded after stored column : Option PyFloat}
    (hstored : ∀ x ∈ stored, numeric_14_3 x = some x)
    (h : ShipmentRow.numeric_column loaded after stored = some column) :
    ∀ x ∈ column, numeric_14_3 x = some x := by
  unfold ShipmentRow.numeric_column UnitOfWork.column at h
  by_cases hsame : after = loaded
  · -- nothing is written, and the column holds what it held
    simp only [if_pos hsame] at h
    cases hcolumn : stored with
    | none =>
        rw [hcolumn] at h
        rw [← Option.some.inj h]
        exact fun x hx => absurd hx (Option.not_mem_none x)
    | some y =>
        rw [hcolumn] at h
        rw [← Option.some.inj h, ← hcolumn]
        exact hstored
  · simp only [if_neg hsame] at h
    cases after with
    | none =>
        rw [← Option.some.inj h]
        exact fun x hx => absurd hx (Option.not_mem_none x)
    | some x =>
        obtain ⟨y, hy, rfl⟩ := Option.map_eq_some_iff.mp h
        intro z hz
        rw [Option.mem_some_iff] at hz
        rw [← hz]
        exact numeric_again hy

/-- The table goes on holding such rows, whatever a session flushes. -/
theorem ShipmentRow.Stored.flush {loaded after stored row : ShipmentRow} (hstored : stored.Stored)
    (h : loaded.flush after stored = some row) : row.Stored := by
  obtain ⟨w, v, hw, hv, rfl⟩ := ShipmentRow.flush_cases.mp h
  exact ⟨numeric_column_stored hstored.1 hw, numeric_column_stored hstored.2 hv⟩

/-- The manifest rebuilt from the row of the request has the code the request was answered
with, a weight above zero, and the same figures. -/
def SameAfterReload (row : ShipmentRow) (after : Shipment) (manifest : CargoManifest) : Prop :=
  ∃ stored reloaded, row.flush (row.assigned after) row = some stored
    ∧ CargoManifest.from_columns stored.total_weight_kg stored.total_volume_cbm
        stored.commodity_code = .ok (some reloaded)
    ∧ reloaded.commodity_code = manifest.commodity_code
    ∧ PyFloat.lt (.finite 0) reloaded.total_weight_kg.val = true
    ∧ reloaded.total_weight_kg = manifest.total_weight_kg
    ∧ reloaded.total_volume_cbm = manifest.total_volume_cbm

/-- **The reload, exactly.** Of a finite manifest whose figures are below 10^11, what is
read back is what the request was answered with precisely when neither figure has a fourth
decimal. -/
theorem same_after_reload_iff {row : ShipmentRow} (hrow : row.Stored)
    {total_weight_kg total_volume_cbm commodity_code : Value} {manifest : CargoManifest}
    {shipment after : Shipment} {event : ShipmentManifestFinalized}
    (hmake : CargoManifest.make total_weight_kg total_volume_cbm commodity_code = .ok manifest)
    (hfinal : shipment.finalize_manifest manifest = (after, .ok event)) {weight volume : ℚ}
    (hweight : manifest.total_weight_kg.val = .finite weight)
    (hvolume : manifest.total_volume_cbm.val = .finite volume)
    (hweightMax : weight < 10 ^ 11) (hvolumeMax : volume < 10 ^ 11) :
    SameAfterReload row after manifest ↔ Thousandths weight ∧ Thousandths volume := by
  obtain ⟨habove, hstored⟩ : manifest.total_weight_kg.val.le (.finite 0) = false
      ∧ after.manifest = some manifest := by
    rcases shipment.finalize_manifest_cases manifest with ⟨e, he⟩ | ⟨-, habove, hok⟩
    · rw [hfinal, Prod.mk.injEq] at he
      cases he.2
    · rw [hfinal, Prod.mk.injEq] at hok
      exact ⟨habove, by rw [hok.1]⟩
  obtain ⟨hassignedWeight, hassignedVolume, hcode⟩ :=
    @ShipmentRow.assigned_manifest row after manifest hstored
  rw [hweight] at hassignedWeight
  rw [hvolume] at hassignedVolume
  constructor
  · rintro ⟨stored, reloaded, hflush, hread, -, -, hsameWeight, hsameVolume⟩
    obtain ⟨w, v, hw, hv, rfl⟩ := ShipmentRow.flush_cases.mp hflush
    obtain ⟨hreadWeight, hreadVolume⟩ := CargoManifest.from_columns_figures hread
    rw [hsameWeight, hweight] at hreadWeight
    rw [hsameVolume, hvolume] at hreadVolume
    dsimp only at hreadWeight hreadVolume
    rw [hassignedWeight, hreadWeight, numeric_column_own hrow.1] at hw
    rw [hassignedVolume, hreadVolume, numeric_column_own hrow.2] at hv
    exact ⟨thousandths_of_numeric hw, thousandths_of_numeric hv⟩
  · rintro ⟨hthousandsWeight, hthousandsVolume⟩
    have hpos : 0 < weight := by
      rw [hweight, PyFloat.le, decide_eq_false_iff_not] at habove
      exact not_le.mp habove
    have hnonneg : 0 ≤ volume := by
      have hnot := manifest.total_volume_cbm.property
      rw [hvolume, PyFloat.lt, decide_eq_false_iff_not] at hnot
      exact not_lt.mp hnot
    refine ⟨_, manifest, ShipmentRow.flush_cases.mpr ⟨some (.finite weight),
      some (.finite volume), ?_, ?_, rfl⟩, ?_, rfl, ?_, rfl, rfl⟩
    · rw [hassignedWeight, numeric_column_own hrow.1]
      exact numeric_of_thousandths hpos.le hweightMax hthousandsWeight
    · rw [hassignedVolume, numeric_column_own hrow.2]
      exact numeric_of_thousandths hnonneg hvolumeMax hthousandsVolume
    · dsimp only
      rw [column_current, hcode, ← hweight, ← hvolume]
      exact CargoManifest.from_columns_own hmake
    · rw [hweight, PyFloat.lt]
      exact decide_eq_true hpos

/-- The row of the draft. -/
def draft_row : ShipmentRow where
  waybill_number := "MUST-0000043"
  total_weight_kg := none
  total_volume_cbm := none
  commodity_code := none
  origin_port_code := "BRSSZ"
  destination_port_code := "NLRTM"
  transit_legs := []
  status := .DRAFT
  exception_reason := none

/-- The draft once a manifest of coffee is finalized. -/
def ready (weight : Figure) : Shipment :=
  { draft with manifest := some (coffee weight), status := .READY_FOR_MANIFEST }

/-- What its finalization announces. -/
def announced : ShipmentManifestFinalized where
  shipment_id := draft.id.str
  waybill_number := "MUST-0000043"
  commodity_code := "0901"

theorem same_after_reload_sample :
    SameAfterReload draft_row (ready ⟨.finite (25 / 2), by decide +kernel⟩)
      (coffee ⟨.finite (25 / 2), by decide +kernel⟩) := by
  have hmake : CargoManifest.make (.float (.finite (25 / 2))) (.float (.finite 1)) (.str "0901")
      = .ok (coffee ⟨.finite (25 / 2), by decide +kernel⟩) := by decide +kernel
  have hfinal : draft.finalize_manifest (coffee ⟨.finite (25 / 2), by decide +kernel⟩)
      = (ready ⟨.finite (25 / 2), by decide +kernel⟩, .ok announced) := by decide +kernel
  have hrow : draft_row.Stored :=
    ⟨fun x hx => absurd hx (Option.not_mem_none x), fun x hx => absurd hx (Option.not_mem_none x)⟩
  refine (same_after_reload_iff hrow hmake hfinal rfl rfl (by norm_num) (by norm_num)).mpr ?_
  exact ⟨⟨12500, by norm_num⟩, ⟨1000, by norm_num⟩⟩

/-- Less than half a gram is above zero when it is checked, and zero in its row. -/
theorem half_a_gram_is_lost :
    ∃ stored, CargoManifest.make (.float (.finite (1 / 2500))) (.float (.finite 1))
          (.str "0901") = .ok (coffee ⟨.finite (1 / 2500), by decide +kernel⟩)
      ∧ draft.finalize_manifest (coffee ⟨.finite (1 / 2500), by decide +kernel⟩)
        = (ready ⟨.finite (1 / 2500), by decide +kernel⟩, .ok announced)
      ∧ draft_row.flush (draft_row.assigned (ready ⟨.finite (1 / 2500), by decide +kernel⟩))
          draft_row = some stored
      ∧ stored.total_weight_kg = some (.finite 0)
      ∧ ¬ SameAfterReload draft_row (ready ⟨.finite (1 / 2500), by decide +kernel⟩)
          (coffee ⟨.finite (1 / 2500), by decide +kernel⟩) := by
  have hflush : draft_row.flush
      (draft_row.assigned (ready ⟨.finite (1 / 2500), by decide +kernel⟩)) draft_row
      = some { draft_row with
          total_weight_kg := some (.finite 0)
          total_volume_cbm := some (.finite 1)
          commodity_code := some "0901"
          status := .READY_FOR_MANIFEST } := by decide +kernel
  refine ⟨_, by decide +kernel, by decide +kernel, hflush, rfl, ?_⟩
  rintro ⟨stored, reloaded, hagain, hread, -, hpos, -⟩
  rw [hflush, Option.some.injEq] at hagain
  rw [← hagain] at hread
  have hzero := (CargoManifest.from_columns_figures hread).1
  dsimp only at hzero
  rw [Option.some.injEq] at hzero
  rw [← hzero] at hpos
  exact absurd hpos (by decide +kernel)

end TradeLogistics.Shipments
