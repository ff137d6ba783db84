/-
The references of a stored file: which of the declared ones it keeps, what the dropped
ones said, and whether its tables can hold what it accepts.

A reference is kept unless one before it points at the same thing, so the file keeps the
first occurrence of each owner, and what it answers about its references is what the
declared ones say. What a reference points at is three of its four fields, though: a
repeat that carries a UUID of its own is dropped with it. And what is kept is within the
columns of the tables but for one conversion, which turns an integer to text without
measuring it.
-/
import TradeLogistics.FirstOccurrences
import TradeLogistics.SqlQuery
import TradeLogistics.StorageKeys
import TradeLogistics.Uploads

set_option autoImplicit false

namespace TradeLogistics.Files

open TradeLogistics.PyText TradeLogistics.PyNumber TradeLogistics.MessageBus
open TradeLogistics.FirstOccurrences TradeLogistics.SqlQuery TradeLogistics.Sha256

/-! ## 1. What a reference points at -/

namespace FileReference

/-- The fields two references are compared by. -/
def owner (self : FileReference) : String × String × Option String :=
  (self.context, self.entity_type, self.entity_id)

theorem points_at_iff {self other : FileReference} :
    self.points_at other = true ↔ other.owner = self.owner := by
  simp [points_at, owner, and_assoc]

/-- A reference answers a question about a context and a type, and about an identifier
when the question names one. -/
def Answers (self : FileReference) (context entity_type : String) (entity_id : Option String) :
    Prop :=
  self.context = context ∧ self.entity_type = entity_type
    ∧ ∀ identifier ∈ entity_id, self.entity_id = some identifier

theorem answers_own (self : FileReference) :
    self.Answers self.context self.entity_type self.entity_id :=
  ⟨rfl, rfl, fun _ h => h⟩

/-- Only the owner of a reference answers. -/
theorem Answers.of_owner {self other : FileReference} {context entity_type : String}
    {entity_id : Option String} (h : self.Answers context entity_type entity_id)
    (howner : other.owner = self.owner) : other.Answers context entity_type entity_id := by
  obtain ⟨hcontext, htype, hid⟩ := h
  simp only [owner, Prod.mk.injEq] at howner
  obtain ⟨hc, ht, hi⟩ := howner
  exact ⟨hc.trans hcontext, ht.trans htype, fun i hin => hi.trans (hid i hin)⟩

end FileReference

namespace StoredFile

theorem is_referenced_by_iff {file : StoredFile} {context entity_type : String}
    {entity_id : Option String} :
    file.is_referenced_by context entity_type entity_id = true
      ↔ ∃ reference ∈ file.references, reference.Answers context entity_type entity_id := by
  rw [is_referenced_by, List.any_eq_true]
  refine exists_congr fun reference => and_congr_right fun _ => ?_
  cases entity_id with
  | none => simp [FileReference.Answers]
  | some identifier => simp [FileReference.Answers, and_assoc]

/-! ## 2. The references that are kept -/

/-- One reference is kept as the loop over first occurrences keeps it. -/
theorem relate_to_references (file : StoredFile) (reference : FileReference) :
    (file.relate_to reference).references
      = keep FileReference.owner file.references reference := by
  have hlook : (file.references.any fun existing => existing.points_at reference) = true
      ↔ reference.owner ∈ file.references.map FileReference.owner := by
    rw [List.any_eq_true, List.mem_map]
    exact exists_congr fun existing => and_congr_right fun _ =>
      FileReference.points_at_iff.trans eq_comm
  rw [relate_to, keep]
  by_cases hmem : reference.owner ∈ file.references.map FileReference.owner
  · rw [if_pos hmem, if_pos (hlook.mpr hmem)]
  · rw [if_neg hmem, if_neg (mt hlook.mp hmem)]

theorem foldl_relate_to_references (file : StoredFile) (references : List FileReference) :
    (references.foldl relate_to file).references
      = references.foldl (keep FileReference.owner) file.references := by
  induction references generalizing file with
  | nil => rfl
  | cons reference references ih =>
      rw [List.foldl_cons, List.foldl_cons, ih, relate_to_references]

/-- A reference whose owner is kept already changes nothing. -/
theorem relate_to_kept {file : StoredFile} {reference : FileReference}
    (h : reference.owner ∈ file.references.map FileReference.owner) :
    file.relate_to reference = file := by
  obtain ⟨existing, hmem, howner⟩ := List.mem_map.mp h
  rw [relate_to, if_pos]
  exact List.any_eq_true.mpr ⟨existing, hmem, FileReference.points_at_iff.mpr howner.symm⟩

/-- A registered file keeps the first of each owner. -/
theorem register_references {file_id : Uuid} {disk : String} {location : StorageLocation}
    {size_bytes : ℕ} {content_type : Option String} {checksum : String} {metadata : Body}
    {declared : List FileReference} {file : StoredFile}
    (h : register file_id disk location size_bytes content_type checksum metadata declared
      = .ok file) :
    file.references = firstOccurrences FileReference.owner declared := by
  obtain ⟨disk', size', content', checksum', -, -, -, -, rfl⟩ := register_cases h
  rw [foldl_relate_to_references]
  exact foldl_keep FileReference.owner declared

end StoredFile

/-! ### The rows of `files.file_references` -/

/-- A row, with the key the database gave it. -/
structure ReferenceRow where
  id : ℤ
  file_id : Uuid
  reference : FileReference

/-- `uq_file_references_file_id_owner`: two rows it does not let stand side by side. -/
def same_owner (row other : ReferenceRow) : Bool :=
  row.file_id == other.file_id && row.reference.context == other.reference.context
    && row.reference.entity_type == other.reference.entity_type
    && isNotDistinctFrom row.reference.entity_id other.reference.entity_id

/-- In the database, too, an owner is context, type and identifier. -/
theorem same_owner_iff {row other : ReferenceRow} :
    same_owner row other = true
      ↔ row.file_id = other.file_id ∧ row.reference.owner = other.reference.owner := by
  simp [same_owner, FileReference.owner, isNotDistinctFrom_iff, and_assoc]

/-- **References are kept once each, in order.** A registered file keeps the first of each
owner declared, and that is all there is to it: no two of its rows clash, it answers for
what was declared and for nothing else, and none of the declared references changes it. -/
theorem references_kept_once {file_id : Uuid} {disk : String} {location : StorageLocation}
    {size_bytes : ℕ} {content_type : Option String} {checksum : String} {metadata : Body}
    {declared : List FileReference} {file : StoredFile}
    (h : StoredFile.register file_id disk location size_bytes content_type checksum metadata
      declared = .ok file) :
    file.references = firstOccurrences FileReference.owner declared
      ∧ (∀ rows : List ReferenceRow, rows.map (·.reference) = file.references →
          rows.Pairwise fun row other => same_owner row other = false)
      ∧ (∀ reference ∈ declared, file.is_referenced_by reference.context reference.entity_type
          reference.entity_id = true)
      ∧ (∀ context entity_type entity_id,
          (∀ reference ∈ declared, ¬ reference.Answers context entity_type entity_id) →
          file.is_referenced_by context entity_type entity_id = false)
      ∧ ∀ reference ∈ declared, file.relate_to reference = file := by
  have hkept := StoredFile.register_references h
  have howner : ∀ reference ∈ declared,
      reference.owner ∈ file.references.map FileReference.owner := by
    intro reference hmem
    rw [hkept, mem_map_firstOccurrences]
    exact List.mem_map_of_mem hmem
  refine ⟨hkept, ?_, ?_, ?_, ?_⟩
  · intro rows hrows
    have hnodup : (rows.map fun row => row.reference.owner).Nodup := by
      have hmap : rows.map (fun row => row.reference.owner)
          = (firstOccurrences FileReference.owner declared).map FileReference.owner := by
        rw [← hkept, ← hrows, List.map_map]
        rfl
      rw [hmap]
      exact nodup_firstOccurrences FileReference.owner declared
    refine (List.pairwise_map.mp hnodup).imp fun hne => ?_
    rw [Bool.eq_false_iff]
    exact fun hclash => hne (same_owner_iff.mp hclash).2
  · intro reference hmem
    obtain ⟨kept, hin, hsame⟩ := List.mem_map.mp (howner reference hmem)
    exact StoredFile.is_referenced_by_iff.mpr ⟨kept, hin, reference.answers_own.of_owner hsame⟩
  · intro context entity_type entity_id hnone
    rw [Bool.eq_false_iff]
    intro hyes
    obtain ⟨kept, hin, hanswers⟩ := StoredFile.is_referenced_by_iff.mp hyes
    rw [hkept] at hin
    exact hnone kept ((firstOccurrences_sublist _ _).subset hin) hanswers
  · exact fun reference hmem => StoredFile.relate_to_kept (howner reference hmem)

/-- A case, and then its whole kind, which has no identifier. -/
def the_case : FileReference := ⟨"customs", "ClearanceCase", some "7", none⟩

def the_kind : FileReference := ⟨"customs", "ClearanceCase", none, some (.of_byte 1)⟩

/-- A registered file before its references are related to it. -/
def invoice_file : StoredFile where
  id := .of_byte 3
  disk := "local"
  location := StorageLocation.invoice
  size_bytes := 3
  content_type := DEFAULT_CONTENT_TYPE
  checksum := "sha256:00"
  metadata := []
  references := []

theorem register_invoice (declared : List FileReference) :
    StoredFile.register (.of_byte 3) "local" StorageLocation.invoice 3 none "sha256:00" [] declared
      = .ok (declared.foldl StoredFile.relate_to invoice_file) := by
  have hdisk : StoredFile._validated_disk "local" = .ok "local" := by decide +kernel
  have hchecksum : StoredFile._validated_checksum "sha256:00" = .ok "sha256:00" := by
    decide +kernel
  rw [StoredFile.register, hdisk, hchecksum]
  rfl

theorem references_kept_once_sample :
    ∃ file, StoredFile.register (.of_byte 3) "local" StorageLocation.invoice 3 none "sha256:00" []
        [the_case, the_kind, the_case, the_kind] = .ok file
      ∧ file.references = [the_case, the_kind] :=
  ⟨_, register_invoice _, (references_kept_once (register_invoice _)).1.trans (by decide)⟩

/-! ## 3. What a repeat said

A repeat is dropped whole. What is lost with it is a UUID, when it carries one. -/

/-- Every UUID declared for a context and a type is carried by a kept reference of them. -/
def UuidsKept (declared kept : List FileReference) : Prop :=
  ∀ reference ∈ declared, ∀ uuid ∈ reference.entity_uuid, ∃ other ∈ kept,
    other.context = reference.context ∧ other.entity_type = reference.entity_type
      ∧ other.entity_uuid = some uuid

/-- The reference stands in the list with its owner declared before it. -/
def Repeats (declared : List FileReference) (reference : FileReference) : Prop :=
  ∃ before after, declared = before ++ reference :: after
    ∧ reference.owner ∈ before.map FileReference.owner

/-- The reference stands in the list as the first of its owner. -/
def StandsFirst (declared : List FileReference) (reference : FileReference) : Prop :=
  ∃ before after, declared = before ++ reference :: after
    ∧ reference.owner ∉ before.map FileReference.owner

/-- The UUID of a repeat, if it has one, is also that of a reference which stands first,
for the same context and type. -/
def RepeatsAddNoUuid (declared : List FileReference) : Prop :=
  ∀ reference, Repeats declared reference → ∀ uuid ∈ reference.entity_uuid,
    ∃ other, StandsFirst declared other ∧ other.context = reference.context
      ∧ other.entity_type = reference.entity_type ∧ other.entity_uuid = some uuid

/-- **What dropping a repeat loses, exactly.** Every UUID is kept precisely when no repeat
carries one that nothing standing first carries. -/
theorem uuids_kept_iff {file_id : Uuid} {disk : String} {location : StorageLocation}
    {size_bytes : ℕ} {content_type : Option String} {checksum : String} {metadata : Body}
    {declared : List FileReference} {file : StoredFile}
    (h : StoredFile.register file_id disk location size_bytes content_type checksum metadata
      declared = .ok file) :
    UuidsKept declared file.references ↔ RepeatsAddNoUuid declared := by
  rw [StoredFile.register_references h]
  constructor
  · rintro hkept reference ⟨before, after, hsplit, -⟩ uuid huuid
    have hmem : reference ∈ declared := hsplit ▸ List.mem_append_right before List.mem_cons_self
    obtain ⟨other, hother, hsame⟩ := hkept reference hmem uuid huuid
    exact ⟨other, (mem_firstOccurrences FileReference.owner).mp hother, hsame⟩
  · intro hrepeats reference hmem uuid huuid
    -- it stands first, or it is a repeat
    obtain ⟨before, after, hsplit⟩ := List.append_of_mem hmem
    by_cases hfirst : reference.owner ∈ before.map FileReference.owner
    · obtain ⟨other, hother, hsame⟩ := hrepeats reference ⟨before, after, hsplit, hfirst⟩ uuid huuid
      exact ⟨other, (mem_firstOccurrences FileReference.owner).mpr hother, hsame⟩
    · exact ⟨reference, (mem_firstOccurrences FileReference.owner).mpr
        ⟨before, after, hsplit, hfirst⟩, rfl, rfl, huuid⟩

/-- The kind is declared again, with the UUID it was first declared with. -/
theorem uuids_kept_sample :
    ∃ file, StoredFile.register (.of_byte 3) "local" StorageLocation.invoice 3 none "sha256:00" []
        [the_kind, the_case, the_kind] = .ok file
      ∧ UuidsKept [the_kind, the_case, the_kind] file.references := by
  refine ⟨_, register_invoice _,
    (uuids_kept_iff (register_invoice _)).mpr fun reference hrepeats uuid huuid => ?_⟩
  -- the only references with a UUID are the kind, which stands first
  obtain ⟨before, after, hsplit, -⟩ := hrepeats
  have hmem : reference ∈ [the_kind, the_case, the_kind] :=
    hsplit ▸ List.mem_append_right before List.mem_cons_self
  have hkind : reference = the_kind := by
    rcases List.mem_cons.mp hmem with rfl | hrest
    · rfl
    · rcases List.mem_pair.mp hrest with rfl | rfl
      · cases huuid
      · rfl
  subst hkind
  exact ⟨the_kind, ⟨[], [the_case, the_kind], rfl, List.not_mem_nil⟩, rfl, rfl, huuid⟩

/-- The same kind once more, with another UUID. -/
def the_kind_again : FileReference := { the_kind with entity_uuid := some (.of_byte 2) }

theorem second_uuid_is_lost :
    FileReference.declare (.str "customs") (.str "ClearanceCase") .none (.uuid (.of_byte 1))
        = .ok the_kind
      ∧ FileReference.declare (.str "customs") (.str "ClearanceCase") .none (.uuid (.of_byte 2))
        = .ok the_kind_again
      ∧ ∃ file, StoredFile.register (.of_byte 3) "local" StorageLocation.invoice 3 none
          "sha256:00" [] [the_kind, the_kind_again] = .ok file
        ∧ ¬ UuidsKept [the_kind, the_kind_again] file.references := by
  refine ⟨by decide +kernel, by decide +kernel, _, register_invoice _, fun hkept => ?_⟩
  obtain ⟨other, hother, -, -, huuid⟩ := hkept the_kind_again (by simp) (.of_byte 2) rfl
  have hkind : other = the_kind := by
    exact List.mem_singleton.mp hother
  rw [hkind] at huuid
  exact absurd huuid (by decide)

/-! ## 4. What the tables can hold -/

/-- A `VARCHAR(n)` column holds NULL and a text of at most `n` characters. -/
def varchar (n : ℕ) (value : Option String) : Prop := ∀ s ∈ value, s.length ≤ n

/-- The length of the column of the checksum. -/
def CHECKSUM_LENGTH : ℕ := 128

/-- The columns of `files.files` the caller fills. -/
def files_table (file : StoredFile) : Prop :=
  varchar MAX_DISK_LENGTH (some file.disk) ∧ varchar MAX_PATH_LENGTH (some file.location.path)
    ∧ varchar MAX_NAME_LENGTH (some file.location.name)
    ∧ varchar MAX_CONTENT_TYPE_LENGTH (some file.content_type)

/-- The columns of `files.file_references`. -/
def file_references_table (reference : FileReference) : Prop :=
  varchar MAX_FIELD_LENGTH (some reference.context)
    ∧ varchar MAX_FIELD_LENGTH (some reference.entity_type)
    ∧ varchar MAX_FIELD_LENGTH reference.entity_id

theorem varchar_some {n : ℕ} {s : String} : varchar n (some s) ↔ s.length ≤ n := by
  simp [varchar]

namespace FileReference

theorem validated_text_ok {value : Value} {label text : String}
    (h : _validated_text value label = .ok text) : text.length ≤ MAX_FIELD_LENGTH := by
  unfold _validated_text at h
  cases value with
  | str s =>
      dsimp only at h
      by_cases hblank : strip s = ""
      · rw [if_pos hblank] at h
        cases h
      · by_cases hlong : (strip s).length > MAX_FIELD_LENGTH
        · rw [if_neg hblank, if_pos hlong] at h
          cases h
        · rw [if_neg hblank, if_neg hlong, Except.ok.injEq] at h
          rw [← h]
          exact Nat.le_of_not_lt hlong
  | _ => cases h

/-- An identifier is the text of an integer, or within its bound: a UUID is always. -/
theorem validated_identifier_ok {value : Value} {identifier : Option String}
    (h : _validated_identifier value = .ok identifier) :
    (∃ n, value = .int n ∧ identifier = some (toString n))
      ∨ (∀ n, value ≠ .int n) ∧ varchar MAX_FIELD_LENGTH identifier := by
  cases value with
  | int n =>
      refine .inl ⟨n, rfl, ?_⟩
      simp only [_validated_identifier] at h
      cases htext : str_of_int n with
      | none => rw [htext] at h; cases h
      | some text =>
          rw [htext, Except.ok.injEq] at h
          rw [← h, str_of_int_eq htext]
  | none =>
      rw [← Except.ok.inj h]
      exact .inr ⟨fun n hn => Value.noConfusion hn, fun s hs => absurd hs (Option.not_mem_none s)⟩
  | uuid u =>
      rw [← Except.ok.inj h]
      refine .inr ⟨fun n hn => Value.noConfusion hn, ?_⟩
      rw [varchar_some, Uuid.str_length]
      decide
  | str s =>
      refine .inr ⟨fun n hn => Value.noConfusion hn, ?_⟩
      simp only [_validated_identifier] at h
      by_cases hblank : strip s = ""
      · rw [if_pos hblank, Except.ok.injEq] at h
        rw [← h]
        exact fun s hs => absurd hs (Option.not_mem_none s)
      · by_cases hlong : (strip s).length > MAX_FIELD_LENGTH
        · rw [if_neg hblank, if_pos hlong] at h
          cases h
        · rw [if_neg hblank, if_neg hlong, Except.ok.injEq] at h
          rw [← h, varchar_some]
          exact Nat.le_of_not_lt hlong
  | _ => cases h

/-- What a declared reference needs its columns for. -/
theorem declare_ok {context entity_type entity_id entity_uuid : Value} {reference : FileReference}
    (h : declare context entity_type entity_id entity_uuid = .ok reference) :
    reference.context.length ≤ MAX_FIELD_LENGTH ∧ reference.entity_type.length ≤ MAX_FIELD_LENGTH
      ∧ _validated_identifier entity_id = .ok reference.entity_id := by
  unfold declare at h
  cases hcontext : _validated_text context "context" with
  | error e => rw [hcontext] at h; cases h
  | ok c =>
      cases htype : _validated_text entity_type "entity type" with
      | error e => rw [hcontext, htype] at h; cases h
      | ok t =>
          cases hid : _validated_identifier entity_id with
          | error e => rw [hcontext, htype, hid] at h; cases h
          | ok i =>
              cases huuid : _validated_uuid entity_uuid with
              | error e => rw [hcontext, htype, hid, huuid] at h; cases h
              | ok u =>
                  rw [hcontext, htype, hid, huuid] at h
                  cases h
                  exact ⟨validated_text_ok hcontext, validated_text_ok htype, rfl⟩

/-- A declared reference fits its columns unless its identifier is an integer too long. -/
theorem declare_fits {context entity_type entity_id entity_uuid : Value}
    {reference : FileReference}
    (h : declare context entity_type entity_id entity_uuid = .ok reference) :
    file_references_table reference
      ↔ ∀ n, entity_id = .int n → (toString n).length ≤ MAX_FIELD_LENGTH := by
  obtain ⟨hcontext, htype, hid⟩ := declare_ok h
  rw [file_references_table, varchar_some, varchar_some]
  rcases validated_identifier_ok hid with ⟨n, hn, htext⟩ | ⟨hother, hfits⟩
  · rw [htext, varchar_some]
    constructor
    · rintro ⟨-, -, hlong⟩ m hm
      rw [hn, Value.int.injEq] at hm
      rw [← hm]
      exact hlong
    · exact fun hall => ⟨hcontext, htype, hall n hn⟩
  · exact iff_of_true ⟨hcontext, htype, hfits⟩ fun n hn => absurd hn (hother n)

end FileReference

/-- Every text a stored file has to keep is within its column. -/
def Fits (file : StoredFile) : Prop :=
  files_table file ∧ ∀ reference ∈ file.references, file_references_table reference

/-- A fallible map answers when every entry does, with the answers in their order. -/
theorem mapM_eq_ok_iff {α β ε : Type} {f : α → Except ε β} {xs : List α} :
    ∀ {ys : List β}, xs.mapM f = .ok ys ↔ List.Forall₂ (fun x y => f x = .ok y) xs ys := by
  induction xs with
  | nil =>
      intro ys
      rw [List.mapM_nil, List.forall₂_nil_left_iff]
      constructor
      · rintro ⟨⟩
        rfl
      · rintro rfl
        rfl
  | cons x xs ih =>
      intro ys
      rw [List.mapM_cons, List.forall₂_cons_left_iff]
      constructor
      · intro h
        cases hx : f x with
        | error e =>
            rw [hx] at h
            cases h
        | ok y =>
            cases hxs : xs.mapM f with
            | error e =>
                rw [hx, hxs] at h
                cases h
            | ok ys' =>
                rw [hx, hxs] at h
                cases h
                exact ⟨y, ys', rfl, ih.mp hxs, rfl⟩
      · rintro ⟨y, ys', hx, hxs, rfl⟩
        rw [hx, ih.mpr hxs]
        rfl

/-- Of two lists that stand in a relation, each entry of the second has one in the first. -/
theorem exists_of_forall₂ {α β : Type*} {R : α → β → Prop} {xs : List α} {ys : List β}
    (h : List.Forall₂ R xs ys) {y : β} (hy : y ∈ ys) : ∃ x ∈ xs, R x y := by
  induction h with
  | nil => exact absurd hy List.not_mem_nil
  | @cons x _ xs _ hxy _ ih =>
      rcases List.mem_cons.mp hy with rfl | hy
      · exact ⟨x, List.mem_cons_self, hxy⟩
      · obtain ⟨z, hz, hzy⟩ := ih hy
        exact ⟨z, List.mem_cons_of_mem x hz, hzy⟩

/-- What is answered came of an entry, and every entry was answered. -/
theorem mapM_ok {α β ε : Type} {f : α → Except ε β} {xs : List α} {ys : List β}
    (h : xs.mapM f = .ok ys) :
    (∀ y ∈ ys, ∃ x ∈ xs, f x = .ok y) ∧ ∀ x ∈ xs, ∃ y ∈ ys, f x = .ok y := by
  have hpairs := mapM_eq_ok_iff.mp h
  exact ⟨fun y hy => exists_of_forall₂ hpairs hy,
    fun x hx => exists_of_forall₂ (R := fun y x => f x = .ok y) hpairs.flip hx⟩

theorem mapM_of_all {α β ε : Type} {f : α → Except ε β} {xs : List α}
    (h : ∀ x ∈ xs, ∃ y, f x = .ok y) : ∃ ys, xs.mapM f = .ok ys := by
  induction xs with
  | nil => exact ⟨[], rfl⟩
  | cons x xs ih =>
      obtain ⟨y, hy⟩ := h x List.mem_cons_self
      obtain ⟨ys, hys⟩ := ih fun z hz => h z (List.mem_cons_of_mem x hz)
      exact ⟨y :: ys, mapM_eq_ok_iff.mpr (.cons hy (mapM_eq_ok_iff.mp hys))⟩

/-- The columns of a file itself always suffice. -/
theorem files_table_of_register {file_id : Uuid} {disk : String} {location : StorageLocation}
    {size_bytes : ℕ} {content_type : Option String} {checksum : String} {metadata : Body}
    {declared : List FileReference} {file : StoredFile}
    (h : StoredFile.register file_id disk location size_bytes content_type checksum metadata
      declared = .ok file) : files_table file := by
  obtain ⟨disk', size', content', checksum', hdisk, -, hcontent, -, rfl⟩ :=
    StoredFile.register_cases h
  rw [StoredFile.relate_to_same, files_table]
  simp only [varchar_some]
  exact ⟨(StoredFile.validated_disk_ok hdisk).2, location.path_fits, location.name_fits,
    StoredFile.validated_content_type_ok hcontent⟩

/-- **What is accepted fits, but for long integers.** Of whatever command is registered, over
any object, the tables can hold every text exactly when no identifier is an integer of
more than 128 characters; and the checksum of bytes that were measured always fits. -/
theorem registered_fits_iff {command : UploadFileCommand} {location : StorageLocation}
    {object : StoredObject} {file_id : Uuid} {file : StoredFile}
    (h : registration command location object file_id = .ok file) :
    (Fits file ↔ ∀ input ∈ command.references, ∀ n, input.entity_id = .int n →
        (toString n).length ≤ MAX_FIELD_LENGTH)
      ∧ ∀ size content, object = measured size content →
        varchar CHECKSUM_LENGTH (some file.checksum) := by
  unfold registration at h
  cases hdeclared : declared command with
  | error e => rw [hdeclared] at h; cases h
  | ok references =>
      rw [hdeclared] at h
      obtain ⟨hfrom, hto⟩ := mapM_ok hdeclared
      have hkept := StoredFile.register_references h
      refine ⟨?_, ?_⟩
      · constructor
        · rintro ⟨-, hfits⟩ input hinput
          -- a reference of the same owner is kept, and has the same identifier
          obtain ⟨reference, hreference, hdeclare⟩ := hto input hinput
          have howner : reference.owner ∈ file.references.map FileReference.owner := by
            rw [hkept, mem_map_firstOccurrences]
            exact List.mem_map_of_mem hreference
          obtain ⟨kept, hin, hsame⟩ := List.mem_map.mp howner
          simp only [FileReference.owner, Prod.mk.injEq] at hsame
          obtain ⟨hc, ht, hi⟩ := hsame
          rw [← FileReference.declare_fits hdeclare, file_references_table, ← hc, ← ht, ← hi]
          exact hfits kept hin
        · intro hall
          refine ⟨files_table_of_register h, fun reference hreference => ?_⟩
          rw [hkept] at hreference
          obtain ⟨input, hinput, hdeclare⟩ :=
            hfrom reference ((firstOccurrences_sublist _ _).subset hreference)
          exact (FileReference.declare_fits hdeclare).mpr (hall input hinput)
      · rintro size content rfl
        rw [(StoredFile.register_ok h).2.2.2, strip_checksum, varchar_some, measured,
          String.length_append, length_hexdigest, length_sha256]
        decide

/-! ### An integer of 129 digits -/

/-- A command that refers to a case by an integer. -/
def refers_to (n : ℤ) : UploadFileCommand where
  disk := "local"
  path := "customs/cases"
  name := "invoice.pdf"
  content_type := none
  metadata := []
  references := [⟨.str "customs", .str "ClearanceCase", .int n, .none⟩]

theorem registration_refers_to {n : ℤ} {identifier : String}
    (h : str_of_int n = some identifier) :
    registration (refers_to n) StorageLocation.invoice ⟨3, "sha256:00"⟩ (.of_byte 3)
      = .ok (StoredFile.relate_to invoice_file ⟨"customs", "ClearanceCase", some identifier, none⟩)
    := by
  have hcontext : FileReference._validated_text (.str "customs") "context" = .ok "customs" := by
    decide +kernel
  have htype : FileReference._validated_text (.str "ClearanceCase") "entity type"
      = .ok "ClearanceCase" := by decide +kernel
  have hid : FileReference._validated_identifier (.int n) = .ok (some identifier) := by
    rw [FileReference._validated_identifier, h]
  have hdeclared : declared (refers_to n)
      = .ok [⟨"customs", "ClearanceCase", some identifier, none⟩] := by
    simp only [declared, refers_to, List.mapM_cons, List.mapM_nil, FileReference.declare,
      hcontext, htype, hid]
    rfl
  rw [registration, hdeclared]
  exact register_invoice _

theorem registered_fits_sample :
    ∃ file, registration (refers_to 7) StorageLocation.invoice ⟨3, "sha256:00"⟩ (.of_byte 3)
        = .ok file ∧ Fits file := by
  have hseven : str_of_int 7 = some (toString (7 : ℤ)) :=
    str_of_int_of_lt (k := 1) (by decide) (by decide)
  refine ⟨_, registration_refers_to hseven,
    (registered_fits_iff (registration_refers_to hseven)).1.mpr fun input hinput n hn => ?_⟩
  rw [List.mem_singleton.mp hinput, Value.int.injEq] at hn
  rw [← hn]
  decide

theorem long_integer_does_not_fit :
    ∃ file, registration (refers_to (10 ^ 128)) StorageLocation.invoice ⟨3, "sha256:00"⟩
        (.of_byte 3) = .ok file ∧ ¬ Fits file := by
  have hlong : str_of_int (10 ^ 128) = some (toString (10 ^ 128 : ℤ)) := by
    refine str_of_int_of_lt (k := 129) (by decide) ?_
    rw [Int.natAbs_pow]
    exact Nat.pow_lt_pow_right (by decide) (by decide)
  refine ⟨_, registration_refers_to hlong, fun hfits => ?_⟩
  have htable := hfits.2 _ (List.mem_singleton_self _)
  have hlength : (toString (10 ^ 128 : ℤ)).length = 129 := by decide +kernel
  have hbound := varchar_some.mp htable.2.2
  rw [hlength] at hbound
  exact absurd hbound (by decide)

end TradeLogistics.Files
