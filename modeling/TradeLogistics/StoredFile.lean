/-
The `StoredFile` aggregate, what it is stored under, and what it is about.

A location is the boundary of a disk: path and name arrive from a client, and what
`StorageLocation` lets through is joined to a key and written. Size and checksum are
measured by the storage; the aggregate only refuses an empty file. References are
plain values, kept once each for what they point at.
-/
import TradeLogistics.PyNumber
import TradeLogistics.Messages

set_option autoImplicit false

namespace TradeLogistics.Files

open TradeLogistics.PyText TradeLogistics.PyNumber TradeLogistics.MessageBus

/-! ## 1. Errors -/

/-- The domain exceptions of the module with their detail, and the one error of the
language a constructor lets through. -/
inductive FileError where
  | InvalidStorageLocationError (detail : String)
  | InvalidFileReferenceError (detail : String)
  | InvalidStoredFileError (detail : String)
  | UnknownStorageDiskError (detail : String)
  | FileAlreadyStoredError (detail : String)
  | FileTooLargeError (detail : String)
  | ValueError (detail : String)
  deriving DecidableEq, Repr

/-! ## 2. `StorageLocation` -/

/-- `TRAVERSAL_SEGMENTS`. -/
def TRAVERSAL_SEGMENTS : List String := ["..", "."]

def MAX_PATH_LENGTH : ℕ := 512

def MAX_NAME_LENGTH : ℕ := 255

structure StorageLocation where
  path : String
  name : String
  path_fits : path.length ≤ MAX_PATH_LENGTH
  name_required : name ≠ ""
  name_fits : name.length ≤ MAX_NAME_LENGTH
  no_separator : '/' ∉ name.toList
  deriving DecidableEq

namespace StorageLocation

/-- `_reject_dangerous_characters`, `none` when it lets the text pass. -/
def _reject_dangerous_characters (candidate : String) (label : String) : Option FileError :=
  if '\x00' ∈ candidate.toList then
    some (.InvalidStorageLocationError s!"The {label} may not contain a NUL byte.")
  else if candidate.toList.head? = some '~' then
    some (.InvalidStorageLocationError s!"The {label} may not start with '~'.")
  else if candidate.toList[1]? = some ':' then
    some (.InvalidStorageLocationError s!"The {label} may not be an absolute Windows path.")
  else none

/-- The segments of a path, the empty ones dropped. -/
def segments (candidate : String) : List String :=
  ((splitChars '/' candidate.toList).filter fun segment => !segment.isEmpty).map String.ofList

/-- `"/".join(segments)`. -/
def joined (segments : List String) : String :=
  String.ofList (joinChars '/' (segments.map String.toList))

/-- `_validated_path`. -/
def _validated_path (value : Value) :
    Except FileError { s : String // s.length ≤ MAX_PATH_LENGTH } :=
  match value with
  | .none => .ok ⟨"", Nat.zero_le _⟩
  | .str s =>
    let candidate := String.ofList ((strip s).toList.map fun c => if c = '\\' then '/' else c)
    match _reject_dangerous_characters candidate "path" with
    | some error => .error error
    | none =>
      match (segments candidate).find? (· ∈ TRAVERSAL_SEGMENTS) with
      | some segment => .error (.InvalidStorageLocationError
          s!"The path '{s}' may not contain a '{segment}' segment.")
      | none =>
        let normalized := joined (segments candidate)
        if h : normalized.length > MAX_PATH_LENGTH then
          .error (.InvalidStorageLocationError
            s!"The path is longer than {MAX_PATH_LENGTH} characters.")
        else .ok ⟨normalized, Nat.le_of_not_lt h⟩
  | _ => .error (.InvalidStorageLocationError "The path must be a string.")

/-- `_validated_name`. -/
def _validated_name (value : Value) : Except FileError
    { s : String // s ≠ "" ∧ s.length ≤ MAX_NAME_LENGTH ∧ '/' ∉ s.toList } :=
  match value with
  | .str s =>
    let candidate := strip s
    if hempty : candidate = "" then
      .error (.InvalidStorageLocationError "The file name is required.")
    else match _reject_dangerous_characters candidate "file name" with
    | some error => .error error
    | none =>
      if hsep : '/' ∈ candidate.toList ∨ '\\' ∈ candidate.toList then
        .error (.InvalidStorageLocationError
          (s!"The file name '{s}' may not contain a path separator; "
            ++ "put the directory in 'path' instead."))
      else if candidate ∈ TRAVERSAL_SEGMENTS then
        .error (.InvalidStorageLocationError s!"'{s}' is not a usable file name.")
      else if hlong : candidate.length > MAX_NAME_LENGTH then
        .error (.InvalidStorageLocationError
          s!"The file name is longer than {MAX_NAME_LENGTH} characters.")
      else .ok ⟨candidate, hempty, Nat.le_of_not_lt hlong, fun h => hsep (.inl h)⟩
  | _ => .error (.InvalidStorageLocationError "The file name must be a string.")

/-- `StorageLocation(...)`. -/
def make (path name : Value) : Except FileError StorageLocation := do
  let path ← _validated_path path
  let name ← _validated_name name
  return { path := path.val, name := name.val, path_fits := path.property,
           name_required := name.property.1, name_fits := name.property.2.1,
           no_separator := name.property.2.2 }

/-- `key`. -/
def key (self : StorageLocation) : String :=
  if self.path = "" then self.name else self.path ++ "/" ++ self.name

end StorageLocation

/-! ## 3. `FileReference` -/

def MAX_FIELD_LENGTH : ℕ := 128

structure FileReference where
  context : String
  entity_type : String
  entity_id : Option String
  entity_uuid : Option Uuid
  deriving DecidableEq

namespace FileReference

/-- `_validated_text`. -/
def _validated_text (value : Value) (label : String) : Except FileError String :=
  match value with
  | .str s =>
    let text := strip s
    if text = "" then .error (.InvalidFileReferenceError s!"The {label} is required.")
    else if text.length > MAX_FIELD_LENGTH then
      .error (.InvalidFileReferenceError
        s!"The {label} is longer than {MAX_FIELD_LENGTH} characters.")
    else .ok text
  | _ => .error (.InvalidFileReferenceError s!"The {label} must be a string.")

/-- `_validated_identifier`: the length is only checked on a string. -/
def _validated_identifier (value : Value) : Except FileError (Option String) :=
  match value with
  | .none => .ok none
  | .int n =>
    match str_of_int n with
    | some identifier => .ok (some identifier)
    | none => .error (.ValueError STR_DIGITS_EXCEEDED)
  | .uuid u => .ok (some u.str)
  | .str s =>
    let identifier := strip s
    if identifier = "" then .ok none
    else if identifier.length > MAX_FIELD_LENGTH then
      .error (.InvalidFileReferenceError
        s!"The entity identifier is longer than {MAX_FIELD_LENGTH} characters.")
    else .ok (some identifier)
  | _ => .error (.InvalidFileReferenceError
      "The entity identifier must be a string, an integer or a UUID.")

/-- `_validated_uuid`. -/
def _validated_uuid (value : Value) : Except FileError (Option Uuid) :=
  match value with
  | .none => .ok none
  | .uuid u => .ok (some u)
  | .str s =>
    let candidate := strip s
    if candidate = "" then .ok none
    else match Uuid.parse candidate with
      | some u => .ok (some u)
      | none => .error (.InvalidFileReferenceError s!"'{s}' is not a valid entity UUID.")
  | _ => .error (.InvalidFileReferenceError "The entity UUID must be a UUID.")

/-- `declare`. -/
def declare (context entity_type entity_id entity_uuid : Value) :
    Except FileError FileReference := do
  let context ← _validated_text context "context"
  let entity_type ← _validated_text entity_type "entity type"
  let entity_id ← _validated_identifier entity_id
  let entity_uuid ← _validated_uuid entity_uuid
  return { context, entity_type, entity_id, entity_uuid }

/-- `points_at`. -/
def points_at (self other : FileReference) : Bool :=
  other.context == self.context && other.entity_type == self.entity_type
    && other.entity_id == self.entity_id

end FileReference

/-! ## 4. `StoredFile` -/

def DEFAULT_CONTENT_TYPE : String := "application/octet-stream"

def MAX_DISK_LENGTH : ℕ := 32

def MAX_CONTENT_TYPE_LENGTH : ℕ := 255

structure StoredFile where
  id : Uuid
  disk : String
  location : StorageLocation
  size_bytes : ℕ
  content_type : String
  checksum : String
  metadata : Body
  references : List FileReference

namespace StoredFile

/-- `_validated_disk`. -/
def _validated_disk (value : String) : Except FileError String :=
  let disk := lower (strip value)
  if disk = "" then .error (.InvalidStoredFileError "The disk is required.")
  else if disk.length > MAX_DISK_LENGTH then
    .error (.InvalidStoredFileError
      s!"The disk name is longer than {MAX_DISK_LENGTH} characters.")
  else .ok disk

/-- `_validated_size`. -/
def _validated_size (value : ℕ) : Except FileError ℕ :=
  if value = 0 then .error (.InvalidStoredFileError "The file is empty.") else .ok value

/-- `_validated_content_type`. -/
def _validated_content_type (value : Option String) : Except FileError String :=
  match value with
  | none => .ok DEFAULT_CONTENT_TYPE
  | some s =>
    let content_type := if strip s = "" then DEFAULT_CONTENT_TYPE else strip s
    if content_type.length > MAX_CONTENT_TYPE_LENGTH then
      .error (.InvalidStoredFileError
        s!"The content type is longer than {MAX_CONTENT_TYPE_LENGTH} characters.")
    else .ok content_type

/-- `_validated_checksum`. -/
def _validated_checksum (value : String) : Except FileError String :=
  if strip value = "" then .error (.InvalidStoredFileError "The checksum is required.")
  else .ok (strip value)

theorem validated_disk_ok {value disk : String} (h : _validated_disk value = .ok disk) :
    disk = lower (strip value) ∧ disk.length ≤ MAX_DISK_LENGTH := by
  unfold _validated_disk at h
  by_cases hblank : lower (strip value) = ""
  · rw [if_pos hblank] at h
    cases h
  · by_cases hlong : (lower (strip value)).length > MAX_DISK_LENGTH
    · rw [if_neg hblank, if_pos hlong] at h
      cases h
    · rw [if_neg hblank, if_neg hlong, Except.ok.injEq] at h
      rw [← h]
      exact ⟨rfl, Nat.le_of_not_lt hlong⟩

theorem validated_size_ok {value size : ℕ} (h : _validated_size value = .ok size) :
    size = value := by
  unfold _validated_size at h
  split at h
  · cases h
  · rw [Except.ok.injEq] at h
    exact h.symm

theorem validated_content_type_ok {value : Option String} {content_type : String}
    (h : _validated_content_type value = .ok content_type) :
    content_type.length ≤ MAX_CONTENT_TYPE_LENGTH := by
  unfold _validated_content_type at h
  cases value with
  | none =>
      rw [← Except.ok.inj h]
      decide
  | some s =>
      dsimp only at h
      by_cases hlong : (if strip s = "" then DEFAULT_CONTENT_TYPE else strip s).length
          > MAX_CONTENT_TYPE_LENGTH
      · rw [if_pos hlong] at h
        cases h
      · rw [if_neg hlong, Except.ok.injEq] at h
        rw [← h]
        exact Nat.le_of_not_lt hlong

theorem validated_checksum_ok {value checksum : String}
    (h : _validated_checksum value = .ok checksum) : checksum = strip value := by
  unfold _validated_checksum at h
  split at h
  · cases h
  · rw [Except.ok.injEq] at h
    exact h.symm

/-- `relate_to`. -/
def relate_to (self : StoredFile) (reference : FileReference) : StoredFile :=
  if self.references.any fun existing => existing.points_at reference then self
  else { self with references := self.references ++ [reference] }

/-- `register`, under the identifier `uuid4()` answered. -/
def register (file_id : Uuid) (disk : String) (location : StorageLocation) (size_bytes : ℕ)
    (content_type : Option String) (checksum : String) (metadata : Body)
    (references : List FileReference) : Except FileError StoredFile := do
  let disk ← _validated_disk disk
  let size_bytes ← _validated_size size_bytes
  let content_type ← _validated_content_type content_type
  let checksum ← _validated_checksum checksum
  let stored_file : StoredFile :=
    { id := file_id, disk, location, size_bytes, content_type, checksum, metadata,
      references := [] }
  return references.foldl relate_to stored_file

/-- `key`. -/
def key (self : StoredFile) : String := self.location.key

/-- `is_referenced_by`. -/
def is_referenced_by (self : StoredFile) (context entity_type : String)
    (entity_id : Option String) : Bool :=
  self.references.any fun reference =>
    reference.context == context && reference.entity_type == entity_type
      && (entity_id == none || reference.entity_id == entity_id)

/-- Relating a file changes nothing but its references. -/
theorem relate_to_same (file : StoredFile) (references : List FileReference) :
    references.foldl relate_to file
      = { file with references := (references.foldl relate_to file).references } := by
  induction references generalizing file with
  | nil => rfl
  | cons reference references ih =>
      have hone : file.relate_to reference
          = { file with references := (file.relate_to reference).references } := by
        unfold relate_to
        split <;> rfl
      rw [List.foldl_cons, ih, hone]

/-- **`register`.** Every field is the validated one, and the references are related to
the file one by one. -/
theorem register_cases {file_id : Uuid} {disk : String} {location : StorageLocation}
    {size_bytes : ℕ} {content_type : Option String} {checksum : String} {metadata : Body}
    {references : List FileReference} {file : StoredFile}
    (h : register file_id disk location size_bytes content_type checksum metadata references
      = .ok file) :
    ∃ disk' size' content' checksum', _validated_disk disk = .ok disk'
      ∧ _validated_size size_bytes = .ok size'
      ∧ _validated_content_type content_type = .ok content'
      ∧ _validated_checksum checksum = .ok checksum'
      ∧ file = references.foldl relate_to
        { id := file_id, disk := disk', location, size_bytes := size', content_type := content',
          checksum := checksum', metadata, references := [] } := by
  unfold register at h
  cases hdisk : _validated_disk disk with
  | error e => rw [hdisk] at h; cases h
  | ok disk' =>
      cases hsize : _validated_size size_bytes with
      | error e => rw [hdisk, hsize] at h; cases h
      | ok size' =>
          cases hcontent : _validated_content_type content_type with
          | error e => rw [hdisk, hsize, hcontent] at h; cases h
          | ok content' =>
              cases hchecksum : _validated_checksum checksum with
              | error e => rw [hdisk, hsize, hcontent, hchecksum] at h; cases h
              | ok checksum' =>
                  rw [hdisk, hsize, hcontent, hchecksum] at h
                  cases h
                  exact ⟨disk', size', content', checksum', rfl, rfl, rfl, rfl, rfl⟩

/-- What a registered file records of its upload. -/
theorem register_ok {file_id : Uuid} {disk : String} {location : StorageLocation}
    {size_bytes : ℕ} {content_type : Option String} {checksum : String} {metadata : Body}
    {references : List FileReference} {file : StoredFile}
    (h : register file_id disk location size_bytes content_type checksum metadata references
      = .ok file) :
    file.disk = lower (strip disk) ∧ file.location = location ∧ file.size_bytes = size_bytes
      ∧ file.checksum = strip checksum := by
  obtain ⟨disk', size', content', checksum', hdisk, hsize, -, hchecksum, rfl⟩ := register_cases h
  rw [relate_to_same]
  exact ⟨(validated_disk_ok hdisk).1, rfl, validated_size_ok hsize, validated_checksum_ok hchecksum⟩

end StoredFile

end TradeLogistics.Files
