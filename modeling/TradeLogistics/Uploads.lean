/-
Concurrent uploads, and whether a record describes the object it points at.

An upload looks whether its key is free, writes its bytes there, records what it wrote,
and commits the record. Storage and database are two systems: nothing holds the key
between the look and the write, and the unique constraint that decides between two
uploads of one key decides after both have written. So the loser has already replaced
the winner's object, and one that fails for another reason removes whatever is at the
key by then.

A record points at its object through its columns: the location is rebuilt from the path
and the name whenever the row is loaded. So a row may be committed that is read back with
another key than its bytes were written under.

The result is exact again: along a run every record describes its object precisely when
no write or delete meets the object of a committed record with other bytes, and every
upload commits a row that is read back with a key where the puts and deletes of the run
have left bytes like its own. Keys are those of the storage, `(disk, key)`.
-/
import TradeLogistics.StorageKeys
import TradeLogistics.Sha256
import TradeLogistics.Runs

set_option autoImplicit false

namespace TradeLogistics.Files

open TradeLogistics.PyText TradeLogistics.PyNumber TradeLogistics.Runs
open TradeLogistics.MessageBus TradeLogistics.Sha256

/-! ## 1. The storage -/

/-- The settings a disk depends on; an empty text leaves the disk out. -/
structure DiskSettings where
  files_gcp_bucket : String
  files_aws_bucket : String
  files_sftp_host : String

/-- The names of `build_disk_registry`. -/
def build_disk_registry (settings : DiskSettings) : List String :=
  ["local"] ++ (if settings.files_gcp_bucket = "" then [] else ["gcp"])
    ++ (if settings.files_aws_bucket = "" then [] else ["aws"])
    ++ (if settings.files_sftp_host = "" then [] else ["sftp"])

/-- What a deployment is configured with; nothing keeps the ceiling from being negative. -/
structure Storage where
  settings : DiskSettings
  max_upload_bytes : ℤ

/-- `StoredObject`. -/
structure StoredObject where
  size_bytes : ℕ
  checksum : String
  deriving DecidableEq

/-- What `put` answers about bytes it has written. -/
def measured (size : ℕ) (content : Bytes) : StoredObject where
  size_bytes := size
  checksum := "sha256:" ++ hexdigest (sha256 content)

namespace Storage

variable (storage : Storage)

/-- `supports`. -/
def supports (disk : String) : Bool := disk ∈ build_disk_registry storage.settings

/-- The loop of `put`: the size so far and the bytes spooled so far. -/
def spool (size : ℕ) (spooled : Bytes) : List Bytes → Except FileError (ℕ × Bytes)
  | [] => .ok (size, spooled)
  | chunk :: chunks =>
    let size := size + chunk.length
    if (size : ℤ) > storage.max_upload_bytes then
      .error (.FileTooLargeError
        s!"The upload exceeds the maximum of {storage.max_upload_bytes} bytes.")
    else spool size (spooled ++ chunk) chunks

/-- `put`: what is written to the disk, and the answer; nothing is written when the
upload is too large. -/
def put (chunks : List Bytes) : Except FileError (Bytes × StoredObject) :=
  match storage.spool 0 [] chunks with
  | .error e => .error e
  | .ok (size, content) => .ok (content, measured size content)

end Storage

/-! ### What `put` answers

The answer is about the bytes it wrote, and both are all the chunks in order. -/

theorem spool_ok (storage : Storage) {chunks : List Bytes} :
    ∀ {size : ℕ} {spooled : Bytes} {n : ℕ} {content : Bytes},
      storage.spool size spooled chunks = .ok (n, content) →
      n = size + chunks.flatten.length ∧ content = spooled ++ chunks.flatten := by
  induction chunks with
  | nil =>
      intro size spooled n content h
      simp only [Storage.spool, Except.ok.injEq, Prod.mk.injEq] at h
      simp [h.1, h.2]
  | cons chunk chunks ih =>
      intro size spooled n content h
      simp only [Storage.spool] at h
      split at h
      · simp at h
      · obtain ⟨hn, hcontent⟩ := ih h
        refine ⟨?_, ?_⟩
        · rw [hn, List.flatten_cons, List.length_append]
          omega
        · rw [hcontent, List.flatten_cons, List.append_assoc]

theorem put_ok {storage : Storage} {chunks : List Bytes} {content : Bytes}
    {object : StoredObject} (h : storage.put chunks = .ok (content, object)) :
    content = chunks.flatten ∧ object = measured content.length content := by
  unfold Storage.put at h
  split at h
  · simp at h
  · next n spooled hspool =>
      obtain ⟨hn, hspooled⟩ := spool_ok storage hspool
      simp only [Except.ok.injEq, Prod.mk.injEq] at h
      obtain ⟨rfl, rfl⟩ := h
      simp only [List.nil_append, Nat.zero_add] at hn hspooled
      exact ⟨hspooled, by rw [hn, hspooled]⟩

/-- A recorded digest has no blanks to lose. -/
theorem strip_checksum (size : ℕ) (content : Bytes) :
    strip (measured size content).checksum = (measured size content).checksum := by
  refine strip_eq_self fun c hc => ?_
  rw [measured, String.toList_append, List.mem_append] at hc
  rcases hc with hc | hc
  · have hall : "sha256:".toList.all (fun c => !isspace c) = true := by decide
    simpa using List.all_eq_true.mp hall c hc
  · exact isspace_hexdigest _ c hc

/-- The name of a configured disk is recorded as it is. -/
theorem supports_canonical {storage : Storage} {disk : String} (h : storage.supports disk = true) :
    lower (strip disk) = disk := by
  have hnames : disk ∈ ["local", "gcp", "aws", "sftp"] := by
    simp only [Storage.supports, build_disk_registry, decide_eq_true_eq, List.mem_append,
      List.mem_ite_nil_left, List.mem_singleton] at h
    rcases h with ((h | ⟨-, h⟩) | ⟨-, h⟩) | ⟨-, h⟩ <;> simp [h]
  have hall : ∀ name ∈ ["local", "gcp", "aws", "sftp"], lower (strip name) = name := by decide
  exact hall disk hnames

/-! ## 2. The state and the uploads -/

/-- The objects by disk and key, the committed rows of `files.files`, and the rows open
transactions have flushed. A row keeps the columns of the location it was inserted with. -/
structure FilesState (ι : Type*) where
  objects : String × String → Option Bytes
  rows : List StoredFile
  flushed : List (ι × StoredFile)

/-- `uq_files_disk_path_name`. -/
def same_location (f g : StoredFile) : Bool :=
  f.disk == g.disk && f.location.path == g.location.path && f.location.name == g.location.name

/-- One declared reference, as the command carries it. -/
structure FileReferenceInput where
  context : Value
  entity_type : Value
  entity_id : Value
  uuid : Value

structure UploadFileCommand where
  disk : String
  path : String
  name : String
  content_type : Option String
  metadata : Body
  references : List FileReferenceInput

/-- Where an upload stands; it knows its bytes all along. -/
inductive Upload where
  | received (command : UploadFileCommand) (chunks : List Bytes)
  | checked (command : UploadFileCommand) (location : StorageLocation) (chunks : List Bytes)
  | written (command : UploadFileCommand) (location : StorageLocation) (chunks : List Bytes)
      (object : StoredObject)
  | registered (command : UploadFileCommand) (location : StorageLocation) (chunks : List Bytes)
      (file : StoredFile)
  | persisted (command : UploadFileCommand) (location : StorageLocation) (chunks : List Bytes)
      (file : StoredFile)
  | unrecorded (command : UploadFileCommand) (location : StorageLocation)
  | finished

/-- The atomic actions. A backend may find something else than an object at a key: a
directory, or the prefix of other keys. `persist_fails` is an insert refused for a reason
other than the key; `fail` is any other end of the request, with a rollback and nothing
else. -/
inductive UploadStep where
  | exists_key (directory : Bool)
  | put
  | register (file_id : Uuid)
  | persist
  | persist_fails
  | delete
  | commit
  | fail

/-- The references a command declares. -/
def declared (command : UploadFileCommand) : Except FileError (List FileReference) :=
  command.references.mapM fun reference =>
    FileReference.declare reference.context reference.entity_type reference.entity_id
      reference.uuid

/-- What `handle` registers once the bytes are written. -/
def registration (command : UploadFileCommand) (location : StorageLocation)
    (object : StoredObject) (file_id : Uuid) : Except FileError StoredFile :=
  match declared command with
  | .error e => .error e
  | .ok references =>
    StoredFile.register file_id command.disk location object.size_bytes command.content_type
      object.checksum command.metadata references

section Steps

variable {ι : Type*} [DecidableEq ι]

/-- `UploadFileHandler.handle`, the response and the commit of its request. -/
def upload_step (storage : Storage) (i : ι) (s : FilesState ι) :
    Upload → UploadStep → Option (FilesState ι × Upload)
  | .received command chunks, .exists_key directory =>
    if storage.supports command.disk then
      match StorageLocation.make (.str command.path) (.str command.name) with
      | .error _ => some (s, .finished)
      | .ok location =>
        if directory || (s.objects (command.disk, location.key)).isSome then some (s, .finished)
        else some (s, .checked command location chunks)
    else some (s, .finished)
  | .checked command location chunks, .put =>
    match storage.put chunks with
    | .error _ => some (s, .finished)
    | .ok (content, object) =>
      let objects := Function.update s.objects (command.disk, location.key) (some content)
      some ({ s with objects },
        .written command location chunks object)
  | .written command location chunks object, .register file_id =>
    match registration command location object file_id with
    | .error _ => some (s, .finished)
    | .ok file => some (s, .registered command location chunks file)
  | .registered command location chunks file, .persist =>
    if s.rows.any (same_location file) then
      -- The object at the key is left alone: it is taken for the winner's.
      some (s, .finished)
    else if s.flushed.any fun other => same_location file other.2 then
      -- The insert waits for the transaction that holds the key.
      none
    else some ({ s with flushed := s.flushed ++ [(i, file)] },
      .persisted command location chunks file)
  | .registered command location _ _, .persist_fails => some (s, .unrecorded command location)
  | .unrecorded command location, .delete =>
    let objects := Function.update s.objects (command.disk, location.key) none
    some ({ s with objects }, .finished)
  | .persisted _ _ _ file, .commit =>
    let flushed := s.flushed.filter fun other => other.1 ≠ i
    match load file with
    -- The response is rendered before the commit, and reads the location.
    | .error _ => some ({ s with flushed }, .finished)
    | .ok _ => some ({ s with rows := s.rows ++ [file], flushed }, .finished)
  | .persisted _ _ _ _, .fail =>
    some ({ s with flushed := s.flushed.filter fun other => other.1 ≠ i }, .finished)
  | .finished, .fail => none
  | _, .fail => some (s, .finished)
  | _, _ => none

/-! ## 3. Puts and deletes

Whose put stands at a key is said by the puts and deletes of the run, so the shared state
is followed together with the list of them. -/

/-- A put or a delete: whose it is, where, and what it leaves there. -/
structure Touch (ι : Type*) where
  upload : ι
  address : String × String
  content : Option Bytes

/-- The write of bytes that are not too many, and the compensating delete. -/
def touch (storage : Storage) (i : ι) : Upload → UploadStep → Option (Touch ι)
  | .checked command location chunks, .put =>
    match storage.put chunks with
    | .error _ => none
    | .ok (content, _) => some ⟨i, (command.disk, location.key), some content⟩
  | .unrecorded command location, .delete => some ⟨i, (command.disk, location.key), none⟩
  | _, _ => none

/-- The shared state and the puts and deletes so far, the last one first. -/
structure Logged (ι : Type*) where
  files : FilesState ι
  touches : List (Touch ι)

/-- `upload_step`, with the put or the delete it makes put on the list. -/
def logged_step (storage : Storage) (i : ι) (s : Logged ι) (up : Upload) (step : UploadStep) :
    Option (Logged ι × Upload) :=
  (upload_step storage i s.files up step).map fun r =>
    (⟨r.1, (touch storage i up step).toList ++ s.touches⟩, r.2)

/-- What the puts and deletes leave at an address that held `before`. -/
def content_after (before : Option Bytes) (touches : List (Touch ι)) (address : String × String) :
    Option Bytes :=
  match touches.find? fun touch => touch.address = address with
  | some touch => touch.content
  | none => before

/-- The puts and deletes others have made since the last one of an upload. -/
def since_own (i : ι) (touches : List (Touch ι)) : List (Touch ι) :=
  touches.takeWhile fun touch => touch.upload ≠ i

omit [DecidableEq ι] in
theorem content_after_cons (before : Option Bytes) (t : Touch ι) (touches : List (Touch ι))
    (address : String × String) : content_after before (t :: touches) address
      = if t.address = address then t.content else content_after before touches address := by
  unfold content_after
  rw [List.find?_cons]
  by_cases hat : t.address = address
  · rw [decide_eq_true hat, if_pos hat]
  · rw [decide_eq_false hat, if_neg hat]

/-- Where an upload has put its bytes, the last put or delete is one since that put, or is
that put. -/
theorem content_after_own {i : ι} {own : Touch ι} {before : Option Bytes}
    {touches : List (Touch ι)}
    (h : touches.find? (fun touch => touch.upload = i) = some own) :
    content_after before touches own.address
      = content_after own.content (since_own i touches) own.address := by
  induction touches with
  | nil => simp at h
  | cons t touches ih =>
      rw [List.find?_cons] at h
      by_cases hi : t.upload = i
      · -- nobody came after it
        rw [decide_eq_true hi, Option.some.injEq] at h
        subst h
        rw [content_after_cons, if_pos rfl, since_own, List.takeWhile_cons, if_neg (by simpa)]
        rfl
      · rw [decide_eq_false hi] at h
        rw [since_own, List.takeWhile_cons, if_pos (by simpa), content_after_cons,
          content_after_cons, ih h]
        rfl

/-! ## 4. What a record says, and who disturbs it -/

/-- The bytes have the size and the digest the record says. -/
def Describes (file : StoredFile) (content : Bytes) : Prop :=
  measured content.length content = ⟨file.size_bytes, file.checksum⟩

/-- Every committed row has an object at the disk and key it is read back with, and
describes it. -/
def Described (s : FilesState ι) : Prop :=
  ∀ row ∈ s.rows, ∃ file, load row = .ok file
    ∧ ∃ content, s.objects (file.disk, file.key) = some content ∧ Describes file content

/-- An object of the size and digest of an upload's own bytes. -/
def OfMeasure (chunks : List Bytes) : Option Bytes → Prop
  | some content => measured content.length content
      = measured chunks.flatten.length chunks.flatten
  | none => False

/-- A step that leaves the objects of committed records as they are described. What is
committed has to be read back where bytes like the upload's own are: with the key they were
put under, if nobody has put others there since or taken them away, or with another key,
if such bytes have been left there. -/
def Undisturbed (storage : Storage) (objects : String × String → Option Bytes) (s : Logged ι)
    (i : ι) : Upload → UploadStep → Prop
  | .checked command location chunks, .put =>
    ∀ content object, storage.put chunks = .ok (content, object) →
      ∀ row ∈ s.files.rows, ∀ file, load row = .ok file →
        (file.disk, file.key) = (command.disk, location.key) → Describes file content
  | .unrecorded command location, .delete =>
    ∀ row ∈ s.files.rows, ∀ file, load row = .ok file →
      (file.disk, file.key) ≠ (command.disk, location.key)
  | .persisted command location chunks file, .commit =>
    ∀ read, load file = .ok read →
      (read.key = location.key → ∀ touch ∈ (since_own i s.touches).find? fun touch =>
          touch.address = (command.disk, location.key), OfMeasure chunks touch.content)
      ∧ (read.key ≠ location.key → OfMeasure chunks
          (content_after (objects (command.disk, read.key)) s.touches (command.disk, read.key)))
  | _, _ => True

/-! ## 5. What an upload knows of its own bytes

Nothing an upload holds is about the shared state: it carries what was measured, and
the record it makes says just that, whatever happens to the object meanwhile. The list of
puts and deletes has its put, and nothing of its own after it. -/

/-- An upload's measure, and then its record, are those of its own bytes. -/
def OfOwnBytes (storage : Storage) : Upload → Prop
  | .checked command _ _ => storage.supports command.disk = true
  | .written command _ chunks object =>
    storage.supports command.disk = true
      ∧ object = measured chunks.flatten.length chunks.flatten
  | .registered command location chunks file | .persisted command location chunks file =>
    (file.disk, file.key) = (command.disk, location.key)
      ∧ measured chunks.flatten.length chunks.flatten = ⟨file.size_bytes, file.checksum⟩
  | _ => True

/-- The address and the bytes of the put an upload has made, as long as it may be recorded. -/
def Upload.own_put : Upload → Option ((String × String) × Bytes)
  | .written command location chunks _ | .registered command location chunks _
  | .persisted command location chunks _ =>
    some ((command.disk, location.key), chunks.flatten)
  | _ => none

/-- The last put or delete of an upload that has made its put is that put. -/
def OwnPut (i : ι) (touches : List (Touch ι)) (up : Upload) : Prop :=
  ∀ own ∈ up.own_put,
    touches.find? (fun touch => touch.upload = i) = some ⟨i, own.1, some own.2⟩

omit [DecidableEq ι] in
/-- The record made of a measure says where the bytes went and what was measured. -/
theorem registration_ok {storage : Storage} {command : UploadFileCommand}
    {location : StorageLocation} {chunks : List Bytes} {object : StoredObject} {file_id : Uuid}
    {file : StoredFile} (h : registration command location object file_id = .ok file)
    (hk : OfOwnBytes storage (.written command location chunks object)) :
    OfOwnBytes storage (.registered command location chunks file) := by
  obtain ⟨hdisk, hobject⟩ := hk
  unfold registration at h
  split at h
  · simp at h
  · obtain ⟨hd, hlocation, hsize, hchecksum⟩ := StoredFile.register_ok h
    rw [supports_canonical hdisk] at hd
    rw [hobject, strip_checksum] at hchecksum
    rw [hobject] at hsize
    refine ⟨?_, ?_⟩
    · rw [hd, StoredFile.key, hlocation]
    · rw [hsize, hchecksum]

/-- What a step does to the objects and the committed rows: nothing, unless it is the
write, the delete or the commit. -/
inductive UploadMove (storage : Storage) (i : ι) (s s' : FilesState ι) :
    Upload → UploadStep → Upload → Prop where
  | aside {up up' : Upload} {step : UploadStep} :
      s'.objects = s.objects → s'.rows = s.rows → touch storage i up step = none →
      (∀ own ∈ up'.own_put, own ∈ up.own_put) →
      (∀ objects touches, Undisturbed storage objects ⟨s, touches⟩ i up step) →
      UploadMove storage i s s' up step up'
  | wrote {command : UploadFileCommand} {location : StorageLocation} {chunks : List Bytes}
      {object : StoredObject} :
      storage.put chunks = .ok (chunks.flatten, object) → s'.rows = s.rows →
      s'.objects = Function.update s.objects (command.disk, location.key) (some chunks.flatten) →
      UploadMove storage i s s' (.checked command location chunks) .put
        (.written command location chunks object)
  | removed {command : UploadFileCommand} {location : StorageLocation} :
      s'.rows = s.rows →
      s'.objects = Function.update s.objects (command.disk, location.key) none →
      UploadMove storage i s s' (.unrecorded command location) .delete .finished
  | recorded {command : UploadFileCommand} {location : StorageLocation} {chunks : List Bytes}
      {file read : StoredFile} :
      load file = .ok read → s'.rows = s.rows ++ [file] → s'.objects = s.objects →
      UploadMove storage i s s' (.persisted command location chunks file) .commit .finished

/-- A request may end at any point, and then leaves everything as it is. -/
theorem upload_fails {storage : Storage} {i : ι} {s s' : FilesState ι} {up up' : Upload}
    (h : upload_step storage i s up .fail = some (s', up')) :
    up' = .finished ∧ s'.objects = s.objects ∧ s'.rows = s.rows := by
  cases up with
  | finished => simp [upload_step] at h
  | _ =>
      simp only [upload_step, Option.some.injEq, Prod.mk.injEq] at h
      obtain ⟨rfl, rfl⟩ := h
      exact ⟨rfl, rfl, rfl⟩

/-- A request that ends has no put to be recorded any more. -/
theorem UploadMove.ended {storage : Storage} {i : ι} {s s' : FilesState ι} {up : Upload}
    {step : UploadStep} (hobjects : s'.objects = s.objects) (hrows : s'.rows = s.rows)
    (htouch : touch storage i up step = none)
    (hu : ∀ objects touches, Undisturbed storage objects ⟨s, touches⟩ i up step) :
    UploadMove storage i s s' up step .finished :=
  .aside hobjects hrows htouch (fun _ hown => nomatch hown) hu

/-- **One step of an upload.** What it carries stays about its own bytes. -/
theorem upload_step_moves {storage : Storage} {i : ι} {s s' : FilesState ι} {up up' : Upload}
    {step : UploadStep} (h : upload_step storage i s up step = some (s', up'))
    (hk : OfOwnBytes storage up) :
    OfOwnBytes storage up' ∧ UploadMove storage i s s' up step up' := by
  by_cases hfail : step = .fail
  · subst hfail
    obtain ⟨rfl, hobjects, hrows⟩ := upload_fails h
    refine ⟨trivial, .ended hobjects hrows ?_ fun _ _ => ?_⟩
    · cases up <;> rfl
    · cases up <;> trivial
  cases up with
  | received command chunks =>
      cases step with
      | exists_key directory =>
          -- refused for its disk, its location or its key, or the key is free
          simp only [upload_step] at h
          split at h
          · next hsupports =>
              split at h
              · cases h
                exact ⟨trivial, .ended rfl rfl rfl fun _ _ => trivial⟩
              · split at h
                · cases h
                  exact ⟨trivial, .ended rfl rfl rfl fun _ _ => trivial⟩
                · cases h
                  exact ⟨hsupports, .aside rfl rfl rfl (fun _ hown => hown) fun _ _ => trivial⟩
          · cases h
            exact ⟨trivial, .ended rfl rfl rfl fun _ _ => trivial⟩
      | fail => exact absurd rfl hfail
      | _ => simp [upload_step] at h
  | checked command location chunks =>
      cases step with
      | put =>
          simp only [upload_step] at h
          split at h
          · -- nothing is written of an upload that is too large
            next e hput =>
              cases h
              refine ⟨trivial, .ended rfl rfl (by rw [touch, hput]) fun _ _ => ?_⟩
              intro content object hok
              rw [hput] at hok
              cases hok
          · next content object hput =>
              cases h
              obtain ⟨rfl, hobject⟩ := put_ok hput
              exact ⟨⟨hk, hobject⟩, .wrote hput rfl rfl⟩
      | fail => exact absurd rfl hfail
      | _ => simp [upload_step] at h
  | written command location chunks object =>
      cases step with
      | register file_id =>
          simp only [upload_step] at h
          split at h
          · cases h
            exact ⟨trivial, .ended rfl rfl rfl fun _ _ => trivial⟩
          · next file hfile =>
              cases h
              exact ⟨registration_ok hfile hk,
                .aside rfl rfl rfl (fun _ hown => hown) fun _ _ => trivial⟩
      | fail => exact absurd rfl hfail
      | _ => simp [upload_step] at h
  | registered command location chunks file =>
      cases step with
      | persist =>
          -- the key is taken, or held by another transaction, or flushed
          simp only [upload_step] at h
          split at h
          · cases h
            exact ⟨trivial, .ended rfl rfl rfl fun _ _ => trivial⟩
          · split at h
            · cases h
            · cases h
              exact ⟨hk, .aside rfl rfl rfl (fun _ hown => hown) fun _ _ => trivial⟩
      | persist_fails =>
          cases h
          exact ⟨trivial, .aside rfl rfl rfl (fun _ hown => nomatch hown) fun _ _ => trivial⟩
      | fail => exact absurd rfl hfail
      | _ => simp [upload_step] at h
  | persisted command location chunks file =>
      cases step with
      | commit =>
          simp only [upload_step] at h
          split at h
          · -- the response cannot be rendered, so there is no commit
            next e hload =>
              cases h
              refine ⟨trivial, .ended rfl rfl rfl fun _ _ read hread => ?_⟩
              rw [hload] at hread
              cases hread
          · next read hload =>
              cases h
              exact ⟨trivial, .recorded hload rfl rfl⟩
      | fail => exact absurd rfl hfail
      | _ => simp [upload_step] at h
  | unrecorded command location =>
      cases step with
      | delete =>
          cases h
          exact ⟨trivial, .removed rfl rfl⟩
      | fail => exact absurd rfl hfail
      | _ => simp [upload_step] at h
  | finished => cases step <;> simp [upload_step] at h

/-! ## 6. The list of puts and deletes -/

/-- The list says what is at every address, of a disk that held these objects before. -/
def Accounts (objects : String × String → Option Bytes) (s : Logged ι) : Prop :=
  ∀ address, s.files.objects address = content_after (objects address) s.touches address

omit [DecidableEq ι] in
/-- An update is what one put or delete more leaves. -/
theorem Accounts.update {objects : String × String → Option Bytes} {s : Logged ι}
    {files : FilesState ι} {t : Touch ι} (h : Accounts objects s)
    (hobjects : files.objects = Function.update s.files.objects t.address t.content) :
    Accounts objects ⟨files, t :: s.touches⟩ := by
  intro address
  rw [hobjects, content_after_cons]
  by_cases hat : t.address = address
  · rw [if_pos hat, ← hat, Function.update_self]
  · rw [if_neg hat, Function.update_of_ne (Ne.symm hat), h address]

/-- A step of the program, and what it puts on the list. -/
theorem logged_step_eq_some {storage : Storage} {i : ι} {s s' : Logged ι} {up up' : Upload}
    {step : UploadStep} : logged_step storage i s up step = some (s', up')
      ↔ upload_step storage i s.files up step = some (s'.files, up')
        ∧ s'.touches = (touch storage i up step).toList ++ s.touches := by
  obtain ⟨files', touches'⟩ := s'
  simp only [logged_step, Option.map_eq_some_iff, Prod.mk.injEq, Logged.mk.injEq, Prod.exists]
  constructor
  · rintro ⟨files, up, hstep, ⟨rfl, rfl⟩, rfl⟩
    exact ⟨hstep, rfl⟩
  · rintro ⟨hstep, rfl⟩
    exact ⟨files', up', hstep, ⟨rfl, rfl⟩, rfl⟩

/-- What one step puts on the list is its own. -/
def Appends (i : ι) (s s' : Logged ι) : Prop :=
  ∃ new : List (Touch ι), s'.touches = new ++ s.touches ∧ ∀ touch ∈ new, touch.upload = i

/-- The list is kept: it accounts for the objects, and has the put of each upload. -/
theorem logged_outline (storage : Storage) (objects : String × String → Option Bytes) :
    Outline (logged_step (ι := ι) storage) (fun _ _ _ => True) (Accounts objects)
      (fun s i up => OfOwnBytes storage up ∧ OwnPut i s.touches up) Appends where
  own := by
    rintro i s up step s' up' hs ⟨hk, hown⟩ hstep -
    obtain ⟨hstep, htouches⟩ := logged_step_eq_some.mp hstep
    obtain ⟨hk', hmove⟩ := upload_step_moves hstep hk
    obtain ⟨files', touches'⟩ := s'
    dsimp only at htouches hstep hmove
    subst htouches
    cases hmove with
    | aside hobjects hrows htouch hput hu =>
        rw [htouch]
        refine ⟨fun address => ?_, ⟨hk', fun own hmem => hown own (hput own hmem)⟩, [], rfl, ?_⟩
        · rw [hobjects]
          exact hs address
        · exact fun touch hmem => absurd hmem List.not_mem_nil
    | @wrote command location chunks object hput hrows hobjects =>
        have htouch : touch storage i (.checked command location chunks) .put
            = some ⟨i, (command.disk, location.key), some chunks.flatten⟩ := by
          rw [touch, hput]
        rw [htouch]
        refine ⟨hs.update hobjects, ⟨hk', fun own hmem => ?_⟩, [_], rfl, fun t hmem => ?_⟩
        · obtain rfl := Option.mem_some_iff.mp hmem
          rw [Option.toList_some, List.singleton_append, List.find?_cons, decide_eq_true rfl]
        · rw [List.mem_singleton.mp hmem]
    | removed hrows hobjects =>
        refine ⟨hs.update hobjects, ⟨hk', fun own hmem => nomatch hmem⟩, [_], rfl,
          fun t hmem => ?_⟩
        rw [List.mem_singleton.mp hmem]
    | recorded hload hrows hobjects =>
        refine ⟨fun address => ?_, ⟨hk', fun own hmem => nomatch hmem⟩, [], rfl, ?_⟩
        · dsimp only
          rw [hobjects]
          exact hs address
        · exact fun touch hmem => absurd hmem List.not_mem_nil
  stable := by
    -- what others put on the list leaves the last entry of this upload where it is
    rintro i j s s' up hij - ⟨new, htouches, hnew⟩ ⟨hk, hown⟩
    refine ⟨hk, fun own hmem => ?_⟩
    have hnone : new.find? (fun touch => touch.upload = j) = none := by
      rw [List.find?_eq_none]
      intro touch htouch hj
      exact hij ((hnew touch htouch).symm.trans (of_decide_eq_true hj))
    rw [htouches, List.find?_append, hnone, Option.none_or]
    exact hown own hmem

/-! ## 7. The result

Along a run the records stay described exactly as long as nobody disturbs them, and the
first disturbance is read off the state it leaves. -/

/-- What is committed is described exactly when bytes of the upload's measure are at the
key it is read back with. -/
theorem described_iff_measure {chunks : List Bytes} {file read : StoredFile}
    {object : Option Bytes} (hload : load file = .ok read)
    (hmeasured : measured chunks.flatten.length chunks.flatten
      = ⟨file.size_bytes, file.checksum⟩) :
    (∃ content, object = some content ∧ Describes read content) ↔ OfMeasure chunks object := by
  obtain ⟨location, -, rfl⟩ := load_ok.mp hload
  cases object with
  | none => simp [OfMeasure]
  | some content =>
      rw [OfMeasure, hmeasured]
      simp only [Option.some.injEq, exists_eq_left']
      exact Iff.rfl

/-- At the key of its own put, an upload finds bytes of its measure exactly when the last
put or delete there since, if there was any, has left such bytes. -/
theorem measure_since_own {i : ι} {own : Touch ι} {before : Option Bytes}
    {touches : List (Touch ι)} {chunks : List Bytes}
    (h : touches.find? (fun touch => touch.upload = i) = some own)
    (hcontent : own.content = some chunks.flatten) :
    OfMeasure chunks (content_after before touches own.address)
      ↔ ∀ touch ∈ (since_own i touches).find? fun touch => touch.address = own.address,
          OfMeasure chunks touch.content := by
  rw [content_after_own h, content_after, hcontent]
  cases (since_own i touches).find? fun touch => touch.address = own.address with
  | none => exact iff_of_true rfl (by simp)
  | some touch => simp

/-- A step leaves every record described exactly when it disturbs none. -/
theorem described_step {storage : Storage} {objects : String × String → Option Bytes} {i : ι}
    {s s' : Logged ι} {up up' : Upload} {step : UploadStep} (hs : Described s.files)
    (hlog : Accounts objects s) (hk : OfOwnBytes storage up) (hown : OwnPut i s.touches up)
    (h : logged_step storage i s up step = some (s', up')) :
    Described s'.files ↔ Undisturbed storage objects s i up step := by
  obtain ⟨hstep, -⟩ := logged_step_eq_some.mp h
  cases (upload_step_moves hstep hk).2 with
  | aside hobjects hrows _ _ hu =>
    refine iff_of_true ?_ (hu objects s.touches)
    unfold Described
    rw [hobjects, hrows]
    exact hs
  | @wrote command location chunks object hput hrows hobjects =>
    -- the records of this key must describe what replaced their object
    constructor
    · intro hd content _ hok row hrow file hload hkey
      rw [hput, Except.ok.injEq, Prod.mk.injEq] at hok
      obtain ⟨file', hload', content', hat, hdescribes⟩ := hd row (hrows ▸ hrow)
      obtain rfl : file = file' := Except.ok.inj (hload.symm.trans hload')
      rw [hobjects, hkey, Function.update_self, Option.some.injEq] at hat
      rw [← hok.1, hat]
      exact hdescribes
    · intro hu row hrow
      rw [hrows] at hrow
      obtain ⟨file, hload, content, hat, hdescribes⟩ := hs row hrow
      refine ⟨file, hload, ?_⟩
      by_cases hkey : (file.disk, file.key) = (command.disk, location.key)
      · refine ⟨chunks.flatten, ?_, hu _ _ hput row hrow file hload hkey⟩
        rw [hobjects, hkey, Function.update_self]
      · rw [hobjects, Function.update_of_ne hkey]
        exact ⟨content, hat, hdescribes⟩
  | @removed command location hrows hobjects =>
    -- a record of this key would have nothing left to describe
    constructor
    · intro hd row hrow file hload hkey
      obtain ⟨file', hload', content, hat, -⟩ := hd row (hrows ▸ hrow)
      obtain rfl : file = file' := Except.ok.inj (hload.symm.trans hload')
      rw [hobjects, hkey, Function.update_self] at hat
      simp at hat
    · intro hu row hrow
      rw [hrows] at hrow
      obtain ⟨file, hload, hthere⟩ := hs row hrow
      refine ⟨file, hload, ?_⟩
      rw [hobjects, Function.update_of_ne (hu row hrow file hload)]
      exact hthere
  | @recorded command location chunks file read hload hrows hobjects =>
    -- the new record is of the upload's own bytes
    obtain ⟨hkey, hmeasured⟩ := hk
    have hdisk : read.disk = command.disk := by
      obtain ⟨rebuilt, -, rfl⟩ := load_ok.mp hload
      exact congrArg Prod.fst hkey
    have hnew : (∃ content, s'.files.objects (read.disk, read.key) = some content
        ∧ Describes read content) ↔ Undisturbed storage objects s i
          (.persisted command location chunks file) .commit := by
      rw [described_iff_measure hload hmeasured, hobjects, hdisk, hlog, Undisturbed]
      constructor
      · intro hthere read' hread'
        obtain rfl : read = read' := Except.ok.inj (hload.symm.trans hread')
        refine ⟨fun hsame => ?_, fun _ => hthere⟩
        rw [hsame] at hthere
        exact (measure_since_own (hown _ rfl) rfl).mp hthere
      · intro hu
        obtain ⟨hkept, helsewhere⟩ := hu read hload
        by_cases hsame : read.key = location.key
        · rw [hsame]
          exact (measure_since_own (hown _ rfl) rfl).mpr (hkept hsame)
        · exact helsewhere hsame
    rw [← hnew]
    constructor
    · intro hd
      obtain ⟨read', hread', hthere⟩ := hd file (by simp [hrows])
      obtain rfl : read = read' := Except.ok.inj (hload.symm.trans hread')
      exact hthere
    · intro hthere other hother
      rw [hrows, List.mem_append, List.mem_singleton] at hother
      rcases hother with hother | rfl
      · rw [hobjects]
        exact hs other hother
      · exact ⟨read, hload, hthere⟩

/-- A disk with any objects on it, no record yet, and an upload for each thread. -/
def before_uploads (objects : String × String → Option Bytes)
    (uploads : ι → UploadFileCommand × List Bytes) : Config ι (FilesState ι) Upload where
  shared := { objects, rows := [], flushed := [] }
  locals := fun i => .received (uploads i).1 (uploads i).2

/-- The same, before any put or delete. -/
def before_touches (objects : String × String → Option Bytes)
    (uploads : ι → UploadFileCommand × List Bytes) : Config ι (Logged ι) Upload where
  shared := ⟨(before_uploads objects uploads).shared, []⟩
  locals := (before_uploads objects uploads).locals

/-- What the program has of it. -/
def unlogged (c : Config ι (Logged ι) Upload) : Config ι (FilesState ι) Upload :=
  ⟨c.shared.files, c.locals⟩

theorem fire_unlogged (storage : Storage) (c : Config ι (Logged ι) Upload) (e : ι × UploadStep) :
    (fire (logged_step storage) c e).map unlogged = fire (upload_step storage) (unlogged c) e := by
  simp only [fire, logged_step, Option.map_map]
  rfl

/-- **Concurrent uploads, exactly.** In any interleaving of any number of uploads, of any
keys and bytes, every record describes the object at its key in every state reached
precisely when no write or delete meets a record's object with other bytes, and every
commit is of a row that is read back where bytes like the upload's own have been left. -/
theorem records_describe_iff (storage : Storage) (objects : String × String → Option Bytes)
    (uploads : ι → UploadFileCommand × List Bytes) (steps : List (ι × UploadStep)) :
    Along (fire (upload_step storage)) (fun _ _ c' => Described c'.shared)
        (before_uploads objects uploads) steps
      ↔ Along (fire (logged_step storage))
        (fun c e _ => Undisturbed storage objects c.shared e.1 (c.locals e.1) e.2)
        (before_touches objects uploads) steps := by
  have hshown : Along (fire (upload_step storage)) (fun _ _ c' => Described c'.shared)
      (unlogged (before_touches objects uploads)) steps ↔ _ :=
    along_map (fire (upload_step storage)) (fire_unlogged storage)
  refine hshown.trans (Runs.along_exact (fire (logged_step storage))
    (fun c => Holds (Accounts objects)
      (fun s i up => OfOwnBytes storage up ∧ OwnPut i s.touches up) c ∧ Described c.shared.files)
    (fun _ _ c' => Described (unlogged c').shared) _ ?_ ?_ ?_)
  · rintro c e c' ⟨hc, hs⟩ hfire hu
    have hc' := ((logged_outline storage objects).fire hc hfire trivial).1
    obtain ⟨s', up', hstep, rfl⟩ := fire_eq_some.mp hfire
    have hd : Described s'.files :=
      (described_step hs hc.1 (hc.2 e.1).1 (hc.2 e.1).2 hstep).mpr hu
    exact ⟨hd, hc', hd⟩
  · rintro c e c' ⟨hc, hs⟩ hfire hd
    obtain ⟨s', up', hstep, rfl⟩ := fire_eq_some.mp hfire
    exact (described_step hs hc.1 (hc.2 e.1).1 (hc.2 e.1).2 hstep).mp hd
  · refine ⟨⟨fun _ => rfl, fun i => ⟨trivial, fun own hmem => nomatch hmem⟩⟩, ?_⟩
    exact fun row hrow => absurd hrow List.not_mem_nil

end Steps

/-! ### Two uploads of one key -/

/-- A deployment with the local disk only. -/
def local_storage : Storage where
  settings := ⟨"", "", ""⟩
  max_upload_bytes := 100

def invoice : UploadFileCommand where
  disk := "local"
  path := "invoices"
  name := "4021.pdf"
  content_type := none
  metadata := []
  references := []

/-- Two uploads of one key, of one byte and of two. -/
def racing_uploads : Bool → UploadFileCommand × List Bytes
  | false => (invoice, [[1]])
  | true => (invoice, [[2, 3]])

/-- Both find the key free, and the first commits what it wrote. -/
def racing_steps : List (Bool × UploadStep) :=
  [(false, .exists_key false), (true, .exists_key false), (false, .put),
    (false, .register (.of_byte 1)), (false, .persist), (false, .commit)]

/-- What each row says of the size of its object, and what is at the key it is read back
with. -/
def sizes (s : FilesState Bool) : List (Option (ℕ × Option ℕ)) :=
  s.rows.map fun row => match load row with
    | .error _ => none
    | .ok file => some (file.size_bytes, (s.objects (file.disk, file.key)).map List.length)

/-- The loser of the race writes after the winner has committed. -/
theorem late_put_replaces_the_object :
    ¬ Along (fire (upload_step local_storage)) (fun _ _ c' => Described c'.shared)
        (before_uploads (fun _ => none) racing_uploads) (racing_steps ++ [(true, .put)]) := by
  intro h
  have hend : (run (fire (upload_step local_storage))
      (before_uploads (fun _ => none) racing_uploads) (racing_steps ++ [(true, .put)])).map
        (fun c => sizes c.shared) = some [some (1, some 2)] := by decide +kernel
  obtain ⟨c, hrun, hc⟩ := Option.map_eq_some_iff.mp hend
  obtain ⟨-, -, hdescribed⟩ := along_last _ h hrun
  obtain ⟨row, hrows, hrow⟩ := List.map_eq_singleton_iff.mp hc
  obtain ⟨file, hload, content, hat, hdescribes⟩ := hdescribed row (by simp [hrows])
  have hsize : content.length = file.size_bytes := congrArg StoredObject.size_bytes hdescribes
  rw [hload] at hrow
  simp only [hat, Option.map_some, Option.some.injEq, Prod.mk.injEq] at hrow
  omega

end TradeLogistics.Files
