/-
One upload on its own, and what it leaves on the disk when it fails.

`UploadFileHandler.handle` writes the bytes before it knows that they can be recorded, so
every failure after the write needs the object taken back out. One of them is given that:
an insert that raises. A file the aggregate refuses, an empty one or one with a reference
it does not accept, raises outside the `try`; and an insert refused for the key leaves
the object alone, as if it were somebody else's, which on its own it never is.

Either way nobody will find the object under a record, and nobody can upload to its key
again. Where the call returns, the file it returns has its location built from its columns,
so that the object is at the key of the file only if the path is read back as it is.
-/
import TradeLogistics.ObjectStore

set_option autoImplicit false

namespace TradeLogistics.Files

open TradeLogistics.PyText TradeLogistics.MessageBus TradeLogistics.Sha256

/-! ## 1. The handler -/

/-- What `handle` may raise: an error of the domain, or whatever the upload stream or the
database raises. -/
inductive UploadError where
  | file (error : FileError)
  | other (text : String)

/-- A file once it is inserted: its columns. The mapping drops the location it was
registered under, and builds one from the columns when it is asked for. -/
structure InsertedFile where
  row : StoredFile

/-- `disk`. -/
def InsertedFile.disk (self : InsertedFile) : String := self.row.disk

/-- `key`, which raises where the location is not built. -/
def InsertedFile.key (self : InsertedFile) : Except FileError String :=
  (load self.row).map (·.key)

inductive UploadEnding where
  | returned (file : InsertedFile)
  | raised (error : UploadError)
  | cancelled

/-- The bytes as the client sends them, and the error they break off with, if they do. -/
structure UploadStream where
  chunks : List Bytes
  breaks : Option String

/-- The objects by disk and key, what else the backends have at a key, which is a directory
or the prefix of other keys, and the rows of `files.files`. -/
structure FileStore where
  objects : String × String → Option Bytes
  directories : String × String → Bool
  rows : List StoredFile

/-- How the flush of the insert ends where no constraint refuses it. -/
inductive FlushFate where
  | completes
  | raises (text : String)
  | cancelled

/-- `put`: the bytes written and the answer. A stream that breaks is not written. -/
def Storage.put_stream (storage : Storage) (stream : UploadStream) :
    Except UploadError (Bytes × StoredObject) :=
  match storage.put stream.chunks with
  | .error error => .error (.file error)
  | .ok written => match stream.breaks with
    | some text => .error (.other text)
    | none => .ok written

namespace FileStore

/-- `exists`, which asks the backend for anything at the key. -/
def exists_key (s : FileStore) (address : String × String) : Bool :=
  s.directories address || (s.objects address).isSome

def write (s : FileStore) (address : String × String) (content : Bytes) : FileStore :=
  { s with objects := Function.update s.objects address (some content) }

def delete (s : FileStore) (address : String × String) : FileStore :=
  { s with objects := Function.update s.objects address none }

/-- `persist`: the unique constraint on the location, and the flush. -/
def persist (s : FileStore) (file : StoredFile) (flush : FlushFate) : UploadEnding × FileStore :=
  match flush with
  | .raises text => (.raised (.other text), s)
  | .cancelled => (.cancelled, s)
  | .completes =>
    if s.rows.any (same_location file) then
      (.raised (.file (.FileAlreadyStoredError
        s!"'{file.key}' already exists on disk '{file.disk}'.")), s)
    else (.returned ⟨file⟩, { s with rows := s.rows ++ [file] })

end FileStore

/-- The second half of `handle`: what was written is registered and recorded, and taken
back out if the insert raises. `file_id` is what `FileId.generate` answers. -/
def record_written (s : FileStore) (command : UploadFileCommand) (location : StorageLocation)
    (object : StoredObject) (file_id : Uuid) (flush : FlushFate) : UploadEnding × FileStore :=
  match registration command location object file_id with
  | .error error => (.raised (.file error), s)
  | .ok stored_file =>
    match s.persist stored_file flush with
    | (.raised (.file (.FileAlreadyStoredError detail)), s) =>
      -- The object there is taken for that of whoever won the key.
      (.raised (.file (.FileAlreadyStoredError detail)), s)
    | (.raised error, s) => (.raised error, s.delete (command.disk, location.key))
    | (ending, s) => (ending, s)

/-- `handle`. -/
def handle (storage : Storage) (s : FileStore) (command : UploadFileCommand)
    (stream : UploadStream) (file_id : Uuid) (flush : FlushFate) : UploadEnding × FileStore :=
  if !storage.supports command.disk then
    (.raised (.file (.UnknownStorageDiskError s!"'{command.disk}' is not a configured disk.")), s)
  else match StorageLocation.make (.str command.path) (.str command.name) with
  | .error error => (.raised (.file error), s)
  | .ok location =>
    if s.exists_key (command.disk, location.key) then
      (.raised (.file (.FileAlreadyStoredError
        s!"'{location.key}' already exists on disk '{command.disk}'.")), s)
    else match storage.put_stream stream with
    | .error error => (.raised error, s)
    | .ok (content, object) =>
      record_written (s.write (command.disk, location.key) content) command location object
        file_id flush

/-! ## 2. What it should leave -/

/-- A call that does not return leaves every object as it was; one that returns has added
one, with the bytes of the upload, at the disk and key of the file it returns. -/
def LeavesNothing (s : FileStore) (stream : UploadStream) : UploadEnding × FileStore → Prop
  | (.returned file, s') => ∃ key, file.key = .ok key ∧ s.objects (file.disk, key) = none
      ∧ s'.objects = Function.update s.objects (file.disk, key) (some stream.chunks.flatten)
  | (_, s') => s'.objects = s.objects

/-- The bytes get as far as the disk: the disk is there, the location is one, nothing is at
its key, and the stream comes to its end within the limit. -/
def Written (storage : Storage) (s : FileStore) (command : UploadFileCommand)
    (stream : UploadStream) (location : StorageLocation) (object : StoredObject) : Prop :=
  storage.supports command.disk = true
    ∧ StorageLocation.make (.str command.path) (.str command.name) = .ok location
    ∧ s.exists_key (command.disk, location.key) = false
    ∧ storage.put_stream stream = .ok (stream.chunks.flatten, object)

/-- No committed record has this disk and location. -/
def LocationFree (s : FileStore) (command : UploadFileCommand) (location : StorageLocation) :
    Prop :=
  ∀ row ∈ s.rows, (row.disk, row.location.path, row.location.name)
    ≠ (command.disk, location.path, location.name)

/-- What is written can be recorded: the references and the measure are accepted, the
insert is not cancelled, and if nothing else stops it the location is free, and read back
as it is. -/
def Recordable (storage : Storage) (s : FileStore) (command : UploadFileCommand)
    (stream : UploadStream) (file_id : Uuid) (flush : FlushFate) : Prop :=
  ∀ location object, Written storage s command stream location object →
    (∃ file, registration command location object file_id = .ok file)
      ∧ flush ≠ .cancelled
      ∧ (flush = .completes →
        LocationFree s command location ∧ StorageLocation.PlainEnds (.str command.path))

/-! ## 3. Before the write, and after it -/

section Handler

variable {storage : Storage} {s : FileStore} {command : UploadFileCommand} {stream : UploadStream}

/-- Where nothing is, no object is. -/
theorem FileStore.no_object {address : String × String} (h : s.exists_key address = false) :
    s.objects address = none := by
  rw [FileStore.exists_key, Bool.or_eq_false_iff] at h
  exact Option.isNone_iff_eq_none.mp (by rw [← Option.not_isSome, h.2, Bool.not_false])

theorem put_stream_ok {content : Bytes} {object : StoredObject}
    (h : storage.put_stream stream = .ok (content, object)) : content = stream.chunks.flatten := by
  unfold Storage.put_stream at h
  split at h
  · simp at h
  · next written hput =>
      split at h
      · simp at h
      · rw [Except.ok.injEq] at h
        rw [h] at hput
        exact (put_ok hput).1

/-- A call either raises before anything is written, or writes the bytes of the upload to
a free key and goes on from there. -/
theorem handle_cases (file_id : Uuid) (flush : FlushFate) :
    ((∀ location object, ¬ Written storage s command stream location object)
        ∧ ∃ error, handle storage s command stream file_id flush = (.raised error, s))
    ∨ ∃ location object, Written storage s command stream location object
        ∧ handle storage s command stream file_id flush
          = record_written (s.write (command.disk, location.key) stream.chunks.flatten) command
            location object file_id flush := by
  unfold handle
  by_cases hdisk : storage.supports command.disk = true
  · rw [hdisk, Bool.not_true, if_neg Bool.false_ne_true]
    cases hmake : StorageLocation.make (.str command.path) (.str command.name) with
    | error error =>
        refine .inl ⟨fun location object hwritten => ?_, _, rfl⟩
        rw [hwritten.2.1] at hmake
        simp at hmake
    | ok location =>
        dsimp only
        cases hfree : s.exists_key (command.disk, location.key) with
        | true =>
            -- the key is taken
            refine .inl ⟨fun other object hwritten => ?_, _, rfl⟩
            obtain ⟨-, hother, hnot, -⟩ := hwritten
            rw [hmake, Except.ok.injEq] at hother
            rw [← hother, hfree] at hnot
            simp at hnot
        | false =>
            rw [if_neg Bool.false_ne_true]
            cases hput : storage.put_stream stream with
            | error error =>
                -- too large, or the stream broke: the spool is dropped, the disk untouched
                refine .inl ⟨fun other object hwritten => ?_, error, rfl⟩
                rw [hwritten.2.2.2] at hput
                simp at hput
            | ok written =>
                obtain ⟨content, object⟩ := written
                have hcontent := put_stream_ok hput
                rw [hcontent] at hput
                refine .inr ⟨location, object, ⟨hdisk, hmake, hfree, hput⟩, ?_⟩
                rw [hcontent]
  · refine .inl ⟨fun location object hwritten => hdisk hwritten.1, ?_⟩
    rw [Bool.not_eq_true] at hdisk
    rw [hdisk]
    exact ⟨_, rfl⟩

/-- The address of a record is that of the bytes it was made for. -/
theorem registration_address {location : StorageLocation} {object : StoredObject}
    {file_id : Uuid} {file : StoredFile} (hdisk : storage.supports command.disk = true)
    (h : registration command location object file_id = .ok file) :
    file.disk = command.disk ∧ file.location = location := by
  unfold registration at h
  split at h
  · simp at h
  · obtain ⟨hd, hlocation, -, -⟩ := StoredFile.register_ok h
    rw [supports_canonical hdisk] at hd
    exact ⟨hd, hlocation⟩

/-- The constraint lets a record through exactly when its location is free. -/
theorem location_free_iff {location : StorageLocation} {file : StoredFile}
    (hdisk : file.disk = command.disk) (hlocation : file.location = location) :
    s.rows.any (same_location file) = false ↔ LocationFree s command location := by
  rw [List.any_eq_false]
  unfold LocationFree same_location
  rw [hdisk, hlocation]
  constructor
  · intro h row hrow hsame
    rw [Prod.mk.injEq, Prod.mk.injEq] at hsame
    obtain ⟨hd, hp, hn⟩ := hsame
    apply h row hrow
    simp [hd, hp, hn]
  · intro h row hrow hsame
    simp only [Bool.and_eq_true, beq_iff_eq, and_assoc] at hsame
    obtain ⟨hd, hp, hn⟩ := hsame
    exact h row hrow (by rw [hd, hp, hn])

/-- An object where there was none is one too many. -/
theorem write_ne {address : String × String} {content : Bytes}
    (hfree : s.objects address = none) : (s.write address content).objects ≠ s.objects := by
  intro hsame
  have hthere : (s.write address content).objects address = some content := by
    simp [FileStore.write]
  rw [hsame, hfree] at hthere
  simp at hthere

/-- Taken back out, the object leaves no trace. -/
theorem delete_write {address : String × String} {content : Bytes}
    (hfree : s.objects address = none) :
    ((s.write address content).delete address).objects = s.objects := by
  dsimp only [FileStore.write, FileStore.delete]
  rw [Function.update_idem]
  apply Function.update_eq_self_iff.mpr
  exact hfree.symm

/-- The object is at the key of the file that is returned exactly when the location is
rebuilt as it was, since a key is that of one location. -/
theorem returned_leaves_iff {location : StorageLocation} {file : StoredFile} {s' : FileStore}
    (hmake : StorageLocation.make (.str command.path) (.str command.name) = .ok location)
    (hdisk : file.disk = command.disk) (hlocation : file.location = location)
    (hfree : s.objects (command.disk, location.key) = none)
    (hobjects : s'.objects = Function.update s.objects (command.disk, location.key)
      (some stream.chunks.flatten)) :
    LeavesNothing s stream (.returned ⟨file⟩, s')
      ↔ StorageLocation.PlainEnds (.str command.path) := by
  rw [LeavesNothing, ← StorageLocation.rebuilt_iff_plainEnds hmake, ← hlocation,
    ← load_eq_self_iff, hobjects, InsertedFile.key, InsertedFile.disk, hdisk]
  rw [← hlocation] at hfree
  constructor
  · rintro ⟨key, hkey, -, hsame⟩
    cases hload : load file with
    | error error =>
        rw [hload] at hkey
        cases hkey
    | ok read =>
        obtain ⟨rebuilt, hrebuilt, hread⟩ := load_ok.mp hload
        rw [hload, Except.map, Except.ok.injEq, hread] at hkey
        have hkeys : rebuilt.key = file.location.key := by
          by_contra hne
          -- the object is at the key it was written under, and nothing was there before
          have hat := congrFun hsame (command.disk, location.key)
          rw [← hkey, ← hlocation, Function.update_self, Function.update_of_ne, hfree] at hat
          · cases hat
          · exact fun hpair => hne (congrArg Prod.snd hpair).symm
        rw [hread, StorageLocation.key_injective hkeys]
  · intro hload
    rw [hload]
    exact ⟨file.key, rfl, hfree, by rw [StoredFile.key, hlocation]⟩

/-- Once the bytes are written, nothing is left behind exactly when they can be recorded:
each of the other ends leaves the object there, or not at the key of the file. -/
theorem record_written_leaves_iff {location : StorageLocation} {object : StoredObject}
    (hwritten : Written storage s command stream location object) (file_id : Uuid)
    (flush : FlushFate) :
    LeavesNothing s stream (record_written
        (s.write (command.disk, location.key) stream.chunks.flatten) command location object
        file_id flush)
      ↔ (∃ file, registration command location object file_id = .ok file)
        ∧ flush ≠ .cancelled ∧ (flush = .completes →
          LocationFree s command location ∧ StorageLocation.PlainEnds (.str command.path)) := by
  obtain ⟨hdisk, hmake, hnothing, -⟩ := hwritten
  have hfree := FileStore.no_object hnothing
  unfold record_written
  cases hfile : registration command location object file_id with
  | error error =>
      -- raised outside the `try`, with the object written
      refine iff_of_false (fun hleaves => write_ne hfree hleaves) ?_
      rintro ⟨⟨file, hok⟩, -⟩
      simp at hok
  | ok file =>
      obtain ⟨hfile_disk, hfile_location⟩ := registration_address hdisk hfile
      have hlocation := location_free_iff (s := s) hfile_disk hfile_location
      dsimp only [FileStore.persist]
      cases flush with
      | raises text =>
          -- the one failure after the write that is undone
          exact iff_of_true (delete_write hfree) ⟨⟨file, rfl⟩, by simp⟩
      | cancelled =>
          -- a cancellation is no `Exception`, so no handler takes the object out
          exact iff_of_false (fun hleaves => write_ne hfree hleaves) (by simp)
      | completes =>
          have hrows : (s.write (command.disk, location.key) stream.chunks.flatten).rows
              = s.rows := rfl
          rw [hrows]
          by_cases htaken : s.rows.any (same_location file) = true
          · -- the object is left alone, though nobody else wrote it
            rw [if_pos htaken]
            refine iff_of_false (fun hleaves => write_ne hfree hleaves) ?_
            rintro ⟨-, -, hplace⟩
            rw [hlocation.mpr (hplace rfl).1] at htaken
            simp at htaken
          · rw [if_neg htaken]
            rw [Bool.not_eq_true] at htaken
            dsimp only
            rw [returned_leaves_iff hmake hfile_disk hfile_location hfree rfl]
            constructor
            · exact fun hplain => ⟨⟨file, rfl⟩, by simp, fun _ => ⟨hlocation.mp htaken, hplain⟩⟩
            · exact fun hrecordable => (hrecordable.2.2 rfl).2

end Handler

/-- **What a failed upload leaves behind.** Run on its own, an upload leaves the disk as
it was or with its object under the record it returns, exactly when it raises before
anything is written or what it writes can be recorded. -/
theorem leaves_nothing_iff (storage : Storage) (s : FileStore) (command : UploadFileCommand)
    (stream : UploadStream) (file_id : Uuid) (flush : FlushFate) :
    LeavesNothing s stream (handle storage s command stream file_id flush)
      ↔ Recordable storage s command stream file_id flush := by
  rcases handle_cases file_id flush with ⟨hunwritten, error, hhandle⟩ |
    ⟨location, object, hwritten, hhandle⟩
  · rw [hhandle]
    refine iff_of_true rfl ?_
    intro location object hwritten
    exact absurd hwritten (hunwritten location object)
  · rw [hhandle, record_written_leaves_iff hwritten]
    constructor
    · intro hrecorded other object' hother
      -- one location, one measure: those of the call
      have hlocation : location = other := by
        have hmake := hwritten.2.1
        rw [hother.2.1, Except.ok.injEq] at hmake
        exact hmake.symm
      subst hlocation
      have hput := hwritten.2.2.2
      rw [hother.2.2.2, Except.ok.injEq, Prod.mk.injEq] at hput
      rw [hput.2]
      exact hrecorded
    · intro hrecordable
      exact hrecordable location object hwritten

/-- What is left behind keeps the key: the same upload, made again, is refused. -/
theorem key_stays_taken {storage : Storage} {s : FileStore} {command : UploadFileCommand}
    {location : StorageLocation} {content : Bytes}
    (hdisk : storage.supports command.disk = true)
    (hmake : StorageLocation.make (.str command.path) (.str command.name) = .ok location)
    (hthere : s.objects (command.disk, location.key) = some content) (stream : UploadStream)
    (file_id : Uuid) (flush : FlushFate) :
    handle storage s command stream file_id flush
      = (.raised (.file (.FileAlreadyStoredError
          s!"'{location.key}' already exists on disk '{command.disk}'.")), s) := by
  have htaken : s.exists_key (command.disk, location.key) = true := by
    rw [FileStore.exists_key, hthere, Option.isSome_some, Bool.or_true]
  unfold handle
  rw [hdisk, Bool.not_true, if_neg Bool.false_ne_true, hmake]
  dsimp only
  rw [if_pos htaken]

/-! ### An empty file -/

/-- An upload to a fresh disk, of no bytes. -/
def empty_upload : UploadFileCommand where
  disk := "local"
  path := ""
  name := "a.pdf"
  content_type := none
  metadata := []
  references := []

/-- A disk that holds nothing. -/
def empty_store : FileStore := ⟨fun _ => none, fun _ => false, []⟩

/-- The call on that disk. -/
def empty_handled : UploadEnding × FileStore :=
  handle ⟨⟨"", "", ""⟩, 1024⟩ empty_store empty_upload ⟨[], none⟩ (.of_byte 1) .completes

/-- It is refused for being empty, and stays where it was written. -/
theorem empty_upload_stays : ¬ LeavesNothing empty_store ⟨[], none⟩ empty_handled := by
  intro hleaves
  have hobject : empty_handled.2.objects ("local", "a.pdf") = some [] := by decide +kernel
  have hraised : (match empty_handled.1 with
      | .raised (.file error) => some error
      | _ => none) = some (.InvalidStoredFileError "The file is empty.") := by decide +kernel
  generalize empty_handled = handled at hleaves hobject hraised
  obtain ⟨ending, s'⟩ := handled
  cases ending with
  | returned file => simp at hraised
  | raised error =>
      rw [LeavesNothing] at hleaves
      · rw [hleaves] at hobject
        cases hobject
      · simp
  | cancelled => simp at hraised

end TradeLogistics.Files
