/-
Uploads one after another, and what is found of them afterwards.

Each upload runs through the handler on what the ones before it left: it may be refused,
break off, fail at the insert or at the commit, and then its object may stay or go. What
is recorded is a row of `files.files` and, for each reference kept, a row of
`files.file_references` under the next value of its identity, which has gaps where a
transaction was rolled back.

The archive below carries what those numbers are good for. The rows of a file are numbered
together, after those of every file recorded before it, so the join of the lookup comes out
in order as it stands and `unique()` reads the files in the order they were uploaded.

A file that is loaded has its location rebuilt from its columns, and so has the answer of an
upload, which is rendered before the commit. So what is answered is what is loaded later, and
an upload whose location is not rebuilt is not answered and leaves no row.
-/
import TradeLogistics.ReferenceLookup
import TradeLogistics.UploadHandler

set_option autoImplicit false

namespace TradeLogistics.Files

open TradeLogistics.PyText TradeLogistics.MessageBus TradeLogistics.Sha256
open TradeLogistics.FirstOccurrences TradeLogistics.SqlQuery

/-! ## 1. The rows of a file -/

/-- The rows the references of a file are inserted as, numbered from here on. -/
def reference_rows (file_id : Uuid) : ℤ → List FileReference → List ReferenceRow
  | _, [] => []
  | n, reference :: references =>
    ⟨n, file_id, reference⟩ :: reference_rows file_id (n + 1) references

theorem reference_rows_references (file_id : Uuid) (references : List FileReference) :
    ∀ n, (reference_rows file_id n references).map (·.reference) = references := by
  induction references with
  | nil => exact fun _ => rfl
  | cons reference references ih =>
      intro n
      rw [reference_rows, List.map_cons, ih]

theorem mem_reference_rows {file_id : Uuid} {references : List FileReference} {row : ReferenceRow} :
    ∀ {n : ℤ}, row ∈ reference_rows file_id n references →
      row.file_id = file_id ∧ n ≤ row.id ∧ row.id < n + references.length := by
  induction references with
  | nil => simp [reference_rows]
  | cons reference references ih =>
      intro n h
      rw [List.length_cons, Nat.cast_succ]
      rcases List.mem_cons.mp h with rfl | hrest
      · refine ⟨rfl, le_refl n, ?_⟩
        dsimp only
        omega
      · obtain ⟨hfile, hle, hlt⟩ := ih hrest
        refine ⟨hfile, ?_, ?_⟩ <;> omega

theorem reference_rows_ascending (file_id : Uuid) (references : List FileReference) :
    ∀ n, (reference_rows file_id n references).Pairwise fun row other => row.id < other.id := by
  induction references with
  | nil => exact fun _ => List.Pairwise.nil
  | cons reference references ih =>
      intro n
      refine List.Pairwise.cons (fun row hrow => ?_) (ih (n + 1))
      have hle := (mem_reference_rows hrow).2.1
      dsimp only
      omega

/-! ## 2. The archive -/

/-- The objects, the tables, and the next value of the identity of `file_references`. The
rows stand in the order they were inserted: every file's after those of the files before. -/
structure Archive where
  objects : String × String → Option Bytes
  tables : FilesTables
  next_id : ℤ
  ascending : tables.file_references.Pairwise fun row other => row.id < other.id
  numbered : ∀ row ∈ tables.file_references, row.id < next_id
  owned : ∀ row ∈ tables.file_references, row.file_id ∈ tables.files.map (·.id)
  upload_order : tables.files.Pairwise fun file later =>
    ∀ row ∈ tables.file_references, ∀ other ∈ tables.file_references,
      row.file_id = file.id → other.file_id = later.id → row.id < other.id

namespace Archive

/-- Nothing has been uploaded. -/
def empty : Archive where
  objects := fun _ => none
  tables := ⟨[], [], List.nodup_nil, List.nodup_nil, fun _ h => absurd h List.not_mem_nil⟩
  next_id := 1
  ascending := List.Pairwise.nil
  numbered := fun _ h => absurd h List.not_mem_nil
  owned := fun _ h => absurd h List.not_mem_nil
  upload_order := List.Pairwise.nil

variable (a : Archive)

/-- What the handler sees of it, beside what else the backends have at a key. -/
def store (directories : String × String → Bool) : FileStore :=
  ⟨a.objects, directories, a.tables.files⟩

section Add

variable (file : StoredFile) (skipped : ℕ)

/-- The rows of `file_references` once a file is recorded. -/
def file_references_with : List ReferenceRow :=
  a.tables.file_references ++ reference_rows file.id (a.next_id + skipped) file.references

theorem file_references_with_ascending :
    (a.file_references_with file skipped).Pairwise fun row other => row.id < other.id := by
  refine List.pairwise_append.mpr ⟨a.ascending, reference_rows_ascending _ _ _, ?_⟩
  intro row hrow other hother
  have hlt := a.numbered row hrow
  have hle := (mem_reference_rows hother).2.1
  omega

variable {a file}

/-- The rows of the files there were are the rows there were. -/
theorem rows_of_old (hnew : file.id ∉ a.tables.files.map (·.id)) {old : StoredFile}
    (hold : old ∈ a.tables.files) :
    (a.file_references_with file skipped).filter (fun row => row.file_id = old.id)
      = a.tables.file_references.filter fun row => row.file_id = old.id := by
  have hnone : (reference_rows file.id (a.next_id + skipped) file.references).filter
      (fun row => row.file_id = old.id) = [] := by
    rw [List.filter_eq_nil_iff]
    intro row hrow
    rw [decide_eq_true_eq, (mem_reference_rows hrow).1]
    intro hsame
    exact hnew (hsame ▸ List.mem_map_of_mem hold)
  rw [file_references_with, List.filter_append, hnone, List.append_nil]

/-- The rows of the new file are the new rows. -/
theorem rows_of_new (hnew : file.id ∉ a.tables.files.map (·.id)) :
    (a.file_references_with file skipped).filter (fun row => row.file_id = file.id)
      = reference_rows file.id (a.next_id + skipped) file.references := by
  have hnone : a.tables.file_references.filter (fun row => row.file_id = file.id) = [] := by
    rw [List.filter_eq_nil_iff]
    intro row hrow
    rw [decide_eq_true_eq]
    intro hsame
    exact hnew (hsame ▸ a.owned row hrow)
  rw [file_references_with, List.filter_append, hnone, List.nil_append, List.filter_eq_self]
  intro row hrow
  rw [decide_eq_true_eq]
  exact (mem_reference_rows hrow).1

variable (a file)

/-- The file is recorded with its references. -/
def add (objects : String × String → Option Bytes)
    (hnew : file.id ∉ a.tables.files.map (·.id)) : Archive where
  objects := objects
  tables :=
    { files := a.tables.files ++ [file]
      file_references := a.file_references_with file skipped
      file_keys := by
        rw [List.map_append, List.map_singleton, ← List.concat_eq_append]
        exact List.Nodup.concat hnew a.tables.file_keys
      reference_keys := by
        rw [List.nodup_iff_pairwise_ne, List.pairwise_map]
        exact (a.file_references_with_ascending file skipped).imp fun hlt => hlt.ne
      loaded := by
        intro stored hstored
        rcases List.mem_append.mp hstored with hold | hlast
        · rw [rows_of_old skipped hnew hold]
          exact a.tables.loaded stored hold
        · rw [List.mem_singleton.mp hlast, rows_of_new skipped hnew, reference_rows_references] }
  next_id := a.next_id + skipped + file.references.length
  ascending := a.file_references_with_ascending file skipped
  numbered := by
    intro row hrow
    rcases List.mem_append.mp hrow with hold | hlast
    · have hlt := a.numbered row hold
      omega
    · exact (mem_reference_rows hlast).2.2
  owned := by
    intro row hrow
    rw [List.map_append, List.mem_append]
    rcases List.mem_append.mp hrow with hold | hlast
    · exact .inl (a.owned row hold)
    · rw [(mem_reference_rows hlast).1]
      exact .inr (by simp)
  upload_order := by
    -- a row of a file there was is a row there was
    have hold : ∀ stored ∈ a.tables.files, ∀ row ∈ a.file_references_with file skipped,
        row.file_id = stored.id → row ∈ a.tables.file_references := by
      intro stored hstored row hrow hof
      have hrow' : row ∈ (a.file_references_with file skipped).filter
          fun row => row.file_id = stored.id :=
        List.mem_filter.mpr ⟨hrow, decide_eq_true hof⟩
      rw [rows_of_old skipped hnew hstored] at hrow'
      exact (List.mem_filter.mp hrow').1
    refine List.pairwise_append.mpr ⟨?_, List.pairwise_singleton _ _, ?_⟩
    · refine a.upload_order.imp_of_mem fun hfile hlater hrows row hrow other hother hof hof' => ?_
      exact hrows row (hold _ hfile row hrow hof) other (hold _ hlater other hother hof') hof hof'
    · intro stored hstored later hlater row hrow other hother hof hof'
      rw [List.mem_singleton.mp hlater] at hof'
      have hlt := a.numbered row (hold stored hstored row hrow hof)
      have hother' : other ∈ (a.file_references_with file skipped).filter
          fun row => row.file_id = file.id :=
        List.mem_filter.mpr ⟨hother, decide_eq_true hof'⟩
      rw [rows_of_new skipped hnew] at hother'
      have hle := (mem_reference_rows hother').2.1
      omega

end Add

/-! ## 3. The lookup in an archive -/

variable (context entity_type : String) (entity_id : Option String)

/-- The rows of a file that answer a question. -/
def answering (file : StoredFile) : List (StoredFile × ReferenceRow) :=
  meeting (conditions context entity_type entity_id)
    ((a.tables.file_references.filter fun row => on_file file row = some true).map
      fun row => (file, row))

variable {a context entity_type entity_id}

theorem mem_answering {file : StoredFile} {pair : StoredFile × ReferenceRow} :
    pair ∈ a.answering context entity_type entity_id file
      ↔ pair.1 = file ∧ pair.2 ∈ a.tables.file_references ∧ pair.2.file_id = file.id
        ∧ pair.2.reference.Answers context entity_type entity_id := by
  obtain ⟨file', row⟩ := pair
  rw [answering, mem_meeting, FilesTables.conditions_iff, List.mem_map]
  constructor
  · rintro ⟨⟨row', hrow', hpair⟩, hanswers⟩
    obtain ⟨rfl, rfl⟩ := Prod.mk.inj hpair
    obtain ⟨hmem, hof⟩ := List.mem_filter.mp hrow'
    rw [decide_eq_true_eq, on_file, eq_eq_true, Option.some.injEq] at hof
    exact ⟨rfl, hmem, hof.symm, hanswers⟩
  · rintro ⟨rfl, hmem, hof, hanswers⟩
    refine ⟨⟨row, List.mem_filter.mpr ⟨hmem, ?_⟩, rfl⟩, hanswers⟩
    rw [decide_eq_true_eq, on_file, eq_eq_true, Option.some.injEq]
    exact hof.symm

/-- The join is in the order of the references as it stands, file by file. -/
theorem selected_eq : a.tables.selected context entity_type entity_id
    = a.tables.files.flatMap (a.answering context entity_type entity_id) := by
  have hjoined : meeting (conditions context entity_type entity_id)
      (SqlQuery.join on_file a.tables.files a.tables.file_references)
        = a.tables.files.flatMap (a.answering context entity_type entity_id) := by
    rw [meeting, SqlQuery.join, List.filter_flatMap]
    rfl
  rw [FilesTables.selected, hjoined]
  apply orderBy_of_ordered
  rw [List.pairwise_flatMap]
  constructor
  · intro file _
    -- within a file the rows ascend
    rw [answering, meeting]
    apply List.Pairwise.filter
    rw [List.pairwise_map]
    exact (a.ascending.filter _).imp fun hlt => hlt.le
  · refine a.upload_order.imp fun hrows pair hpair other hother => ?_
    obtain ⟨-, hrow, hof, -⟩ := mem_answering.mp hpair
    obtain ⟨-, hrow', hof', -⟩ := mem_answering.mp hother
    exact (hrows pair.2 hrow other.2 hrow' hof hof').le

/-- A file is read once if a row of it answers, which is what it says itself. -/
theorem read_of_answering {file : StoredFile} (hfile : file ∈ a.tables.files) :
    ((a.answering context entity_type entity_id file).take 1).map Prod.fst
      = [file].filter fun file => file.is_referenced_by context entity_type entity_id := by
  cases hrows : a.answering context entity_type entity_id file with
  | nil =>
      have hno : file.is_referenced_by context entity_type entity_id = false := by
        rw [Bool.eq_false_iff]
        intro hyes
        obtain ⟨row, hrow⟩ := (FilesTables.is_referenced_by_rows hfile).mp hyes
        have hmem : (file, row) ∈ a.answering context entity_type entity_id file :=
          mem_answering.mpr ⟨rfl, (FilesTables.mem_selected.mp hrow).2⟩
        rw [hrows] at hmem
        exact List.not_mem_nil hmem
      rw [List.filter_singleton, hno]
      rfl
  | cons pair rest =>
      obtain ⟨hfst, hrow⟩ : pair.1 = file ∧ pair.2 ∈ a.tables.file_references
          ∧ pair.2.file_id = file.id
          ∧ pair.2.reference.Answers context entity_type entity_id := by
        rw [← mem_answering, hrows]
        exact List.mem_cons_self
      have hyes : file.is_referenced_by context entity_type entity_id = true :=
        (FilesTables.is_referenced_by_rows hfile).mpr
          ⟨pair.2, FilesTables.mem_selected.mpr ⟨hfile, hrow⟩⟩
      rw [List.filter_singleton, hyes]
      simp [hfst]

/-- **The lookup reads the files in upload order**: those that say themselves that they are
referenced so. -/
theorem selected_files_eq : a.tables.selected_files context entity_type entity_id
    = a.tables.files.filter fun file => file.is_referenced_by context entity_type entity_id := by
  have hgroup : ∀ file ∈ a.tables.files,
      ∀ pair ∈ a.answering context entity_type entity_id file, pair.1.id = file.id := by
    intro file _ pair hpair
    rw [(mem_answering.mp hpair).1]
  have hsplit : a.tables.files = a.tables.files.flatMap fun file => [file] := by simp
  rw [FilesTables.selected_files_eq, selected_eq,
    firstOccurrences_flatMap _ _ hgroup a.tables.file_keys, List.map_flatMap,
    List.flatMap_congr fun file hfile => read_of_answering hfile, ← List.filter_flatMap, ← hsplit]

end Archive

/-- `find_by_id`. -/
def Archive.find_by_id (a : Archive) (file_id : Uuid) : Except FileError (Option StoredFile) :=
  match a.tables.files.find? fun file => file.id = file_id with
  | none => .ok none
  | some file => (load file).map some

/-! ## 4. One upload -/

section Handler

variable {storage : Storage} {s s' : FileStore} {command : UploadFileCommand}
  {stream : UploadStream} {file_id : Uuid} {flush : FlushFate}

/-- What a call leaves that returns: the bytes at their address, and the record. -/
theorem handle_returned {file : InsertedFile}
    (h : handle storage s command stream file_id flush = (.returned file, s')) :
    ∃ location object, Written storage s command stream location object
      ∧ registration command location object file_id = .ok file.row
      ∧ s'.objects = Function.update s.objects (command.disk, location.key)
          (some stream.chunks.flatten)
      ∧ s'.rows = s.rows ++ [file.row] := by
  rcases handle_cases file_id flush with ⟨-, error, hraised⟩ | ⟨location, object, hwritten, hhandle⟩
  · rw [hraised] at h
    simp at h
  · rw [hhandle, record_written] at h
    refine ⟨location, object, hwritten, ?_⟩
    cases hfile : registration command location object file_id with
    | error error =>
        rw [hfile] at h
        simp at h
    | ok stored =>
        rw [hfile] at h
        dsimp only [FileStore.persist] at h
        cases flush with
        | raises text => simp at h
        | cancelled => simp at h
        | completes =>
            by_cases htaken : (s.write (command.disk, location.key)
                stream.chunks.flatten).rows.any (same_location stored) = true
            · simp [htaken] at h
            · simp only [htaken, Bool.false_eq_true, if_false, Prod.mk.injEq,
                UploadEnding.returned.injEq] at h
              obtain ⟨rfl, rfl⟩ := h
              exact ⟨rfl, rfl, rfl⟩

/-- However a call ends, an object that was there is there still. -/
theorem handle_keeps (h : (handle storage s command stream file_id flush).2 = s')
    {address : String × String} {content : Bytes} (hthere : s.objects address = some content) :
    s'.objects address = some content := by
  subst h
  rcases handle_cases file_id flush with ⟨-, error, hraised⟩ | ⟨location, object, hwritten, hhandle⟩
  · rw [hraised]
    exact hthere
  · have hfree := FileStore.no_object hwritten.2.2.1
    have hother : address ≠ (command.disk, location.key) := by
      rintro rfl
      rw [hfree] at hthere
      simp at hthere
    -- it is not where the call writes, nor then where it deletes
    have hwrite : (s.write (command.disk, location.key) stream.chunks.flatten).objects address
        = some content := by
      rw [FileStore.write]
      exact (Function.update_of_ne hother _ _).trans hthere
    rw [hhandle, record_written]
    cases registration command location object file_id with
    | error error => exact hwrite
    | ok stored =>
        dsimp only [FileStore.persist]
        cases flush with
        | raises text =>
            dsimp only [FileStore.delete]
            exact (Function.update_of_ne hother _ _).trans hwrite
        | cancelled => exact hwrite
        | completes =>
            by_cases htaken : (s.write (command.disk, location.key)
                stream.chunks.flatten).rows.any (same_location stored) = true
            · rw [if_pos htaken]
              exact hwrite
            · rw [if_neg htaken]
              exact hwrite

/-- The identifier of a file is the one it was registered under. -/
theorem registration_id {location : StorageLocation} {object : StoredObject} {file : StoredFile}
    (h : registration command location object file_id = .ok file) : file.id = file_id := by
  unfold registration at h
  split at h
  · simp at h
  · obtain ⟨_, _, _, _, -, -, -, -, rfl⟩ := StoredFile.register_cases h
    rw [StoredFile.relate_to_same]

end Handler

/-- A request: what the client sends, what the backends have at a key beside objects, the
identifier `FileId.generate` answers, how the flush and the commit end, and how many values
of the identity were lost before it. -/
structure UploadRequest where
  command : UploadFileCommand
  stream : UploadStream
  directories : String × String → Bool
  file_id : Uuid
  flush : FlushFate
  commits : Bool
  skipped : ℕ

/-- One upload, from the handler to the commit: the file that is answered, if the request
gets that far, and what is there then. -/
def Archive.serve (storage : Storage) (a : Archive) (r : UploadRequest) :
    Option StoredFile × Archive :=
  if hknown : r.file_id ∈ a.tables.files.map (·.id) then
    -- The primary key refuses the insert, and that is no conflict of locations.
    (none, { a with
      objects := (handle storage (a.store r.directories) r.command r.stream r.file_id
        (.raises "duplicate key value violates unique constraint")).2.objects })
  else match h : handle storage (a.store r.directories) r.command r.stream r.file_id r.flush with
    | (.returned file, s) =>
      match load file.row with
      -- The response cannot be rendered, and what it raises rolls the insert back.
      | .error _ => (none, { a with objects := s.objects })
      | .ok rendered =>
        if r.commits then
          (some rendered, a.add file.row r.skipped s.objects (by
            obtain ⟨_, _, _, hfile, _⟩ := handle_returned h
            rw [registration_id hfile]
            exact hknown))
        else (none, { a with objects := s.objects })
    | (.raised _, s) => (none, { a with objects := s.objects })
    | (.cancelled, s) => (none, { a with objects := s.objects })

/-- Requests one after another: those that were answered, with the file, and the end. -/
def serve_all (storage : Storage) : Archive → List UploadRequest →
    List (UploadRequest × StoredFile) × Archive
  | a, [] => ([], a)
  | a, r :: requests =>
    let (answer, a') := a.serve storage r
    let (answered, final) := serve_all storage a' requests
    ((answer.map fun file => (r, file)).toList ++ answered, final)

/-- What an answered upload is remembered for: a row made of its command, of its own bytes
and under the location they were written to, these bytes at the disk and key of that
location, and that the row is loaded as it was answered. -/
structure Remembered (a : Archive) (row : StoredFile) (upload : UploadRequest × StoredFile) :
    Prop where
  registered : ∃ object,
    registration upload.1.command row.location object upload.1.file_id = .ok row
  disk : row.disk = upload.1.command.disk
  located : StorageLocation.make (.str upload.1.command.path) (.str upload.1.command.name)
    = .ok row.location
  content : a.objects (row.disk, row.key) = some upload.1.stream.chunks.flatten
  described : Describes row upload.1.stream.chunks.flatten
  answered : load row = .ok upload.2

/-- The answer of `put` is about the bytes of the stream. -/
theorem put_stream_measured {storage : Storage} {stream : UploadStream} {content : Bytes}
    {object : StoredObject} (h : storage.put_stream stream = .ok (content, object)) :
    object = measured content.length content := by
  unfold Storage.put_stream at h
  split at h
  · simp at h
  · next written hput =>
      split at h
      · simp at h
      · rw [Except.ok.injEq] at h
        rw [h] at hput
        exact (put_ok hput).2

theorem remembered_of_written {storage : Storage} {s : FileStore} {a : Archive}
    {r : UploadRequest} {location : StorageLocation} {object : StoredObject}
    {row answer : StoredFile} (hwritten : Written storage s r.command r.stream location object)
    (hrow : registration r.command location object r.file_id = .ok row)
    (hobjects : a.objects = Function.update s.objects (r.command.disk, location.key)
      (some r.stream.chunks.flatten)) (hanswer : load row = .ok answer) :
    Remembered a row (r, answer) := by
  obtain ⟨hsupports, hmake, -, hput⟩ := hwritten
  obtain ⟨hdisk, hlocation⟩ := registration_address hsupports hrow
  have hown : OfOwnBytes storage (.written r.command location r.stream.chunks object) :=
    ⟨hsupports, put_stream_measured hput⟩
  obtain ⟨haddress, hdescribed⟩ := registration_ok hrow hown
  subst hlocation
  refine ⟨⟨object, hrow⟩, hdisk, hmake, ?_, hdescribed, hanswer⟩
  rw [haddress, hobjects]
  exact Function.update_self _ _ _

/-- What one upload does. It never takes an object away that was there, and if it is
answered there is one row more, which it is remembered by. -/
theorem serve_spec {storage : Storage} {a a' : Archive} {r : UploadRequest}
    {answer : Option StoredFile} (h : a.serve storage r = (answer, a')) :
    (∀ address content, a.objects address = some content → a'.objects address = some content)
      ∧ ((answer = none ∧ a'.tables.files = a.tables.files)
        ∨ ∃ row rendered, answer = some rendered ∧ a'.tables.files = a.tables.files ++ [row]
          ∧ Remembered a' row (r, rendered)) := by
  unfold Archive.serve at h
  split at h
  · -- refused for the primary key
    rw [Prod.mk.injEq] at h
    obtain ⟨rfl, rfl⟩ := h
    exact ⟨fun _ _ hthere => handle_keeps rfl hthere, .inl ⟨rfl, rfl⟩⟩
  · next hknown =>
      split at h
      · next file s hhandle =>
          have hkeeps : ∀ address content, a.objects address = some content →
              s.objects address = some content := fun _ _ hthere =>
            handle_keeps (s := a.store r.directories) (congrArg Prod.snd hhandle) hthere
          split at h
          · rw [Prod.mk.injEq] at h
            obtain ⟨rfl, rfl⟩ := h
            exact ⟨hkeeps, .inl ⟨rfl, rfl⟩⟩
          · next rendered hrendered =>
              split at h
              · rw [Prod.mk.injEq] at h
                obtain ⟨rfl, rfl⟩ := h
                obtain ⟨location, object, hwritten, hfile, hobjects, -⟩ := handle_returned hhandle
                exact ⟨hkeeps, .inr ⟨file.row, rendered, rfl, rfl,
                  remembered_of_written hwritten hfile hobjects hrendered⟩⟩
              · rw [Prod.mk.injEq] at h
                obtain ⟨rfl, rfl⟩ := h
                exact ⟨hkeeps, .inl ⟨rfl, rfl⟩⟩
      · next error s hhandle =>
          rw [Prod.mk.injEq] at h
          obtain ⟨rfl, rfl⟩ := h
          exact ⟨fun _ _ hthere =>
            handle_keeps (s := a.store r.directories) (congrArg Prod.snd hhandle) hthere,
            .inl ⟨rfl, rfl⟩⟩
      · next s hhandle =>
          rw [Prod.mk.injEq] at h
          obtain ⟨rfl, rfl⟩ := h
          exact ⟨fun _ _ hthere =>
            handle_keeps (s := a.store r.directories) (congrArg Prod.snd hhandle) hthere,
            .inl ⟨rfl, rfl⟩⟩

/-- What is remembered of an upload outlives every later one. -/
theorem Remembered.later {a a' : Archive} {row : StoredFile} {upload : UploadRequest × StoredFile}
    (h : Remembered a row upload)
    (hkeeps : ∀ address content, a.objects address = some content →
      a'.objects address = some content) : Remembered a' row upload :=
  { h with content := hkeeps _ _ h.content }

/-! ## 5. A history of uploads -/

/-- The archive has one row for each upload that was answered, in that order, and remembers
it by that row. -/
def Holding (a : Archive) (answered : List (UploadRequest × StoredFile)) : Prop :=
  List.Forall₂ (Remembered a) a.tables.files answered

/-- The induction is on the requests, over what was answered before them. -/
theorem serve_all_holding {storage : Storage} {requests : List UploadRequest} :
    ∀ {a : Archive} {before : List (UploadRequest × StoredFile)}, Holding a before →
      Holding (serve_all storage a requests).2
        (before ++ (serve_all storage a requests).1) := by
  induction requests with
  | nil =>
      intro a before h
      rw [serve_all, List.append_nil]
      exact h
  | cons r requests ih =>
      intro a before h
      cases hserve : a.serve storage r with
      | mk answer a' =>
          obtain ⟨hkeeps, hfiles⟩ := serve_spec hserve
          have hold : List.Forall₂ (Remembered a') a.tables.files before :=
            List.Forall₂.imp (fun _ _ hrow => hrow.later hkeeps) h
          have hnext : Holding a' (before ++ (answer.map fun file => (r, file)).toList) := by
            rcases hfiles with ⟨rfl, hfiles⟩ | ⟨row, rendered, rfl, hfiles, hrow⟩
            · rw [Holding, hfiles, Option.map_none, Option.toList_none, List.append_nil]
              exact hold
            · rw [Holding, hfiles]
              exact List.rel_append hold (.cons hrow .nil)
          have hrest := ih hnext
          rw [List.append_assoc] at hrest
          rw [serve_all, hserve]
          exact hrest

/-- What was answered for is what the archive holds. -/
theorem history_holding (storage : Storage) (requests : List UploadRequest) :
    Holding (serve_all storage .empty requests).2 (serve_all storage .empty requests).1 := by
  have hempty : Holding Archive.empty [] := List.Forall₂.nil
  exact serve_all_holding hempty

/-- The command declares a reference that answers the question. -/
def UploadFileCommand.refers (command : UploadFileCommand) (context entity_type : String)
    (entity_id : Option String) : Bool :=
  match declared command with
  | .error _ => false
  | .ok references => references.any fun reference =>
      reference.context = context && reference.entity_type = entity_type
        && (entity_id = none || reference.entity_id = entity_id)

/-- A row says of itself what its command declared. -/
theorem refers_eq {a : Archive} {row : StoredFile} {upload : UploadRequest × StoredFile}
    (h : Remembered a row upload) (context entity_type : String) (entity_id : Option String) :
    row.is_referenced_by context entity_type entity_id
      = upload.1.command.refers context entity_type entity_id := by
  obtain ⟨object, hregistered⟩ := h.registered
  unfold registration at hregistered
  cases hdeclared : declared upload.1.command with
  | error error =>
      rw [hdeclared] at hregistered
      simp at hregistered
  | ok references =>
      rw [hdeclared] at hregistered
      have hkept := StoredFile.register_references hregistered
      have hany : upload.1.command.refers context entity_type entity_id = true
          ↔ ∃ reference ∈ references, reference.Answers context entity_type entity_id := by
        rw [UploadFileCommand.refers, hdeclared]
        dsimp only
        rw [List.any_eq_true]
        refine exists_congr fun reference => and_congr_right fun _ => ?_
        cases entity_id with
        | none => simp [FileReference.Answers]
        | some identifier => simp [FileReference.Answers, and_assoc]
      rw [Bool.eq_iff_iff, StoredFile.is_referenced_by_iff, hany, hkept]
      constructor
      · rintro ⟨reference, hmem, hanswers⟩
        exact ⟨reference, (firstOccurrences_sublist _ _).subset hmem, hanswers⟩
      · rintro ⟨reference, hmem, hanswers⟩
        -- the first of its owner is kept, and answers as it does
        have howner : reference.owner
            ∈ (firstOccurrences FileReference.owner references).map FileReference.owner :=
          (mem_map_firstOccurrences _).mpr (List.mem_map_of_mem hmem)
        obtain ⟨kept, hin, hsame⟩ := List.mem_map.mp howner
        exact ⟨kept, hin, hanswers.of_owner hsame⟩

/-- An upload that was answered is there: its bytes at the disk and the key its command
names, which is the key of the answer exactly if the path has plain ends, a record that
measures them, and the answer again under its identifier. -/
structure StillThere (a : Archive) (r : UploadRequest) (answer : StoredFile) : Prop where
  content : ∃ location,
    StorageLocation.make (.str r.command.path) (.str r.command.name) = .ok location
      ∧ a.objects (r.command.disk, location.key) = some r.stream.chunks.flatten
      ∧ (answer.key = location.key ↔ StorageLocation.PlainEnds (.str r.command.path))
  disk : answer.disk = r.command.disk
  described : Describes answer r.stream.chunks.flatten
  found : a.find_by_id r.file_id = .ok (some answer)

/-- The row of an identifier is the one that is found by it. -/
theorem Archive.find_by_id_of_mem {a : Archive} {row : StoredFile} (h : row ∈ a.tables.files) :
    a.find_by_id row.id = (load row).map some := by
  have hfind : a.tables.files.find? (fun file => file.id = row.id) = some row := by
    cases hsome : a.tables.files.find? (fun file => file.id = row.id) with
    | none =>
        rw [List.find?_eq_none] at hsome
        exact absurd (decide_eq_true rfl) (hsome row h)
    | some other =>
        have hsame := List.find?_some hsome
        rw [decide_eq_true_eq] at hsame
        rw [List.inj_on_of_nodup_map a.tables.file_keys (List.mem_of_find?_eq_some hsome) h hsame]
  rw [Archive.find_by_id, hfind]

/-- What is remembered of an upload says that it is there. -/
theorem Remembered.still_there {a : Archive} {row : StoredFile}
    {upload : UploadRequest × StoredFile} (h : Remembered a row upload)
    (hrow : row ∈ a.tables.files) : StillThere a upload.1 upload.2 := by
  obtain ⟨object, hregistered⟩ := h.registered
  obtain ⟨rebuilt, hrebuilt, hanswer⟩ := load_ok.mp h.answered
  refine ⟨⟨row.location, h.located, ?_, ?_⟩, ?_, ?_, ?_⟩
  · rw [← h.disk]
    exact h.content
  · rw [← StorageLocation.rebuilt_iff_plainEnds h.located, hrebuilt, hanswer, Except.ok.injEq]
    exact StorageLocation.key_injective.eq_iff
  · rw [hanswer]
    exact h.disk
  · rw [hanswer]
    exact h.described
  · rw [← registration_id hregistered, Archive.find_by_id_of_mem hrow, h.answered]
    rfl

/-- An invoice of one byte. -/
def invoice_request : UploadRequest where
  command := { empty_upload with path := "customs/cases", name := "invoice.pdf" }
  stream := ⟨[[0]], none⟩
  directories := fun _ => false
  file_id := .of_byte 3
  flush := .completes
  commits := true
  skipped := 0

/-- What is left when it is uploaded first. -/
def invoice_uploaded : List (UploadRequest × StoredFile) × Archive :=
  serve_all ⟨⟨"", "", ""⟩, 1024⟩ .empty [invoice_request]

end TradeLogistics.Files
