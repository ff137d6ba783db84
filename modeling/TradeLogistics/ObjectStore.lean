/-
The objects of a disk: which location names which, and what `put` writes there.

Path and name are kept apart in the database and joined in the storage. A name has no
separator, so the last one of a key is where they were joined, and the key says both: the
unique constraint on the pair refuses exactly the files that would share an object.

`put` advances three things over the chunks it is sent, the size, the digest and the
spool, and may stop between any two of them. What it measures is what it writes, and both
depend on the bytes alone. The ceiling is looked at once a chunk, so an upload of no
chunks is never too large, whatever the ceiling.
-/
import TradeLogistics.StorageKeys
import TradeLogistics.Uploads

set_option autoImplicit false

namespace TradeLogistics.Files

open TradeLogistics.PyText TradeLogistics.MessageBus TradeLogistics.Sha256

/-! ## 1. One key, one location -/

/-- Where two texts are joined by a separator the second does not contain, the join says
both: what stands behind the last separator is the second. -/
theorem join_inj {sep : Char} {xs xs' ys ys' : List Char} (hys : sep ∉ ys) (hys' : sep ∉ ys')
    (h : xs ++ sep :: ys = xs' ++ sep :: ys') : xs = xs' ∧ ys = ys' := by
  have hlast : ∀ {us vs : List Char}, sep ∉ vs →
      (us ++ sep :: vs).reverse.takeWhile (· ≠ sep) = vs.reverse := by
    intro us vs hvs
    have hall : ∀ c ∈ vs.reverse, decide (c ≠ sep) = true := by
      intro c hc
      rw [decide_eq_true_eq]
      exact fun hsep => hvs (hsep ▸ List.mem_reverse.mp hc)
    rw [List.reverse_append, List.reverse_cons, List.append_assoc,
      List.takeWhile_append_of_pos hall]
    simp
  have hsecond : ys = ys' := by
    rw [← List.reverse_inj, ← hlast hys, ← hlast hys', h]
  rw [hsecond] at h
  exact ⟨List.append_cancel_right h, hsecond⟩

namespace StorageLocation

theorem key_toList {location : StorageLocation} (h : location.path ≠ "") :
    location.key.toList = location.path.toList ++ '/' :: location.name.toList := by
  rw [key, if_neg h, String.toList_append, String.toList_append, List.append_assoc]
  rfl

/-- **The key of a location is that of no other.** -/
theorem key_eq_iff {location other : StorageLocation} :
    location.key = other.key ↔ location.path = other.path ∧ location.name = other.name := by
  constructor
  · intro h
    by_cases hpath : location.path = ""
    · by_cases hother : other.path = ""
      · rw [key, key, if_pos hpath, if_pos hother] at h
        exact ⟨hpath.trans hother.symm, h⟩
      · -- the key of one has a separator, the name of the other none
        have hsep : '/' ∈ location.key.toList := by
          rw [h, key_toList hother]
          exact List.mem_append_right _ List.mem_cons_self
        rw [key, if_pos hpath] at hsep
        exact absurd hsep location.no_separator
    · by_cases hother : other.path = ""
      · have hsep : '/' ∈ other.key.toList := by
          rw [← h, key_toList hpath]
          exact List.mem_append_right _ List.mem_cons_self
        rw [key, if_pos hother] at hsep
        exact absurd hsep other.no_separator
      · have hlist : location.key.toList = other.key.toList := by rw [h]
        rw [key_toList hpath, key_toList hother] at hlist
        obtain ⟨hpaths, hnames⟩ := join_inj location.no_separator other.no_separator hlist
        exact ⟨String.toList_inj.mp hpaths, String.toList_inj.mp hnames⟩
  · rintro ⟨hpath, hname⟩
    rw [key, key, hpath, hname]

theorem key_injective : Function.Injective key := by
  intro location other h
  obtain ⟨hpath, hname⟩ := key_eq_iff.mp h
  cases location
  cases other
  simp only [StorageLocation.mk.injEq]
  exact ⟨hpath, hname⟩

end StorageLocation

/-- The root is the same for every key of a disk. -/
theorem absolute_inj (config : DiskConfig) {key other : String} :
    _absolute config key = _absolute config other ↔ key = other := by
  rw [_absolute, _absolute]
  by_cases hbase : config.base = ""
  · rw [if_pos hbase, if_pos hbase]
  · rw [if_neg hbase, if_neg hbase, ← String.toList_inj, ← String.toList_inj]
    simp only [String.toList_append, List.append_cancel_left_eq]

/-- **One key, one location.** Keys are equal exactly when path and name are; so the unique
constraint refuses the pairs of files that share an object, and no other, and two
locations never lead to one backend path, whatever the root of the disk. -/
theorem one_key_one_location :
    (∀ location other : StorageLocation,
        location.key = other.key ↔ location.path = other.path ∧ location.name = other.name)
      ∧ (∀ file other : StoredFile, same_location file other = true
          ↔ (file.disk, file.key) = (other.disk, other.key))
      ∧ ∀ (config : DiskConfig) (location other : StorageLocation), location ≠ other →
          _absolute config location.key ≠ _absolute config other.key := by
  refine ⟨fun location other => StorageLocation.key_eq_iff, fun file other => ?_, ?_⟩
  · rw [Prod.mk.injEq, StoredFile.key, StoredFile.key, StorageLocation.key_eq_iff]
    simp [same_location, and_assoc]
  · intro config location other hne hsame
    exact hne (StorageLocation.key_injective ((absolute_inj config).mp hsame))

/-! ## 2. The three accumulators of `put` -/

/-- A `hashlib` object: successive updates digest the concatenation of what they are fed. -/
structure Hash where
  fed : Bytes

def Hash.new : Hash := ⟨[]⟩

def Hash.update (self : Hash) (chunk : Bytes) : Hash := ⟨self.fed ++ chunk⟩

def Hash.hexdigest (self : Hash) : String := Sha256.hexdigest (sha256 self.fed)

/-- The temporary file: its bytes and the position in it. -/
structure Spool where
  content : Bytes
  position : ℕ

def Spool.empty : Spool := ⟨[], 0⟩

/-- `write`, at the position and over what is there. -/
def Spool.write (self : Spool) (chunk : Bytes) : Spool where
  content := self.content.take self.position ++ chunk
    ++ self.content.drop (self.position + chunk.length)
  position := self.position + chunk.length

def Spool.seek (self : Spool) (position : ℕ) : Spool := { self with position }

/-- What `shutil.copyfileobj` copies out of it: all from the position on. -/
def Spool.rest (self : Spool) : Bytes := self.content.drop self.position

/-- At its end, a file is written to as a list is appended to. -/
theorem Spool.write_end (content chunk : Bytes) :
    Spool.write ⟨content, content.length⟩ chunk
      = ⟨content ++ chunk, (content ++ chunk).length⟩ := by
  simp [Spool.write]

/-- The objects of all disks, by the name of the disk and the backend path. -/
abbrev Objects := String × String → Option Bytes

structure FsspecFileStorage where
  disks : List (String × DiskConfig)
  max_upload_bytes : ℤ

/-- `CHECKSUM_ALGORITHM`. -/
def CHECKSUM_ALGORITHM : String := "sha256"

namespace FsspecFileStorage

/-- `_config`. -/
def _config (self : FsspecFileStorage) (disk : String) : Except FileError DiskConfig :=
  match self.disks.lookup disk with
  | some config => .ok config
  | none => .error (.UnknownStorageDiskError s!"'{disk}' is not a configured disk.")

/-- `_write` to a backend that takes the bytes. -/
def _write (config : DiskConfig) (key : String) (source : Spool) (objects : Objects) : Objects :=
  Function.update objects (config.name, _absolute config key) (some source.rest)

/-- `async for chunk in chunks`. -/
def receive (self : FsspecFileStorage) (size : ℕ) (digest : Hash) (spool : Spool) :
    List Bytes → Except FileError (ℕ × Hash × Spool)
  | [] => .ok (size, digest, spool)
  | chunk :: chunks =>
    let size := size + chunk.length
    if (size : ℤ) > self.max_upload_bytes then
      .error (.FileTooLargeError
        s!"The upload exceeds the maximum of {self.max_upload_bytes} bytes.")
    else self.receive size (digest.update chunk) (spool.write chunk) chunks

/-- `put`: the objects afterwards, and the answer. -/
def put (self : FsspecFileStorage) (disk key : String) (chunks : List Bytes) (objects : Objects) :
    Objects × Except FileError StoredObject :=
  match self._config disk with
  | .error e => (objects, .error e)
  | .ok config =>
    match self.receive 0 Hash.new Spool.empty chunks with
    | .error e => (objects, .error e)
    | .ok (size, digest, spool) =>
      (_write config key (spool.seek 0) objects,
        .ok { size_bytes := size, checksum := CHECKSUM_ALGORITHM ++ ":" ++ digest.hexdigest })

/-- An upload the loop refuses: a chunk comes, and the bytes are too many. -/
def TooLarge (self : FsspecFileStorage) (chunks : List Bytes) : Prop :=
  chunks ≠ [] ∧ self.max_upload_bytes < (chunks.flatten.length : ℤ)

instance (self : FsspecFileStorage) (chunks : List Bytes) : Decidable (self.TooLarge chunks) :=
  inferInstanceAs (Decidable (_ ∧ _))

/-- The loop spools and counts as the upload does that the handlers are run over, and has
fed the digest what it has spooled. -/
theorem receive_spool (self : FsspecFileStorage) (storage : Storage)
    (hmax : self.max_upload_bytes = storage.max_upload_bytes) (chunks : List Bytes) :
    ∀ (size : ℕ) (fed content : Bytes),
      self.receive size ⟨fed⟩ ⟨content, content.length⟩ chunks
        = (storage.spool size content chunks).map fun spooled =>
          (spooled.1, ⟨fed ++ chunks.flatten⟩, ⟨spooled.2, spooled.2.length⟩) := by
  induction chunks with
  | nil =>
      intro size fed content
      simp [receive, Storage.spool, Except.map]
  | cons chunk chunks ih =>
      intro size fed content
      rw [receive, Storage.spool, Hash.update, Spool.write_end, ih, hmax]
      split
      · rfl
      · rw [List.flatten_cons, List.append_assoc]

/-- **`put` refines the upload of bytes.** What it writes is what that leaves at the key. -/
theorem put_refines (self : FsspecFileStorage) (storage : Storage)
    (hmax : self.max_upload_bytes = storage.max_upload_bytes) {disk : String}
    {config : DiskConfig} (hdisk : self.disks.lookup disk = some config) (key : String)
    (chunks : List Bytes) (objects : Objects) :
    self.put disk key chunks objects
      = match storage.put chunks with
        | .error e => (objects, .error e)
        | .ok (content, object) =>
          (Function.update objects (config.name, _absolute config key) (some content),
            .ok object) := by
  have hconfig : self._config disk = .ok config := by rw [_config, hdisk]
  have hreceive : self.receive 0 Hash.new Spool.empty chunks = _ :=
    self.receive_spool storage hmax chunks 0 [] []
  cases hspool : storage.spool 0 [] chunks with
  | error e =>
      rw [hspool] at hreceive
      simp only [put, hconfig, hreceive, Storage.put, hspool, Except.map]
  | ok spooled =>
      obtain ⟨size, content⟩ := spooled
      obtain ⟨-, hcontent⟩ := spool_ok storage hspool
      rw [hspool, ← hcontent] at hreceive
      simp only [put, hconfig, hreceive, Storage.put, hspool, Except.map]
      rfl

end FsspecFileStorage

/-- Where the loop stops, in terms of the bytes: the size never shrinks, so a stop at some
chunk and a total that is too large are the same. -/
theorem Storage.spool_eq (storage : Storage) (chunks : List Bytes) :
    ∀ (size : ℕ) (spooled : Bytes),
      storage.spool size spooled chunks
        = if chunks ≠ [] ∧ storage.max_upload_bytes < (size : ℤ) + chunks.flatten.length then
            .error (.FileTooLargeError
              s!"The upload exceeds the maximum of {storage.max_upload_bytes} bytes.")
          else .ok (size + chunks.flatten.length, spooled ++ chunks.flatten) := by
  induction chunks with
  | nil =>
      intro size spooled
      simp [Storage.spool]
  | cons chunk chunks ih =>
      intro size spooled
      have htotal : ((chunk :: chunks).flatten.length : ℤ)
          = chunk.length + chunks.flatten.length := by
        rw [List.flatten_cons, List.length_append]
        push_cast
        rfl
      rw [Storage.spool, ih, htotal]
      by_cases hover : ((size + chunk.length : ℕ) : ℤ) > storage.max_upload_bytes
      · rw [if_pos hover, if_pos]
        refine ⟨List.cons_ne_nil _ _, ?_⟩
        omega
      · rw [if_neg hover]
        refine if_congr ?_ rfl ?_
        · -- without more chunks the total is the size that was just let pass
          constructor
          · rintro ⟨-, hlarge⟩
            refine ⟨List.cons_ne_nil _ _, ?_⟩
            omega
          · rintro ⟨-, hlarge⟩
            refine ⟨?_, ?_⟩
            · rintro rfl
              simp only [List.flatten_nil, List.length_nil] at hlarge
              omega
            · omega
        · rw [List.flatten_cons, List.append_assoc, List.length_append, Nat.add_assoc]

namespace FsspecFileStorage

/-- What `put` does, in terms of the bytes. -/
theorem put_eq (self : FsspecFileStorage) {disk : String} {config : DiskConfig}
    (hdisk : self.disks.lookup disk = some config) (key : String) (chunks : List Bytes)
    (objects : Objects) :
    self.put disk key chunks objects
      = if self.TooLarge chunks then
          (objects, .error (.FileTooLargeError
            s!"The upload exceeds the maximum of {self.max_upload_bytes} bytes."))
        else (Function.update objects (config.name, _absolute config key) (some chunks.flatten),
          .ok (measured chunks.flatten.length chunks.flatten)) := by
  have hspool := Storage.spool_eq ⟨⟨"", "", ""⟩, self.max_upload_bytes⟩ chunks 0 []
  rw [Nat.cast_zero, Int.zero_add, Nat.zero_add, List.nil_append] at hspool
  rw [self.put_refines ⟨⟨"", "", ""⟩, self.max_upload_bytes⟩ rfl hdisk, Storage.put, hspool]
  by_cases hlarge : self.TooLarge chunks
  · rw [if_pos hlarge, if_pos ⟨hlarge.1, hlarge.2⟩]
  · rw [if_neg hlarge, if_neg fun h => hlarge ⟨h.1, h.2⟩]

/-- **`put` measures what it writes, however the upload is chunked.** It refuses an upload
of which a chunk comes and whose bytes exceed the ceiling, and then writes nothing; of any
other it writes the concatenation and answers with its length and digest. With a ceiling
that is not negative the chunks play no part at all, and never more than whether there is
one. -/
theorem put_measures_what_it_writes (self : FsspecFileStorage) {disk : String}
    {config : DiskConfig} (hdisk : self.disks.lookup disk = some config) (key : String)
    (chunks : List Bytes) (objects : Objects) :
    ((∃ detail, (self.put disk key chunks objects).2 = .error (.FileTooLargeError detail))
        ↔ chunks ≠ [] ∧ self.max_upload_bytes < (chunks.flatten.length : ℤ))
      ∧ (0 ≤ self.max_upload_bytes →
        ((∃ detail, (self.put disk key chunks objects).2 = .error (.FileTooLargeError detail))
          ↔ self.max_upload_bytes < (chunks.flatten.length : ℤ)))
      ∧ (∀ error, (self.put disk key chunks objects).2 = .error error →
        (self.put disk key chunks objects).1 = objects
          ∧ ∃ detail, error = .FileTooLargeError detail)
      ∧ (∀ object, (self.put disk key chunks objects).2 = .ok object →
        (self.put disk key chunks objects).1
            = Function.update objects (config.name, _absolute config key) (some chunks.flatten)
          ∧ object.size_bytes = chunks.flatten.length
          ∧ object.checksum = "sha256:" ++ hexdigest (sha256 chunks.flatten))
      ∧ ∀ others : List Bytes, others.flatten = chunks.flatten →
        0 ≤ self.max_upload_bytes ∨ (others = [] ↔ chunks = []) →
        self.put disk key others objects = self.put disk key chunks objects := by
  have hrefused : (∃ detail, (self.put disk key chunks objects).2
      = .error (.FileTooLargeError detail)) ↔ self.TooLarge chunks := by
    rw [self.put_eq hdisk]
    by_cases hlarge : self.TooLarge chunks
    · rw [if_pos hlarge]
      exact iff_of_true ⟨_, rfl⟩ hlarge
    · rw [if_neg hlarge]
      exact iff_of_false (by simp) hlarge
  -- an upload of no chunks has no bytes, which a ceiling from zero on lets pass
  have hceiling : ∀ cs : List Bytes, 0 ≤ self.max_upload_bytes →
      (self.TooLarge cs ↔ self.max_upload_bytes < (cs.flatten.length : ℤ)) := by
    intro cs hmax
    refine ⟨fun hlarge => hlarge.2, fun hlarge => ⟨?_, hlarge⟩⟩
    rintro rfl
    simp only [List.flatten_nil, List.length_nil] at hlarge
    omega
  refine ⟨hrefused, fun hmax => hrefused.trans (hceiling chunks hmax), ?_, ?_, ?_⟩
  · intro error herror
    rw [self.put_eq hdisk] at herror ⊢
    by_cases hlarge : self.TooLarge chunks
    · rw [if_pos hlarge] at herror ⊢
      exact ⟨rfl, _, (Except.error.inj herror).symm⟩
    · rw [if_neg hlarge] at herror
      cases herror
  · intro object hobject
    rw [self.put_eq hdisk] at hobject ⊢
    by_cases hlarge : self.TooLarge chunks
    · rw [if_pos hlarge] at hobject
      cases hobject
    · rw [if_neg hlarge] at hobject ⊢
      rw [← Except.ok.inj hobject]
      exact ⟨rfl, rfl, rfl⟩
  · intro others hbytes hcase
    have hsame : self.TooLarge others ↔ self.TooLarge chunks := by
      rcases hcase with hmax | hempty
      · rw [hceiling others hmax, hceiling chunks hmax, hbytes]
      · rw [TooLarge, TooLarge, hbytes, ne_eq, ne_eq, hempty]
    rw [self.put_eq hdisk, self.put_eq hdisk, hbytes]
    exact if_congr hsame rfl rfl

/-- A deployment that takes four bytes at most. -/
def four_bytes : FsspecFileStorage where
  disks := [("local", ⟨"local", "/var/lib/files"⟩)]
  max_upload_bytes := 4

theorem put_measures_sample :
    (four_bytes.put "local" "a" [[1], [], [2, 3, 4]] fun _ => none)
        = four_bytes.put "local" "a" [[1, 2, 3, 4]] (fun _ => none)
      ∧ ∃ detail, (four_bytes.put "local" "a" [[1, 2, 3, 4], [5]] fun _ => none).2
        = .error (.FileTooLargeError detail) := by
  have hdisk : four_bytes.disks.lookup "local" = some ⟨"local", "/var/lib/files"⟩ := rfl
  constructor
  · exact (put_measures_what_it_writes four_bytes hdisk "a" [[1, 2, 3, 4]] _).2.2.2.2
      [[1], [], [2, 3, 4]] rfl (.inl (by decide))
  · exact (put_measures_what_it_writes four_bytes hdisk "a" [[1, 2, 3, 4], [5]] _).1.mpr
      (by decide)

/-- A deployment whose ceiling is below zero, which the setting admits. -/
def below_zero : FsspecFileStorage := { four_bytes with max_upload_bytes := -1 }

/-- There, no chunks and one empty chunk are told apart: the first upload is stored though
its size exceeds the ceiling, and the second is refused. -/
theorem negative_ceiling_takes_no_chunks :
    ¬ ((∃ detail, (below_zero.put "local" "a" [] fun _ => none).2
          = .error (.FileTooLargeError detail))
        ↔ below_zero.max_upload_bytes < (([] : List Bytes).flatten.length : ℤ))
      ∧ (below_zero.put "local" "a" [[]] fun _ => none).2
        ≠ (below_zero.put "local" "a" [] fun _ => none).2 := by
  constructor
  · intro h
    obtain ⟨detail, hdetail⟩ := h.mpr (by decide)
    cases hdetail
  · intro h
    cases h

end FsspecFileStorage

end TradeLogistics.Files
