/-
The lookup of files by what they reference.

`find_by_reference` asks the database: it joins the files to their references, keeps the
pairs that meet the question, orders them by the key of the reference and reads each file
once. The aggregate answers the same question of itself with `is_referenced_by`. Where the
lookup answers, the two agree, and the order is that of the first matching reference of each
file: the first pair of a file in an ordered list is its least one.

It answers only if each file it selects is loaded. A row whose location is not rebuilt from
its columns makes the whole lookup raise, and with it every file that was asked for.
-/
import TradeLogistics.FileReferences
import Mathlib.Order.Bounds.Basic

set_option autoImplicit false

namespace TradeLogistics.Files

open TradeLogistics.PyText TradeLogistics.FirstOccurrences TradeLogistics.SqlQuery

/-! ## 1. The tables and the query -/

/-- What is stored: the rows of `files.files`, each with the references it is loaded with, in
any order, and the rows of `files.file_references`. Both tables are told apart by their
keys. -/
structure FilesTables where
  files : List StoredFile
  file_references : List ReferenceRow
  file_keys : (files.map (·.id)).Nodup
  reference_keys : (file_references.map (·.id)).Nodup
  loaded : ∀ file ∈ files, file.references.Perm
    ((file_references.filter fun row => row.file_id = file.id).map (·.reference))

/-- The condition of `.join(StoredFile.references)`. -/
def on_file (file : StoredFile) (row : ReferenceRow) : Truth := eq (some file.id) (some row.file_id)

/-- The `conditions` of the query. -/
def conditions (context entity_type : String) (entity_id : Option String) :
    List (StoredFile × ReferenceRow → Truth) :=
  [fun row => eq (some row.2.reference.context) (some context),
    fun row => eq (some row.2.reference.entity_type) (some entity_type)]
  ++ match entity_id with
    | none => []
    | some identifier => [fun row => eq row.2.reference.entity_id (some identifier)]

namespace FilesTables

variable (tables : FilesTables) (context entity_type : String) (entity_id : Option String)

/-- The rows the statement selects. -/
def selected : List (StoredFile × ReferenceRow) :=
  orderBy (fun row => row.2.id)
    (meeting (conditions context entity_type entity_id)
      (join on_file tables.files tables.file_references))

/-- The rows of the files that are read: `unique()` takes an entity the first time it comes. -/
def selected_files : List StoredFile :=
  firstOccurrences (·.id) ((tables.selected context entity_type entity_id).map Prod.fst)

/-- `find_by_reference`: each of these files is loaded. -/
def find_by_reference : Except FileError (List StoredFile) :=
  (tables.selected_files context entity_type entity_id).mapM load

/-- The keys of the references of a file that answer a question. -/
def matching_ids (file_id : Uuid) : Set ℤ :=
  { n | ∃ row ∈ tables.file_references, row.file_id = file_id
    ∧ row.reference.Answers context entity_type entity_id ∧ row.id = n }

/-! ## 2. What is selected -/

variable {context entity_type entity_id}

/-- The conditions are what `is_referenced_by` asks of one reference. -/
theorem conditions_iff {file : StoredFile} {row : ReferenceRow} :
    (∀ condition ∈ conditions context entity_type entity_id, condition (file, row) = some true)
      ↔ row.reference.Answers context entity_type entity_id := by
  rw [conditions.eq_def, List.forall_mem_append, List.forall_mem_cons, List.forall_mem_singleton,
    eq_eq_true, eq_eq_true, Option.some.injEq, Option.some.injEq, and_assoc]
  refine and_congr_right fun _ => and_congr_right fun _ => ?_
  cases entity_id with
  | none => simp
  | some identifier => simp [eq_eq_true]

variable {tables}

theorem mem_selected {file : StoredFile} {row : ReferenceRow} :
    (file, row) ∈ tables.selected context entity_type entity_id
      ↔ file ∈ tables.files ∧ row ∈ tables.file_references ∧ row.file_id = file.id
        ∧ row.reference.Answers context entity_type entity_id := by
  rw [selected, mem_orderBy, mem_meeting, mem_join, conditions_iff, on_file, eq_eq_true,
    Option.some.injEq, and_assoc, and_assoc, eq_comm (a := file.id)]

/-- A reference is of one file, so the order of the selection has no ties. -/
theorem selected_strict :
    (tables.selected context entity_type entity_id).Pairwise fun row other =>
      row.2.id < other.2.id := by
  have hpartner : tables.files.Pairwise fun file other =>
      ∀ row, on_file file row = some true → on_file other row ≠ some true := by
    refine (List.pairwise_map.mp tables.file_keys).imp fun hne row hfile hother => hne ?_
    rw [on_file, eq_eq_true, Option.some.injEq] at hfile hother
    rw [hfile, hother]
  have hjoined := nodup_join hpartner tables.reference_keys
  exact orderBy_strict ((List.filter_sublist.map _).nodup hjoined)

/-- The references of a loaded file are its rows. -/
theorem is_referenced_by_rows {file : StoredFile} (hfile : file ∈ tables.files) :
    file.is_referenced_by context entity_type entity_id = true
      ↔ ∃ row, (file, row) ∈ tables.selected context entity_type entity_id := by
  rw [StoredFile.is_referenced_by_iff]
  constructor
  · rintro ⟨reference, hmem, hanswers⟩
    obtain ⟨row, hrow, rfl⟩ := List.mem_map.mp ((tables.loaded file hfile).mem_iff.mp hmem)
    rw [List.mem_filter, decide_eq_true_eq] at hrow
    exact ⟨row, mem_selected.mpr ⟨hfile, hrow.1, hrow.2, hanswers⟩⟩
  · rintro ⟨row, hrow⟩
    obtain ⟨-, hmem, hof, hanswers⟩ := mem_selected.mp hrow
    refine ⟨row.reference, (tables.loaded file hfile).mem_iff.mpr ?_, hanswers⟩
    exact List.mem_map_of_mem (List.mem_filter.mpr ⟨hmem, decide_eq_true hof⟩)

/-! ## 3. What is read -/

variable (context entity_type entity_id)

/-- The rows a file is read from: the first selected of each. -/
theorem selected_files_eq :
    tables.selected_files context entity_type entity_id
      = (firstOccurrences (fun row => row.1.id)
          (tables.selected context entity_type entity_id)).map Prod.fst :=
  (firstOccurrences_map (fun file : StoredFile => file.id) Prod.fst _).symm

variable {context entity_type entity_id}

/-- The row a file is read from has the least key of those that answer. -/
theorem first_is_least {read : StoredFile × ReferenceRow}
    (h : read ∈ firstOccurrences (fun row => row.1.id)
      (tables.selected context entity_type entity_id)) :
    IsLeast (tables.matching_ids context entity_type entity_id read.1.id) read.2.id := by
  obtain ⟨hfile, hrow, hof, hanswers⟩ :=
    mem_selected.mp ((firstOccurrences_sublist _ _).subset h)
  refine ⟨⟨read.2, hrow, hof, hanswers, rfl⟩, ?_⟩
  rintro n ⟨row, hmem, hsame, hagain, rfl⟩
  have hin : (read.1, row) ∈ tables.selected context entity_type entity_id :=
    mem_selected.mpr ⟨hfile, hmem, hsame, hagain⟩
  exact firstOccurrences_least (fun row => row.1.id) selected_strict h hin rfl

/-- The rows that are read are those of the files that say themselves that they are
referenced so. -/
theorem mem_selected_files {file : StoredFile} :
    file ∈ tables.selected_files context entity_type entity_id
      ↔ file ∈ tables.files ∧ file.is_referenced_by context entity_type entity_id = true := by
  constructor
  · intro hmem
    obtain ⟨⟨_, row⟩, hrow, rfl⟩ :=
      List.mem_map.mp ((firstOccurrences_sublist _ _).subset hmem)
    have hfile := (mem_selected.mp hrow).1
    exact ⟨hfile, (is_referenced_by_rows hfile).mpr ⟨row, hrow⟩⟩
  · rintro ⟨hfile, hyes⟩
    obtain ⟨row, hrow⟩ := (is_referenced_by_rows hfile).mp hyes
    -- a file of this key is read, and the key is only this file's
    have hkey : file.id ∈ (tables.selected_files context entity_type entity_id).map (·.id) :=
      (mem_map_firstOccurrences _).mpr (List.mem_map_of_mem (List.mem_map_of_mem hrow))
    obtain ⟨other, hother, hsame⟩ := List.mem_map.mp hkey
    obtain ⟨⟨_, row'⟩, hrow', rfl⟩ :=
      List.mem_map.mp ((firstOccurrences_sublist _ _).subset hother)
    rw [← List.inj_on_of_nodup_map tables.file_keys (mem_selected.mp hrow').1 hfile hsame]
    exact hother

/-- They are read in the order of the least key among the references of each that answer. -/
theorem selected_files_ordered :
    ((tables.selected_files context entity_type entity_id).map (·.id)).Pairwise
      fun file other => ∃ m n, IsLeast (tables.matching_ids context entity_type entity_id file) m
        ∧ IsLeast (tables.matching_ids context entity_type entity_id other) n ∧ m < n := by
  rw [selected_files_eq, List.pairwise_map, List.pairwise_map]
  have hordered := selected_strict.sublist
    (firstOccurrences_sublist (fun row => row.1.id)
      (tables.selected context entity_type entity_id))
  refine hordered.imp_of_mem fun hread hother hlt => ?_
  exact ⟨_, _, first_is_least hread, first_is_least hother, hlt⟩

end FilesTables

/-! ## 4. What is returned -/

/-- The location of the row is rebuilt from its columns. -/
def Readable (row : StoredFile) : Prop :=
  ∃ location, StorageLocation.of_columns row.location.composite_values = .ok location

theorem readable_iff {row : StoredFile} : Readable row ↔ ∃ file, load row = .ok file := by
  constructor
  · rintro ⟨location, hlocation⟩
    exact ⟨_, load_ok.mpr ⟨location, hlocation, rfl⟩⟩
  · rintro ⟨file, hload⟩
    obtain ⟨location, hlocation, -⟩ := load_ok.mp hload
    exact ⟨location, hlocation⟩

/-- A load keeps the key of a file and what it says of its references. -/
theorem load_keeps {row file : StoredFile} (h : load row = .ok file) :
    file.id = row.id ∧ ∀ context entity_type entity_id,
      file.is_referenced_by context entity_type entity_id
        = row.is_referenced_by context entity_type entity_id := by
  obtain ⟨location, -, rfl⟩ := load_ok.mp h
  exact ⟨rfl, fun _ _ _ => rfl⟩

namespace FilesTables

/-- What is found is what was asked for: the stored files that say themselves that they are
referenced so, each once, in the order of the least key among the references of each that
answer. -/
structure Agrees (tables : FilesTables) (context entity_type : String) (entity_id : Option String)
    (found : List StoredFile) : Prop where
  asked_for : ∀ file, file ∈ found ↔ (∃ row ∈ tables.files, load row = .ok file)
    ∧ file.is_referenced_by context entity_type entity_id = true
  once : (found.map (·.id)).Nodup
  ordered : found.Pairwise fun file other =>
    ∃ m n, IsLeast (tables.matching_ids context entity_type entity_id file.id) m
      ∧ IsLeast (tables.matching_ids context entity_type entity_id other.id) n ∧ m < n

/-- A lookup that answers agrees with the aggregates. -/
theorem agrees_of_found {tables : FilesTables} {context entity_type : String}
    {entity_id : Option String} {found : List StoredFile}
    (h : tables.find_by_reference context entity_type entity_id = .ok found) :
    tables.Agrees context entity_type entity_id found := by
  have hids : found.map (·.id)
      = (tables.selected_files context entity_type entity_id).map (·.id) := by
    have hsame : List.Forall₂ (fun row file : StoredFile => row.id = file.id)
        (tables.selected_files context entity_type entity_id) found :=
      (mapM_eq_ok_iff.mp h).imp fun row file hload => (load_keeps hload).1.symm
    rw [← List.forall₂_eq_eq_eq, List.forall₂_map_left_iff, List.forall₂_map_right_iff]
    exact (hsame.imp fun _ _ hid => hid.symm).flip
  obtain ⟨hfrom, hto⟩ := mapM_ok h
  refine ⟨fun file => ⟨fun hfile => ?_, ?_⟩, ?_, ?_⟩
  · obtain ⟨row, hrow, hload⟩ := hfrom file hfile
    obtain ⟨hstored, hyes⟩ := mem_selected_files.mp hrow
    exact ⟨⟨row, hstored, hload⟩, ((load_keeps hload).2 _ _ _).trans hyes⟩
  · rintro ⟨⟨row, hstored, hload⟩, hyes⟩
    rw [(load_keeps hload).2] at hyes
    obtain ⟨other, hother, hload'⟩ := hto row (mem_selected_files.mpr ⟨hstored, hyes⟩)
    rwa [Except.ok.inj (hload.symm.trans hload')]
  · rw [hids]
    exact nodup_firstOccurrences _ _
  · rw [← List.pairwise_map (f := fun file : StoredFile => file.id) (R := fun file other =>
      ∃ m n, IsLeast (tables.matching_ids context entity_type entity_id file) m
        ∧ IsLeast (tables.matching_ids context entity_type entity_id other) n ∧ m < n), hids]
    exact selected_files_ordered

/-- **The lookup agrees with the aggregate, exactly** where it can load what it is asked for:
it answers, and with the files that say themselves that they are referenced so, precisely
when the location of each of them is rebuilt from its columns. -/
theorem find_by_reference_agrees_iff (tables : FilesTables) (context entity_type : String)
    (entity_id : Option String) :
    (∃ found, tables.find_by_reference context entity_type entity_id = .ok found
        ∧ tables.Agrees context entity_type entity_id found)
      ↔ ∀ row ∈ tables.files, row.is_referenced_by context entity_type entity_id = true →
          Readable row := by
  constructor
  · rintro ⟨found, hfound, -⟩ row hrow hyes
    obtain ⟨file, -, hload⟩ := (mapM_ok hfound).2 row (mem_selected_files.mpr ⟨hrow, hyes⟩)
    exact readable_iff.mpr ⟨file, hload⟩
  · intro hreadable
    obtain ⟨found, hfound⟩ : ∃ found,
        tables.find_by_reference context entity_type entity_id = .ok found := by
      apply mapM_of_all
      intro row hrow
      obtain ⟨hstored, hyes⟩ := mem_selected_files.mp hrow
      exact readable_iff.mp (hreadable row hstored hyes)
    exact ⟨found, hfound, agrees_of_found hfound⟩

/-! ### A tilde behind a separator -/

/-- What the location of the path `/~/keys` is stored as. -/
def tilde_keys : StorageLocation :=
  { StorageLocation.invoice with path := "~/keys", path_fits := by decide }

/-- One file under it, about a case. -/
def tilde_file : StoredFile :=
  { invoice_file with location := tilde_keys, references := [the_case] }

def tilde_tables : FilesTables where
  files := [tilde_file]
  file_references := [⟨1, tilde_file.id, the_case⟩]
  file_keys := List.nodup_singleton _
  reference_keys := List.nodup_singleton _
  loaded := by
    intro file hfile
    rw [List.mem_singleton.mp hfile]
    exact List.Perm.refl _

/-- The lookup of that case raises. -/
theorem tilde_file_not_found :
    StorageLocation.make (.str "/~/keys") (.str "invoice.pdf") = .ok tilde_keys
      ∧ ¬ ∃ found,
        tilde_tables.find_by_reference "customs" "ClearanceCase" (some "7") = .ok found
          ∧ tilde_tables.Agrees "customs" "ClearanceCase" (some "7") found := by
  refine ⟨rfl, ?_⟩
  rintro ⟨found, hfound, -⟩
  have hasked : tilde_file ∈ tilde_tables.selected_files "customs" "ClearanceCase" (some "7") :=
    mem_selected_files.mpr ⟨List.mem_singleton_self tilde_file, by decide⟩
  obtain ⟨file, -, hload⟩ := (mapM_ok hfound).2 tilde_file hasked
  obtain ⟨location, hlocation, -⟩ := load_ok.mp hload
  cases hlocation

end FilesTables

end TradeLogistics.Files
