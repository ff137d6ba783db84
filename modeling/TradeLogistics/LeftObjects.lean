/-
Objects that no record names.

An upload puts its bytes at their key first and records them afterwards, and one that ends
in between leaves an object behind. This file follows such an object: when it appears, and
what becomes of it. Uploads are those of `Uploads`, any number of them, in any order.

A record names an address here by the path and the name its columns hold, joined. That is
the address its bytes were put at; what the location is read back as, if the path has no
plain ends, is another matter.

Everything rests on where an upload is at work. From the look that found its key free to
the commit, the delete or the end of the request it is at one address; there it may write,
remove and record, and nowhere else. So an object at an address nobody works at is settled:
the key is refused to every later upload, and neither the object nor the records of its
address change again. One that is settled without a record is left for good.
-/
import TradeLogistics.Uploads

set_option autoImplicit false

namespace TradeLogistics.Files

open TradeLogistics.PyText TradeLogistics.Runs TradeLogistics.MessageBus

/-! ## 1. Where an upload is at work -/

/-- The disk and key an upload has found free and has not settled yet. -/
def Upload.address : Upload → Option (String × String)
  | .checked command location _ | .written command location _ _
  | .registered command location _ _ | .persisted command location _ _
  | .unrecorded command location => some (command.disk, location.key)
  | .received _ _ | .finished => none

/-- The steps that end a request with neither a record nor a removal: bytes that are too
many, a record the domain refuses, a location the response cannot be rendered with, and any
failure. -/
def Upload.gives_up (storage : Storage) : Upload → UploadStep → Bool
  | .checked _ _ chunks, .put => !(storage.put chunks).isOk
  | .written command location _ object, .register file_id =>
    !(registration command location object file_id).isOk
  | .persisted _ _ _ file, .commit => !(load file).isOk
  | _, .fail => true
  | _, _ => false

section Steps

variable {ι : Type*}

/-- The path and the name of a committed row, joined, are the key of the address. -/
def Recorded (s : FilesState ι) (address : String × String) : Prop :=
  ∃ file ∈ s.rows, (file.disk, file.key) = address

/-- Both states have the same rows whose columns name the address. -/
def SameRecords (s s' : FilesState ι) (address : String × String) : Prop :=
  ∀ file : StoredFile, (file.disk, file.key) = address → (file ∈ s'.rows ↔ file ∈ s.rows)

theorem SameRecords.recorded {s s' : FilesState ι} {address : String × String}
    (h : SameRecords s s' address) : Recorded s' address ↔ Recorded s address := by
  constructor
  · rintro ⟨file, hfile, haddress⟩
    exact ⟨file, (h file haddress).mp hfile, haddress⟩
  · rintro ⟨file, hfile, haddress⟩
    exact ⟨file, (h file haddress).mpr hfile, haddress⟩

theorem SameRecords.of_rows {s s' : FilesState ι} (h : s'.rows = s.rows)
    (address : String × String) : SameRecords s s' address := by
  intro file _
  rw [h]

/-- What one step of an upload does to the objects and the records, by where it is at
work: it looks for an address, gives its own up, goes on there, or settles it. -/
inductive Worked (storage : Storage) (s s' : FilesState ι) (up up' : Upload)
    (step : UploadStep) : Prop where
  | looked (hfrom : up.address = none) (hobjects : s'.objects = s.objects)
      (hrows : s'.rows = s.rows) (hfree : ∀ a, up'.address = some a → s.objects a = none)
  | gave_up (a : String × String) (hfrom : up.address = some a) (hto : up'.address = none)
      (hobjects : s'.objects = s.objects) (hrows : s'.rows = s.rows)
      (hgives : up.gives_up storage step = true)
  | went_on (a : String × String) (hfrom : up.address = some a) (hto : up'.address = some a)
      (hobjects : ∀ b, b ≠ a → s'.objects b = s.objects b) (hrows : s'.rows = s.rows)
      (hgives : up.gives_up storage step = false)
  | settled (a : String × String) (hfrom : up.address = some a) (hto : up'.address = none)
      (hobjects : ∀ b, b ≠ a → s'.objects b = s.objects b)
      (hrows : ∀ b, b ≠ a → SameRecords s s' b)
      (hsettled : Recorded s' a ∨ s'.objects a = none)
      (hgives : up.gives_up storage step = false)

/-- A record at the same path and name is at the same address. -/
theorem address_of_same_location {f g : StoredFile} (h : same_location f g = true) :
    (g.disk, g.key) = (f.disk, f.key) := by
  simp only [same_location, Bool.and_eq_true, beq_iff_eq] at h
  obtain ⟨⟨hdisk, hpath⟩, hname⟩ := h
  rw [StoredFile.key, StoredFile.key, StorageLocation.key, StorageLocation.key, hdisk, hpath,
    hname]

variable [DecidableEq ι]

/-- **One step of an upload, by address.** -/
theorem upload_step_worked {storage : Storage} {i : ι} {s s' : FilesState ι} {up up' : Upload}
    {step : UploadStep} (h : upload_step storage i s up step = some (s', up'))
    (hk : OfOwnBytes storage up) : Worked storage s s' up up' step := by
  by_cases hfail : step = .fail
  · subst hfail
    obtain ⟨rfl, hobjects, hrows⟩ := upload_fails h
    cases hfrom : up.address with
    | none =>
        refine .looked hfrom hobjects hrows fun a ha => ?_
        simp [Upload.address] at ha
    | some a =>
        refine .gave_up a hfrom rfl hobjects hrows ?_
        cases up <;> rfl
  cases up with
  | received command chunks =>
      cases step with
      | exists_key directory =>
          -- only a key without an object is taken up
          simp only [upload_step] at h
          split at h
          · split at h
            · cases h
              exact .looked rfl rfl rfl fun a ha => by simp [Upload.address] at ha
            · next location _ =>
                split at h
                · cases h
                  exact .looked rfl rfl rfl fun a ha => by simp [Upload.address] at ha
                · next hfree =>
                    cases h
                    refine .looked rfl rfl rfl fun a ha => ?_
                    simp only [Upload.address, Option.some.injEq] at ha
                    rw [ha, Bool.or_eq_true, not_or] at hfree
                    simpa using hfree.2
          · cases h
            exact .looked rfl rfl rfl fun a ha => by simp [Upload.address] at ha
      | fail => exact absurd rfl hfail
      | _ => simp [upload_step] at h
  | checked command location chunks =>
      cases step with
      | put =>
          simp only [upload_step] at h
          split at h
          · next e hput =>
              cases h
              refine .gave_up _ rfl rfl rfl rfl ?_
              simp [Upload.gives_up, hput, Except.isOk, Except.toBool]
          · next content object hput =>
              cases h
              refine .went_on _ rfl rfl (fun b hb => Function.update_of_ne hb _ _) rfl ?_
              simp [Upload.gives_up, hput, Except.isOk, Except.toBool]
      | fail => exact absurd rfl hfail
      | _ => simp [upload_step] at h
  | written command location chunks object =>
      cases step with
      | register file_id =>
          simp only [upload_step] at h
          split at h
          · next e hregister =>
              cases h
              refine .gave_up _ rfl rfl rfl rfl ?_
              simp [Upload.gives_up, hregister, Except.isOk, Except.toBool]
          · next file hregister =>
              cases h
              refine .went_on _ rfl rfl (fun _ _ => rfl) rfl ?_
              simp [Upload.gives_up, hregister, Except.isOk, Except.toBool]
      | fail => exact absurd rfl hfail
      | _ => simp [upload_step] at h
  | registered command location chunks file =>
      cases step with
      | persist =>
          simp only [upload_step] at h
          split at h
          · next htaken =>
              -- the record that refuses this one is at the same address
              cases h
              obtain ⟨other, hother, hsame⟩ := List.any_eq_true.mp htaken
              refine .settled _ rfl rfl (fun _ _ => rfl) (fun b _ => .of_rows rfl b) (.inl ?_) rfl
              exact ⟨other, hother, (address_of_same_location hsame).trans hk.1⟩
          · split at h
            · cases h
            · cases h
              exact .went_on _ rfl rfl (fun _ _ => rfl) rfl rfl
      | persist_fails =>
          cases h
          exact .went_on _ rfl rfl (fun _ _ => rfl) rfl rfl
      | fail => exact absurd rfl hfail
      | _ => simp [upload_step] at h
  | persisted command location chunks file =>
      cases step with
      | commit =>
          simp only [upload_step] at h
          split at h
          · next e hload =>
              cases h
              refine .gave_up _ rfl rfl rfl rfl ?_
              simp [Upload.gives_up, hload, Except.isOk, Except.toBool]
          · next read hload =>
              cases h
              refine .settled _ rfl rfl (fun _ _ => rfl) (fun b hb other hother => ?_) (.inl ?_) ?_
              · -- the new record is at this address, not at the other
                dsimp only
                rw [List.mem_append, List.mem_singleton, or_iff_left]
                rintro rfl
                exact hb (hother.symm.trans hk.1)
              · exact ⟨file, List.mem_append_right _ (List.mem_singleton.mpr rfl), hk.1⟩
              · simp [Upload.gives_up, hload, Except.isOk, Except.toBool]
      | fail => exact absurd rfl hfail
      | _ => simp [upload_step] at h
  | unrecorded command location =>
      cases step with
      | delete =>
          cases h
          refine .settled _ rfl rfl (fun b hb => Function.update_of_ne hb _ _)
            (fun b _ => .of_rows rfl b) (.inr ?_) rfl
          exact Function.update_self _ _ _
      | fail => exact absurd rfl hfail
      | _ => simp [upload_step] at h
  | finished => cases step <;> simp [upload_step] at h

omit [DecidableEq ι] in
/-- Elsewhere a step changes nothing, and takes an address up only where no object is. -/
theorem Worked.elsewhere {storage : Storage} {s s' : FilesState ι} {up up' : Upload}
    {step : UploadStep} (h : Worked storage s s' up up' step) {a : String × String}
    (ha : up.address ≠ some a) :
    s'.objects a = s.objects a ∧ SameRecords s s' a
      ∧ (up'.address = some a → s.objects a = none) := by
  cases h with
  | looked hfrom hobjects hrows hfree =>
      exact ⟨congrFun hobjects a, .of_rows hrows a, hfree a⟩
  | gave_up b hfrom hto hobjects hrows hgives =>
      refine ⟨congrFun hobjects a, .of_rows hrows a, fun hup => ?_⟩
      rw [hto] at hup
      cases hup
  | went_on b hfrom hto hobjects hrows hgives =>
      have hne : a ≠ b := fun hab => ha (hab ▸ hfrom)
      refine ⟨hobjects a hne, .of_rows hrows a, fun hup => ?_⟩
      rw [hto, Option.some.injEq] at hup
      exact absurd hup.symm hne
  | settled b hfrom hto hobjects hrows hsettled hgives =>
      have hne : a ≠ b := fun hab => ha (hab ▸ hfrom)
      refine ⟨hobjects a hne, hrows a hne, fun hup => ?_⟩
      rw [hto] at hup
      cases hup

/-! ## 2. Settled objects

An object at an address where no upload is at work. The look that would take the address up
finds the object, so nobody ever comes to work there again. -/

/-- The state has these bytes at the address, and the records of it that the first had. -/
structure Settled (before : FilesState ι) (a : String × String) (content : Bytes)
    (s : FilesState ι) : Prop where
  object : s.objects a = some content
  records : SameRecords before s a

/-- The upload knows its own bytes and is at work elsewhere. -/
def Upload.Away (storage : Storage) (a : String × String) (up : Upload) : Prop :=
  OfOwnBytes storage up ∧ up.address ≠ some a

/-- The outline of a settled object: every upload is away from it, and stays away. -/
theorem settled_outline (storage : Storage) (before : FilesState ι) (a : String × String)
    (content : Bytes) :
    Outline (upload_step (ι := ι) storage) (fun _ _ _ => True) (Settled before a content)
      (fun _ _ up => up.Away storage a) (fun _ _ _ => True) where
  own := by
    rintro i s up step s' up' ⟨hobject, hrecords⟩ ⟨hk, haway⟩ hstep -
    obtain ⟨hobjects, hsame, hfree⟩ := (upload_step_worked hstep hk).elsewhere haway
    refine ⟨⟨hobjects.trans hobject, ?_⟩, ⟨(upload_step_moves hstep hk).1, fun hup => ?_⟩,
      trivial⟩
    · exact fun file hfile => (hsame file hfile).trans (hrecords file hfile)
    · -- the key was found free, and it is not
      rw [hfree hup] at hobject
      cases hobject
  stable := fun _ _ _ _ _ _ _ _ hk => hk

omit [DecidableEq ι] in
theorem of_own_bytes_before {storage : Storage} {objects : String × String → Option Bytes}
    {uploads : ι → UploadFileCommand × List Bytes} :
    Holds (fun _ => True) (fun _ _ up => OfOwnBytes storage up)
      (before_uploads objects uploads) :=
  ⟨trivial, fun _ => trivial⟩

/-- What an upload carries is about its own bytes, in every run. -/
theorem own_bytes_outline (storage : Storage) :
    Outline (upload_step (ι := ι) storage) (fun _ _ _ => True) (fun _ => True)
      (fun _ _ up => OfOwnBytes storage up) (fun _ _ _ => True) where
  own := fun _ _ _ _ _ _ _ hk hstep _ => ⟨trivial, (upload_step_moves hstep hk).1, trivial⟩
  stable := fun _ _ _ _ _ _ _ _ hk => hk

/-- **A settled object stays.** In every interleaving of any uploads: an object at whose
address no upload is at work keeps its bytes and the rows whose columns name it, or its
lack of them, for good, and no upload is ever at work there again. -/
theorem settled_object_stays {storage : Storage} {objects : String × String → Option Bytes}
    {uploads : ι → UploadFileCommand × List Bytes} {es later : List (ι × UploadStep)}
    {c c' : Config ι (FilesState ι) Upload} {a : String × String} {content : Bytes}
    (hrun : run (fire (upload_step storage)) (before_uploads objects uploads) es = some c)
    (hobject : c.shared.objects a = some content) (haway : ∀ i, (c.locals i).address ≠ some a)
    (hlater : run (fire (upload_step storage)) c later = some c') :
    c'.shared.objects a = some content
      ∧ (∀ file : StoredFile, (file.disk, file.key) = a →
        (file ∈ c'.shared.rows ↔ file ∈ c.shared.rows))
      ∧ ∀ i, (c'.locals i).address ≠ some a := by
  have hown := ((own_bytes_outline storage).run of_own_bytes_before hrun).2
  obtain ⟨⟨hobject', hrecords⟩, haway'⟩ :=
    (settled_outline storage c.shared a content).run
      ⟨⟨hobject, fun _ _ => Iff.rfl⟩, fun i => ⟨hown i, haway i⟩⟩ hlater
  exact ⟨hobject', hrecords, fun i => (haway' i).2⟩

/-! ## 3. What is left -/

/-- An object that the columns of no record name, and nobody works at. -/
def Left (c : Config ι (FilesState ι) Upload) (a : String × String) : Prop :=
  (c.shared.objects a).isSome = true ∧ ¬ Recorded c.shared a ∧ ∀ i, (c.locals i).address ≠ some a

/-- A request that gives its address up leaves no object there, or one that has a record,
or one that another upload is still to settle. -/
def LeavesTidy (storage : Storage) (c : Config ι (FilesState ι) Upload)
    (e : ι × UploadStep) : Prop :=
  (c.locals e.1).gives_up storage e.2 = true → ∀ a, (c.locals e.1).address = some a →
    c.shared.objects a = none ∨ Recorded c.shared a ∨ ∃ j, j ≠ e.1 ∧ (c.locals j).address = some a

/-- The disk as long as nothing has been left on it: what was there before is there, with
nobody at work, and it is all that no record names. -/
structure Tidy (storage : Storage) (objects : String × String → Option Bytes)
    (c : Config ι (FilesState ι) Upload) : Prop where
  own : ∀ i, OfOwnBytes storage (c.locals i)
  kept : ∀ a content, objects a = some content →
    c.shared.objects a = some content ∧ ∀ i, (c.locals i).address ≠ some a
  left : ∀ a, Left c a → (objects a).isSome = true

/-- What was on the disk before stays there, and the rest of the disk is as tidy as the
step leaves the address it was at. -/
theorem Tidy.fire {storage : Storage} {objects : String × String → Option Bytes}
    {c c' : Config ι (FilesState ι) Upload} {e : ι × UploadStep} (h : Tidy storage objects c)
    (hfire : fire (upload_step storage) c e = some c') :
    (∀ i, OfOwnBytes storage (c'.locals i))
      ∧ (∀ a content, objects a = some content →
        c'.shared.objects a = some content ∧ ∀ i, (c'.locals i).address ≠ some a)
      ∧ ∀ a, Left c' a → (c.locals e.1).address ≠ some a → (objects a).isSome = true := by
  refine ⟨?_, fun a content ha => ?_, fun a hleft haway => ?_⟩
  · exact (((own_bytes_outline storage).fire ⟨trivial, h.own⟩ hfire trivial).1).2
  · obtain ⟨hat, haway⟩ := h.kept a content ha
    obtain ⟨⟨⟨hat', -⟩, haway'⟩, -⟩ := (settled_outline storage c.shared a content).fire
      ⟨⟨hat, fun _ _ => Iff.rfl⟩, fun i => ⟨h.own i, haway i⟩⟩ hfire trivial
    exact ⟨hat', fun i => (haway' i).2⟩
  · -- elsewhere nothing has changed, so it was left before
    obtain ⟨s', up', hstep, rfl⟩ := fire_eq_some.mp hfire
    obtain ⟨hobjects, hsame, -⟩ := (upload_step_worked hstep (h.own e.1)).elsewhere haway
    obtain ⟨hsome, hnone, hfree⟩ := hleft
    refine h.left a ⟨hobjects ▸ hsome, fun hrecorded => hnone (hsame.recorded.mpr hrecorded), ?_⟩
    intro i
    by_cases hi : i = e.1
    · exact hi ▸ haway
    · have hi' := hfree i
      dsimp only at hi'
      rwa [Function.update_of_ne hi] at hi'

/-- A step leaves nothing exactly when the request that gives up leaves nothing. -/
theorem tidy_step {storage : Storage} {objects : String × String → Option Bytes}
    {c c' : Config ι (FilesState ι) Upload} {e : ι × UploadStep} (h : Tidy storage objects c)
    (hfire : fire (upload_step storage) c e = some c') :
    (∀ a, Left c' a → (objects a).isSome = true) ↔ LeavesTidy storage c e := by
  obtain ⟨-, hkept, helsewhere⟩ := h.fire hfire
  obtain ⟨s', up', hstep, rfl⟩ := fire_eq_some.mp hfire
  have hworked := upload_step_worked hstep (h.own e.1)
  constructor
  · intro hleft hgives a ha
    cases hworked with
    | looked hfrom hobjects hrows hfree =>
        rw [hfrom] at ha
        cases ha
    | went_on b hfrom hto hobjects hrows hgoes =>
        rw [hgives] at hgoes
        cases hgoes
    | settled b hfrom hto hobjects hrows hsettled hsettles =>
        rw [hgives] at hsettles
        cases hsettles
    | gave_up b hfrom hto hobjects hrows _ =>
        -- what would be left here was not on the disk before, since the upload was here
        by_contra hnot
        push Not at hnot
        obtain ⟨hsome, hnone, hothers⟩ := hnot
        have hbefore : (objects a).isSome = true := by
          refine hleft a ⟨?_, ?_, fun i => ?_⟩
          · dsimp only
            rw [hobjects]
            exact Option.isSome_iff_ne_none.mpr hsome
          · exact fun hrecorded => hnone ((SameRecords.of_rows hrows a).recorded.mp hrecorded)
          · by_cases hi : i = e.1
            · dsimp only
              rw [hi, Function.update_self, hto]
              exact Option.some_ne_none a |>.symm
            · dsimp only
              rw [Function.update_of_ne hi]
              exact hothers i hi
        obtain ⟨content, hcontent⟩ := Option.isSome_iff_exists.mp hbefore
        exact (h.kept a content hcontent).2 e.1 ha
  · intro hleaves a hleft
    by_cases ha : (c.locals e.1).address = some a
    · exfalso
      obtain ⟨hsome, hnone, hfree⟩ := hleft
      have hi := hfree e.1
      dsimp only at hsome hnone hi
      rw [Function.update_self] at hi
      cases hworked with
      | looked hfrom hobjects hrows hfree =>
          rw [hfrom] at ha
          cases ha
      | went_on b hfrom hto hobjects hrows hgoes => exact hi (hto.trans (hfrom.symm.trans ha))
      | settled b hfrom hto hobjects hrows hsettled hsettles =>
          obtain rfl : b = a := Option.some.inj (hfrom.symm.trans ha)
          rcases hsettled with hrecorded | hgone
          · exact hnone hrecorded
          · rw [hgone] at hsome
            cases hsome
      | gave_up b hfrom hto hobjects hrows hgives =>
          rcases hleaves hgives a ha with hgone | hrecorded | ⟨j, hj, hat⟩
          · rw [hobjects, hgone] at hsome
            cases hsome
          · exact hnone ((SameRecords.of_rows hrows a).recorded.mpr hrecorded)
          · -- another upload is at the address still
            refine hfree j ?_
            dsimp only
            rw [Function.update_of_ne hj]
            exact hat
    · exact helsewhere a hleft ha

/-- **What uploads leave, exactly.** In every interleaving of any uploads, in every state
reached, the objects that no record names and nobody works at are objects that were there
before, precisely when every request that gives its address up leaves no object there, or a
recorded one, or one that another upload is still to settle. -/
theorem nothing_left_iff (storage : Storage) (objects : String × String → Option Bytes)
    (uploads : ι → UploadFileCommand × List Bytes) (steps : List (ι × UploadStep)) :
    Along (fire (upload_step storage)) (fun _ _ c' => ∀ a, Left c' a → (objects a).isSome = true)
        (before_uploads objects uploads) steps
      ↔ Along (fire (upload_step storage)) (fun c e _ => LeavesTidy storage c e)
        (before_uploads objects uploads) steps := by
  refine Runs.along_exact (fire (upload_step storage)) (Tidy storage objects) _
    (LeavesTidy storage) ?_ ?_ ?_
  · intro c e c' h hfire hleaves
    obtain ⟨hown, hkept, -⟩ := h.fire hfire
    have hleft := (tidy_step h hfire).mpr hleaves
    exact ⟨hleft, hown, hkept, hleft⟩
  · intro c e c' h hfire hleft
    exact (tidy_step h hfire).mp hleft
  · exact ⟨fun _ => trivial, fun a content ha => ⟨ha, fun i => nofun⟩, fun a hleft => hleft.1⟩

end Steps

/-! ### A request that ends after its write -/

/-- The first upload of the key writes its byte, and its request ends there. -/
def broken_off : List (Bool × UploadStep) :=
  [(false, .exists_key false), (false, .put), (false, .fail)]

/-- Its byte stays, without a record, and the second upload of the key is refused. -/
theorem broken_off_object_stays : ∃ c c',
    run (fire (upload_step local_storage)) (before_uploads (fun _ => none) racing_uploads)
      broken_off = some c
    ∧ run (fire (upload_step local_storage)) c [(true, .exists_key false)] = some c'
    ∧ c'.shared.objects ("local", "invoices/4021.pdf") = some [1]
    ∧ ∀ i, (c'.locals i).address ≠ some ("local", "invoices/4021.pdf") := by
  have hall : (run (fire (upload_step local_storage))
      (before_uploads (fun _ => none) racing_uploads) broken_off).any (fun c =>
        c.shared.objects ("local", "invoices/4021.pdf") == some [1]
        && [false, true].all (fun i =>
          (c.locals i).address != some ("local", "invoices/4021.pdf"))
        && (run (fire (upload_step local_storage)) c [(true, .exists_key false)]).isSome) = true := by
    decide +kernel
  simp only [Option.any_eq_true, Bool.and_eq_true, beq_iff_eq, List.all_eq_true, bne_iff_ne,
    Option.isSome_iff_exists] at hall
  obtain ⟨c, hrun, ⟨hobject, haway⟩, c', hlater⟩ := hall
  obtain ⟨hobject', -, haway'⟩ := settled_object_stays hrun hobject
    (fun i => haway i (by cases i <;> decide)) hlater
  exact ⟨c, c', hrun, hlater, hobject', haway'⟩

end TradeLogistics.Files
