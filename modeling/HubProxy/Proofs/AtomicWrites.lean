import HubProxy.Proofs.FailingSteps
import HubProxy.Proofs.RunFrames

/-!
# Replaced as a whole or not at all

A write first makes the directories above its target, then a copy of the target and an empty file
beside it, then fills that file and puts it in place of the target. Whichever of these steps fails,
what has been done to files is taken back, so that the target is as it was; only the copy may
differ, and directories that were made stay. When none fails, the target holds the text, and the
copy is gone.
-/

namespace HubProxy.Proofs

open Run

/-- The path that a write makes a file under for a while. -/
def temporaryPath (path : Path) (token : Nat) : Path :=
  path.parent.child (temporaryName path.name token)

/-- What a write has found out before it fills the temporary file. -/
structure Preparation where
  temporary : Path
  backup : Path
  existed : Bool

/-- Copies a file if it is there. -/
def copyAside (path backup : Path) (existed : Bool) : RunM DiskM Unit :=
  if existed then backUp path backup else return

/-- The steps of a write between the directories and the content. -/
def prepare (path : Path) : RunM DiskM Preparation := do
  let backup ← liftM ((backupPath path).mapError RunError.file)
  let kind ← kind? path
  copyAside path backup kind.isSome
  let temporary ← createTemporary path maxTokens 0
  return ⟨temporary, backup, kind.isSome⟩

/-- The steps of a write that follow: the content, and what is done about a failure or the copy. -/
def conclude (path : Path) (text : String) (p : Preparation) : RunM DiskM Unit := do
  try fillAndReplace p.temporary path text
  catch failure =>
    restore p.temporary path p.backup p.existed
    throw failure
  if p.existed then removeIfPresent p.backup

/-- The steps of a write up to the one that puts the new content in place, with nothing that takes
them back. -/
def advance (path : Path) (text : String) : RunM DiskM Unit := do
  makeDirectories path.parent
  let p ← prepare path
  fillAndReplace p.temporary path text

/-- The place where the copy of a target goes, if it has a name. -/
def copyPlaces (d : Disk) (path : Path) : List Place :=
  match backupPath path with
  | .ok backup => [placeOf d backup]
  | .error _ => []

/-- The steps that take back what a write has done are not struck. -/
structure TakesBack (d : Disk) (path : Path) : Prop where
  temporary : ∀ token, d.strikes (.remove (temporaryPath path token)) = none
  copy : ∀ backup, backupPath path = .ok backup → d.strikes (.replace backup path) = none

/-- A temporary file of a write is there if and only if it was there before. -/
def SameTemporaries (path : Path) (d d' : Disk) : Prop :=
  ∀ token, (∃ content, d'.get? (placeOf d (temporaryPath path token)) = some (.file content)) ↔
    ∃ content, d.get? (placeOf d (temporaryPath path token)) = some (.file content)

/-- What a failed write leaves: the bytes of the target, no temporary file, and all other files but
the copy. A target that was not there is still not there, unless its own place is on the way to its
directory. -/
structure Unreplaced (path : Path) (d d' : Disk) : Prop where
  target : logPlace d ≠ some (placeOf d path) → ∀ content,
    d'.get? (placeOf d path) = some (.file content) ↔ d.get? (placeOf d path) = some (.file content)
  vacant : d.get? (placeOf d path) = none → ¬OnWay d path.parent (placeOf d path) →
    d'.get? (placeOf d path) = none
  temporaries : SameTemporaries path d d'
  others : KeepsFiles (copyPlaces d path) d d'

/-- What a write leaves that succeeds: the text in the target, no temporary file, no copy of a
target that was there before, and all other files. -/
structure Replaced (path : Path) (text : String) (d d' : Disk) : Prop where
  target : d'.get? (placeOf d path) = some (.file text.toUTF8)
  temporaries : SameTemporaries path d d'
  copy : d.get? (placeOf d path) ≠ none → ∀ q ∈ copyPlaces d path, d'.get? q = none
  others : d.get? (placeOf d path) ≠ none →
    KeepsFiles (placeOf d path :: copyPlaces d path) d d'
  others_of_vacant : d.get? (placeOf d path) = none → KeepsFiles [placeOf d path] d d'

/-- What a write leaves that succeeds on a disk that has the directories already. -/
structure Settles (path : Path) (text : String) (d d' : Disk) : Prop where
  named : ∃ backup, backupPath path = .ok backup
  target : d'.get? (placeOf d path) = some (.file text.toUTF8)
  plain : d.get? (placeOf d path) ≠ some .directory
  existed : d.get? (placeOf d path) ≠ none →
    Touches (fun q => q = placeOf d path ∨ q ∈ copyPlaces d path) d d' ∧
      ∀ q ∈ copyPlaces d path, d'.get? q = none
  vacant : d.get? (placeOf d path) = none → Touches (· = placeOf d path) d d'

variable {d d' : Disk} {path : Path} {text : String} {records records' : List LogRecord}

/-! ## Places -/

section Names

lemma splitSlashes_of_not_mem {cs : List Char} (h : '/' ∉ cs) : Path.splitSlashes cs = [cs] := by
  induction cs with
  | nil => rfl
  | cons c cs ih =>
    rw [List.mem_cons, not_or] at h
    simp [Path.splitSlashes, ih h.2, Ne.symm h.1]

/-- What is added at the end of a text is added to its last piece. -/
lemma splitSlashes_append {tail : List Char} (h : '/' ∉ tail) (cs : List Char) :
    ∃ front last, '/' ∉ last ∧ Path.splitSlashes cs = front ++ [last] ∧
      Path.splitSlashes (cs ++ tail) = front ++ [last ++ tail] := by
  induction cs with
  | nil => exact ⟨[], [], List.not_mem_nil, rfl, splitSlashes_of_not_mem h⟩
  | cons c cs ih =>
    obtain ⟨front, last, hlast, hcs, htail⟩ := ih
    rw [List.cons_append, Path.splitSlashes, Path.splitSlashes, hcs, htail]
    by_cases hc : c = '/'
    · refine ⟨[] :: front, last, hlast, ?_, ?_⟩ <;> cases front <;> simp [hc]
    · cases front with
      | nil => exact ⟨[], c :: last, by simp [hlast, Ne.symm hc], by simp [hc], by simp [hc]⟩
      | cons piece front => exact ⟨(c :: piece) :: front, last, hlast, by simp [hc], by simp [hc]⟩

lemma exists_tail_temporaryName (name : String) (token : Nat) : ∃ tail,
    (temporaryName name token).toList = ('.' :: name.toList) ++ tail ∧ '/' ∉ tail ∧
      tail.getLast? = some 'p' := by
  refine ⟨'.' :: (List.replicate (8 - (Nat.toDigits 10 token).length) '0' ++
    Nat.toDigits 10 token) ++ ['.', 't', 'm', 'p'], by simp [temporaryName], ?_,
    by rw [List.getLast?_append]; rfl⟩
  have hdigits : '/' ∉ Nat.toDigits 10 token := fun hmem =>
    absurd (Nat.isDigit_of_mem_toDigits (by decide) (by decide) hmem) (by decide)
  simp [hdigits]

/-- The name of a temporary file ends with a piece of its own, which is no name of a target. -/
lemma ofText_temporaryName (name : String) (token : Nat) : ∃ front piece,
    Path.ofText (temporaryName name token) = ⟨.here, front ++ [piece]⟩ ∧
      '/' ∉ piece.toList ∧ piece.toList.getLast? = some 'p' ∧
      ('/' ∉ name.toList → front = [] ∧ name.length < piece.length) := by
  obtain ⟨tail, hname, hslash, hend⟩ := exists_tail_temporaryName name token
  obtain ⟨front, last, hlast, hcs, happend⟩ := splitSlashes_append hslash ('.' :: name.toList)
  have hpiece : (String.ofList (last ++ tail)).toList.getLast? = some 'p' := by
    rw [String.toList_ofList, List.getLast?_append, hend]
    rfl
  refine ⟨(front.map String.ofList).filter fun part => part != "" && part != ".",
    String.ofList (last ++ tail), ?_, ?_, hpiece, fun hplain => ?_⟩
  · have hother : ∀ other : String, other.toList.getLast? ≠ some 'p' →
        String.ofList (last ++ tail) ≠ other := by
      rintro other hlast rfl
      exact hlast hpiece
    have hkept : (String.ofList (last ++ tail) != "" &&
        String.ofList (last ++ tail) != ".") = true := by
      rw [Bool.and_eq_true, bne_iff_ne, bne_iff_ne]
      exact ⟨hother "" (by decide), hother "." (by decide)⟩
    rw [Path.ofText, Path.partsOf, hname, happend, List.map_append, List.filter_append,
      List.map_singleton, List.filter_singleton, hkept]
    rfl
  · rw [String.toList_ofList, List.mem_append, not_or]
    exact ⟨hlast, hslash⟩
  · have hwhole : '/' ∉ '.' :: name.toList := by simpa using hplain
    rw [splitSlashes_of_not_mem hwhole] at hcs
    obtain ⟨rfl, rfl⟩ : front = [] ∧ last = '.' :: name.toList := by
      cases front with
      | nil => exact ⟨rfl, (List.cons.inj hcs).1.symm⟩
      | cons piece front => cases front <;> cases (List.cons.inj hcs).2
    refine ⟨rfl, ?_⟩
    rw [← String.length_toList, ← String.length_toList, String.toList_ofList, List.cons_append,
      List.length_cons, List.length_append]
    omega

lemma nextPlace_of_getLast? {place : Place} {piece : String}
    (h : piece.toList.getLast? = some 'p') : nextPlace place piece = place ++ [piece] := by
  refine if_neg ?_
  rintro rfl
  cases h

/-- A temporary file is neither the target nor its copy. -/
lemma placeOf_temporary_ne {backup : Path} (h : backupPath path = .ok backup) (d : Disk)
    (token : Nat) : placeOf d (temporaryPath path token) ≠ placeOf d path ∧
      placeOf d (temporaryPath path token) ≠ placeOf d backup := by
  obtain ⟨hpath, hbackup⟩ := placeOf_of_backupPath h d
  obtain ⟨front, piece, htext, hslash, hend, hplain⟩ := ofText_temporaryName path.name token
  have hplace : placeOf d (temporaryPath path token) =
      front.foldl nextPlace (placeOf d path.parent) ++ [piece] := by
    have hparts : temporaryPath path token =
        ⟨path.start, path.parent.parts ++ (front ++ [piece])⟩ := by
      rw [temporaryPath, Path.child, htext]
      rfl
    rw [hparts, placeOf, List.foldl_append, List.foldl_append]
    exact nextPlace_of_getLast? hend
  rw [hplace, hpath, hbackup]
  constructor
  · unfold nextPlace
    split
    · next hdots =>
      obtain ⟨rfl, -⟩ := hplain (by rw [hdots]; decide)
      intro heq
      have hlength := congrArg List.length heq
      simp only [List.foldl_nil, List.length_append, List.length_singleton,
        List.length_dropLast] at hlength
      omega
    · intro heq
      obtain ⟨-, hname⟩ := List.append_inj' heq rfl
      obtain rfl := (List.cons.inj hname).1
      exact absurd (hplain hslash).2 (lt_irrefl _)
  · rw [nextPlace_backupSuffix]
    intro heq
    obtain ⟨-, hname⟩ := List.append_inj' heq rfl
    rw [(List.cons.inj hname).1, String.toList_append] at hend
    simp [backupSuffix] at hend

end Names

/-! ## Stages -/

lemma write_eq (path : Path) (text : String) : Run.write path text = (do
    makeDirectories path.parent
    conclude path text (← prepare path) : RunM DiskM Unit) := by
  unfold Run.write prepare conclude copyAside
  simp only [bind_assoc]
  refine bind_congr fun _ => bind_congr fun backup => bind_congr fun k => ?_
  cases k.isSome <;> simp only [Bool.false_eq_true, ite_true, ite_false, pure_bind]

/-- A file has been copied: its copy has its content, and no log is written there. -/
structure Copied (path backup : Path) (d d' : Disk) : Prop where
  touches : Touches (· = placeOf d backup) d d'
  content : ∃ content, d'.get? (placeOf d path) = some (.file content) ∧
    d'.get? (placeOf d backup) = some (.file content)
  locate_path : d'.locate path = .ok (placeOf d path)
  locate_backup : d'.locate backup = .ok (placeOf d backup)
  unlogged : logPlace d' ≠ some (placeOf d backup)
  unstruck : d.strikes (.remove backup) = none

/-- How far a write has come when it makes the temporary file: a target that was there has been
copied, and nothing is at the place of the temporary file. -/
structure Staged (path : Path) (d mid : Disk) (p : Preparation) (q : Place) : Prop where
  backup : backupPath path = .ok p.backup
  kind : ∃ k, d.kind? path = .ok k ∧ k.isSome = p.existed
  name : ∃ token, p.temporary = temporaryPath path token
  copied : p.existed = true → Copied path p.backup d mid
  fresh : p.existed = false → mid = d
  held : LogHeld mid
  beside : mid.locate p.temporary = .ok q
  vacant : mid.get? q = none

section Preparing

variable {q : Place} {u : Unit}

lemma unstruck_of_step {c : FileChange} (h : d.step c = (.ok u, d')) : d.strikes c = none := by
  unfold Disk.step at h
  split at h
  · cases h
  · assumption

lemma vacant_of_step_remove {p : Path} (h : d.step (.remove path) = (.error (.notFound p), d'))
    (hq : d.locate path = .ok q) : d.strikes (.remove path) = none ∧ d.get? q = none := by
  unfold Disk.step at h
  split at h
  · cases h
  · next hstrikes =>
    refine ⟨hstrikes, ?_⟩
    cases hget : d.get? q with
    | none => rfl
    | some node => cases node <;> simp [Disk.apply, Disk.remove, hq, hget, bind, Except.bind,
        pure, Except.pure, throw, throwThe, MonadExceptOf.throw] at h

/-- Nothing is left where a file was to be removed, and no log is written there. -/
lemma Ends.of_removal (h : Ends (removeIfPresent path) d u d') (hq : d.locate path = .ok q) :
    d.strikes (.remove path) = none ∧ d'.get? q = none ∧ (LogHeld d → logPlace d' ≠ some q) := by
  obtain ⟨r, mid, hattempt, hrest⟩ := h.of_bind
  have hstep := hattempt.of_attempt
  split at hrest
  · obtain ⟨-, rfl⟩ := hrest.of_pure
    obtain ⟨q', content, hq', hget, rfl⟩ := remove_eq_ok (apply_of_step hstep)
    obtain rfl := Except.ok.inj (hq'.symm.trans hq)
    have hfile : d.get? q' ≠ some .directory := by simp [hget]
    refine ⟨unstruck_of_step hstep, (get?_erase (ne_nil_of_get? hfile) q').trans (if_pos rfl),
      fun _ hlog => ?_⟩
    rw [logPlace_moveLog] at hlog
    split at hlog
    · cases hlog
    · next hother => exact hother hlog
  · obtain ⟨-, rfl⟩ := hrest.of_pure
    obtain ⟨hstrikes, hnone⟩ := vacant_of_step_remove hstep hq
    obtain rfl := eq_of_step_error (fun _ => rfl) hstep
    refine ⟨hstrikes, hnone, fun hheld hlog => ?_⟩
    obtain ⟨content, hget⟩ := hheld q hlog
    cases hnone.symm.trans hget
  · exact absurd hrest not_ends_throw

lemma Ends.copied_of_backUp {backup : Path} (h : Ends (backUp path backup) d u d')
    (hne : placeOf d backup ≠ placeOf d path) (hheld : LogHeld d) : Copied path backup d d' := by
  obtain ⟨v, noted, hnote, hrest⟩ := h.of_bind
  obtain ⟨w, cleared, hclear, hcopy⟩ := hrest.of_bind
  obtain ⟨content, hread, hwrite⟩ := ok_of_bind hcopy.of_change
  obtain ⟨b, hb, hfile, rfl⟩ := write_eq_ok hwrite
  obtain ⟨t, ht, hget⟩ := read_eq_ok_iff.mp hread
  have hnoted : Touches (· = placeOf d backup) d noted := hnote.eq_record ▸ touches_record d _
  have hcleared := hclear.touches_removal.1
  rw [hnoted.placeOf_eq] at hcleared
  have hbefore := hnoted.trans hcleared
  obtain rfl : placeOf d backup = b := by rw [← hbefore.placeOf_eq, placeOf_of_locate hb]
  obtain rfl : placeOf d path = t := by rw [← hbefore.placeOf_eq, placeOf_of_locate ht]
  obtain ⟨hstrikes, -, hlog⟩ := hclear.of_removal (hcleared.locate_ok_before hb)
  have hput : Touches (· = placeOf d backup) cleared (cleared.put _ (.file content)) :=
    touches_put (P := (· = placeOf d backup)) rfl hfile content
  exact {
    touches := hbefore.trans hput
    content := ⟨content, by rw [get?_put (ne_nil_of_get? hfile), if_neg hne.symm, hget],
      by rw [get?_put (ne_nil_of_get? hfile), if_pos rfl]⟩
    locate_path := hput.locate_ok ht
    locate_backup := hput.locate_ok hb
    unlogged := hlog (hnote.eq_record ▸ hheld.record _)
    unstruck := by rw [← hnoted.strikes_eq, hstrikes] }

/-- What has been copied was a file before. -/
lemma Copied.file_before {backup : Path} (h : Copied path backup d d')
    (hne : placeOf d backup ≠ placeOf d path) :
    ∃ content, d.get? (placeOf d path) = some (.file content) := by
  obtain ⟨content, hcontent, -⟩ := h.content
  rcases h.touches.appended _ hne.symm with heq | ⟨before, more, hbefore, -⟩
  · exact ⟨content, heq ▸ hcontent⟩
  · exact ⟨before, hbefore⟩

lemma leaves_copyAside (d : Disk) (path backup : Path) (existed : Bool) :
    Leaves (Touches (· = placeOf d backup)) (copyAside path backup existed) d := by
  cases existed with
  | false => exact fun _ => .refl d
  | true => exact leaves_backUp d path backup

lemma Ends.name_of_createTemporary {temporary : Path} {tries token : Nat}
    (h : Ends (createTemporary path tries token) d temporary d') :
    ∃ token, temporary = temporaryPath path token := by
  induction tries generalizing token d with
  | zero => exact absurd h not_ends_throw
  | succ tries ih =>
    obtain ⟨r, mid, -, hrest⟩ := h.of_bind
    split at hrest
    · exact ⟨token, hrest.of_pure.1⟩
    · exact ih hrest
    · exact absurd hrest not_ends_throw

/-- No file is made if none can be. -/
lemma eq_of_createTemporary_error {cause : RunError} {tries token : Nat}
    (h : exec (createTemporary path tries token) records d = ((.error cause, records'), d')) :
    d' = d := by
  induction tries generalizing token records d with
  | zero =>
    cases h
    rfl
  | succ tries ih =>
    rw [createTemporary, exec_bind, exec_attempt] at h
    rcases hstep : d.step (.create (path.parent.child (temporaryName path.name token)))
      with ⟨r, mid⟩
    rw [hstep] at h
    dsimp only at h
    split at h
    · cases h
    · obtain rfl := eq_of_step_error (fun _ => rfl) hstep
      exact ih h
    · cases h
      exact eq_of_step_error (fun _ => rfl) hstep

/-- A preparation that fails has made a copy at most. -/
lemma touches_of_prepare_error {cause : RunError}
    (h : exec (prepare path) records d = ((.error cause, records'), d')) :
    Touches (· ∈ copyPlaces d path) d d' := by
  rw [prepare, exec_bind, exec_lift] at h
  unfold copyPlaces
  cases hbackup : backupPath path with
  | error e =>
    rw [hbackup] at h
    cases h
    exact .refl d
  | ok backup =>
    rw [hbackup] at h
    change exec (kind? path >>= _) records d = _ at h
    rw [exec_bind, exec_kind?] at h
    cases hkind : d.kind? path with
    | error e =>
      rw [hkind] at h
      cases h
      exact .refl d
    | ok k =>
      rw [hkind] at h
      change exec (copyAside path backup k.isSome >>= _) records d = _ at h
      have htouches : Touches (· ∈ [placeOf d backup]) d (exec (copyAside path backup k.isSome)
          records d).2 := (leaves_copyAside d path backup k.isSome records).mono (by simp)
      rw [exec_bind] at h
      rcases hcopy : exec (copyAside path backup k.isSome) records d with ⟨⟨e | v, first⟩, copied⟩
      · rw [hcopy] at h htouches
        cases h
        exact htouches
      · rw [hcopy] at h htouches
        dsimp only at h
        rw [exec_bind] at h
        rcases hcreate : exec (createTemporary path maxTokens 0) first copied with
          ⟨⟨e | temporary, second⟩, made⟩
        · rw [hcreate] at h
          cases h
          rwa [eq_of_createTemporary_error hcreate]
        · rw [hcreate] at h
          cases h

lemma Ends.of_prepare {p : Preparation} (h : Ends (prepare path) d p d') (hheld : LogHeld d) :
    ∃ mid q, Staged path d mid p q ∧ d' = mid.put q (.file .empty) := by
  obtain ⟨backup, mid, hlift, hasking⟩ := h.of_bind
  obtain ⟨hbackup, rfl⟩ := hlift.of_lift
  obtain ⟨k, mid', hkind, hcopying⟩ := hasking.of_bind
  obtain ⟨hk, rfl⟩ := hkind.of_kind?
  obtain ⟨v, copied, hcopy, hcreating⟩ := hcopying.of_bind
  obtain ⟨temporary, made, hcreate, hpure⟩ := hcreating.of_bind
  obtain ⟨rfl, rfl⟩ := hpure.of_pure
  obtain ⟨q, hq, hvacant, rfl⟩ := hcreate.of_createTemporary
  have hbackup' : backupPath path = .ok backup := eq_ok_of_mapError hbackup
  have hkept : (k.isSome = true → Copied path backup mid' copied) ∧
      (k.isSome = false → copied = mid') ∧ LogHeld copied := by
    cases hexisted : k.isSome with
    | true =>
      rw [hexisted] at hcopy
      have hbackUp : Ends (backUp path backup) mid' v copied := hcopy
      refine ⟨fun _ => ?_, nofun, hbackUp.touches_backUp.2 hheld⟩
      exact hbackUp.copied_of_backUp (placeOf_backup_ne hbackup' mid') hheld
    | false =>
      rw [hexisted] at hcopy
      obtain ⟨-, rfl⟩ := Ends.of_pure hcopy
      exact ⟨nofun, fun _ => rfl, hheld⟩
  exact ⟨copied, q, ⟨hbackup', ⟨k, hk, rfl⟩, hcreate.name_of_createTemporary, hkept.1, hkept.2.1,
    hkept.2.2, hq, hvacant⟩, rfl⟩

end Preparing

section Concluding

variable {mid filled : Disk} {p : Preparation} {q b t : Place} {content : ByteArray}

lemma Staged.touches (h : Staged path d mid p q) : Touches (· = placeOf d p.backup) d mid := by
  cases hexisted : p.existed with
  | true => exact (h.copied hexisted).touches
  | false =>
    rw [h.fresh hexisted]
    exact .refl d

lemma Staged.place_eq (h : Staged path d mid p q) : q = placeOf d p.temporary := by
  rw [← h.touches.placeOf_eq, placeOf_of_locate h.beside]

lemma Staged.place_ne (h : Staged path d mid p q) :
    q ≠ placeOf d path ∧ q ≠ placeOf d p.backup := by
  obtain ⟨token, htoken⟩ := h.name
  rw [h.place_eq, htoken]
  exact placeOf_temporary_ne h.backup d token

lemma Staged.touches_emptied (h : Staged path d mid p q) :
    Touches (· = q) mid (mid.put q (.file .empty)) :=
  touches_put (P := (· = q)) rfl (by simp [h.vacant]) .empty

/-- A file that could not be filled, or not be moved, is still there, and no other file is
touched. -/
lemma touches_of_fill_error {temporary : Path} {cause : RunError} (hq : d.locate temporary = .ok q)
    (hget : d.get? q = some (.file content))
    (h : exec (fillAndReplace temporary path text) records d = ((.error cause, records'), d')) :
    Touches (· = q) d d' ∧ ∃ content, d'.get? q = some (.file content) := by
  have hwritten := touches_step_write d temporary text.toUTF8
  rw [placeOf_of_locate hq] at hwritten
  obtain ⟨content', hfile⟩ := file_of_step_write hget temporary text.toUTF8
  rw [fillAndReplace, exec_bind, exec_change] at h
  rcases hstep : d.step (.write temporary text.toUTF8) with ⟨e | v, written⟩
  · rw [hstep] at h hwritten hfile
    cases h
    exact ⟨hwritten, content', hfile⟩
  · rw [hstep] at h hwritten hfile
    change exec (writeNote .debug _ >>= fun _ => change (.replace temporary path)) records written
      = _ at h
    rw [exec_bind, writeNote, exec_recording] at h
    dsimp only at h
    rw [exec_change] at h
    generalize hnoted : written.record _ = noted at h
    have hrecord : Touches (fun _ => False) written noted := hnoted ▸ touches_record written _
    rcases hreplace : noted.step (.replace temporary path) with ⟨e | v, after⟩
    · rw [hreplace] at h
      cases h
      obtain rfl := eq_of_step_error (fun _ => rfl) hreplace
      obtain ⟨more, hmore⟩ := (hrecord.appended q id).file hfile
      exact ⟨hwritten.trans (hrecord.mono nofun), _, hmore⟩
    · rw [hreplace] at h
      cases h

lemma step_remove (hq : d.locate path = .ok q) (hget : d.get? q = some (.file content))
    (hstrikes : d.strikes (.remove path) = none) :
    d.step (.remove path) = (.ok ⟨⟩, (d.erase q).moveLog q none) := by
  refine step_eq_ok hstrikes ?_
  simp [Disk.apply, Disk.remove, hq, hget, bind, Except.bind, pure, Except.pure]

lemma exec_removeIfPresent (hq : d.locate path = .ok q) (hget : d.get? q = some (.file content))
    (hstrikes : d.strikes (.remove path) = none) :
    exec (removeIfPresent path) records d = ((.ok ⟨⟩, records), (d.erase q).moveLog q none) := by
  rw [removeIfPresent, exec_bind, exec_attempt, step_remove hq hget hstrikes]
  rfl

lemma step_replace {source target : Path} (hb : d.locate source = .ok b)
    (hget : d.get? b = some (.file content)) (ht : d.locate target = .ok t)
    (hfile : d.get? t ≠ some .directory) (hne : b ≠ t)
    (hstrikes : d.strikes (.replace source target) = none) :
    d.step (.replace source target) = (.ok ⟨⟩,
      (((d.moveLog t none).moveLog b (some t)).erase b).put t (.file content)) := by
  have hread : d.read source = .ok content := read_eq_ok_iff.mpr ⟨b, hb, hget⟩
  have hkind : (d.get? t).map Node.kind ≠ some .directory := by
    intro hkind
    obtain ⟨node, hnode, hdirectory⟩ := Option.map_eq_some_iff.mp hkind
    cases node with
    | directory => exact hfile hnode
    | file content => cases hdirectory
  refine step_eq_ok hstrikes ?_
  simp [Disk.apply, Disk.replace, hread, hb, ht, hkind, hne, bind, Except.bind, pure, Except.pure]

/-- The copy of a file takes its place again, wherever the log is written. -/
lemma exec_putBack {backup : Path} (records : List LogRecord) (hb : d.locate backup = .ok b)
    (hget : d.get? b = some (.file content)) (ht : d.locate path = .ok t)
    (hfile : d.get? t ≠ some .directory) (hne : b ≠ t) (hlog : logPlace d ≠ some b)
    (hstrikes : d.strikes (.replace backup path) = none) (r : LogRecord) :
    ∃ records' after, exec (do
        Run.note r
        change (.replace backup path)) records d = ((.ok ⟨⟩, records'), after) ∧
      Touches (fun q => q = t ∨ q = b) d after ∧ after.get? t = some (.file content) ∧
      logPlace after ≠ some t := by
  have hnoted : Touches (fun _ => False) d (d.record r) := touches_record d r
  have hlogs := onlyLogs_record d r
  have hget' : (d.record r).get? b = some (.file content) := (hlogs.same b hlog).trans hget
  have hfile' : (d.record r).get? t ≠ some .directory := by
    rcases hnoted.appended t id with heq | ⟨before, more, -, hmore⟩
    · rwa [heq]
    · simp [hmore]
  have hcopied : (d.record r).get? b ≠ some .directory := by simp [hget']
  have hmoved : logPlace (((((d.record r).moveLog t none).moveLog b (some t)).erase b).put t
      (.file content)) = _ := logPlace_replace hne
  refine ⟨records ++ [r], _, ?_, (hnoted.mono nofun).trans (touches_replace
    (P := fun q => q = t ∨ q = b) (.inr rfl) (.inl rfl) hne hcopied hfile' content), ?_, ?_⟩
  · rw [exec_bind, exec_recording]
    dsimp only
    rw [exec_change, step_replace (hnoted.locate_ok hb) hget' (hnoted.locate_ok ht) hfile' hne
      (by rw [hnoted.strikes_eq, hstrikes])]
    rfl
  · rw [get?_put (ne_nil_of_get? hfile'), if_pos rfl]
  · rw [hmoved, hlogs.logPlace_eq, if_neg hlog]
    split_ifs with hplace
    · exact nofun
    · exact hplace

/-- The temporary file that could not be put in place is removed again. What is left is the disk
before it was made, with lines in the log at most. -/
lemma Staged.exec_removeTemporary {cause : RunError} (hs : Staged path d mid p q)
    (htaken : TakesBack d path)
    (h : exec (fillAndReplace p.temporary path text) records (mid.put q (.file .empty)) =
      ((.error cause, records'), filled)) :
    ∃ gone, Touches (fun _ => False) mid gone ∧ ∀ later,
      exec (removeIfPresent p.temporary) later filled = ((.ok ⟨⟩, later), gone) := by
  have hemptied := hs.touches_emptied
  have hempty : (mid.put q (.file .empty)).get? q = some (.file .empty) := by
    have hvacant : mid.get? q ≠ some .directory := by simp [hs.vacant]
    rw [get?_put (ne_nil_of_get? hvacant), if_pos rfl]
  obtain ⟨hfilled, content, hcontent⟩ :=
    touches_of_fill_error (hemptied.locate_ok hs.beside) hempty h
  have hall := hemptied.trans hfilled
  obtain ⟨token, htoken⟩ := hs.name
  have hstrikes : filled.strikes (.remove p.temporary) = none := by
    rw [hall.strikes_eq, hs.touches.strikes_eq, htoken]
    exact htaken.temporary token
  have hfile : filled.get? q ≠ some .directory := by simp [hcontent]
  have hremoved := hall.trans (touches_remove (P := (· = q)) rfl hfile)
  refine ⟨(filled.erase q).moveLog q none, ?_, fun _ =>
    exec_removeIfPresent (hall.locate_ok hs.beside) hcontent hstrikes⟩
  refine Touches.restrict (hremoved.mono fun _ hq => .inl hq) ?_ ?_
  · rw [hs.vacant]
    exact (get?_erase (ne_nil_of_get? hfile) q).trans (if_pos rfl)
  · rw [logPlace_moveLog]
    split_ifs with hlog
    · exact nofun
    · exact hlog

/-- Where only lines in the log have come since a file was copied, its copy takes its place again,
and the file is as it was before it was copied. -/
lemma Copied.exec_restore {backup : Path} {gone : Disk} (hc : Copied path backup d mid)
    (hne : placeOf d backup ≠ placeOf d path) (hgone : Touches (fun _ => False) mid gone)
    (hstrikes : gone.strikes (.replace backup path) = none) (r : LogRecord)
    (later : List LogRecord) :
    ∃ after records', exec (do
        if (← kind? backup).isSome then
          Run.note r
          change (.replace backup path)) later gone = ((.ok ⟨⟩, records'), after) ∧
      Touches (· = placeOf d backup) d after := by
  obtain ⟨content, hpath, hcopy⟩ := hc.content
  have hback : gone.get? (placeOf d backup) = some (.file content) :=
    (hgone.get?_eq id hc.unlogged).trans hcopy
  have htarget : gone.get? (placeOf d path) ≠ some .directory := by
    obtain ⟨more, hmore⟩ := (hgone.appended _ id).file hpath
    simp [hmore]
  have hunlogged : logPlace gone ≠ some (placeOf d backup) := fun hlog =>
    (hgone.log _ hlog).elim id hc.unlogged
  have hkind : gone.kind? backup = .ok (some .file) := kind?_eq_file_iff.mpr
    ⟨content, read_eq_ok_iff.mpr ⟨_, hgone.locate_ok hc.locate_backup, hback⟩⟩
  obtain ⟨records', after, hrun, htouches, hrestored, hlog⟩ :=
    exec_putBack later (hgone.locate_ok hc.locate_backup) hback
      (hgone.locate_ok hc.locate_path) htarget hne hunlogged hstrikes r
  refine ⟨after, records', ?_, ?_⟩
  · rw [exec_bind, exec_kind?, hkind]
    exact hrun
  · have hwhole : Touches (fun q => q = placeOf d path ∨ q = placeOf d backup) d after :=
      (hc.touches.mono fun _ hq => .inr hq).trans ((hgone.mono nofun).trans htouches)
    -- where the log is written to the file itself, the lines since are lost with its copy
    by_cases hlogged : logPlace d = some (placeOf d path)
    · refine hwhole.restrict_log hlogged ?_
      rw [hrestored, ← hpath]
      exact hc.touches.appended _ hne.symm
    · refine hwhole.restrict ?_ hlog
      rw [hrestored, ← hpath]
      exact hc.touches.get?_eq hne.symm hlogged

/-- When the temporary file could not be put in place, it is removed again, and the target is as it
was. -/
lemma Staged.restored {cause : RunError} (hs : Staged path d mid p q) (htaken : TakesBack d path)
    (h : exec (fillAndReplace p.temporary path text) records (mid.put q (.file .empty)) =
      ((.error cause, records'), filled)) (later : List LogRecord) :
    ∃ after records', exec (restore p.temporary path p.backup p.existed) later filled =
      ((.ok ⟨⟩, records'), after) ∧ Touches (· ∈ copyPlaces d path) d after := by
  obtain ⟨gone, hgone, hremove⟩ := hs.exec_removeTemporary htaken h
  rw [restore, exec_bind, hremove]
  cases hexisted : p.existed with
  | false =>
    obtain rfl := hs.fresh hexisted
    exact ⟨gone, later, rfl, hgone.mono nofun⟩
  | true =>
    have hstrikes : gone.strikes (.replace p.backup path) = none := by
      rw [hgone.strikes_eq, hs.touches.strikes_eq]
      exact htaken.copy p.backup hs.backup
    obtain ⟨after, records', hrun, htouches⟩ := (hs.copied hexisted).exec_restore
      (placeOf_backup_ne hs.backup d) hgone hstrikes
      ⟨.warning, "writer", "Write to " ++ path.text ++ " failed; restoring previous version"⟩ later
    have hcopies : ∀ place, place = placeOf d p.backup → place ∈ copyPlaces d path := by
      rintro place rfl
      simp [copyPlaces, hs.backup]
    exact ⟨after, records', hrun, htouches.mono hcopies⟩

/-- When the content has been put in place, the temporary file has come and gone, and the target is
the only file that is another one. -/
lemma Staged.target_filled {u : Unit} (hs : Staged path d mid p q)
    (h : Ends (fillAndReplace p.temporary path text) (mid.put q (.file .empty)) u filled) :
    mid.locate path = .ok (placeOf d path) ∧ Touches (· = placeOf d path) mid filled ∧
      filled.get? (placeOf d path) = some (.file text.toUTF8) := by
  have hemptied := hs.touches_emptied
  obtain ⟨here, there, hhere, hthere, hfilled, hgone, htext⟩ := h.of_fillAndReplace
  obtain rfl : q = here := Except.ok.inj ((hemptied.locate_ok hs.beside).symm.trans hhere)
  obtain rfl : placeOf d path = there := by
    rw [← hs.touches.placeOf_eq, ← hemptied.placeOf_eq, placeOf_of_locate hthere]
  obtain ⟨hnone, hlog⟩ := hgone hs.place_ne.1
  have hunlogged : logPlace (mid.put q (.file .empty)) ≠ some q := by
    intro hplace
    obtain ⟨content, hget⟩ := hs.held q hplace
    cases hs.vacant.symm.trans hget
  exact ⟨hemptied.locate_ok_before hthere,
    Touches.restrict ((hemptied.mono fun _ hq => .inl hq).trans hfilled)
      (hnone.trans hs.vacant.symm) hlog, (htext hunlogged).1⟩

/-- A target that was not there before has been made. -/
lemma Staged.settles_fresh (hs : Staged path d mid p q) (hexisted : p.existed = false)
    (hpath : mid.locate path = .ok (placeOf d path))
    (hplaced : Touches (· = placeOf d path) mid filled)
    (htarget : filled.get? (placeOf d path) = some (.file text.toUTF8)) :
    Settles path text d filled := by
  obtain rfl := hs.fresh hexisted
  obtain ⟨k, hkind, hk⟩ := hs.kind
  have hvacant : mid.get? (placeOf mid path) = none := by
    rw [Disk.kind?, hpath] at hkind
    have hmap := Except.ok.inj hkind
    rw [hexisted, ← hmap] at hk
    simpa using hk
  exact {
    named := ⟨_, hs.backup⟩
    target := htarget
    plain := by simp [hvacant]
    existed := fun hsome => absurd hvacant hsome
    vacant := fun _ => hplaced }

/-- A target that was there before is another one, and its copy can be removed. -/
lemma Copied.settles_removed {backup : Path} (hc : Copied path backup d mid)
    (hbackup : backupPath path = .ok backup) (hplaced : Touches (· = placeOf d path) mid filled)
    (htarget : filled.get? (placeOf d path) = some (.file text.toUTF8))
    (later : List LogRecord) :
    ∃ after, exec (removeIfPresent backup) later filled = ((.ok ⟨⟩, later), after) ∧
      Settles path text d after := by
  obtain ⟨content, -, hcopy⟩ := hc.content
  have hne := placeOf_backup_ne hbackup d
  obtain ⟨old, hold⟩ := hc.file_before hne
  have hback : filled.get? (placeOf d backup) = some (.file content) :=
    (hplaced.get?_eq hne hc.unlogged).trans hcopy
  have hfile : filled.get? (placeOf d backup) ≠ some .directory := by simp [hback]
  have hunstruck : filled.strikes (.remove backup) = none := by
    rw [hplaced.strikes_eq, hc.touches.strikes_eq]
    exact hc.unstruck
  have hcopies : copyPlaces d path = [placeOf d backup] := by simp [copyPlaces, hbackup]
  have hgone := get?_erase (d := filled) (ne_nil_of_get? hfile)
  refine ⟨_, exec_removeIfPresent (hplaced.locate_ok hc.locate_backup) hback hunstruck, {
    named := ⟨_, hbackup⟩
    target := (hgone _).trans ((if_neg hne.symm).trans htarget)
    plain := by simp [hold]
    existed := fun _ => ⟨?_, ?_⟩
    vacant := fun hvacant => by cases hold.symm.trans hvacant }⟩
  · rw [hcopies]
    refine (hc.touches.mono (by simp)).trans ((hplaced.mono (by simp)).trans ?_)
    exact touches_remove (P := fun q => q = placeOf d path ∨ q ∈ [placeOf d backup])
      (by simp) hfile
  · rw [hcopies]
    rintro place hplace
    obtain rfl := List.mem_singleton.mp hplace
    exact (hgone _).trans (if_pos rfl)

/-- When the content has been put in place, the copy is removed. -/
lemma Staged.finished {u : Unit} (hs : Staged path d mid p q)
    (h : Ends (fillAndReplace p.temporary path text) (mid.put q (.file .empty)) u filled)
    (later : List LogRecord) :
    ∃ after records', exec (if p.existed = true then removeIfPresent p.backup else pure ⟨⟩) later
      filled = ((.ok ⟨⟩, records'), after) ∧ Settles path text d after := by
  obtain ⟨hpath, hplaced, htarget⟩ := hs.target_filled h
  cases hexisted : p.existed with
  | false => exact ⟨filled, later, rfl, hs.settles_fresh hexisted hpath hplaced htarget⟩
  | true =>
    obtain ⟨after, hrun, hsettles⟩ :=
      (hs.copied hexisted).settles_removed hs.backup hplaced htarget later
    exact ⟨after, later, hrun, hsettles⟩

end Concluding

/-! ## Whole writes -/

/-- With the directories in place, a write fails as its steps do and then has touched the copy at
most, or else it has settled. -/
lemma write_outcome (hheld : LogHeld d) (htaken : TakesBack d path) (text : String)
    (records : List LogRecord) :
    let run := exec (prepare path >>= conclude path text) records d
    match (exec (prepare path >>= fun p => fillAndReplace p.temporary path text) records d).1.1 with
    | .error cause => run.1.1 = .error cause ∧ Touches (· ∈ copyPlaces d path) d run.2
    | .ok _ => run.1.1 = .ok ⟨⟩ ∧ Settles path text d run.2 := by
  dsimp only
  rw [exec_bind, exec_bind]
  rcases hprepare : exec (prepare path) records d with ⟨⟨cause | p, first⟩, ready⟩
  · exact ⟨rfl, touches_of_prepare_error hprepare⟩
  · obtain ⟨mid, q, hs, rfl⟩ := Ends.of_prepare ⟨records, first, hprepare⟩ hheld
    dsimp only
    rw [conclude, exec_bind, exec_tryCatch]
    rcases hfill : exec (fillAndReplace p.temporary path text) first (mid.put q (.file .empty)) with
      ⟨⟨cause | u, second⟩, filled⟩
    · obtain ⟨after, third, hrestore, htouches⟩ := hs.restored htaken hfill second
      dsimp only
      rw [exec_bind, hrestore]
      exact ⟨rfl, htouches⟩
    · obtain ⟨after, third, hremove, hsettles⟩ := hs.finished ⟨first, second, hfill⟩ second
      dsimp only
      rw [hremove]
      exact ⟨rfl, hsettles⟩

lemma placeOf_not_mem_copyPlaces (d : Disk) (path : Path) : placeOf d path ∉ copyPlaces d path := by
  unfold copyPlaces
  split
  · next backup hbackup => simpa using (placeOf_backup_ne hbackup d).symm
  · exact List.not_mem_nil

lemma temporary_not_mem_copyPlaces (d : Disk) (path : Path) (token : Nat) :
    placeOf d (temporaryPath path token) ∉ copyPlaces d path := by
  unfold copyPlaces
  split
  · next backup hbackup => simpa using (placeOf_temporary_ne hbackup d token).2
  · exact List.not_mem_nil

lemma MakesAt.copyPlaces_eq {P : Place → Prop} (h : MakesAt P d d') (path : Path) :
    copyPlaces d' path = copyPlaces d path := by
  unfold copyPlaces
  split
  · rw [h.placeOf_eq]
  · rfl

lemma KeepsFiles.file_iff {places : List Place} {q : Place} (h : KeepsFiles places d d')
    (hheld : LogHeld d) (hq : q ∉ places) : (∃ content, d'.get? q = some (.file content)) ↔
      ∃ content, d.get? q = some (.file content) := by
  by_cases hlog : logPlace d = some q
  · obtain ⟨content, hget⟩ := hheld q hlog
    obtain ⟨more, hmore⟩ := h.log q hq hlog content hget
    exact ⟨fun _ => ⟨content, hget⟩, fun _ => ⟨_, hmore⟩⟩
  · exact exists_congr (h.same q hq hlog)

section Whole

variable {made : Disk}

lemma MakesAt.unreplaced (hmade : MakesAt (OnWay d path.parent) d made) (hheld : LogHeld d)
    (h : Touches (· ∈ copyPlaces made path) made d') : Unreplaced path d d' := by
  rw [hmade.copyPlaces_eq] at h
  have hkeeps : KeepsFiles (copyPlaces d path) d d' :=
    keepsFiles_of_touches (.refl d) hmade.directories h fun q hq => hq
  have htarget := placeOf_not_mem_copyPlaces d path
  refine ⟨fun hlog => hkeeps.same _ htarget hlog, fun hvacant hway => ?_,
    fun token => hkeeps.file_iff hheld (temporary_not_mem_copyPlaces d path token), hkeeps⟩
  have hmade' : made.get? (placeOf d path) = none := (hmade.elsewhere _ hway).trans hvacant
  rcases h.appended _ htarget with heq | ⟨content, more, hfile, -⟩
  · exact heq.trans hmade'
  · cases hmade'.symm.trans hfile

lemma MakesAt.replaced (hmade : MakesAt (OnWay d path.parent) d made) (hheld : LogHeld d)
    (h : Settles path text made d') : Replaced path text d d' := by
  obtain ⟨⟨backup, hbackup⟩, htarget, hplain, hexisted, hvacant⟩ := h
  rw [hmade.placeOf_eq] at htarget hplain hexisted hvacant
  rw [hmade.copyPlaces_eq] at hexisted
  have hmadeVacant : d.get? (placeOf d path) = none → made.get? (placeOf d path) = none := by
    intro hnone
    rcases hmade.directories.made (placeOf d path) with heq | ⟨-, hdirectory⟩
    · exact heq.trans hnone
    · exact absurd hdirectory hplain
  have hmadeSome : d.get? (placeOf d path) ≠ none → made.get? (placeOf d path) ≠ none := by
    intro hsome
    obtain ⟨node, hnode⟩ := Option.ne_none_iff_exists'.mp hsome
    simp [hmade.directories.get?_some hnode]
  have hothers : d.get? (placeOf d path) ≠ none →
      KeepsFiles (placeOf d path :: copyPlaces d path) d d' := by
    intro hsome
    refine keepsFiles_of_touches (.refl d) hmade.directories (hexisted (hmadeSome hsome)).1 ?_
    exact fun q hq hplace => hq (List.mem_cons.mpr hplace)
  have halone : d.get? (placeOf d path) = none → KeepsFiles [placeOf d path] d d' := by
    intro hnone
    refine keepsFiles_of_touches (.refl d) hmade.directories (hvacant (hmadeVacant hnone)) ?_
    exact fun q hq hplace => hq (List.mem_singleton.mpr hplace)
  refine ⟨htarget, fun token => ?_, fun hsome => (hexisted (hmadeSome hsome)).2, hothers, halone⟩
  have hne := (placeOf_temporary_ne hbackup d token).1
  by_cases hnone : d.get? (placeOf d path) = none
  · exact (halone hnone).file_iff hheld (by simpa using hne)
  · refine (hothers hnone).file_iff hheld fun hmem => ?_
    exact (List.mem_cons.mp hmem).elim hne (temporary_not_mem_copyPlaces d path token)

end Whole

/-- A write replaces its target as a whole or not at all. If a step fails up to the one that puts
the new content in place, for whatever reason, the write fails with its error and leaves the target
as it was and no temporary file. If none of them fails, the write succeeds. -/
theorem write_atomic (hheld : LogHeld d) (htaken : TakesBack d path) (text : String)
    (records : List LogRecord) :
    match (exec (advance path text) records d).1.1 with
    | .error cause => (exec (Run.write path text) records d).1.1 = .error cause ∧
        Unreplaced path d (exec (Run.write path text) records d).2
    | .ok _ => (exec (Run.write path text) records d).1.1 = .ok ⟨⟩ ∧
        Replaced path text d (exec (Run.write path text) records d).2 := by
  rw [write_eq, advance, exec_bind, exec_bind]
  have hmade := leaves_makeDirectories d path.parent records
  rcases hdirs : exec (makeDirectories path.parent) records d with ⟨⟨cause | u, first⟩, made⟩
  · rw [hdirs] at hmade
    exact ⟨rfl, hmade.unreplaced hheld (.refl made)⟩
  · rw [hdirs] at hmade
    dsimp only at hmade ⊢
    have htaken' : TakesBack made path :=
      ⟨by rw [hmade.directories.setup.strikes]; exact htaken.temporary,
        by rw [hmade.directories.setup.strikes]; exact htaken.copy⟩
    have hrest := write_outcome (hmade.directories.logHeld hheld) htaken' text first
    rcases hresult : (exec (prepare path >>= fun p => fillAndReplace p.temporary path text) first
      made).1.1 with cause | v
    · rw [hresult] at hrest
      exact ⟨hrest.1, hmade.unreplaced hheld hrest.2⟩
    · rw [hresult] at hrest
      exact ⟨hrest.1, hmade.replaced hheld hrest.2⟩

/-- A disk with a target and a copy that was left there, on which some changes fail. -/
def struckDisk (strikes : FileChange → Option Nat) : Disk :=
  { nodeDisk with
    entries := [(["Proxy.cs"], .file "old".toUTF8), (["Proxy.cs.bak"], .file "stale".toUTF8)]
    strikes }

def struckPath : Path := ⟨.root, ["Proxy.cs"]⟩

/-- The new content is not put in place. -/
def replacementStrike : FileChange → Option Nat
  | .replace source _ => if source = temporaryPath struckPath 0 then some 0 else none
  | _ => none

/-- Only one byte of the new content is written. -/
def contentStrike : FileChange → Option Nat
  | .write .. => some 1
  | _ => none

lemma takesBack_replacementStrike : TakesBack (struckDisk replacementStrike) struckPath where
  temporary _ := rfl
  copy := by
    rintro _ ⟨⟩
    decide

lemma takesBack_contentStrike : TakesBack (struckDisk contentStrike) struckPath :=
  ⟨fun _ => rfl, fun _ _ => rfl⟩

/-- What comes of a write on this disk when a step fails, when a step fails half way, and when none
fails. -/
theorem write_atomic_struckDisk :
    let struck : RunError := .file (.refused "[Errno 5] Input/output error")
    let write := fun d => exec (Run.write struckPath "new") [] d
    ((write (struckDisk replacementStrike)).1.1 = .error struck ∧
      Unreplaced struckPath (struckDisk replacementStrike)
        (write (struckDisk replacementStrike)).2) ∧
    ((write (struckDisk contentStrike)).1.1 = .error struck ∧
      Unreplaced struckPath (struckDisk contentStrike) (write (struckDisk contentStrike)).2) ∧
    (write (struckDisk fun _ => none)).1.1 = .ok ⟨⟩ ∧
      Replaced struckPath "new" (struckDisk fun _ => none)
        (write (struckDisk fun _ => none)).2 := by
  have hheld : ∀ strikes, LogHeld (struckDisk strikes) := fun _ => logHeld_of_log_eq_none rfl
  have hunstruck : TakesBack (struckDisk fun _ => none) struckPath := ⟨fun _ => rfl, fun _ _ => rfl⟩
  exact ⟨write_atomic (hheld _) takesBack_replacementStrike "new" [],
    write_atomic (hheld _) takesBack_contentStrike "new" [],
    write_atomic (hheld _) hunstruck "new" []⟩

/-- An empty disk on which some changes fail. -/
def bareDisk (strikes : FileChange → Option Nat) : Disk :=
  { nodeDisk with entries := [], strikes }

/-- A target whose place is on the way to its directory. -/
def windingPath : Path := ⟨.here, ["x", "y", "..", "..", "x"]⟩

/-- An older copy cannot be removed. -/
def removalStrike : FileChange → Option Nat
  | .remove _ => some 0
  | _ => none

/-- The directories above a target may be made in its own place, and stay there when a step fails
after that, as the copy does in any case. -/
theorem write_makes_windingPath :
    let write := fun strikes => exec (Run.write windingPath "new") [] (bareDisk strikes)
    (∀ strikes, (bareDisk strikes).get? (placeOf (bareDisk strikes) windingPath) = none) ∧
      (write removalStrike).1.1 = .error (.file (.refused "[Errno 5] Input/output error")) ∧
      (write removalStrike).2.get? ["x"] = some .directory ∧
      (write fun _ => none).1.1 = .error (.file (.isDirectory windingPath)) ∧
      (write fun _ => none).2.get? ["x"] = some .directory ∧
      placeOf (bareDisk fun _ => none) windingPath = ["x"] :=
  ⟨fun _ => rfl, rfl, rfl, rfl, rfl, rfl⟩

end HubProxy.Proofs
