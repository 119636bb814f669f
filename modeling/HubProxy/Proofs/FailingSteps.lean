import HubProxy.Proofs.WrittenFiles

/-!
# However a step ends

A step of a run leaves a disk behind whether it succeeds or fails, and a struck change may even have
been made in part. What a step leaves in either case is told by a relation between the disk that it
starts on and the disk that it leaves; relations that compose are carried from the changes to the
steps made of them.
-/

namespace HubProxy.Proofs

open Run

/-- However a step ends, the disk that it leaves is related to the one that it starts on. -/
def Leaves (R : Disk → Disk → Prop) (x : RunM DiskM α) (d : Disk) : Prop :=
  ∀ records, R d (exec x records d).2

/-- The place of a beginning of a path, which may be all of it. -/
def OnWay (d : Disk) (path : Path) (q : Place) : Prop :=
  ∃ parts, parts <+: path.parts ∧ placeOf d ⟨path.start, parts⟩ = q

/-- Nothing changes but that directories are made at places of some kind. -/
structure MakesAt (P : Place → Prop) (d d' : Disk) : Prop where
  directories : MakesDirectories d d'
  elsewhere : ∀ q, ¬P q → d'.get? q = d.get? q

variable {R : Disk → Disk → Prop} {P Q : Place → Prop} {d d' d'' : Disk} {path : Path} {q : Place}
  {records : List LogRecord}

/-! ## Relations between disks -/

lemma Leaves.bind {x : RunM DiskM α} {f : α → RunM DiskM β} (hx : Leaves R x d)
    (htrans : ∀ {d d' d''}, R d d' → R d' d'' → R d d'')
    (hf : ∀ a mid, R d mid → Leaves R (f a) mid) : Leaves R (x >>= f) d := by
  intro records
  have hfirst := hx records
  rw [exec_bind]
  rcases hrun : exec x records d with ⟨⟨e | a, records'⟩, mid⟩
  · rw [hrun] at hfirst
    exact hfirst
  · rw [hrun] at hfirst
    exact htrans hfirst (hf a mid hfirst records')

/-- A step that makes of the outcome of one change what it can, but no other change. -/
lemma leaves_attempt {c : FileChange} {f : Except FileError Unit → RunM DiskM β}
    (h : R d (d.step c).2) (hf : ∀ records mid, (exec (f (d.step c).1) records mid).2 = mid) :
    Leaves R (attempt c >>= f) d := by
  intro records
  rw [exec_bind, exec_attempt]
  dsimp only
  rw [hf]
  exact h

lemma exec_change (records : List LogRecord) (d : Disk) (c : FileChange) :
    exec (change c) records d = (((d.step c).1.mapError .file, records), (d.step c).2) := by
  rw [change, exec_bind, exec_attempt]
  exact exec_lift records (d.step c).2 _

lemma exec_recording (records : List LogRecord) (d : Disk) (r : LogRecord) :
    exec (Run.note r) records d = ((.ok ⟨⟩, records ++ [r]), d.record r) := rfl

lemma leaves_change {c : FileChange} (h : R d (d.step c).2) : Leaves R (change c) d :=
  fun records => by
    rw [exec_change]
    exact h

/-! ## Directories -/

lemma MakesAt.refl (d : Disk) : MakesAt P d d := ⟨.refl d, fun _ _ => rfl⟩

lemma MakesAt.trans (h : MakesAt P d d') (h' : MakesAt P d' d'') : MakesAt P d d'' where
  directories := h.directories.trans h'.directories
  elsewhere q hq := (h'.elsewhere q hq).trans (h.elsewhere q hq)

lemma MakesAt.placeOf_eq (h : MakesAt P d d') (path : Path) : placeOf d' path = placeOf d path :=
  h.directories.setup.placeOf_eq path

lemma makesAt_step (h : P (placeOf d path)) : MakesAt P d (d.step (.makeDirectory path)).2 := by
  rcases hstep : d.step (.makeDirectory path) with ⟨e | u, d'⟩
  · obtain rfl := eq_of_step_error (fun _ => rfl) hstep
    exact .refl d'
  · obtain ⟨q, hq, hvacant, rfl⟩ := make_eq_ok (apply_of_step hstep)
    rw [placeOf_of_locate hq] at h
    refine ⟨makesDirectories_put hvacant, fun p hp => ?_⟩
    have hfile : d.get? q ≠ some .directory := by simp [hvacant]
    have hne : p ≠ q := by
      rintro rfl
      exact hp h
    exact (get?_put (ne_nil_of_get? hfile) _ p).trans (if_neg hne)

lemma exec_unless_isDirectory (e : RunError) (records : List LogRecord) (d : Disk) :
    (exec (do unless ← isDirectory path do throw e) records d).2 = d := by
  rw [exec_bind, isDirectory, exec_bind, exec_kind?]
  cases d.kind? path with
  | error cause => rfl
  | ok k =>
    change (exec (if (k == some FileKind.directory) = true then pure PUnit.unit else throw e)
      records d).2 = d
    split <;> rfl

lemma leaves_ensure (h : P (placeOf d path)) :
    Leaves (MakesAt P) (makeDirectoriesFrom.ensure path) d := by
  refine leaves_attempt (makesAt_step h) fun records mid => ?_
  split
  · rfl
  · exact exec_unless_isDirectory _ records mid

lemma OnWay.of_parent (h : OnWay d path.parent q) : OnWay d path q := by
  obtain ⟨parts, hparts, hplace⟩ := h
  exact ⟨parts, hparts.trans (List.dropLast_prefix _), hplace⟩

lemma onWay_self (d : Disk) (path : Path) : OnWay d path (placeOf d path) :=
  ⟨path.parts, List.prefix_rfl, rfl⟩

/-- Directories are made on the way only, however many of them can be made. -/
lemma leaves_makeDirectoriesFrom {above : Nat} (h : ∀ q, OnWay d path q → P q) :
    Leaves (MakesAt P) (makeDirectoriesFrom above path) d := by
  induction above generalizing path d with
  | zero => exact leaves_ensure (h _ (onWay_self d path))
  | succ above ih =>
    intro records
    have hmade : MakesAt P d _ := makesAt_step (h _ (onWay_self d path))
    rw [makeDirectoriesFrom, exec_bind, exec_attempt]
    dsimp only
    split
    · exact hmade
    · have hparents : Leaves (MakesAt P) (makeDirectoriesFrom above path.parent >>= fun _ =>
          makeDirectoriesFrom.ensure path) (d.step (.makeDirectory path)).2 := by
        refine (ih fun q hq => ?_).bind MakesAt.trans fun _ mid hmid => leaves_ensure ?_
        · obtain ⟨parts, hparts, hplace⟩ := hq
          exact h q (OnWay.of_parent ⟨parts, hparts, by rw [← hplace, hmade.placeOf_eq]⟩)
        · rw [hmid.placeOf_eq, hmade.placeOf_eq]
          exact h _ (onWay_self d path)
      exact hmade.trans (hparents records)
    · rw [exec_unless_isDirectory]
      exact hmade

lemma leaves_makeDirectories (d : Disk) (path : Path) :
    Leaves (MakesAt (OnWay d path)) (makeDirectories path) d :=
  leaves_makeDirectoriesFrom fun _ hq => hq

/-! ## Files -/

lemma step_eq_ok {c : FileChange} (hstrikes : d.strikes c = none) (h : d.apply c = .ok d') :
    d.step c = (.ok ⟨⟩, d') := by
  simp only [Disk.step, hstrikes, h]

/-- What is touched by a change that is made as a whole, in part or not at all. -/
lemma touches_step {c : FileChange} (hwhole : ∀ d', d.apply c = .ok d' → Touches P d d')
    (hpart : ∀ bytes, Touches P d (d.applyPart bytes c)) : Touches P d (d.step c).2 := by
  unfold Disk.step
  split
  · exact hpart _
  · split
    · next hmade => exact hwhole _ hmade
    · exact .refl d

lemma touches_write {content : ByteArray} (h : d.write path content = .ok d') :
    Touches (· = placeOf d path) d d' := by
  obtain ⟨q, hq, hfile, rfl⟩ := write_eq_ok h
  exact touches_put (P := (· = placeOf d path)) (placeOf_of_locate hq).symm hfile content

lemma touches_write_getD (d : Disk) (path : Path) (content : ByteArray) :
    Touches (· = placeOf d path) d ((d.write path content).toOption.getD d) := by
  cases hwrite : d.write path content with
  | error e => exact .refl d
  | ok d' => exact touches_write hwrite

lemma touches_step_write (d : Disk) (path : Path) (content : ByteArray) :
    Touches (· = placeOf d path) d (d.step (.write path content)).2 :=
  touches_step (fun _ h => touches_write h) fun _ => touches_write_getD d path _

lemma touches_step_copy (d : Disk) (source target : Path) :
    Touches (· = placeOf d target) d (d.step (.copy source target)).2 := by
  refine touches_step (fun d' h => ?_) fun bytes => ?_
  · obtain ⟨content, -, hwrite⟩ := ok_of_bind h
    exact touches_write hwrite
  · unfold Disk.applyPart
    dsimp only
    split
    · exact .refl d
    · exact touches_write_getD d target _

lemma touches_step_remove (d : Disk) (path : Path) :
    Touches (· = placeOf d path) d (d.step (.remove path)).2 := by
  refine touches_step (fun d' h => ?_) fun _ => .refl d
  obtain ⟨q, content, hq, hget, rfl⟩ := remove_eq_ok h
  exact touches_remove (placeOf_of_locate hq).symm (by simp [hget])

lemma Touches.strikes_eq (h : Touches P d d') : d'.strikes = d.strikes := by
  obtain ⟨places, -, hchanges⟩ := h.changes
  exact hchanges.setup.strikes

/-- The log file need not be counted if it has only got lines. -/
lemma Touches.restrict_log (h : Touches (fun p => p = q ∨ P p) d d') (hlog : logPlace d = some q)
    (happended : Appended (d.get? q) (d'.get? q)) : Touches P d d' where
  changes := by
    obtain ⟨places, hplaces, hchanges⟩ := h.changes
    refine ⟨places, fun p hp => ?_, hchanges⟩
    rcases hplaces p hp with (rfl | hP) | hp'
    · exact .inr hlog
    · exact .inl hP
    · exact .inr hp'
  appended p hp := by
    by_cases hpq : p = q
    · rw [hpq]
      exact happended
    · exact h.appended p (not_or.mpr ⟨hpq, hp⟩)
  log p hp := by
    rcases h.log p hp with (rfl | hP) | hp'
    · exact .inr hlog
    · exact .inl hP
    · exact .inr hp'
  closed := h.closed

lemma leaves_removeIfPresent (d : Disk) (path : Path) :
    Leaves (Touches (· = placeOf d path)) (removeIfPresent path) d := by
  refine leaves_attempt (touches_step_remove d path) fun records mid => ?_
  split <;> rfl

lemma leaves_backUp (d : Disk) (path backup : Path) :
    Leaves (Touches (· = placeOf d backup)) (backUp path backup) d := by
  have hnote : Leaves (Touches (· = placeOf d backup)) (writeNote .debug
      ("Backing up " ++ path.text ++ " to " ++ backup.text)) d := fun _ => touches_record d _
  refine hnote.bind .trans fun _ noted hnoted => ?_
  have hclear := leaves_removeIfPresent noted backup
  rw [hnoted.placeOf_eq] at hclear
  refine hclear.bind .trans fun _ cleared hcleared => leaves_change ?_
  rw [← hnoted.placeOf_eq, ← hcleared.placeOf_eq]
  exact touches_step_copy cleared path backup

/-- A file is still one after a write, whatever becomes of that. -/
lemma file_of_step_write {content : ByteArray} (h : d.get? q = some (.file content)) (path : Path)
    (bytes : ByteArray) :
    ∃ content, (d.step (.write path bytes)).2.get? q = some (.file content) := by
  have hwrite : ∀ bytes d', d.write path bytes = .ok d' →
      ∃ content, d'.get? q = some (.file content) := by
    intro bytes d' hwrite
    obtain ⟨p, -, hfile, rfl⟩ := write_eq_ok hwrite
    rw [get?_put (ne_nil_of_get? hfile)]
    split
    · exact ⟨bytes, rfl⟩
    · exact ⟨content, h⟩
  unfold Disk.step
  split
  · next struck _ =>
    cases hpart : d.write path (bytes.extract 0 struck) with
    | error e => exact ⟨content, by simp only [Disk.applyPart, hpart]; exact h⟩
    | ok d' =>
      simp only [Disk.applyPart, hpart]
      exact hwrite _ d' hpart
  · split
    · next d' hmade => exact hwrite bytes d' hmade
    · exact ⟨content, h⟩

end HubProxy.Proofs
