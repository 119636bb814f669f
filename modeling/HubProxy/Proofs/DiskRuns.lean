import HubProxy.Proofs.DiskFrames
import HubProxy.Run.Step

/-!
# Runs on a disk

A run on a disk step by step: what each step comes to and which disk it leaves. A run that ends well
is taken apart into steps that end well.
-/

namespace HubProxy.Proofs

open Run

/-- A step of a run on a disk: its result and the records, and the disk that it leaves. -/
def exec (x : RunM DiskM α) (records : List LogRecord) (d : Disk) :
    (Except RunError α × List LogRecord) × Disk :=
  (x.run.run records).run d

section Execution

variable (records : List LogRecord) (d : Disk)

@[simp] lemma exec_pure (a : α) : exec (pure a) records d = ((.ok a, records), d) := rfl

@[simp] lemma exec_throw (e : RunError) :
    exec (throw e : RunM DiskM α) records d = ((.error e, records), d) := rfl

lemma exec_bind (x : RunM DiskM α) (f : α → RunM DiskM β) :
    exec (x >>= f) records d = match exec x records d with
      | ((.ok a, records'), d') => exec (f a) records' d'
      | ((.error e, records'), d') => ((.error e, records'), d') := by
  have hrun : exec (x >>= f) records d = match (x.run.run records).run d with
      | ((result, records'), d') => ((ExceptT.bindCont f result).run records').run d' := rfl
  rw [hrun, exec]
  rcases (x.run.run records).run d with ⟨⟨e | a, records'⟩, d'⟩ <;> rfl

lemma exec_tryCatch (x : RunM DiskM α) (handle : RunError → RunM DiskM α) :
    exec (tryCatch x handle) records d = match exec x records d with
      | ((.ok a, records'), d') => ((.ok a, records'), d')
      | ((.error e, records'), d') => exec (handle e) records' d' := by
  have hrun : exec (tryCatch x handle) records d =
      exec (ExceptT.tryCatch x handle) records d := rfl
  rw [hrun]
  unfold exec ExceptT.tryCatch ExceptT.run ExceptT.mk
  rw [StateT.run_bind, StateT.run_bind]
  rcases h : (StateT.run x records).run d with ⟨⟨e | a, records'⟩, d'⟩
  · rfl
  · rfl

@[simp] lemma exec_lift (x : Except RunError α) :
    exec (liftM x : RunM DiskM α) records d = ((x, records), d) := by
  cases x <;> rfl

lemma exec_note (hlog : d.log = none) (r : LogRecord) :
    exec (Run.note r) records d = ((.ok ⟨⟩, records ++ [r]), d) := by
  have hrun : exec (Run.note r) records d = ((.ok ⟨⟩, records ++ [r]), d.record r) := rfl
  rw [hrun, Disk.record, hlog]

@[simp] lemma exec_attempt (c : FileChange) :
    exec (attempt c) records d = ((.ok (d.step c).1, records), (d.step c).2) := rfl

@[simp] lemma exec_kind? (path : Path) :
    exec (kind? path) records d = (((d.kind? path).mapError .file, records), d) := by
  have hrun : exec (kind? path) records d =
      exec (liftM ((d.kind? path).mapError RunError.file)) records d := rfl
  rw [hrun, exec_lift]

@[simp] lemma exec_homes : exec homes records d = ((.ok d.homes, records), d) := rfl

/-- The text of a file on a disk. -/
def textOf (d : Disk) (path : Path) : Except RunError String :=
  match d.read path with
  | .error e => .error (.file e)
  | .ok bytes =>
    match String.fromUTF8? bytes with
    | none => .error (.file .undecodable)
    | some text => .ok (String.ofList (Text.unifyBreaks text.toList))

@[simp] lemma exec_readText (path : Path) :
    exec (readText path) records d = ((textOf d path, records), d) := by
  have hread : exec (readText path) records d = exec (match d.read path with
      | .error e => throw (.file e)
      | .ok bytes =>
        match String.fromUTF8? bytes with
        | none => throw (.file .undecodable)
        | some text => pure (String.ofList (Text.unifyBreaks text.toList)) : RunM DiskM String)
      records d := rfl
  rw [hread, textOf]
  cases d.read path with
  | error e => rfl
  | ok bytes => cases h : String.fromUTF8? bytes <;> simp [h]

lemma exec_resolve (path : Path) : exec (Run.resolve path) records d =
    ((if path.holdsNull then .error (.file .nullInName)
      else .ok (path.resolveIn ⟨.root, d.directory⟩), records), d) := by
  unfold Run.resolve
  cases path.holdsNull <;> rfl

end Execution

/-- A step of a run can succeed on a disk and leave another one. -/
def Ends (x : RunM DiskM α) (d : Disk) (a : α) (d' : Disk) : Prop :=
  ∃ records records', exec x records d = ((.ok a, records'), d')

section Inversion

variable {d d' : Disk}

lemma Ends.of_bind {x : RunM DiskM α} {f : α → RunM DiskM β} {b : β} (h : Ends (x >>= f) d b d') :
    ∃ a mid, Ends x d a mid ∧ Ends (f a) mid b d' := by
  obtain ⟨records, records', h⟩ := h
  rw [exec_bind] at h
  rcases hx : exec x records d with ⟨⟨e | a, first⟩, mid⟩
  · rw [hx] at h
    cases h
  · rw [hx] at h
    exact ⟨a, mid, ⟨records, first, hx⟩, first, records', h⟩

lemma Ends.of_pure {a b : α} (h : Ends (pure a) d b d') : b = a ∧ d' = d := by
  obtain ⟨records, records', h⟩ := h
  cases h
  exact ⟨rfl, rfl⟩

lemma not_ends_throw {e : RunError} {a : α} : ¬Ends (throw e) d a d' := by
  rintro ⟨records, records', h⟩
  cases h

lemma Ends.of_lift {x : Except RunError α} {a : α} (h : Ends (liftM x) d a d') :
    x = .ok a ∧ d' = d := by
  obtain ⟨records, records', h⟩ := h
  rw [exec_lift] at h
  cases h
  exact ⟨rfl, rfl⟩

lemma eq_ok_of_mapError {ε ε' : Type} {f : ε → ε'} {x : Except ε α} {a : α}
    (h : x.mapError f = .ok a) : x = .ok a := by
  cases x with
  | error e => cases h
  | ok b =>
    cases h
    rfl

lemma Ends.eq_record {r : LogRecord} {u : Unit} (h : Ends (Run.note r) d u d') :
    d' = d.record r := by
  obtain ⟨records, records', h⟩ := h
  cases h
  rfl

lemma Ends.of_note {r : LogRecord} {u : Unit} (hlog : d.log = none) (h : Ends (Run.note r) d u d') :
    d' = d := by
  rw [h.eq_record, Disk.record, hlog]

lemma Ends.of_attempt {c : FileChange} {r : Except FileError Unit} (h : Ends (attempt c) d r d') :
    d.step c = (r, d') := by
  obtain ⟨records, records', h⟩ := h
  rw [exec_attempt] at h
  cases h
  rfl

lemma Ends.of_kind? {path : Path} {k : Option FileKind} (h : Ends (kind? path) d k d') :
    d.kind? path = .ok k ∧ d' = d := by
  obtain ⟨records, records', h⟩ := h
  rw [exec_kind?] at h
  have hkind : (d.kind? path).mapError RunError.file = .ok k :=
    congrArg (fun result => result.1.1) h
  exact ⟨eq_ok_of_mapError hkind, (congrArg Prod.snd h).symm⟩

/-- A change that is reported as made has been made. -/
lemma apply_of_step {c : FileChange} (h : d.step c = (.ok ⟨⟩, d')) : d.apply c = .ok d' := by
  unfold Disk.step at h
  split at h
  · cases h
  · cases ha : d.apply c with
    | error e =>
      rw [ha] at h
      cases h
    | ok after =>
      rw [ha] at h
      cases h
      rfl

lemma Ends.of_change {c : FileChange} {u : Unit} (h : Ends (change c) d u d') :
    d.apply c = .ok d' := by
  obtain ⟨r, mid, hattempt, hlift⟩ := h.of_bind
  obtain ⟨hr, rfl⟩ := hlift.of_lift
  cases r with
  | error e => cases hr
  | ok v => exact apply_of_step hattempt.of_attempt

/-- What has been tried succeeded if the other step always fails. -/
lemma Ends.of_tryCatch {x : RunM DiskM α} {handle : RunError → RunM DiskM α} {a : α}
    (h : Ends (tryCatch x handle) d a d') (hfail : ∀ e mid, ¬Ends (handle e) mid a d') :
    Ends x d a d' := by
  obtain ⟨records, records', h⟩ := h
  rw [exec_tryCatch] at h
  rcases hx : exec x records d with ⟨⟨e | b, first⟩, mid⟩
  · rw [hx] at h
    exact absurd ⟨first, records', h⟩ (hfail e mid)
  · rw [hx] at h
    exact ⟨records, records', hx.trans h⟩

end Inversion

/-- A step comes to some result whatever was logged before, and leaves the disk alone. -/
def ComesTo (x : RunM DiskM α) (d : Disk) (r : Except RunError α) : Prop :=
  ∀ records, ∃ records', exec x records d = ((r, records'), d)

/-- A step comes to one result on two disks, and leaves each of them alone. -/
def Alike (x : RunM DiskM α) (d d' : Disk) : Prop :=
  ∃ r, ComesTo x d r ∧ ComesTo x d' r

section Reading

variable {d d' : Disk}

lemma ComesTo.pure (a : α) : ComesTo (pure a) d (.ok a) := fun records => ⟨records, rfl⟩

lemma ComesTo.throw (e : RunError) : ComesTo (throw e : RunM DiskM α) d (.error e) :=
  fun records => ⟨records, rfl⟩

lemma ComesTo.lift (x : Except RunError α) : ComesTo (liftM x) d x :=
  fun records => ⟨records, exec_lift records d x⟩

lemma ComesTo.note (hlog : d.log = none) (r : LogRecord) : ComesTo (Run.note r) d (.ok ⟨⟩) :=
  fun records => ⟨records ++ [r], exec_note records d hlog r⟩

lemma ComesTo.kind? (path : Path) : ComesTo (Run.kind? path) d ((d.kind? path).mapError .file) :=
  fun records => ⟨records, exec_kind? records d path⟩

lemma ComesTo.homes : ComesTo Run.homes d (.ok d.homes) :=
  fun records => ⟨records, exec_homes records d⟩

lemma ComesTo.readText (path : Path) : ComesTo (Run.readText path) d (textOf d path) :=
  fun records => ⟨records, exec_readText records d path⟩

lemma ComesTo.bind {x : RunM DiskM α} {f : α → RunM DiskM β} {a : α} {r : Except RunError β}
    (hx : ComesTo x d (.ok a)) (hf : ComesTo (f a) d r) : ComesTo (x >>= f) d r := by
  intro records
  obtain ⟨first, hfirst⟩ := hx records
  obtain ⟨second, hsecond⟩ := hf first
  exact ⟨second, by rw [exec_bind, hfirst]; exact hsecond⟩

lemma ComesTo.bind_error {x : RunM DiskM α} {f : α → RunM DiskM β} {e : RunError}
    (hx : ComesTo x d (.error e)) : ComesTo (x >>= f) d (.error e) := by
  intro records
  obtain ⟨first, hfirst⟩ := hx records
  exact ⟨first, by rw [exec_bind, hfirst]⟩

lemma ComesTo.unique {x : RunM DiskM α} {r r' : Except RunError α} (h : ComesTo x d r)
    (h' : ComesTo x d r') : r = r' := by
  obtain ⟨first, hfirst⟩ := h []
  obtain ⟨second, hsecond⟩ := h' []
  rw [hfirst] at hsecond
  cases hsecond
  rfl

lemma ComesTo.eq_of_ends {x : RunM DiskM α} {r : Except RunError α} {a : α} (h : ComesTo x d r)
    (hends : Ends x d a d') : r = .ok a ∧ d' = d := by
  obtain ⟨records, records', hrun⟩ := hends
  obtain ⟨other, hother⟩ := h records
  rw [hother] at hrun
  cases hrun
  exact ⟨rfl, rfl⟩

lemma Alike.of_eq {x : RunM DiskM α} {r r' : Except RunError α} (h : ComesTo x d r)
    (h' : ComesTo x d' r') (heq : r = r') : Alike x d d' :=
  ⟨r, h, heq ▸ h'⟩

/-- The later step need be alike only after what the earlier one can come to. -/
lemma Alike.bind {x : RunM DiskM α} {f : α → RunM DiskM β} (hx : Alike x d d')
    (hf : ∀ a, ComesTo x d (.ok a) → Alike (f a) d d') : Alike (x >>= f) d d' := by
  obtain ⟨e | a, hx, hx'⟩ := hx
  · exact ⟨.error e, hx.bind_error, hx'.bind_error⟩
  · obtain ⟨r, hr, hr'⟩ := hf a hx
    exact ⟨r, hx.bind hr, hx'.bind hr'⟩

lemma Alike.pure (a : α) : Alike (Pure.pure a) d d' := .of_eq (.pure a) (.pure a) rfl

lemma Alike.throw (e : RunError) : Alike (MonadExcept.throw e : RunM DiskM α) d d' :=
  .of_eq (.throw e) (.throw e) rfl

lemma Alike.lift (x : Except RunError α) : Alike (liftM x) d d' := .of_eq (.lift x) (.lift x) rfl

lemma Alike.note (hlog : d.log = none) (hlog' : d'.log = none) (r : LogRecord) :
    Alike (Run.note r) d d' :=
  .of_eq (.note hlog r) (.note hlog' r) rfl

lemma Alike.forM {xs : List α} {f : α → RunM DiskM Unit} (h : ∀ x ∈ xs, Alike (f x) d d') :
    Alike (xs.forM f) d d' := by
  induction xs with
  | nil => exact Alike.pure ()
  | cons x xs ih =>
    exact (h x List.mem_cons_self).bind fun _ _ => ih fun y hy => h y (List.mem_cons_of_mem x hy)

end Reading

end HubProxy.Proofs
