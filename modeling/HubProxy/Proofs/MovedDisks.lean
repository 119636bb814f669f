import HubProxy.Proofs.LoggedDisks
import HubProxy.Proofs.ReadingRuns

/-!
# Runs in another directory

A path that is absolute leads to the same place from every directory. So a contract that is in a file at
such a path, or in a module that is known by its name, is read alike wherever the run takes place.
-/

namespace HubProxy.Proofs

open Run

/-- A disk on which relative paths are seen from another directory. -/
def movedTo (directory : Place) (d : Disk) : Disk :=
  { d with directory := directory }

/-- A step of a run does the same in every directory. -/
def Placeless (x : RunM DiskM α) : Prop :=
  ∀ records directory d, exec x records (movedTo directory d) =
    ((exec x records d).1, movedTo directory (exec x records d).2)

/-- A source is that of a file at a path. -/
def Opens (homes : Path.Homes) (source : String) (path : Path) : Prop :=
  ContractSource.ofText homes source = .ok (.document path) ∨
    ContractSource.ofText homes source = .ok (.moduleFile path)

variable {α β : Type} {directory : Place} {path : Path}

/-! ## Disks -/

lemma follow_movedTo (d : Disk) (path : Path) (place : Place) (names : List String) :
    (movedTo directory d).follow path place names = d.follow path place names := by
  induction names generalizing place with
  | nil => rfl
  | cons name names ih =>
    have hget : (movedTo directory d).get? place = d.get? place := rfl
    unfold Disk.follow
    rw [hget, ih, ih]

lemma locate_movedTo (h : path.isAbsolute = true) (d : Disk) :
    (movedTo directory d).locate path = d.locate path := by
  have hstart : path.start ≠ .here := by simpa [Path.isAbsolute] using h
  unfold Disk.locate
  rw [if_neg hstart, if_neg hstart, follow_movedTo]

lemma kind?_movedTo (h : path.isAbsolute = true) (d : Disk) :
    (movedTo directory d).kind? path = d.kind? path := by
  unfold Disk.kind?
  rw [locate_movedTo h]
  rfl

lemma textOf_movedTo (h : path.isAbsolute = true) (d : Disk) :
    textOf (movedTo directory d) path = textOf d path := by
  unfold textOf Disk.read
  rw [locate_movedTo h]
  rfl

lemma record_movedTo (d : Disk) (r : LogRecord) :
    (movedTo directory d).record r = movedTo directory (d.record r) := by
  have hlog : (movedTo directory d).log = d.log := rfl
  have hget : ∀ place, (movedTo directory d).get? place = d.get? place := fun _ => rfl
  rw [Disk.record, Disk.record, hlog]
  rcases d.log with - | ⟨- | place, threshold⟩
  · rfl
  · rfl
  · dsimp only
    rw [hget]
    rcases r.passes threshold with - | - <;> rcases d.get? place with - | - | content <;> rfl

/-! ## Steps -/

lemma Placeless.pure (a : α) : Placeless (pure a : RunM DiskM α) := fun _ _ _ => rfl

lemma Placeless.throw (e : RunError) : Placeless (throw e : RunM DiskM α) := fun _ _ _ => rfl

lemma Placeless.lift (x : Except RunError α) : Placeless (liftM x : RunM DiskM α) :=
  fun records directory d => by rw [exec_lift, exec_lift]

lemma Placeless.note (r : LogRecord) : Placeless (Run.note r) := fun records directory d => by
  have hrun : ∀ d : Disk, exec (Run.note r) records d = ((.ok ⟨⟩, records ++ [r]), d.record r) :=
    fun _ => rfl
  rw [hrun, hrun, record_movedTo]

lemma Placeless.homes : Placeless Run.homes := fun _ _ _ => rfl

lemma Placeless.bind {x : RunM DiskM α} {f : α → RunM DiskM β} (hx : Placeless x)
    (hf : ∀ a, Placeless (f a)) : Placeless (x >>= f) := by
  intro records directory d
  rw [exec_bind, exec_bind, hx]
  rcases exec x records d with ⟨⟨e | a, records'⟩, d'⟩
  · rfl
  · exact hf a records' directory d'

lemma Placeless.throw_bind (e : RunError) (f : α → RunM DiskM β) :
    Placeless (MonadExcept.throw e >>= f) := fun _ _ _ => rfl

lemma placeless_isFile (h : path.isAbsolute = true) : Placeless (Run.isFile path) := by
  refine Placeless.bind (fun records directory d => ?_) fun _ => .pure _
  rw [exec_kind?, exec_kind?, kind?_movedTo h]

lemma placeless_readText (h : path.isAbsolute = true) : Placeless (Run.readText path) :=
  fun records directory d => by rw [exec_readText, exec_readText, textOf_movedTo h]

/-! ## Contracts -/

lemma placeless_contractResult (x : Except ContractError α) :
    Placeless (contractResult x : RunM DiskM α) := by
  rw [contractResult]
  exact .lift (x.mapError RunError.contract)

lemma placeless_loadDocument (h : path.isAbsolute = true) : Placeless (Run.loadDocument path) := by
  unfold Run.loadDocument
  refine (placeless_isFile h).bind fun found => ?_
  cases found with
  | true => exact (placeless_readText h).bind fun _ => placeless_contractResult _
  | false => exact .throw_bind _ _

lemma placeless_loadModuleFile (h : path.isAbsolute = true) :
    Placeless (Run.loadModuleFile path) := by
  unfold Run.loadModuleFile
  refine (placeless_isFile h).bind fun found => ?_
  cases found with
  | true =>
    refine (placeless_readText h).bind fun text => ?_
    split
    · exact .throw _
    · exact placeless_contractResult _
  | false => exact .throw_bind _ _

lemma placeless_noteModule (metadata : Metadata) : Placeless (Run.noteModule metadata) :=
  (Placeless.note _).bind fun _ => .pure _

/-- What reading a contract comes to, after what its source names. -/
lemma exec_loadContract (source : String) (records : List LogRecord) (d : Disk) :
    exec (Run.loadContract source) records d =
      match ContractSource.ofText d.homes source with
      | .error cause => ((.error (.contract cause), records), d)
      | .ok (.document path) => exec (Run.loadDocument path) records d
      | .ok (.moduleFile path) => exec (Run.loadModuleFile path >>= Run.noteModule) records d
      | .ok (.namedModule name) =>
        exec (contractResult (namedModule name) >>= Run.noteModule) records d := by
  unfold Run.loadContract
  rw [exec_bind, exec_homes]
  dsimp only
  rw [exec_bind, contractResult, exec_lift]
  rcases ContractSource.ofText d.homes source with cause | path | path | name <;>
    simp only [Except.mapError]

/-- A source that opens absolute paths only is read alike in every directory. -/
theorem loadContract_movedTo {source : String} {d : Disk}
    (h : ∀ path, Opens d.homes source path → path.isAbsolute = true) (records : List LogRecord)
    (directory : Place) : exec (Run.loadContract source) records (movedTo directory d) =
      ((exec (Run.loadContract source) records d).1,
        movedTo directory (exec (Run.loadContract source) records d).2) := by
  have hhomes : (movedTo directory d).homes = d.homes := rfl
  rw [exec_loadContract, exec_loadContract, hhomes]
  rcases hsource : ContractSource.ofText d.homes source with cause | path | path | name
  · rfl
  · exact placeless_loadDocument (h path (.inl hsource)) records directory d
  · have hload := placeless_loadModuleFile (h path (.inr hsource))
    exact hload.bind placeless_noteModule records directory d
  · exact (placeless_contractResult _).bind placeless_noteModule records directory d

end HubProxy.Proofs
