import HubProxy.Proofs.DiskRuns
import HubProxy.Proofs.LoggedDisks
import HubProxy.Run.Generate

/-!
# Runs that read

What a run does before it writes leaves every file as it is. A log file that is open is the one
exception: lines are added to it, and nothing that it held is lost. What a step comes to, and what
it logs, does not depend on what has been logged.
-/

namespace HubProxy.Proofs

open Run

/-- A step of a run changes nothing but the log file, and comes to the same whatever has been
logged. -/
def ReadsOnly (x : RunM DiskM α) : Prop :=
  ∀ d, ∃ result more d', OnlyLogs d d' ∧
    ∀ records, exec x records d = ((result, records ++ more), d')

section Steps

variable {α β : Type}

lemma ReadsOnly.pure (a : α) : ReadsOnly (pure a) :=
  fun d => ⟨.ok a, [], d, .refl d, fun records => by rw [List.append_nil]; rfl⟩

lemma ReadsOnly.lift (x : Except RunError α) : ReadsOnly (liftM x) :=
  fun d => ⟨x, [], d, .refl d, fun records => by rw [List.append_nil, exec_lift]⟩

lemma ReadsOnly.throw (e : RunError) : ReadsOnly (throw e : RunM DiskM α) :=
  fun d => ⟨.error e, [], d, .refl d, fun records => by rw [List.append_nil]; rfl⟩

lemma ReadsOnly.note (r : LogRecord) : ReadsOnly (Run.note r) :=
  fun d => ⟨.ok ⟨⟩, [r], d.record r, onlyLogs_record d r, fun _ => rfl⟩

lemma ReadsOnly.kind? (path : Path) : ReadsOnly (Run.kind? path) :=
  fun d => ⟨_, [], d, .refl d, fun records => by rw [List.append_nil, exec_kind?]⟩

lemma ReadsOnly.homes : ReadsOnly Run.homes :=
  fun d => ⟨_, [], d, .refl d, fun records => by rw [List.append_nil, exec_homes]⟩

lemma ReadsOnly.readText (path : Path) : ReadsOnly (Run.readText path) :=
  fun d => ⟨_, [], d, .refl d, fun records => by rw [List.append_nil, exec_readText]⟩

lemma ReadsOnly.bind {x : RunM DiskM α} {f : α → RunM DiskM β} (hx : ReadsOnly x)
    (hf : ∀ a, ReadsOnly (f a)) : ReadsOnly (x >>= f) := by
  intro d
  obtain ⟨e | a, first, mid, hfirst, hx⟩ := hx d
  · exact ⟨.error e, first, mid, hfirst, fun records => by rw [exec_bind, hx]⟩
  · obtain ⟨result, second, d', hsecond, hf⟩ := hf a mid
    refine ⟨result, first ++ second, d', hfirst.trans hsecond, fun records => ?_⟩
    rw [exec_bind, hx, ← List.append_assoc]
    exact hf (records ++ first)

/-- What would follow a failure is never run. -/
lemma ReadsOnly.throw_bind (e : RunError) (f : α → RunM DiskM β) :
    ReadsOnly (MonadExcept.throw e >>= f) :=
  fun d => ⟨.error e, [], d, .refl d, fun records => by rw [List.append_nil]; rfl⟩

lemma ReadsOnly.forM {xs : List α} {f : α → RunM DiskM Unit} (h : ∀ x, ReadsOnly (f x)) :
    ReadsOnly (xs.forM f) := by
  induction xs with
  | nil => exact .pure ()
  | cons x xs ih => exact (h x).bind fun _ => ih

lemma readsOnly_isFile (path : Path) : ReadsOnly (Run.isFile path) :=
  (ReadsOnly.kind? path).bind fun _ => .pure _

lemma readsOnly_resolve (path : Path) : ReadsOnly (Run.resolve path) :=
  fun d => ⟨_, [], d, .refl d, fun records => by rw [List.append_nil, exec_resolve]⟩

lemma readsOnly_logged (outcome : Except RunError α × List LogRecord) :
    ReadsOnly (Run.logged outcome : RunM DiskM α) :=
  (ReadsOnly.forM fun r => .note r).bind fun _ => .lift _

end Steps

section Stages

lemma readsOnly_loadDocument (path : Path) : ReadsOnly (Run.loadDocument path) := by
  unfold Run.loadDocument
  refine (readsOnly_isFile path).bind fun found => ?_
  cases found with
  | true => exact (ReadsOnly.readText path).bind fun _ => .lift _
  | false => exact .throw_bind _ _

lemma readsOnly_loadModuleFile (path : Path) : ReadsOnly (Run.loadModuleFile path) := by
  unfold Run.loadModuleFile
  refine (readsOnly_isFile path).bind fun found => ?_
  cases found with
  | true =>
    refine (ReadsOnly.readText path).bind fun text => ?_
    split
    · exact .throw _
    · exact .lift _
  | false => exact .throw_bind _ _

lemma readsOnly_noteModule (metadata : Metadata) : ReadsOnly (Run.noteModule metadata) :=
  (ReadsOnly.note _).bind fun _ => .pure _

/-- Whatever a contract is read from, it is only read. -/
lemma readsOnly_loadContract (source : String) : ReadsOnly (Run.loadContract source) := by
  unfold Run.loadContract
  refine ReadsOnly.homes.bind fun homes => (ReadsOnly.lift _).bind fun found => ?_
  cases found with
  | document path => exact readsOnly_loadDocument path
  | moduleFile path => exact (readsOnly_loadModuleFile path).bind readsOnly_noteModule
  | namedModule name => exact (ReadsOnly.lift _).bind readsOnly_noteModule

lemma readsOnly_scanFile (path : Path) (ns : String) : ReadsOnly (Run.scanFile path ns) := by
  unfold Run.scanFile
  refine (readsOnly_isFile path).bind fun found => ?_
  cases found with
  | true => exact (ReadsOnly.readText path).bind fun _ => .pure _
  | false => exact (ReadsOnly.note _).bind fun _ => .pure _

lemma readsOnly_declaredBefore (s : Settings) : ReadsOnly (Run.declaredBefore s) := by
  unfold Run.declaredBefore
  cases s.typeSource with
  | none => exact .pure _
  | some source =>
    have hnames : ReadsOnly (do
        let names ← Run.scanFile source s.ns
        runNote .debug ("Found " ++ toString names.length ++ " prior declarations")
        return names) :=
      (readsOnly_scanFile source s.ns).bind fun _ => (ReadsOnly.note _).bind fun _ => .pure _
    refine (readsOnly_resolve source).bind fun here => (readsOnly_resolve s.target).bind fun there => ?_
    dsimp only
    split
    · exact (ReadsOnly.note _).bind fun _ => hnames
    · exact hnames

lemma readsOnly_previousText (path : Path) : ReadsOnly (Run.previousText path) := by
  unfold Run.previousText
  refine (readsOnly_isFile path).bind fun found => ?_
  cases found with
  | true => exact (ReadsOnly.readText path).bind fun _ => .pure _
  | false => exact .pure _

/-- The source of a run is built from what is read. -/
theorem readsOnly_buildSource (s : Settings) : ReadsOnly (Run.buildSource s) := by
  refine (ReadsOnly.note _).bind fun _ => (readsOnly_loadContract _).bind fun metadata => ?_
  refine (ReadsOnly.note _).bind fun _ => (readsOnly_declaredBefore s).bind fun existing => ?_
  refine (readsOnly_logged _).bind fun generated => ?_
  exact (ReadsOnly.note _).bind fun _ => .pure _

end Stages

end HubProxy.Proofs
