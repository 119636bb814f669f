import HubProxy.Proofs.Conflicts
import HubProxy.Proofs.DependencyOrder
import HubProxy.Proofs.ReadingFailures
import HubProxy.Proofs.Regeneration
import HubProxy.Proofs.SharedShapes

/-!
# How generation fails

Where types have their names for themselves a build fails with a cause that lies in the contract,
unless a class that it needs has a property without a name: what is wrapped or closed has been
resolved before, so it has a name and a shape. With what reading fails with this covers every way in
which a document that loads can be refused.
-/

namespace HubProxy.Proofs

/-- A needed class has a property without a name. -/
def NamelessProperty (m : Metadata) (existing : List String) : Prop :=
  ∃ id c, Needed m existing (.cls id) ∧ m.classes[id]? = some c ∧ c.name ∉ existing ∧
    ∃ p ∈ c.properties, p.1 = ""

/-- A cause for which a build fails: it lies in the contract, or a property has no name. -/
def BuildFault (options : BuildOptions) (m : Metadata) (existing : List String)
    (cause : BuildError) : Prop :=
  cause.isReported = true ∨ (cause = .emptyPropertyName ∧
    (options.connectionProperty = "" ∨ NamelessProperty m existing))

/-- The conditions of an agenda that are not met have causes for which a build may fail. -/
def DemandsFaults (options : BuildOptions) (m : Metadata) (existing : List String)
    (agenda : List Task) : Prop :=
  ∀ cause, .demand false cause ∈ agenda → BuildFault options m existing cause

variable {options : BuildOptions} {m : Metadata} {existing : List String} {agenda more : List Task}
  {t : Task} {r r' : Registry} {cause : BuildError}

lemma demandsFaults_buildTasks (operations : List Operation) :
    DemandsFaults options m existing (buildTasks options operations) := by
  intro cause hmem
  generalize hd : Task.demand false cause = t at hmem
  cases starting_of_mem hmem with
  | property =>
    obtain ⟨hempty, rfl⟩ := Task.demand.inj hd
    have hname : options.connectionProperty = "" := by simpa using hempty.symm
    exact .inr ⟨rfl, .inl hname⟩
  | received =>
    obtain ⟨-, rfl⟩ := Task.demand.inj hd
    exact .inl rfl
  | invoked =>
    obtain ⟨-, rfl⟩ := Task.demand.inj hd
    exact .inl rfl
  | _ => cases hd

theorem DemandsFaults.step (h : DemandsFaults options m existing (t :: agenda))
    (hord : Ordered m.classes "public" existing (Met m existing) (t :: agenda) r)
    (he : Effect m.classes "public" t r more r') :
    DemandsFaults options m existing (more ++ agenda) := by
  intro cause hmem
  rcases List.mem_append.mp hmem with hmem | hmem
  · cases he with
    | @newClass id c _ hc hr =>
      have hneeded := (hord.within.visits (.cls id) List.mem_cons_self).needed trivial
      have hfresh : c.name ∉ existing := fun hex =>
        ((not_contains_iff r c.name).mp hr).1 ((hord.sound.existing_iff c.name).mpr hex)
      rcases mem_classTasks.mp hmem with ⟨p, hp, heq | heq⟩ | heq
      · cases heq
      · obtain ⟨hempty, rfl⟩ := Task.demand.inj heq
        have hname : p.1 = "" := by simpa using hempty.symm
        exact .inr ⟨rfl, .inr ⟨id, c, hneeded, hc, hfresh, p, hp, hname⟩⟩
      · cases heq
    | array element => simp at hmem
    | _ => exact absurd hmem List.not_mem_nil
  · exact h cause (List.mem_cons_of_mem _ hmem)

/-- The mention of a type fails only if it is no type that a proxy can express. -/
lemma visit_reported (hu : OwnNames m) {d : Descriptor}
    (h : Ordered m.classes "public" existing (Met m existing) (.visit d :: agenda) r)
    (hfail : runOn r (perform m.classes "public" (.visit d)) = (.error cause, r')) :
    cause.isReported = true := by
  rcases visit_outcome hu h with ⟨more, r'', hok⟩ | ⟨-, cause', hfault, herror⟩
  · cases hfail.symm.trans hok
  · cases hfail.symm.trans herror
    cases hfault <;> rfl

/-- The element of an array that is declared has been resolved, so the array has a name. -/
lemma wrap_not_fails {element : Descriptor}
    (hp : Prepared m.classes r [] (.wrap element :: agenda)) :
    runOn r (perform m.classes "public" (.wrap element)) ≠ (.error cause, r') := by
  intro hfail
  rcases wrap_outcome m.classes "public" element r with ⟨r'', hok⟩ | ⟨-, hnone, -⟩
  · cases hfail.symm.trans hok
  · have hhandled : Handled m.classes [] r element := hp.1 element (by simp [Task.awaited, parts])
    obtain ⟨name, hname⟩ := hhandled.named
    simp [Descriptor.name?, hname] at hnone

/-- The properties of a class that is closed have been resolved, so the class has a shape, and it
agrees with its own reservation. -/
lemma close_not_fails {id : ClassId}
    (h : Ordered m.classes "public" existing (Met m existing) (.close id :: agenda) r)
    (hp : Prepared m.classes r [] (.close id :: agenda)) {c : ClassDef}
    (hc : m.classes[id]? = some c) :
    runOn r (perform m.classes "public" (.close id)) ≠ (.error cause, r') := by
  intro hfail
  obtain ⟨shape, hshape⟩ := exists_shape_cls hc fun p hmember =>
    (hp.1 p.2 ((mem_parts_cls hc).mpr ⟨p, hmember, rfl⟩)).label?
  have hagree : agree m.classes (.cls id) (.cls id) = .ok true := by simp [agree, hshape]
  rw [runOn_close h hc, hagree] at hfail
  cases hfail

/-- Only classes of the contract are closed. -/
def ClosesClasses (classes : ClassTable) (agenda : List Task) : Prop :=
  ∀ id, .close id ∈ agenda → ∃ c, classes[id]? = some c

lemma ClosesClasses.step {classes : ClassTable} {visibility : String}
    (h : ClosesClasses classes (t :: agenda)) (he : Effect classes visibility t r more r') :
    ClosesClasses classes (more ++ agenda) := by
  intro id hmem
  rcases List.mem_append.mp hmem with hmem | hmem
  · cases he with
    | @newClass _ c _ hc hr =>
      rcases mem_classTasks.mp hmem with ⟨p, hp, heq | heq⟩ | heq
      · cases heq
      · cases heq
      · obtain rfl := Task.close.inj heq
        exact ⟨c, hc⟩
    | array element => simp at hmem
    | _ => exact absurd hmem List.not_mem_nil
  · exact h id (List.mem_cons_of_mem _ hmem)

/-- What holds throughout a build and limits how the next task can fail. -/
structure Accountable (options : BuildOptions) (m : Metadata) (existing : List String)
    (agenda : List Task) (r : Registry) : Prop where
  ordered : Ordered m.classes "public" existing (Met m existing) agenda r
  prepared : Prepared m.classes r [] agenda
  closes : ClosesClasses m.classes agenda
  demands : DemandsFaults options m existing agenda

theorem Accountable.step (h : Accountable options m existing (t :: agenda) r)
    (he : Effect m.classes "public" t r more r') :
    Accountable options m existing (more ++ agenda) r' where
  ordered := h.ordered.step (closed_met m existing) he
  prepared := h.prepared.step h.ordered.sound he
  closes := h.closes.step he
  demands := h.demands.step h.ordered he

lemma accountable_build {operations : List Operation} (hm : builtOperations? m = some operations) :
    Accountable options m existing (buildTasks options operations) (.ofExisting existing) where
  ordered := ordered_build options existing hm
  prepared := (dependencyOrder_build options m existing operations).prepared
  closes := fun id hmem => by cases starting_of_mem hmem
  demands := demandsFaults_buildTasks operations

theorem Accountable.perform_fault (h : Accountable options m existing (t :: agenda) r)
    (hu : OwnNames m) (hfail : runOn r (perform m.classes "public" t) = (.error cause, r')) :
    BuildFault options m existing cause := by
  cases t with
  | visit d => exact .inl (visit_reported hu h.ordered hfail)
  | wrap element => exact absurd hfail (wrap_not_fails h.prepared)
  | close id =>
    obtain ⟨c, hc⟩ := h.closes id List.mem_cons_self
    exact absurd hfail (close_not_fails h.ordered h.prepared hc)
  | demand holds own =>
    obtain ⟨rfl, rfl⟩ := demand_error hfail
    exact h.demands own List.mem_cons_self
  | require ns => cases (runOn_require m.classes "public" ns r).symm.trans hfail

/-- A build in which types have their names for themselves fails with a cause that lies in the
contract, unless a property has no name. -/
theorem fault_of_build (hu : OwnNames m) {ns className : String}
    (h : (build options m ns className existing).1 = .error cause) :
    BuildFault options m existing cause := by
  refine failure_of_build (I := Accountable options m existing) (fun _ cause hunpaired => ?_)
    (fun operations hm => accountable_build hm) (fun he hi => hi.step he)
    (fun hi hfail => hi.perform_fault hu hfail) h
  cases hunpaired <;> exact .inl rfl

/-- Generation from a text that loads as a document fails with a cause that lies in the contract,
except for two: a number that is too long to be shown, and a property without a name. -/
theorem reported_of_generateFromText {contract ns className : String} {prior : Option String}
    {doc : Document} {cause : GenerationError} (hload : Document.load contract = .ok doc)
    (h : (generateFromText contract ns className prior).1 = .error cause) :
    cause.isReported = true ∨
      (cause = .contract .numberTooLong ∧ HoldsLongNumber doc) ∨
      (cause = .build .emptyPropertyName ∧ ∃ m,
        Contract.ofText contract unnamedSource = .ok m ∧
          NamelessProperty m (existingIn prior ns)) := by
  have htext : Contract.ofText contract unnamedSource = Contract.ofDocument doc unnamedSource := by
    rw [Contract.ofText, hload]
  cases hm : Contract.ofText contract unnamedSource with
  | error e =>
    have hcause : cause = .contract e := by
      rw [generateFromText, hm] at h
      exact (Except.error.inj h).symm
    subst hcause
    rcases fault_of_ofDocument (htext.symm.trans hm) with he | ⟨rfl, hlong⟩
    · exact .inl he
    · exact .inr (.inl ⟨rfl, hlong⟩)
  | ok m =>
    rw [generateFromText_eq_build hm] at h
    cases hb : (build {} m ns className (existingIn prior ns)).1 with
    | ok model =>
      rw [hb] at h
      cases h
    | error e =>
      have hcause : cause = .build e := by
        rw [hb] at h
        exact (Except.error.inj h).symm
      subst hcause
      rcases fault_of_build (ownNames_of_ofText hm) hb with he | ⟨rfl, hempty | hnameless⟩
      · exact .inl he
      · exact absurd hempty (by decide)
      · exact .inr (.inr ⟨rfl, m, rfl, hnameless⟩)

/-- A contract with a class that has a property without a name. -/
def namelessText : String :=
  "\x7bhub: \x7boperations: [\x7bname: send, parameters: \x7bnode: Node\x7d\x7d]\x7d, " ++
    "client_api: \x7b\x7d, types: \x7bNode: \x7bproperties: \x7b'': int\x7d\x7d\x7d\x7d"

def namelessContract : Metadata where
  source := unnamedSource
  types := [
    ⟨"hub", .hub, [⟨"send", .serverReceived, [("node", .cls 0)], true, some "Task"⟩]⟩,
    ⟨"client_api", .clientApi, []⟩]
  classes := #[⟨"Node", [("", .primitive "int" none)], false⟩]

lemma exists_load_of_ofText {text source : String} {m : Metadata}
    (h : Contract.ofText text source = .ok m) : ∃ doc, Document.load text = .ok doc := by
  unfold Contract.ofText at h
  split at h
  · cases h
  · cases h
  · next doc hload => exact ⟨doc, hload⟩

lemma generateFromText_namelessText :
    (∃ doc, Document.load namelessText = .ok doc) ∧
      (generateFromText namelessText "Games" "Proxy" none).1 = .error (.build .emptyPropertyName) := by
  have hsome : (Contract.ofText namelessText unnamedSource).toOption = some namelessContract := by
    decide +kernel
  have hread := eq_ok_of_toOption hsome
  have hbuild : (build {} namelessContract "Games" "Proxy" []).1 = .error .emptyPropertyName := rfl
  refine ⟨exists_load_of_ofText hread, ?_⟩
  rw [generateFromText_eq_build hread]
  simp only [existingIn, Option.elim, hbuild]
  rfl

/-- A document can be refused for a cause that is not reported as one of the contract. -/
theorem unreported_namelessText : ∃ doc cause, Document.load namelessText = .ok doc ∧
    (generateFromText namelessText "Games" "Proxy" none).1 = .error cause ∧
    cause.isReported = false := by
  obtain ⟨⟨doc, hload⟩, hfail⟩ := generateFromText_namelessText
  exact ⟨doc, _, hload, hfail, rfl⟩

theorem reported_of_generateFromText_namelessText : ∃ doc,
    Document.load namelessText = .ok doc ∧
    (generateFromText namelessText "Games" "Proxy" none).1 = .error (.build .emptyPropertyName) ∧
    ∃ m, Contract.ofText namelessText unnamedSource = .ok m ∧
      NamelessProperty m (existingIn none "Games") := by
  obtain ⟨⟨doc, hload⟩, hfail⟩ := generateFromText_namelessText
  refine ⟨doc, hload, hfail, ?_⟩
  rcases reported_of_generateFromText hload hfail with hreported | ⟨hlong, -⟩ | ⟨-, hnameless⟩
  · cases hreported
  · cases hlong
  · exact hnameless

end HubProxy.Proofs
