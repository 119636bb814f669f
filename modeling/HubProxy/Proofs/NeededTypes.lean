import HubProxy.Proofs.BuildAgenda
import HubProxy.Proofs.ResolutionInvariant

/-!
# The types that a proxy needs

`Needed` says without the machine what the parameters of a contract lead to: the elements of arrays,
and the properties of classes that do not exist already. A build whose types have their names for
themselves declares the needed types that can be declared, each once, and nothing else.
-/

namespace HubProxy.Proofs

/-- The types that the built operations lead to. -/
inductive Needed (m : Metadata) (existing : List String) : Descriptor → Prop
  | parameter {operations : List Operation} {o : Operation} {p : String × Descriptor}
      (hm : builtOperations? m = some operations) (ho : o ∈ operations)
      (hp : p ∈ callerParameters o.parameters) : Needed m existing p.2
  | element {d : Descriptor} (h : Needed m existing (.array d)) : Needed m existing d
  | member {id : ClassId} {c : ClassDef} {p : String × Descriptor}
      (h : Needed m existing (.cls id)) (hc : m.classes[id]? = some c)
      (hname : c.name ∉ existing) (hp : p ∈ c.properties) : Needed m existing p.2

/-- The types that a contract mentions in its operations, at whatever depth. -/
inductive Mentioned (m : Metadata) : Descriptor → Prop
  | parameter {t : ContractType} {o : Operation} {p : String × Descriptor} (ht : t ∈ m.types)
      (ho : o ∈ t.operations) (hp : p ∈ o.parameters) : Mentioned m p.2
  | element {d : Descriptor} (h : Mentioned m (.array d)) : Mentioned m d
  | member {id : ClassId} {c : ClassDef} {p : String × Descriptor} (h : Mentioned m (.cls id))
      (hc : m.classes[id]? = some c) (hp : p ∈ c.properties) : Mentioned m p.2

/-- A class, an enumeration or an array that is to be declared has its name for itself. -/
def SingleNames (m : Metadata) : Prop :=
  ∀ d d' name, Mentioned m d → Mentioned m d' → Declarable d → Declarable d' →
    d.name? m.classes = some name → d'.name? m.classes = some name → d = d'

/-- The types that a user defines: classes and enumerations. -/
def UserType : Descriptor → Prop
  | .cls _ | .enum .. => True
  | _ => False

/-- No other type that may be declared has the name of a type. -/
def Owns (m : Metadata) (d : Descriptor) (name : String) : Prop :=
  ∀ d', Mentioned m d' → Declarable d' → d'.name? m.classes = some name → d' = d

/-- A class or an enumeration has its name for itself among the types that may be declared. -/
def OwnNames (m : Metadata) : Prop :=
  ∀ d name, Mentioned m d → UserType d → d.name? m.classes = some name → Owns m d name

lemma userType_of_declarationOf? {classes : ClassTable} {visibility : String} {d : Descriptor}
    {declaration : TypeDeclaration}
    (h : declarationOf? classes visibility d = some declaration) : UserType d := by
  cases d with
  | enum | cls => trivial
  | _ => cases h

lemma UserType.declarable {d : Descriptor} (h : UserType d) : Declarable d := by
  cases d with
  | cls | enum => trivial
  | _ => exact h.elim

lemma SingleNames.owns {m : Metadata} (h : SingleNames m) {d : Descriptor} {name : String}
    (hd : Mentioned m d) (hdecl : Declarable d) (hn : d.name? m.classes = some name) :
    Owns m d name :=
  fun d' hd' hdecl' hn' => h d' d name hd' hd hdecl' hdecl hn' hn

lemma SingleNames.ownNames {m : Metadata} (h : SingleNames m) : OwnNames m :=
  fun _ _ hd huser hn => h.owns hd huser.declarable hn

instance (d : Descriptor) : Decidable (Declarable d) := by
  unfold Declarable
  split <;> infer_instance

/-- The types that stand directly in a type. -/
def parts (classes : ClassTable) : Descriptor → List Descriptor
  | .array element => [element]
  | .cls id => (classes[id]?.map fun c => c.properties.map (·.2)).getD []
  | _ => []

lemma Mentioned.mem {m : Metadata} {l : List Descriptor}
    (hp : ∀ t ∈ m.types, ∀ o ∈ t.operations, ∀ p ∈ o.parameters, p.2 ∈ l)
    (hparts : ∀ d ∈ l, ∀ part ∈ parts m.classes d, part ∈ l) {d : Descriptor}
    (h : Mentioned m d) : d ∈ l := by
  induction h with
  | parameter ht ho hmem => exact hp _ ht _ ho _ hmem
  | element _ ih => exact hparts _ ih _ (by simp [parts])
  | @member id c p _ hc hmem ih =>
    have hpart : p.2 ∈ parts m.classes (.cls id) := by
      simpa [parts, hc] using ⟨p.1, hmem⟩
    exact hparts _ ih _ hpart

/-- Names are single if they are so in a list that holds what the contract mentions. -/
lemma singleNames_of_mem {m : Metadata} (l : List Descriptor)
    (hp : ∀ t ∈ m.types, ∀ o ∈ t.operations, ∀ p ∈ o.parameters, p.2 ∈ l)
    (hparts : ∀ d ∈ l, ∀ part ∈ parts m.classes d, part ∈ l)
    (hl : ∀ d ∈ l, ∀ d' ∈ l, Declarable d → Declarable d' →
      d.name? m.classes = d'.name? m.classes → d = d') : SingleNames m :=
  fun d d' _ hd hd' hdecl hdecl' hn hn' =>
    hl d (hd.mem hp hparts) d' (hd'.mem hp hparts) hdecl hdecl' (hn.trans hn'.symm)

/-- A contract with a class that refers to itself and to a class with a property that no proxy can
express. -/
def loopedContract : Metadata where
  source := "loop"
  types := [
    ⟨"Hub", .hub, [⟨"send", .serverReceived, [("node", .cls 0)], true, none⟩]⟩,
    ⟨"Api", .clientApi, [⟨"moved", .clientInvoked,
      [("who", connectionContext), ("nodes", .array (.array (.cls 0)))], true, none⟩]⟩]
  classes := #[
    ⟨"Node", [("next", .cls 0), ("color", .enum "Color" ["Red"]), ("rest", .array (.cls 1))],
      false⟩,
    ⟨"Seen", [("hidden", .generic "List" [])], false⟩]

lemma singleNames_loopedContract : SingleNames loopedContract :=
  singleNames_of_mem [connectionContext, .cls 0, .cls 1, .array (.cls 0), .array (.array (.cls 0)),
    .array (.cls 1), .enum "Color" ["Red"], .generic "List" []] (by decide) (by decide) (by decide)

lemma types_of_builtOperations? {m : Metadata} {operations : List Operation}
    (hm : builtOperations? m = some operations) {o : Operation} (ho : o ∈ operations) :
    ∃ t ∈ m.types, o ∈ t.operations := by
  unfold builtOperations? at hm
  split at hm
  · next hub others api hhub hapi =>
    obtain rfl := Option.some.inj hm
    have hof : ∀ role t, t ∈ m.ofRole role → t ∈ m.types := fun _ _ ht => (List.mem_filter.mp ht).1
    rcases List.mem_append.mp ho with ho | ho
    · exact ⟨hub, hof .hub hub (by simp [hhub]), (List.mem_filter.mp ho).1⟩
    · exact ⟨api, hof .clientApi api (by simp [hapi]), ho⟩
  · simp at hm

lemma Needed.mentioned {m : Metadata} {existing : List String} {d : Descriptor}
    (h : Needed m existing d) : Mentioned m d := by
  induction h with
  | parameter hm ho hp =>
    obtain ⟨t, ht, hot⟩ := types_of_builtOperations? hm ho
    exact .parameter ht hot (List.mem_filter.mp hp).1
  | element _ ih => exact .element ih
  | member _ hc _ hp ih => exact .member ih hc hp

/-- The more types exist already, the fewer are needed. -/
lemma Needed.mono {m : Metadata} {existing existing' : List String} (hsub : existing ⊆ existing')
    {d : Descriptor} (h : Needed m existing' d) : Needed m existing d := by
  induction h with
  | parameter hm ho hp => exact .parameter hm ho hp
  | element _ ih => exact .element ih
  | member _ hc hname hp ih => exact .member ih hc (fun hmem => hname (hsub hmem)) hp

/-- What a build meets: the type of the connection and the needed types. -/
def Met (m : Metadata) (existing : List String) (d : Descriptor) : Prop :=
  d = connectionType ∨ Needed m existing d

lemma closed_met (m : Metadata) (existing : List String) :
    Closed m.classes existing (Met m existing) where
  element d h := by
    rcases h with h | h
    · cases h
    · exact .inr h.element
  member id c h hc hname p hp := by
    rcases h with h | h
    · cases h
    · exact .inr (h.member hc hname hp)

lemma Met.needed {m : Metadata} {existing : List String} {d : Descriptor}
    (h : Met m existing d) (hd : Declarable d) : Needed m existing d := by
  rcases h with rfl | h
  · exact hd.elim
  · exact h

/-- The tasks that a build starts with. -/
inductive Starting (options : BuildOptions) (operations : List Operation) : Task → Prop
  | connection : Starting options operations (.visit connectionType)
  | property : Starting options operations
      (.demand (options.connectionProperty ≠ "") .emptyPropertyName)
  | parameter {o : Operation} {p : String × Descriptor} (ho : o ∈ operations)
      (hp : p ∈ callerParameters o.parameters) : Starting options operations (.visit p.2)
  | received {o : Operation} (ho : o ∈ operations) (hd : o.direction = .serverReceived) :
      Starting options operations (.demand o.asyncVoid (.notAsyncVoid o.name o.returns))
  | invoked {o : Operation} (ho : o ∈ operations) (hd : o.direction = .clientInvoked) :
      Starting options operations
        (.demand ((callerParameters o.parameters).length ≤ maxHandlerArguments)
          (.tooManyParameters o.name (callerParameters o.parameters).length))
  | tasks : Starting options operations (.require "System.Threading.Tasks")
  | system : Starting options operations (.require "System")

lemma starting_of_mem {options : BuildOptions} {operations : List Operation} {t : Task}
    (ht : t ∈ buildTasks options operations) : Starting options operations t := by
  simp only [buildTasks, List.mem_cons, List.mem_flatMap] at ht
  rcases ht with rfl | rfl | ⟨o, ho, ht⟩
  · exact .connection
  · exact .property
  · unfold operationTasks at ht
    cases hd : o.direction with
    | serverReceived =>
      simp only [hd, List.cons_append, List.mem_cons, List.mem_append, List.mem_map,
        List.not_mem_nil, or_false] at ht
      rcases ht with rfl | ⟨p, hp, rfl⟩ | rfl
      · exact .received ho hd
      · exact .parameter ho hp
      · exact .tasks
    | clientInvoked =>
      simp only [hd, List.mem_cons, List.mem_append, List.mem_map, List.not_mem_nil,
        or_false] at ht
      rcases ht with ⟨p, hp, rfl⟩ | rfl | rfl
      · exact .parameter ho hp
      · exact .invoked ho hd
      · exact .system

lemma visit_mem_operationTasks {o : Operation} {p : String × Descriptor}
    (hp : p ∈ callerParameters o.parameters) : .visit p.2 ∈ operationTasks o := by
  unfold operationTasks
  cases o.direction <;> simp <;> exact ⟨p.1, hp⟩

/-- A build starts in order. -/
theorem ordered_build (options : BuildOptions) {m : Metadata} (existing : List String)
    {operations : List Operation} (hm : builtOperations? m = some operations) :
    Ordered m.classes "public" existing (Met m existing) (buildTasks options operations)
      (.ofExisting existing) := by
  refine ordered_ofExisting ?_ ?_ ?_
  · intro d hd
    cases starting_of_mem hd with
    | connection => exact .inl rfl
    | parameter ho hp => exact .inr (.parameter hm ho hp)
  · intro element he
    cases starting_of_mem he
  · intro id hid
    cases starting_of_mem hid

section AtEnd

variable {m : Metadata} {existing : List String} {visibility : String}

/-- What is known under the name of a type that has it for itself is that type. -/
lemma Ordered.known_eq {agenda : List Task} {r : Registry}
    (h : Ordered m.classes visibility existing (Met m existing) agenda r) {d known : Descriptor}
    {name : String} (hu : Owns m d name) (hk : known? r name = some known) : known = d := by
  have hmem : (name, known) ∈ entries r := mem_entries_of_known? hk
  obtain ⟨hmet, hknown⟩ := h.within.entries _ hmem
  have hneeded : Needed m existing known := hmet.needed hknown
  exact hu known hneeded.mentioned hknown (h.sound.named_entries _ hmem)

lemma Ordered.mem_entries {agenda : List Task} {r : Registry}
    (h : Ordered m.classes visibility existing (Met m existing) agenda r) {d : Descriptor}
    {name : String} (hu : Owns m d name) (hname : name ∉ existing) (hr : r.contains name = true) :
    (name, d) ∈ entries r := by
  rcases (contains_iff r name).mp hr with hex | hk
  · exact absurd ((h.sound.existing_iff name).mp hex) hname
  · obtain ⟨known, hk⟩ := Option.isSome_iff_exists.mp hk
    rw [← h.known_eq hu hk]
    exact mem_entries_of_known? hk

lemma Ordered.entries_eq {classes : ClassTable} {P : Descriptor → Prop} {r : Registry}
    (h : Ordered classes visibility existing P [] r) : entries r = r.declared := by
  rw [entries, h.sound.reserved_eq]
  rfl

/-- The run of a build that has come to its end. -/
structure Ended (options : BuildOptions) (m : Metadata) (existing : List String)
    (operations : List Operation) (r : Registry) : Prop where
  built : builtOperations? m = some operations
  steps : Steps m.classes "public" ⟨buildTasks options operations, .ofExisting existing⟩ ⟨[], r⟩

variable {options : BuildOptions} {operations : List Operation} {r : Registry}

lemma Ended.ordered (h : Ended options m existing operations r) :
    Ordered m.classes "public" existing (Met m existing) [] r :=
  (ordered_build options existing h.built).of_steps (closed_met m existing) h.steps

lemma Ended.handled_parameter (h : Ended options m existing operations r) {o : Operation}
    {p : String × Descriptor} (ho : o ∈ operations) (hp : p ∈ callerParameters o.parameters) :
    Handled m.classes [] r p.2 := by
  have hvisit : .visit p.2 ∈ buildTasks options operations := by
    have hmem : .visit p.2 ∈ operations.flatMap operationTasks :=
      List.mem_flatMap.mpr ⟨o, ho, visit_mem_operationTasks hp⟩
    exact List.mem_cons_of_mem _ (List.mem_cons_of_mem _ hmem)
  exact (ordered_build options existing h.built).handled_of_steps (closed_met m existing)
    h.steps hvisit

/-- A declared type is needed and did not exist. -/
lemma Ended.of_mem_declared (h : Ended options m existing operations r) {name : String}
    {d : Descriptor} (hp : (name, d) ∈ r.declared) : Needed m existing d ∧ Declarable d ∧
      d.name? m.classes = some name ∧ name ∉ existing := by
  have hentry : (name, d) ∈ entries r := List.mem_append_right _ hp
  obtain ⟨hmet, hdecl⟩ := h.ordered.within.entries _ hentry
  exact ⟨hmet.needed hdecl, hdecl, h.ordered.sound.named _ hp, h.ordered.sound.fresh _ hentry⟩

/-- Every needed type has been resolved at the end. -/
theorem Ended.handled_of_ownNames (h : Ended options m existing operations r) (hu : OwnNames m)
    {d : Descriptor} (hd : Needed m existing d) : Handled m.classes [] r d := by
  induction hd with
  | parameter hm ho hp =>
    obtain rfl := Option.some.inj (h.built.symm.trans hm)
    exact h.handled_parameter ho hp
  | element _ ih =>
    rcases ih with hv | ⟨hd, -⟩
    · exact absurd hv List.not_mem_nil
    · exact hd
  | @member id c p hcls hc hname hp ih =>
    rcases ih with hv | ⟨name, hn, hr, -⟩
    · exact absurd hv List.not_mem_nil
    · obtain rfl : c.name = name := by simpa [Descriptor.name?, hc] using hn
      have howns := hu (.cls id) c.name hcls.mentioned trivial hn
      exact (h.ordered.members _ id c (h.ordered.mem_entries howns hname hr) hc p hp).1

lemma Ended.handled (h : Ended options m existing operations r) (hu : SingleNames m)
    {d : Descriptor} (hd : Needed m existing d) : Handled m.classes [] r d :=
  h.handled_of_ownNames hu.ownNames hd

lemma Ended.mem_declared_of_owns (h : Ended options m existing operations r) (hu : OwnNames m)
    {d : Descriptor} {name : String} (hd : Needed m existing d) (hdecl : Declarable d)
    (hn : d.name? m.classes = some name) (howns : Owns m d name) (hname : name ∉ existing) :
    (name, d) ∈ r.declared := by
  rw [← h.ordered.entries_eq]
  refine h.ordered.mem_entries howns hname ?_
  obtain ⟨name', hn', hr⟩ := (h.handled_of_ownNames hu hd).contains hdecl
  obtain rfl := Option.some.inj (hn.symm.trans hn')
  exact hr

/-- A needed type that can be declared and whose name does not exist is declared at the end. -/
theorem Ended.mem_declared (h : Ended options m existing operations r) (hu : SingleNames m)
    {d : Descriptor} {name : String} (hd : Needed m existing d) (hdecl : Declarable d)
    (hn : d.name? m.classes = some name) (hname : name ∉ existing) : (name, d) ∈ r.declared :=
  h.mem_declared_of_owns hu.ownNames hd hdecl hn (hu.owns hd.mentioned hdecl hn) hname

end AtEnd

end HubProxy.Proofs
