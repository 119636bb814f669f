import HubProxy.Proofs.BuildSuccess
import HubProxy.Proofs.GroundedReferences

/-!
# Types of one name have one shape

A type whose name is known already is compared with the type that the name is known for, and is not
entered. So any two types of one name that the operations and the declared types mention have one
shape. What only a class mentions that shares the declaration of another class is never compared:
there two types of one name may differ.
-/

namespace HubProxy.Proofs

/-- The types that are compared with what their names are known for: those that the operations and
the declared types mention. -/
inductive Compared (m : Metadata) (declared : List Descriptor) : Descriptor → Prop
  | parameter {operations : List Operation} {o : Operation} {p : String × Descriptor}
      (hm : builtOperations? m = some operations) (ho : o ∈ operations)
      (hp : p ∈ callerParameters o.parameters) : Compared m declared p.2
  | element {d : Descriptor} (h : Compared m declared (.array d)) : Compared m declared d
  | member {id : ClassId} {c : ClassDef} {p : String × Descriptor} (hid : .cls id ∈ declared)
      (hc : m.classes[id]? = some c) (hp : p ∈ c.properties) : Compared m declared p.2

section Shapes

variable {classes : ClassTable}

lemma Handled.label? {r : Registry} {d : Descriptor} (h : Handled classes [] r d) :
    ∃ label, d.label? classes = some label := by
  obtain ⟨name, hn⟩ := h.named
  cases d with
  | generic => exact absurd h List.not_mem_nil
  | _ => exact ⟨name, hn⟩

lemma Handled.settled {r : Registry} {d : Descriptor} (hu : UserType d)
    (h : Handled classes [] r d) : Settled classes r d := by
  cases d with
  | enum | cls => exact h.resolve_left List.not_mem_nil
  | _ => exact hu.elim

end Shapes

variable {options : BuildOptions} {m : Metadata} {existing : List String}
  {operations : List Operation} {r : Registry}

lemma Ended.handled_member (h : Ended options m existing operations r) {id : ClassId} {c : ClassDef}
    {p : String × Descriptor} (hid : .cls id ∈ r.declaredTypes) (hc : m.classes[id]? = some c)
    (hp : p ∈ c.properties) : Handled m.classes [] r p.2 := by
  obtain ⟨⟨name, d⟩, hmem, rfl⟩ := List.mem_map.mp hid
  exact (h.ordered.members name id c (List.mem_append_right _ hmem) hc p hp).1

lemma Ended.handled_compared (h : Ended options m existing operations r) {d : Descriptor}
    (hd : Compared m r.declaredTypes d) : Handled m.classes [] r d := by
  induction hd with
  | parameter hm ho hp =>
    obtain rfl := Option.some.inj (h.built.symm.trans hm)
    exact h.handled_parameter ho hp
  | element _ ih => exact (ih.resolve_left List.not_mem_nil).1
  | member hid hc hp => exact h.handled_member hid hc hp

/-- What is declared has a shape: the types of its properties have been resolved. -/
lemma Ended.exists_shape (h : Ended options m existing operations r) {name : String}
    {d : Descriptor} (hp : (name, d) ∈ r.declared) : ∃ shape, d.shape? m.classes = some shape := by
  have hn := h.ordered.sound.named _ hp
  cases d with
  | enum enumName members => exact ⟨_, rfl⟩
  | primitive primitiveName ns => exact ⟨_, rfl⟩
  | array element => exact ⟨.reference name, congrArg (Option.map Shape.reference) hn⟩
  | cls id =>
    obtain ⟨c, hc, -⟩ := Option.map_eq_some_iff.mp hn
    have hid : .cls id ∈ r.declaredTypes := List.mem_map_of_mem (f := (·.2)) hp
    exact exists_shape_cls hc fun p hmember => (h.handled_member hid hc hmember).label?
  | generic | unknown => exact (h.of_mem_declared hp).2.1.elim

/-- A type that was compared has the shape of the type that is declared under its name. -/
lemma Ended.shape_of_compared (h : Ended options m existing operations r) {d : Descriptor}
    {name : String} (hd : Compared m r.declaredTypes d) (hu : UserType d)
    (hn : d.name? m.classes = some name) (hname : name ∉ existing) :
    ∃ known shape, known? r name = some known ∧ known.shape? m.classes = some shape ∧
      d.shape? m.classes = some shape := by
  obtain ⟨name', hn', hr, hconsistent⟩ := (h.handled_compared hd).settled hu
  obtain rfl := Option.some.inj (hn.symm.trans hn')
  rcases (contains_iff r name).mp hr with hex | hknown
  · exact absurd ((h.ordered.sound.existing_iff name).mp hex) hname
  -- The known type is the one itself or was found to agree with it, and then both have shapes.
  · obtain ⟨known, hknown⟩ := Option.isSome_iff_exists.mp hknown
    have hmem : (name, known) ∈ r.declared := h.ordered.entries_eq ▸ mem_entries_of_known? hknown
    rcases hconsistent known hknown with rfl | hagree
    · obtain ⟨shape, hshape⟩ := h.exists_shape hmem
      exact ⟨known, shape, hknown, hshape, hshape⟩
    · obtain ⟨shape, hs, ht⟩ := exists_shape_of_agree hagree
      exact ⟨known, shape, hknown, hs, ht⟩

/-- A needed type is compared unless a needed class is declared under another class of its name. -/
lemma Needed.compared {declared : List Descriptor} {d : Descriptor} (hd : Needed m existing d) :
    Compared m declared d ∨ ∃ id c, Needed m existing (.cls id) ∧ m.classes[id]? = some c ∧
      c.name ∉ existing ∧ .cls id ∉ declared := by
  induction hd with
  | parameter hm ho hp => exact .inl (.parameter hm ho hp)
  | element _ ih => exact ih.imp_left .element
  | @member id c p hcls hc hname hp _ =>
    by_cases hid : .cls id ∈ declared
    · exact .inl (.member hid hc hp)
    · exact .inr ⟨id, c, hcls, hc, hname, hid⟩

/-- In the model of a build any two classes or enumerations of one name that did not exist have one
shape, wherever the operations and the declared types mention them. These are all needed types,
unless a needed class has its name declared for another class. -/
theorem exists_shape_of_build {ns className : String} {model : ApiModel}
    (h : (build options m ns className existing).1 = .ok model) :
    (∀ d d' name, Compared m model.declaredTypes d → Compared m model.declaredTypes d' →
      UserType d → UserType d' → d.name? m.classes = some name → d'.name? m.classes = some name →
      name ∉ existing →
      ∃ shape, d.shape? m.classes = some shape ∧ d'.shape? m.classes = some shape) ∧
    ∀ d, Needed m existing d → Compared m model.declaredTypes d ∨
      ∃ id c, Needed m existing (.cls id) ∧ m.classes[id]? = some c ∧ c.name ∉ existing ∧
        .cls id ∉ model.declaredTypes := by
  obtain ⟨operations, r, hend, rfl⟩ := ended_of_build h
  refine ⟨fun d d' name hd hd' hu hu' hn hn' hname => ?_, fun d hd => hd.compared⟩
  obtain ⟨known, shape, hknown, hshape, hds⟩ := hend.shape_of_compared hd hu hn hname
  obtain ⟨known', shape', hknown', hshape', hds'⟩ := hend.shape_of_compared hd' hu' hn' hname
  obtain rfl := Option.some.inj (hknown.symm.trans hknown')
  obtain rfl := Option.some.inj (hshape.symm.trans hshape')
  exact ⟨shape, hds, hds'⟩

/-- The two interfaces of `sharedContract` are compared, though only one of them is declared. -/
theorem exists_shape_sharedContract :
    ∃ model, (build {} sharedContract "Games" "Proxy" []).1 = .ok model ∧
      model.declaredTypes = [.cls 0, .array (.cls 1)] ∧
      ∃ shape, (Descriptor.cls 0).shape? sharedContract.classes = some shape ∧
        (Descriptor.cls 1).shape? sharedContract.classes = some shape := by
  have hbuild : ∃ model, (build {} sharedContract "Games" "Proxy" []).1 = .ok model ∧
      model.declaredTypes = [.cls 0, .array (.cls 1)] := ⟨_, rfl, rfl⟩
  obtain ⟨model, hmodel, htypes⟩ := hbuild
  have hfirst : Compared sharedContract model.declaredTypes (.cls 0) :=
    .parameter (o := ⟨"send", .serverReceived, [("node", .cls 0)], true, none⟩)
      (p := ("node", .cls 0)) rfl (by simp [operationsOf]) (by decide)
  have hdeclared : .cls 0 ∈ model.declaredTypes := by simp [htypes]
  have hsecond : Compared sharedContract model.declaredTypes (.cls 1) :=
    .member (p := ("next", .cls 1)) hdeclared rfl List.mem_cons_self
  have hshapes := (exists_shape_of_build hmodel).1
  exact ⟨model, hmodel, htypes,
    hshapes (.cls 0) (.cls 1) "Node" hfirst hsecond trivial trivial rfl rfl List.not_mem_nil⟩

/-- A contract with two classes of one name and one shape, each of which holds a class of its own:
these have one name and different shapes. -/
def twofoldContract : Metadata where
  source := "twofold"
  types := [
    ⟨"Hub", .hub, [⟨"move", .serverReceived, [("first", .cls 0), ("second", .cls 2)], true, none⟩]⟩,
    ⟨"Api", .clientApi, []⟩]
  classes := #[⟨"Leg", [("start", .cls 1)], false⟩, ⟨"Point", [("x", .primitive "int" none)], false⟩,
    ⟨"Leg", [("start", .cls 3)], false⟩, ⟨"Point", [("latitude", .primitive "double" none)], false⟩]

/-- Needed types of one name may differ where a class is not entered as another one of its name
and shape is declared. -/
theorem shape_differs_twofoldContract :
    (∃ model, (build {} twofoldContract "Games" "Proxy" []).1 = .ok model ∧
      model.declarations.map (·.name) = ["Point", "Leg"]) ∧
    Needed twofoldContract [] (.cls 1) ∧ Needed twofoldContract [] (.cls 3) ∧
    (Descriptor.cls 1).name? twofoldContract.classes = some "Point" ∧
    (Descriptor.cls 3).name? twofoldContract.classes = some "Point" ∧
    (Descriptor.cls 1).shape? twofoldContract.classes ≠
      (Descriptor.cls 3).shape? twofoldContract.classes := by
  have hleg : ∀ p ∈ [("first", Descriptor.cls 0), ("second", Descriptor.cls 2)],
      Needed twofoldContract [] p.2 := fun p hp =>
    .parameter (o := ⟨"move", .serverReceived, [("first", .cls 0), ("second", .cls 2)], true, none⟩)
      rfl (by simp [operationsOf]) (by simpa [callerParameters, connectionContext] using hp)
  have hfirst : Needed twofoldContract [] (.cls 1) :=
    .member (p := ("start", .cls 1)) (hleg ("first", .cls 0) (by simp)) rfl List.not_mem_nil
      List.mem_cons_self
  have hsecond : Needed twofoldContract [] (.cls 3) :=
    .member (p := ("start", .cls 3)) (hleg ("second", .cls 2) (by simp)) rfl List.not_mem_nil
      List.mem_cons_self
  exact ⟨⟨_, rfl, rfl⟩, hfirst, hsecond, rfl, rfl, by decide⟩

end HubProxy.Proofs
