import HubProxy.Proofs.DeclaredTypes

/-!
# No reference dangles

References are handed out while names are only reserved, and types of one name share a declaration
if they have one shape. At the end of a build every reservation has become a declaration, so a
reference stands for a primitive, for an existing type or for one declaration of the kind of the
type that it was made for. Nothing is assumed of the contract.
-/

namespace HubProxy.Proofs

/-- A reference without its array wrappers. -/
def baseOf : TypeReference → TypeReference
  | ⟨_, _, some element⟩ => baseOf element
  | type => type

inductive Kind where
  | cls
  | interface
  | enum
  deriving DecidableEq

def classKind (isInterface : Bool) : Kind :=
  if isInterface then .interface else .cls

/-- The kind of a type that has a declaration of its own. -/
def kindOf? (classes : ClassTable) : Descriptor → Option Kind
  | .enum .. => some .enum
  | .cls id => classes[id]?.map fun c => classKind c.isInterface
  | _ => none

def kindOf : TypeDeclaration → Kind
  | .cls c => classKind c.isInterface
  | .enum _ => .enum

variable {classes : ClassTable}

/-- What a reference may stand for that was made for a type: the base has the name of the innermost
type, which is primitive, exists already or has its only declaration. -/
structure Grounded (classes : ClassTable) (existing : List String)
    (declarations : List TypeDeclaration) (d : Descriptor) (type : TypeReference) : Prop where
  named : d.innermost.name? classes = some (baseOf type).name
  base : (∃ name ns, d.innermost = .primitive name ns) ∨ (baseOf type).name ∈ existing ∨
    ∃ declaration, declarations.filter (·.name == (baseOf type).name) = [declaration] ∧
      kindOf? classes d.innermost = some (kindOf declaration)

lemma baseOf_reference (d : Descriptor) :
    baseOf (reference classes d) = .named ((d.innermost.name? classes).getD "") := by
  induction d using reference.induct with
  | case1 element ih => simpa only [reference, TypeReference.arrayOf, baseOf, Descriptor.innermost]
  | case2 d hleaf =>
    cases d with
    | array element => exact absurd rfl (hleaf element)
    | _ => rfl

lemma innermost_ne_array (d element : Descriptor) : d.innermost ≠ .array element := by
  induction d using reference.induct with
  | case1 d ih => exact ih
  | case2 d hleaf =>
    cases d with
    | array inner => exact absurd rfl (hleaf inner)
    | _ => simp [Descriptor.innermost]

lemma Handled.innermost {r : Registry} {d : Descriptor} (h : Handled classes [] r d) :
    Handled classes [] r d.innermost := by
  induction d using reference.induct with
  | case1 d ih =>
    rcases h with hv | ⟨h, -⟩
    · exact absurd hv List.not_mem_nil
    · exact ih h
  | case2 d hleaf =>
    cases d with
    | array inner => exact absurd rfl (hleaf inner)
    | _ => exact h

/-- The kind that a shape shows. -/
def Shape.kind? : Shape → Option Kind
  | .cls isInterface _ _ => some (classKind isInterface)
  | .enum .. => some .enum
  | .reference _ => none

lemma kindOf?_of_shape? {d : Descriptor} {s : Shape} (h : d.shape? classes = some s) :
    kindOf? classes d = Shape.kind? s := by
  cases d with
  | cls id =>
    simp only [Descriptor.shape?, Option.bind_eq_bind, Option.bind_eq_some_iff, Option.pure_def,
      Option.some.injEq] at h
    obtain ⟨c, hc, members, -, rfl⟩ := h
    simp [kindOf?, Shape.kind?, hc]
  | enum name members =>
    obtain rfl := Option.some.inj h
    rfl
  | primitive name ns =>
    obtain rfl := Option.some.inj h
    rfl
  | array element =>
    obtain ⟨label, -, rfl⟩ := Option.map_eq_some_iff.mp h
    rfl
  | generic name arguments =>
    obtain ⟨label, -, rfl⟩ := Option.map_eq_some_iff.mp h
    rfl
  | unknown id => cases h

lemma exists_shape_of_agree {a b : Descriptor} (h : agree classes a b = .ok true) :
    ∃ shape, a.shape? classes = some shape ∧ b.shape? classes = some shape := by
  unfold agree at h
  split at h
  · next s t hs ht =>
    obtain rfl : s = t := by simpa using h
    exact ⟨s, hs, ht⟩
  · cases h

lemma kindOf?_of_agree {a b : Descriptor} (h : agree classes a b = .ok true) :
    kindOf? classes a = kindOf? classes b := by
  obtain ⟨shape, ha, hb⟩ := exists_shape_of_agree h
  rw [kindOf?_of_shape? ha, kindOf?_of_shape? hb]

lemma declarationOf?_of_kindOf? (visibility : String) {d : Descriptor} {kind : Kind} {name : String}
    (hk : kindOf? classes d = some kind) (hn : d.name? classes = some name) :
    ∃ declaration, declarationOf? classes visibility d = some declaration ∧
      declaration.name = name ∧ kindOf declaration = kind := by
  cases d with
  | enum _ members =>
    obtain rfl := Option.some.inj hn
    obtain rfl := Option.some.inj hk
    exact ⟨_, rfl, rfl, rfl⟩
  | cls id =>
    obtain ⟨c, hc, rfl⟩ := Option.map_eq_some_iff.mp hn
    obtain rfl : classKind c.isInterface = kind := by simpa [kindOf?, hc] using hk
    exact ⟨.cls (classDeclaration classes visibility c), by simp [declarationOf?, hc], rfl, rfl⟩
  | _ => cases hk

lemma name_of_declarationOf? {visibility : String} {d : Descriptor} {declaration : TypeDeclaration}
    (h : declarationOf? classes visibility d = some declaration) :
    d.name? classes = some declaration.name := by
  cases d with
  | enum name members =>
    obtain rfl := Option.some.inj h
    rfl
  | cls id =>
    obtain ⟨c, hc, rfl⟩ := Option.map_eq_some_iff.mp h
    simp [Descriptor.name?, hc, TypeDeclaration.name, classDeclaration]
  | _ => cases h

/-- Under the name of an entry stand only the entry and its declaration. -/
lemma filter_declarations {visibility : String} {l : List (String × Descriptor)}
    (hl : (l.map (·.1)).Nodup) (hnamed : ∀ p ∈ l, p.2.name? classes = some p.1) {name : String}
    {d : Descriptor} {declaration : TypeDeclaration} (hmem : (name, d) ∈ l)
    (hd : declarationOf? classes visibility d = some declaration) :
    (l.filterMap fun p => declarationOf? classes visibility p.2).filter (·.name == name) =
      [declaration] := by
  have hother : ∀ l' : List (String × Descriptor), (∀ p ∈ l', p ∈ l ∧ p.1 ≠ name) →
      (l'.filterMap fun p => declarationOf? classes visibility p.2).filter (·.name == name) = [] := by
    intro l' hl'
    rw [List.filter_eq_nil_iff]
    intro e he
    obtain ⟨p, hp, hpe⟩ := List.mem_filterMap.mp he
    have hn := (hnamed p (hl' p hp).1).symm.trans (name_of_declarationOf? hpe)
    simpa [Option.some.inj hn] using (hl' p hp).2
  obtain ⟨before, after, rfl⟩ := List.append_of_mem hmem
  have hname : declaration.name = name :=
    Option.some.inj ((name_of_declarationOf? hd).symm.trans (hnamed _ hmem))
  rw [List.map_append, List.map_cons, List.nodup_append, List.nodup_cons] at hl
  obtain ⟨-, ⟨hafter, -⟩, hbefore⟩ := hl
  have hfirst : declarationOf? classes visibility (name, d).2 = some declaration := hd
  rw [List.filterMap_append, List.filterMap_cons, hfirst, List.filter_append,
    List.filter_cons_of_pos (by simp [hname]), hother before, hother after, List.nil_append]
  · exact fun p hp => ⟨by simp [hp], fun he => hafter (List.mem_map.mpr ⟨p, hp, he⟩)⟩
  · exact fun p hp => ⟨by simp [hp], hbefore p.1 (List.mem_map_of_mem hp) name (by simp)⟩

/-- What is settled at the end of a run is grounded. -/
lemma Settled.grounded {visibility : String} {existing : List String} {P : Descriptor → Prop}
    {r : Registry} (h : Ordered classes visibility existing P [] r) {d : Descriptor}
    (hs : Settled classes r d) (hk : (kindOf? classes d).isSome = true) :
    ∃ name, d.name? classes = some name ∧ (name ∈ existing ∨
      ∃ declaration, r.declarations.filter (·.name == name) = [declaration] ∧
        kindOf? classes d = some (kindOf declaration)) := by
  obtain ⟨name, hn, hr, hconsistent⟩ := hs
  refine ⟨name, hn, ?_⟩
  rcases (contains_iff r name).mp hr with hex | hknown
  · exact .inl ((h.sound.existing_iff name).mp hex)
  · obtain ⟨known, hknown⟩ := Option.isSome_iff_exists.mp hknown
    have hsame : kindOf? classes known = kindOf? classes d := by
      rcases hconsistent known hknown with rfl | hagree
      · rfl
      · exact kindOf?_of_agree hagree
    obtain ⟨kind, hkind⟩ := Option.isSome_iff_exists.mp hk
    have hmem : (name, known) ∈ r.declared := h.entries_eq ▸ mem_entries_of_known? hknown
    obtain ⟨declaration, hdecl, -, hkd⟩ := declarationOf?_of_kindOf? visibility
      (hsame.trans hkind) (h.sound.named _ hmem)
    have hdistinct : (r.declared.map (·.1)).Nodup := h.entries_eq ▸ h.sound.distinct
    refine .inr ⟨declaration, ?_, by rw [hkind, hkd]⟩
    rw [h.sound.declarations_eq]
    exact filter_declarations hdistinct h.sound.named hmem hdecl

/-- The reference to a type that has been resolved is grounded. -/
lemma Handled.grounded {visibility : String} {existing : List String} {P : Descriptor → Prop}
    {r : Registry} (h : Ordered classes visibility existing P [] r) {d : Descriptor}
    (hd : Handled classes [] r d) :
    Grounded classes existing r.declarations d (reference classes d) := by
  have hinner : Handled classes [] r d.innermost := hd.innermost
  obtain ⟨name, hn⟩ := hinner.named
  have hbase : (baseOf (reference classes d)).name = name := by
    rw [baseOf_reference, hn]
    rfl
  refine ⟨by rw [hbase, hn], ?_⟩
  rw [hbase]
  have hsettled : Settled classes r d.innermost → (kindOf? classes d.innermost).isSome = true →
      name ∈ existing ∨ ∃ declaration, r.declarations.filter (·.name == name) = [declaration] ∧
        kindOf? classes d.innermost = some (kindOf declaration) := by
    intro hs hk
    obtain ⟨name', hn', hg⟩ := hs.grounded h hk
    obtain rfl := Option.some.inj (hn.symm.trans hn')
    exact hg
  cases hi : d.innermost with
  | primitive primitiveName ns => exact .inl ⟨primitiveName, ns, rfl⟩
  | array element => exact absurd hi (innermost_ne_array d element)
  | enum enumName members =>
    rw [hi] at hinner hsettled
    rcases hinner with hv | hs
    · exact absurd hv List.not_mem_nil
    · exact .inr (hsettled hs rfl)
  | generic | unknown =>
    rw [hi] at hinner
    exact absurd hinner List.not_mem_nil
  | cls id =>
    rw [hi] at hinner hsettled hn
    obtain ⟨c, hc, -⟩ := Option.map_eq_some_iff.mp hn
    rcases hinner with hv | hs
    · exact absurd hv List.not_mem_nil
    · exact .inr (hsettled hs (by simp [kindOf?, hc]))

/-- The references to the types of parameters or properties, in their order, are grounded. -/
def AllGrounded (classes : ClassTable) (existing : List String)
    (declarations : List TypeDeclaration) (members : List (String × Descriptor))
    (types : List TypeReference) : Prop :=
  List.Forall₂ (fun p type => Grounded classes existing declarations p.2 type) members types

/-- The references in the method of an operation: a method that is called takes what the operation
takes; one that subscribes takes an action on it, and its call has the same type arguments. -/
structure MethodGrounded (classes : ClassTable) (existing : List String)
    (declarations : List TypeDeclaration) (o : Operation) (method : MethodDeclaration) : Prop where
  called : o.direction = .serverReceived → method.returnType = .named "Task" ∧
    AllGrounded classes existing declarations (callerParameters o.parameters)
      (method.parameters.map (·.type)) ∧
    ∀ statement ∈ method.body, statement.call.typeArguments = []
  subscribed : o.direction = .clientInvoked → method.returnType = .named "IDisposable" ∧
    (∀ p ∈ method.parameters, p.type.name = "Action" ∧ p.type.isArray = false ∧
      AllGrounded classes existing declarations (callerParameters o.parameters) p.type.arguments) ∧
    ∀ statement ∈ method.body, AllGrounded classes existing declarations
      (callerParameters o.parameters) statement.call.typeArguments

lemma allGrounded_reference {existing : List String} {declarations : List TypeDeclaration}
    {members : List (String × Descriptor)}
    (h : ∀ p ∈ members, Grounded classes existing declarations p.2 (reference classes p.2)) :
    AllGrounded classes existing declarations members
      (members.map fun p => reference classes p.2) := by
  rw [AllGrounded, List.forall₂_map_right_iff, List.forall₂_same]
  exact h

lemma methodGrounded_methodOf {existing : List String} {declarations : List TypeDeclaration}
    (options : MethodOptions) (connection : String) {o : Operation}
    (h : ∀ p ∈ callerParameters o.parameters,
      Grounded classes existing declarations p.2 (reference classes p.2)) :
    MethodGrounded classes existing declarations o (methodOf classes options connection o) := by
  have hall := allGrounded_reference h
  have htypes : (parametersOf classes o).map (·.type) =
      (callerParameters o.parameters).map fun p => reference classes p.2 := by
    simp [parametersOf]
  constructor
  · intro hd
    simp only [methodOf, hd, serverMethod, htypes]
    exact ⟨trivial, hall, by simp⟩
  · intro hd
    simp only [methodOf, hd, clientMethod, htypes]
    exact ⟨trivial, by simpa [TypeReference.isArray] using hall, by simpa using hall⟩

/-- Every reference in the methods of a proxy and in the properties of its declarations is
grounded. -/
theorem references_grounded_of_build {options : BuildOptions} {m : Metadata} {ns className : String}
    {existing : List String} {model : ApiModel}
    (h : (build options m ns className existing).1 = .ok model) :
    builtOperations? m = some model.operations ∧
      List.Forall₂ (MethodGrounded m.classes existing model.declarations) model.operations
        model.methods ∧
      (∀ p ∈ model.proxy.properties, p.type = .named "HubConnection") ∧
      ∀ declaration, .cls declaration ∈ model.declarations →
        ∃ id c, .cls id ∈ model.declaredTypes ∧ m.classes[id]? = some c ∧
          declaration.name = c.name ∧ declaration.isInterface = c.isInterface ∧
          AllGrounded m.classes existing model.declarations c.properties
            (declaration.properties.map (·.type)) ∧
          AllGrounded m.classes existing model.declarations c.properties
            (declaration.properties.map (·.field.type)) := by
  obtain ⟨operations, r, hend, rfl⟩ := ended_of_build h
  have hord := hend.ordered
  refine ⟨hend.built, ?_, ?_, ?_⟩
  · simp only [modelOf, ApiModel.methods, List.forall₂_map_right_iff]
    refine List.forall₂_same.mpr fun o ho => methodGrounded_methodOf _ _ fun p hp => ?_
    exact (hend.handled_parameter ho hp).grounded hord
  · simp [modelOf, connectionOf, memberDeclaration, connectionType, reference, Descriptor.name?]
  · intro declaration hmem
    have hmem' : .cls declaration ∈ r.declarations := hmem
    rw [hord.sound.declarations_eq, List.mem_filterMap] at hmem'
    obtain ⟨⟨name, d⟩, hp, hd⟩ := hmem'
    cases d with
    | cls id =>
      obtain ⟨c, hc, hcls⟩ := Option.map_eq_some_iff.mp hd
      obtain rfl := TypeDeclaration.cls.inj hcls
      have hall : AllGrounded m.classes existing r.declarations c.properties
          (c.properties.map fun p => reference m.classes p.2) := by
        refine allGrounded_reference fun p hmember => ?_
        have hhandled := (hord.members name id c (List.mem_append_right _ hp) hc p hmember).1
        exact hhandled.grounded hord
      refine ⟨id, c, List.mem_map_of_mem (f := (·.2)) hp, hc, rfl, rfl, ?_, ?_⟩
      · simpa [classDeclaration, memberDeclaration, Function.comp_def, modelOf] using hall
      · simpa [classDeclaration, memberDeclaration, Function.comp_def, modelOf] using hall
    | enum | primitive | array | generic | unknown => cases hd

/-- A contract with two interfaces of one name and one shape that refer to each other. -/
def sharedContract : Metadata where
  source := "shared"
  types := [
    ⟨"Hub", .hub, [⟨"send", .serverReceived, [("node", .cls 0)], true, none⟩]⟩,
    ⟨"Api", .clientApi, [⟨"moved", .clientInvoked, [("nodes", .array (.cls 1))], true, none⟩]⟩]
  classes := #[⟨"Node", [("next", .cls 1)], true⟩, ⟨"Node", [("next", .cls 0)], true⟩]

/-- Types of one name and one shape share a declaration. -/
theorem references_grounded_sharedContract :
    ∃ model, (build {} sharedContract "Games" "Proxy" []).1 = .ok model ∧
      model.declarations.map (·.name) = ["Node"] ∧
      List.Forall₂ (MethodGrounded sharedContract.classes [] model.declarations) model.operations
        model.methods := by
  have hbuild : ∃ model, (build {} sharedContract "Games" "Proxy" []).1 = .ok model ∧
      model.declarations.map (·.name) = ["Node"] := ⟨_, rfl, rfl⟩
  obtain ⟨model, hmodel, hnames⟩ := hbuild
  have hgrounded := references_grounded_of_build hmodel
  exact ⟨model, hmodel, hnames, hgrounded.2.1⟩

end HubProxy.Proofs
