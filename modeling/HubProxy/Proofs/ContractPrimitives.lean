import HubProxy.Proofs.ContractReading

/-!
# Primitives of a contract that has been read

Reading a document yields no primitive type but those of the target language: what is entered into
the table of types keeps to them, and so does a whole contract.
-/

namespace HubProxy.Proofs

open Contract (TypeTable)

/-- A type whose primitives are those of the target language, at whatever rank. -/
def KnownPrimitives : Descriptor → Prop
  | .primitive name ns => primitive? name = some (.primitive name ns)
  | .array element => KnownPrimitives element
  | _ => True

lemma knownPrimitives_of_primitive? {name : String} {d : Descriptor} (h : primitive? name = some d) :
    KnownPrimitives d := by
  have hd : d = .primitive name none ∨ d = .primitive name (some "System") ∨
      (name = "IClientProxy" ∧ d = connectionContext) := by
    unfold primitive? at h
    split at h
    · exact .inl (Option.some.inj h).symm
    split at h
    · exact .inr (.inl (Option.some.inj h).symm)
    split at h
    · next hname => exact .inr (.inr ⟨hname, (Option.some.inj h).symm⟩)
    · cases h
  rcases hd with rfl | rfl | ⟨rfl, rfl⟩
  · exact h
  · exact h
  · rfl

/-- What the primitives of the target language are, and what each needs. -/
lemma knownPrimitives_cases {name : String} {ns : Option String}
    (h : KnownPrimitives (.primitive name ns)) :
    name ∈ keywordTypes ∧ ns = none ∨ name ∈ systemTypes ∧ ns = some "System" ∨
      name = "IClientProxy" ∧ ns = some "Microsoft.AspNetCore.SignalR" := by
  rw [KnownPrimitives, primitive?] at h
  split at h
  · next hword => exact .inl ⟨hword, (Descriptor.primitive.inj (Option.some.inj h)).2.symm⟩
  split at h
  · next hsystem =>
    exact .inr (.inl ⟨hsystem, (Descriptor.primitive.inj (Option.some.inj h)).2.symm⟩)
  split at h
  · next hname =>
    exact .inr (.inr ⟨hname, (Descriptor.primitive.inj (Option.some.inj h)).2.symm⟩)
  · cases h

/-- A table of types that have been read. -/
structure KnownTable (t : TypeTable) : Prop where
  known : ∀ p ∈ t.known, KnownPrimitives p.2
  classes : ∀ c ∈ t.classes, ∀ p ∈ c.properties, KnownPrimitives p.2

lemma KnownTable.of_lookup {t : TypeTable} (h : KnownTable t) {name : String} {d : Descriptor}
    (hd : t.known.lookup name = some d) : KnownPrimitives d := by
  obtain ⟨before, after, heq, -⟩ := List.lookup_eq_some_iff.mp hd
  exact h.known (name, d) (by rw [heq]; simp)

/-- What is entered into a table keeps to the primitives of the target language. -/
theorem readingInvariant_knownTable :
    ReadingInvariant KnownTable fun _ d => KnownPrimitives d where
  start := ⟨by simp, by simp⟩
  primitive _ _ _ h := knownPrimitives_of_primitive? h
  array _ _ h := h
  generic _ _ _ := trivial
  known _ _ _ ht hd := ht.of_lookup hd
  grows _ _ _ _ h := h
  enum t name members ht _ _ := by
    refine ⟨fun p hp => ?_, ht.classes⟩
    rcases List.mem_cons.mp hp with rfl | hp
    · trivial
    · exact ht.known p hp
  opened t name isInterface ht _ _ := by
    refine ⟨fun p hp => ?_, fun c hc p hmem => ?_⟩
    · rcases List.mem_cons.mp hp with rfl | hp
      · trivial
      · exact ht.known p hp
    · rcases Array.mem_push.mp hc with hc | rfl
      · exact ht.classes c hc p hmem
      · exact absurd hmem List.not_mem_nil
  closed t id properties ht hproperties := by
    refine ⟨ht.known, fun c hc p hmem => ?_⟩
    obtain ⟨i, hi, rfl⟩ := Array.mem_iff_getElem.mp hc
    simp only [withProperties, Array.getElem_modify] at hmem
    split at hmem
    · exact hproperties p hmem
    · exact ht.classes _ (Array.getElem_mem _) p hmem

/-- The primitives in the parameters of an operation are those of the target language. -/
def KnownOperation (o : Operation) : Prop :=
  ∀ p ∈ o.parameters, KnownPrimitives p.2

/-- The primitives in the operations of a hub or a client API are those of the target language. -/
def KnownContractType (t : ContractType) : Prop :=
  ∀ o ∈ t.operations, KnownOperation o

/-- A contract whose primitives are those of the target language. -/
structure KnownContract (m : Metadata) : Prop where
  types : ∀ t ∈ m.types, KnownContractType t
  classes : ∀ c ∈ m.classes, ∀ p ∈ c.properties, KnownPrimitives p.2

/-- A contract that has been read from a document mentions no other primitives. -/
theorem knownContract_of_ofText {text source : String} {m : Metadata}
    (h : Contract.ofText text source = .ok m) : KnownContract m := by
  obtain ⟨t, ht, hclasses, htypes⟩ := read_of_ofText readingInvariant_knownTable h
  exact ⟨htypes, hclasses ▸ ht.classes⟩

end HubProxy.Proofs
