import HubProxy.Proofs.ContractReading
import HubProxy.Proofs.NeededTypes

/-!
# Names of a contract that has been read

The table of types has one descriptor for each name, also while a class is being read that leads
back to itself. A name ends in no brackets, which an expression would take for those of an array. So
in a contract that a text describes no class or enumeration shares its name with another type.
-/

namespace HubProxy.Proofs

open Contract (TypeTable)

/-- The classes and enumerations that arrays lead to are known to a table. -/
def Recorded (t : TypeTable) : Descriptor → Prop
  | .array element => Recorded t element
  | .enum name members => (name, .enum name members) ∈ t.known
  | .cls id => ∃ name, (name, .cls id) ∈ t.known
  | .unknown _ => False
  | _ => True

/-- A table that has one type for each name. -/
structure NameTable (t : TypeTable) : Prop where
  distinct : (t.known.map (·.1)).Nodup
  named : ∀ p ∈ t.known, p.2.name? t.classes = some p.1
  user : ∀ p ∈ t.known, UserType p.2 ∧ Unsuffixed p.1
  members : ∀ (id : ClassId) (c : ClassDef), t.classes[id]? = some c →
    ∀ p ∈ c.properties, Recorded t p.2

lemma Recorded.grows {t t' : TypeTable} (h : Grows t t') {d : Descriptor} (hd : Recorded t d) :
    Recorded t' d := by
  induction d using reference.induct with
  | case1 element ih => exact ih hd
  | case2 d hleaf =>
    cases d with
    | array element => exact absurd rfl (hleaf element)
    | enum name members => exact h.known _ hd
    | cls id =>
      obtain ⟨name, hmem⟩ := hd
      exact ⟨name, h.known _ hmem⟩
    | _ => exact hd

lemma recorded_of_mem {t : TypeTable} (ht : NameTable t) {name : String} {d : Descriptor}
    (hd : (name, d) ∈ t.known) : Recorded t d := by
  obtain ⟨huser, -⟩ := ht.user _ hd
  have hn := ht.named _ hd
  cases d with
  | enum n members =>
    obtain rfl : n = name := Option.some.inj hn
    exact hd
  | cls id => exact ⟨name, hd⟩
  | _ => exact huser.elim

/-- The name of a user type stays as a table grows. -/
lemma UserType.name?_grows {t t' : TypeTable} (h : Grows t t') {d : Descriptor} {name : String}
    (hd : UserType d) (hn : d.name? t.classes = some name) : d.name? t'.classes = some name := by
  cases d with
  | enum => exact hn
  | cls id => exact h.names id name hn
  | _ => exact hd.elim

/-- A table takes in a user type under its own name. -/
lemma NameTable.enter {t t' : TypeTable} (ht : NameTable t) (hgrows : Grows t t') {name : String}
    {d : Descriptor} (hknown : t'.known = (name, d) :: t.known)
    (hl : t.known.lookup name = none) (hname : Unsuffixed name) (hd : UserType d)
    (hn : d.name? t'.classes = some name)
    (hmembers : ∀ (id : ClassId) (c : ClassDef), t'.classes[id]? = some c →
      ∀ p ∈ c.properties, Recorded t' p.2) :
    NameTable t' := by
  have hfresh : name ∉ t.known.map (·.1) := by
    intro hmem
    obtain ⟨p, hp, rfl⟩ := List.mem_map.mp hmem
    simpa using List.lookup_eq_none_iff.mp hl p hp
  refine ⟨?_, fun p hp => ?_, fun p hp => ?_, hmembers⟩
  · rw [hknown]
    exact List.nodup_cons.mpr ⟨hfresh, ht.distinct⟩
  · rw [hknown] at hp
    rcases List.mem_cons.mp hp with rfl | hp
    · exact hn
    · exact (ht.user p hp).1.name?_grows hgrows (ht.named p hp)
  · rw [hknown] at hp
    rcases List.mem_cons.mp hp with rfl | hp
    · exact ⟨hd, hname⟩
    · exact ht.user p hp

/-- Reading a contract keeps one type for each name. -/
theorem readingInvariant_nameTable : ReadingInvariant NameTable Recorded where
  start := ⟨List.nodup_nil, by simp, by simp, by simp⟩
  primitive t name d h := by
    obtain ⟨word, ns, rfl⟩ := eq_primitive_of_primitive? h
    trivial
  array _ _ h := h
  generic _ _ _ := trivial
  known t name d ht hd := by
    obtain ⟨before, after, heq, -⟩ := List.lookup_eq_some_iff.mp hd
    have hmem : (name, d) ∈ t.known := heq ▸ by simp
    exact recorded_of_mem ht hmem
  grows _ _ _ hgrows hd := hd.grows hgrows
  enum t name members ht hl hname :=
    ht.enter (grows_withEnum t name members) rfl hl hname trivial rfl
      fun id c hc p hp => (ht.members id c hc p hp).grows (grows_withEnum t name members)
  opened t name isInterface ht hl hname := by
    have hgrows := grows_withClass t name isInterface
    refine ht.enter hgrows rfl hl hname trivial ?_ fun id c hc p hp => ?_
    · simp [Descriptor.name?, withClass]
    · rw [withClass, Array.getElem?_push] at hc
      split at hc
      · obtain rfl := Option.some.inj hc
        exact absurd hp List.not_mem_nil
      · exact (ht.members id c hc p hp).grows hgrows
  closed t id properties ht hproperties := by
    have hgrows := grows_withProperties t id properties
    refine ⟨ht.distinct, fun p hp => ?_, ht.user, fun id' c hc p hp => ?_⟩
    · exact (ht.user p hp).1.name?_grows hgrows (ht.named p hp)
    · rw [withProperties, Array.getElem?_modify] at hc
      split at hc
      · obtain ⟨c', -, rfl⟩ := Option.map_eq_some_iff.mp hc
        exact (hproperties p hp).grows hgrows
      · exact (ht.members id' c hc p hp).grows hgrows

/-- A name with brackets behind it would be read as that of an array. -/
lemma not_unsuffixed_brackets (name : String) : ¬Unsuffixed (name ++ "[]") := by
  have hsuffix : ['[', ']'].isSuffixOf (name ++ "[]").toList = true := by
    rw [List.isSuffixOf_iff_suffix, String.toList_append]
    exact List.suffix_append _ _
  intro h
  rw [Unsuffixed, Outer.ofTrimmed, beforeSuffix?, if_pos hsuffix] at h
  cases h

lemma Recorded.mem {t : TypeTable} (ht : NameTable t) {d : Descriptor} {name : String}
    (hd : Recorded t d) (huser : UserType d) (hn : d.name? t.classes = some name) :
    (name, d) ∈ t.known := by
  cases d with
  | enum n members =>
    obtain rfl : n = name := Option.some.inj hn
    exact hd
  | cls id =>
    obtain ⟨n, hmem⟩ := hd
    obtain rfl := Option.some.inj (hn.symm.trans (ht.named _ hmem))
    exact hmem
  | _ => exact huser.elim

/-- In a contract that has been read, classes and enumerations have their names for themselves. -/
theorem ownNames_of_ofText {text source : String} {m : Metadata}
    (h : Contract.ofText text source = .ok m) : OwnNames m := by
  obtain ⟨t, ht, hclasses, htypes⟩ := read_of_ofText readingInvariant_nameTable h
  have hrecorded : ∀ {d}, Mentioned m d → Recorded t d := by
    intro d hd
    induction hd with
    | parameter ht ho hp => exact htypes _ ht _ ho _ hp
    | element _ ih => exact ih
    | member _ hc hp _ => exact ht.members _ _ (hclasses ▸ hc) _ hp
  intro d name hd huser hn d' hd' hdecl hn'
  rw [hclasses] at hn hn'
  have hmem := (hrecorded hd).mem ht huser hn
  cases d' with
  | array element =>
    obtain ⟨inner, -, rfl⟩ := Option.map_eq_some_iff.mp hn'
    exact absurd (ht.user _ hmem).2 (not_unsuffixed_brackets inner)
  | enum | cls =>
    have hmem' := (hrecorded hd').mem ht trivial hn'
    exact eq_of_mem_of_nodup ht.distinct hmem' hmem
  | primitive | generic | unknown => exact hdecl.elim

end HubProxy.Proofs
