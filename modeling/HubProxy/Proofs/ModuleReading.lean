import HubProxy.Proofs.LoadedModules

/-!
# Reading a module that says a contract

Describing the types of such a module refines reading the types of the contract: its table knows the
class for a type wherever that of the contract knows the name. A type is described within as many
steps as it takes to read through the types of the contract and the arrays between them.
-/

namespace HubProxy.Proofs

open ContractModule

variable {w : Wording} {home : String} {b : Blueprint} {m : LoadedModule}

/-- The table of types as a module keeps it. -/
def byClass (home : String) (b : Blueprint) (t : Contract.TypeTable) : TypeTable where
  classes := t.classes
  known := t.known.map fun p => (b.classOf home p.1, p.2)

lemma lookup_byClass (home : String) (b : Blueprint) (t : Contract.TypeTable) (name : String) :
    (byClass home b t).known.lookup (b.classOf home name) = t.known.lookup name := by
  rw [byClass]
  generalize t.known = known
  induction known with
  | nil => rfl
  | cons p known ih =>
    by_cases hp : name = p.1
    · subst hp
      rw [List.map_cons, List.lookup_cons_self, List.lookup_cons_self]
    · have hne : b.classOf home name ≠ b.classOf home p.1 := fun heq =>
        hp (congrArg ClassRef.name heq)
      rw [List.map_cons, List.lookup_cons, beq_false_of_ne hne, ih, lookup_cons_ne hp]

/-- The homes whose classes stand for primitive types. -/
def primitiveHomes : List String := [coreHome, "decimal", "uuid", "datetime"]

lemma primitiveOf?_own {c : ClassRef} {place : Nat} (hc : c.own = some place)
    (hhome : c.home ∉ primitiveHomes) : primitiveOf? c = none := by
  simp only [primitiveHomes, List.mem_cons, List.not_mem_nil, or_false, not_or] at hhome
  unfold primitiveOf?
  rw [if_neg (own_ne hc rfl), if_neg (own_ne hc rfl), if_neg hhome.1, if_neg hhome.2.1,
    if_neg hhome.2.2.1, if_neg hhome.2.2.2]

lemma moduleName_not_mem_primitiveHomes (stem : String) : moduleName stem ∉ primitiveHomes := by
  intro hmem
  have hstart : "_hubgen_contract_".toList.head? = some '_' := by decide +kernel
  have hlist : (moduleName stem).toList = "_hubgen_contract_".toList ++ stem.toList :=
    String.toList_append
  have hhead : (moduleName stem).toList.head? = some '_' := by
    rw [hlist, List.head?_append, hstart, Option.some_or]
  have hplain : ∀ name ∈ primitiveHomes, name.toList.head? ≠ some '_' := by decide
  exact hplain _ hmem hhead

section Describing

lemma parts?_cls {c : ClassRef} (hc : isGenericMaker c = false) : (TypeValue.cls c).parts? = none := by
  have hne : c ≠ formClass "Generic" := by
    rintro rfl
    cases hc
  rw [TypeValue.parts?, if_neg hne]

lemma describe_common {c : ClassRef} {d : Descriptor} (hc : primitiveOf? c = some d) (fuel : Nat) :
    m.describe (fuel + 1) (.cls c) = pure d := by
  rw [LoadedModule.describe.eq_def]
  simp only [parts?_cls (isGenericMaker_of_primitiveOf? hc), hc]

lemma describe_array {v x : TypeValue} {h : Head} (hv : IsArrayHead v h) (fuel : Nat) :
    m.describe (fuel + 1) (.apply h [x]) = do return .array (← m.describe fuel x) := by
  obtain ⟨hparts, hsequence⟩ := hv.parts? x
  rw [LoadedModule.describe.eq_def]
  simp only [hparts, hsequence, if_true]

variable {c : ClassRef} {t : TypeTable}

/-- A class that is described by what the module says of it. -/
structure IsDescribedClass (c : ClassRef) : Prop where
  notGeneric : isGenericMaker c = false
  notPrimitive : primitiveOf? c = none
  notBare : isBareContainer c = false

lemma isDescribedClass_own {place : Nat} (hc : c.own = some place) (hhome : c.home ∉ primitiveHomes) :
    IsDescribedClass c where
  notGeneric := isGenericMaker_own hc
  notPrimitive := primitiveOf?_own hc hhome
  notBare := by
    refine List.any_eq_false.mpr fun name _ heq => ?_
    exact own_ne hc (rfl : (coreClass name).own = none) (beq_iff_eq.mp heq)

lemma IsDescribedClass.describe_known (hc : IsDescribedClass c) {d : Descriptor}
    (ht : t.known.lookup c = some d) (fuel : Nat) :
    (m.describe (fuel + 1) (.cls c)).run t = .ok (d, t) := by
  rw [LoadedModule.describe.eq_def]
  simp only [parts?_cls hc.notGeneric, hc.notPrimitive]
  rw [StateT.run_bind, StateT.run_get, pure_bind]
  simp only [ht]
  rfl

lemma IsDescribedClass.describe_enum (hc : IsDescribedClass c) (hkind : c.kind.isEnumeration = true)
    {r : ClassRecord} (hr : recordOf? m.classes c = some r) (ht : t.known.lookup c = none)
    (fuel : Nat) :
    (m.describe (fuel + 1) (.cls c)).run t =
      .ok (.enum c.name r.members, { t with known := (c, .enum c.name r.members) :: t.known }) := by
  rw [LoadedModule.describe.eq_def]
  simp only [parts?_cls hc.notGeneric, hc.notPrimitive]
  rw [StateT.run_bind, StateT.run_get, pure_bind]
  simp only [ht, hkind, hr, if_true]
  rfl

lemma IsDescribedClass.describe_record (hc : IsDescribedClass c)
    (hkind : c.kind.isEnumeration = false) {r : ClassRecord} (hr : recordOf? m.classes c = some r)
    (hvariables : r.typeVariables.getD [] = []) {fields : List (String × TypeValue)}
    (hfields : m.fieldTypes c = .ok fields) (ht : t.known.lookup c = none) (fuel : Nat) :
    (m.describe (fuel + 1) (.cls c)).run t =
      (do
        let properties ← (fields.filter fun p => isDescribed p.1 p.2).mapM fun p => do
          return (Text.camelCase p.1, ← m.describe fuel p.2)
        modify fun t' =>
          { t' with classes := t'.classes.modify t.classes.size fun d => { d with properties } }
        return .cls t.classes.size : DescribeM Descriptor).run
          ⟨t.classes.push ⟨c.name, [], r.isProtocol⟩, (c, .cls t.classes.size) :: t.known⟩ := by
  rw [LoadedModule.describe.eq_def]
  simp only [parts?_cls hc.notGeneric, hc.notPrimitive]
  rw [StateT.run_bind, StateT.run_get, pure_bind]
  simp only [ht, hkind, hr, Bool.false_eq_true, if_false, hc.notBare, Option.bind_some, hvariables,
    hfields]
  rfl

end Describing

section Types

lemma recordsOf_type (hm : Carried w home b m) {name : String} {isInterface : Bool}
    {properties : List (String × TypeUse)}
    (h : b.types.lookup name = some (.record isInterface properties)) :
    recordsOf m.classes (b.classOf home name) =
      [(TypePlan.record isInterface properties).made w home name (b.names.idxOf name)] := by
  have hr := hm.type h
  let above : List ClassRef :=
    if isInterface then [formClass "Protocol", formClass "Generic", objectClass] else [objectClass]
  have habove : above.filterMap (recordOf? m.classes) = [] := by
    cases isInterface <;> rfl
  have hancestors : ((TypePlan.record isInterface properties).made w home name
      (b.names.idxOf name)).ancestors = b.classOf home name :: above := by
    rw [classOf_eq h]
    rfl
  rw [recordsOf, ancestorsOf, hr]
  dsimp only
  rw [hancestors, List.filterMap_cons_some hr, habove]

lemma fieldTypes_type (hm : Carried w home b m) (hb : b.WellFormed) {name : String}
    {isInterface : Bool} {properties : List (String × TypeUse)}
    (h : b.types.lookup name = some (.record isInterface properties)) :
    m.fieldTypes (b.classOf home name) =
      .ok (properties.map fun p => (p.1, p.2.value w (b.classOf home))) := by
  have hmem := mem_types_of_lookup h
  have hscope : m.classScope ((TypePlan.record isInterface properties).made w home name
      (b.names.idxOf name)) = m.scope := rfl
  unfold LoadedModule.fieldTypes
  rw [recordsOf_type hm h, List.reverse_singleton, List.foldlM_cons, hscope]
  have hannotated : ((TypePlan.record isInterface properties).made w home name
      (b.names.idxOf name)).annotated = properties.map fun p => (p.1, p.2.term w) := rfl
  rw [hannotated, List.foldlM_map]
  refine (congrArg (· >>= _) (foldlM_eq_ok (l := properties)
    (fun before => before.map fun p => (p.1, p.2.value w (b.classOf home))) ?_)).trans rfl
  intro before p after hl
  have hp : p ∈ properties := hl ▸ List.mem_append_right before List.mem_cons_self
  have hfresh : p.1 ∉ (before.map fun p => (p.1, p.2.value w (b.classOf home))).map (·.1) := by
    simpa using not_mem_of_nodup_map (hb.properties _ hmem).distinct hl
  dsimp only
  rw [hm.resolves.resolve (hb.closed _ hmem p hp), ok_bind, put_eq_append hfresh, List.map_append]
  rfl

lemma isDescribed_value (hw : w.Apt) {classOf : String → ClassRef} {name : String}
    (hname : '_' ∉ name.toList) (u : TypeUse) :
    isDescribed name (u.value w classOf) = true := by
  have hpublic : "_".toList.isPrefixOf name.toList = false := by
    rw [Bool.eq_false_iff]
    intro hprefix
    exact hname ((List.isPrefixOf_iff_prefix.mp hprefix).subset (by decide))
  obtain ⟨v, -, hhead⟩ := hw.array
  unfold isDescribed
  rw [hpublic]
  cases u with
  | common c => rfl
  | array element =>
    rw [TypeUse.value]
    generalize w.array.head = head at hhead
    cases hhead <;> rfl
  | named name => rfl

/-- Arrays are described around the types that the contract names. -/
lemma refines_use (hw : w.Apt) {named : String → PlanM Descriptor} {base : Nat}
    (hnamed : ∀ name ∈ b.names, ∀ fuel > base,
      Refines (byClass home b) Eq (m.describe fuel (.cls (b.classOf home name))) (named name))
    {u : TypeUse} (hu : u.IsIn b) {fuel : Nat} (hfuel : base + u.rank < fuel) :
    Refines (byClass home b) Eq (m.describe fuel (u.value w (b.classOf home))) (u.read named) := by
  obtain ⟨fuel, rfl⟩ := Nat.exists_eq_add_one_of_ne_zero (n := fuel) (by omega)
  induction u generalizing fuel with
  | common c =>
    rw [TypeUse.value, describe_common (hw.common c).2]
    exact refines_pure rfl
  | array element ih =>
    obtain ⟨v, -, hhead⟩ := hw.array
    rw [TypeUse.rank] at hfuel
    obtain ⟨fuel, rfl⟩ := Nat.exists_eq_add_one_of_ne_zero (n := fuel) (by omega)
    rw [TypeUse.value, describe_array hhead]
    refine (ih hu fuel (by omega)).bind fun d d' hd => refines_pure ?_
    rw [hd]
  | named name => exact hnamed name hu _ (by omega)

/-- The fields of a class are described as the properties of the type are read. -/
lemma refines_uses (hw : w.Apt) {named : String → PlanM Descriptor} {fuel : Nat}
    {uses : List (String × TypeUse)} (hlabelled : Labelled uses)
    (huse : ∀ p ∈ uses, Refines (byClass home b) Eq
      (m.describe fuel (p.2.value w (b.classOf home))) (p.2.read named)) :
    Refines (byClass home b) Eq
      (((uses.map fun p => (p.1, p.2.value w (b.classOf home))).filter fun p =>
        isDescribed p.1 p.2).mapM fun p => do
          return (Text.camelCase p.1, ← m.describe fuel p.2))
      (readUses named uses) := by
  have hall : (uses.map fun p => (p.1, p.2.value w (b.classOf home))).filter
      (fun p => isDescribed p.1 p.2) = uses.map fun p => (p.1, p.2.value w (b.classOf home)) := by
    refine List.filter_eq_self.mpr fun q hq => ?_
    obtain ⟨p, hp, rfl⟩ := List.mem_map.mp hq
    exact isDescribed_value hw (hlabelled.plain p hp) p.2
  rw [hall]
  refine refines_mapM_eq (List.forall₂_map_right_iff.mpr (List.forall₂_same.mpr fun p hp => ?_))
  refine (huse p hp).bind fun d d' hd => refines_pure ?_
  rw [hd, hlabelled.camel p hp]

/-- The class for a record is described as the record is read, with the types in it a step less
deep. -/
lemma describe_record_of_read (hm : Carried w home b m) (hb : b.WellFormed)
    (hhome : home ∉ primitiveHomes) {bound : Nat}
    (hdeeper : ∀ name ∈ b.names, ∀ fuel > bound * (m.depth + 1),
      Refines (byClass home b) Eq (m.describe fuel (.cls (b.classOf home name)))
        (b.readNamed bound name))
    {name : String} {isInterface : Bool} {properties : List (String × TypeUse)}
    (hplan : b.types.lookup name = some (.record isInterface properties))
    {t t' : Contract.TypeTable} {d : Descriptor} (hnew : t.known.lookup name = none)
    (hread : (TypePlan.record isInterface properties).read (b.readNamed bound) name t =
      some (d, t')) {fuel : Nat} (hfuel : bound * (m.depth + 1) + m.depth < fuel) :
    (m.describe (fuel + 1) (.cls (b.classOf home name))).run (byClass home b t) =
      .ok (d, byClass home b t') := by
  have hmem : (name, TypePlan.record isInterface properties) ∈ b.types :=
    mem_types_of_lookup hplan
  have hkind : (b.classOf home name).kind.isEnumeration = false := by
    rw [classOf_eq hplan]
    cases isInterface <;> rfl
  have hdescribe := (isDescribedClass_own rfl hhome).describe_record hkind (hm.type hplan)
    (by cases isInterface <;> rfl) (fieldTypes_type hm hb hplan)
    ((lookup_byClass home b t name).trans (by rw [hnew])) fuel
  have huse : ∀ p ∈ properties, Refines (byClass home b) Eq
      (m.describe fuel (p.2.value w (b.classOf home))) (p.2.read (b.readNamed bound)) := by
    intro p hp
    have hrank : p.2.rank ≤ m.depth := hm.depth p.2 (.inl ⟨_, hmem, List.mem_map_of_mem hp⟩)
    exact refines_use hm.resolves.apt hdeeper (hb.closed _ hmem p hp) (by omega)
  obtain ⟨⟨ps, t₁⟩, hps, heq⟩ := Option.bind_eq_some_iff.mp hread
  cases heq
  obtain ⟨_, rfl, hx⟩ := refines_uses hm.resolves.apt (hb.properties _ hmem) huse _ ps t₁ hps
  have htable : byClass home b (withClass t name isInterface) =
      ⟨(byClass home b t).classes.push ⟨name, [],
        ((TypePlan.record isInterface properties).made w home name
          (b.names.idxOf name)).isProtocol⟩,
        (b.classOf home name, .cls t.classes.size) :: (byClass home b t).known⟩ := by
    cases isInterface <;> rfl
  refine hdescribe.trans ?_
  rw [htable] at hx
  refine (StateT.run_bind _ _ _).trans ?_
  exact (congrArg (fun x => x >>= _) hx).trans rfl

/-- The class for a type is described as the type is read. -/
lemma refines_readNamed (hm : Carried w home b m) (hb : b.WellFormed)
    (hhome : home ∉ primitiveHomes) (bound : Nat) :
    ∀ name ∈ b.names, ∀ fuel > bound * (m.depth + 1),
      Refines (byClass home b) Eq (m.describe fuel (.cls (b.classOf home name)))
        (b.readNamed bound name) := by
  have hclass : ∀ name, IsDescribedClass (b.classOf home name) := fun name =>
    isDescribedClass_own rfl hhome
  induction bound with
  | zero =>
    intro name hname fuel hfuel t d t' hrun
    obtain ⟨fuel, rfl⟩ := Nat.exists_eq_add_one_of_ne_zero (n := fuel) (by omega)
    obtain ⟨d', hknown, heq⟩ := Option.map_eq_some_iff.mp hrun
    cases heq
    exact ⟨d, rfl, (hclass name).describe_known ((lookup_byClass home b t name).trans hknown) fuel⟩
  | succ bound ih =>
    intro name hname fuel hfuel t d t' hrun
    obtain ⟨fuel, rfl⟩ := Nat.exists_eq_add_one_of_ne_zero (n := fuel) (by omega)
    have hlookup := lookup_byClass home b t name
    cases hknown : t.known.lookup name with
    | some d' =>
      rw [Blueprint.readNamed, StateT.run, hknown] at hrun
      cases hrun
      exact ⟨d, rfl, (hclass name).describe_known (hlookup.trans hknown) fuel⟩
    | none =>
      rw [Blueprint.readNamed, StateT.run, hknown] at hrun
      obtain ⟨plan, hplan, hread⟩ := Option.bind_eq_some_iff.mp hrun
      cases plan with
      | enum members =>
        cases hread
        refine ⟨_, rfl, ?_⟩
        exact (hclass name).describe_enum (by rw [classOf_eq hplan]; rfl) (hm.type hplan)
          (hlookup.trans hknown) fuel
      | record isInterface properties =>
        have hexpand := Nat.add_one_mul bound (m.depth + 1)
        exact ⟨d, rfl, describe_record_of_read hm hb hhome ih hplan hknown hread (by omega)⟩

end Types

section Functions

lemma filterMapM_map_eq_ok {f : β → Except ε (Option γ)} {make : α → β} {value : α → γ} {l : List α}
    (h : ∀ a ∈ l, f (make a) = .ok (some (value a))) :
    (l.map make).filterMapM f = .ok (l.map value) := by
  induction l with
  | nil => rfl
  | cons a l ih =>
    rw [List.map_cons, List.filterMapM_cons, h a List.mem_cons_self, ok_bind,
      ih fun c hc => h c (List.mem_cons_of_mem a hc)]
    rfl

lemma resolve_nothing (s : Scope) (depth : Nat) (atField : Bool) :
    s.resolve depth atField .nothing = .ok (.cls nothingClass) := by
  cases depth <;> rfl

/-- What a function takes and yields as the module has it. -/
lemma functionTypes_function (hm : Carried w home b m) {o : OperationPlan}
    (ho : ∀ u ∈ o.parameters, u.2.IsIn b) (receiver : Option String) (isAsync : Bool)
    (mark : Option Mark) :
    m.functionTypes (o.function w receiver isAsync mark) =
      .ok (o.parameters.map fun p => (p.1, p.2.value w (b.classOf home)),
        some (.cls nothingClass)) := by
  have hparameters : (o.function w receiver isAsync mark).parameters.filterMapM (fun p =>
      p.type.mapM fun type => do return (p.name, ← m.scope.resolve m.depth false type)) =
      .ok (o.parameters.map fun p => (p.1, p.2.value w (b.classOf home))) := by
    have htyped : (o.parameters.map fun p =>
          (⟨p.1, some (p.2.term w), .single⟩ : FunctionParameter)).filterMapM (fun p =>
        p.type.mapM fun type => do return (p.name, ← m.scope.resolve m.depth false type)) =
        .ok (o.parameters.map fun p => (p.1, p.2.value w (b.classOf home))) := by
      refine filterMapM_map_eq_ok fun p hp => ?_
      rw [Option.mapM_some, hm.resolves.resolve (ho p hp)]
      rfl
    cases receiver with
    | none => exact htyped
    | some receiver =>
      rw [OperationPlan.function, Option.toList_some, List.map_singleton, List.singleton_append,
        List.filterMapM_cons]
      exact htyped
  unfold LoadedModule.functionTypes
  dsimp only
  rw [hparameters, ok_bind]
  have hreturns : (o.function w receiver isAsync mark).returns = some .nothing := rfl
  rw [hreturns, Option.mapM_some, resolve_nothing]
  rfl

lemma OperationPlan.receiver_mem (o : OperationPlan) {name : String} (h : o.receiver = some name) :
    name ∈ ["self", "cls"] :=
  List.mem_of_find?_eq_some h

/-- The one that a function is called with is not described. -/
lemma describeParameters_receiver {receiver : Option String}
    (hreceiver : ∀ name, receiver = some name → name ∈ ["self", "cls"]) (o : OperationPlan)
    (isAsync : Bool) (mark : Option Mark) (owner : String) (types : List (String × TypeValue)) :
    m.describeParameters owner (o.function w receiver isAsync mark) types =
      m.describeParameters owner (o.function w none isAsync mark) types := by
  obtain ⟨name, parameters⟩ := o
  cases receiver with
  | none => rfl
  | some receiver =>
    have hnamed : (receiver == "self" || receiver == "cls") = true := by
      simpa using hreceiver receiver rfl
    unfold LoadedModule.describeParameters
    simp only [OperationPlan.function, Option.toList_some, List.map_cons, List.map_nil,
      List.cons_append, List.nil_append, Option.isSome_some, Bool.true_and, hnamed, if_true]
    cases parameters <;> rfl

/-- The parameters of a function are described as those of the operation are read. -/
lemma refines_describeParameters (hm : Carried w home b m) (hb : b.WellFormed)
    (hhome : home ∉ primitiveHomes) {o : OperationPlan} (ho : o ∈ b.operations)
    {receiver : Option String} (hreceiver : ∀ name, receiver = some name → name ∈ ["self", "cls"])
    (isAsync : Bool) (mark : Option Mark) (owner : String) :
    Refines (byClass home b) Eq
      (m.describeParameters owner (o.function w receiver isAsync mark)
        (o.parameters.map fun p => (p.1, p.2.value w (b.classOf home))))
      (readUses (b.readNamed b.types.length) o.parameters) := by
  obtain ⟨-, -, hlabelled⟩ := hb.operations o ho
  have hkeys : ((o.parameters.map fun p => (p.1, p.2.value w (b.classOf home))).map (·.1)).Nodup := by
    simpa [Function.comp_def] using hlabelled.distinct
  have hbound : ∀ u ∈ o.parameters,
      b.types.length * (m.depth + 1) + u.2.rank < m.bound := by
    intro u hu
    have hrank : u.2.rank ≤ m.depth := hm.depth u.2 (.inr ⟨o, ho, List.mem_map_of_mem hu⟩)
    have hbase : b.types.length * (m.depth + 1) ≤ b.types.length * (m.depth + 2) :=
      Nat.mul_le_mul_left _ (Nat.le_succ _)
    have hrest : m.depth + 2 ≤ (m.depth + 4) * (m.depth + 2) :=
      Nat.le_mul_of_pos_left _ (Nat.succ_pos _)
    have hsplit : m.bound =
        b.types.length * (m.depth + 2) + (m.depth + 4) * (m.depth + 2) := by
      rw [LoadedModule.bound, hm.size, ← Nat.add_mul]
      congr 1
      omega
    omega
  rw [describeParameters_receiver hreceiver]
  unfold LoadedModule.describeParameters
  have hparameters : (o.function w none isAsync mark).parameters =
      o.parameters.map fun p => ⟨p.1, some (p.2.term w), .single⟩ := rfl
  have hunbound : (o.function w none isAsync mark).isBound = false := rfl
  split
  · rw [hunbound, Bool.false_and, if_neg Bool.false_ne_true, hparameters]
    refine refines_mapM_eq (List.forall₂_map_right_iff.mpr (List.forall₂_same.mpr fun p hp => ?_))
    have hlookup := lookup_of_mem hkeys
      (List.mem_map_of_mem (f := fun p => (p.1, p.2.value w (b.classOf home))) hp)
    have hsingle : (ParameterKind.single = .variadic) = False := by simp
    simp only [hlookup, hsingle, if_false]
    have hdescribe := refines_use hm.resolves.apt (refines_readNamed hm hb hhome b.types.length)
      (hb.parameters o ho p hp) (hbound p hp)
    refine hdescribe.bind fun d d' hd => refines_pure ?_
    rw [hd, hlabelled.camel p hp]
  · next hnil =>
    have hempty : o.parameters = [] := List.map_eq_nil_iff.mp (hparameters ▸ hnil)
    rw [hempty]
    exact refines_pure rfl

end Functions

section Hubs

lemma refines_filterMapM {table : Contract.TypeTable → σ} {S : α' → β' → Prop}
    {f : β → StateT σ (Except ε) (Option β')} {g : α → PlanM α'} {l : List α} {make : α → β}
    (h : ∀ a ∈ l, Refines table (fun x y => ∃ z, y = some z ∧ S x z) (f (make a)) (g a)) :
    Refines table (List.Forall₂ S) ((l.map make).filterMapM f) (l.mapM g) := by
  induction l with
  | nil => exact refines_pure .nil
  | cons a l ih =>
    rw [List.map_cons, List.filterMapM_cons, List.mapM_cons]
    refine (h a List.mem_cons_self).bind fun x y hy => ?_
    obtain ⟨z, rfl, hz⟩ := hy
    refine (ih fun c hc => h c (List.mem_cons_of_mem a hc)).bind fun xs ys hys => ?_
    exact refines_pure (.cons hz hys)

lemma foldl_put_eq {l : List (String × α)} (h : (l.map (·.1)).Nodup) :
    l.foldl (fun entries p => put entries p.1 p.2) [] = l := by
  have hrest : ∀ after before : List (String × α), l = before ++ after →
      after.foldl (fun entries p => put entries p.1 p.2) before = l := by
    intro after
    induction after with
    | nil => exact fun before hl => by rw [hl, List.append_nil]; rfl
    | cons p after ih =>
      intro before hl
      rw [List.foldl_cons, put_eq_append (not_mem_of_nodup_map h hl)]
      exact ih _ (by rw [hl, List.append_assoc]; rfl)
  exact hrest l [] rfl

/-- The members of a class of functions below classes that give it none. -/
lemma members_heldFunctions {r : ClassRecord} {above : List ClassRef}
    (hr : recordOf? m.classes r.ref = some r) (hancestors : r.ancestors = r.ref :: above)
    (habove : above.reverse.flatMap (attributesOf m.classes) = [])
    {className : String} {functions : List FunctionDef}
    (hheld : r.attributes = heldFunctions className functions)
    (hdistinct : (functions.map (·.name)).Nodup) :
    m.members r = heldFunctions className functions := by
  have hattributes : attributesOf m.classes r.ref = heldFunctions className functions := by
    rw [attributesOf, hr, ← hheld]
    rfl
  have hkeys : ((heldFunctions className functions).map (·.1)).Nodup := by
    simpa [heldFunctions, Function.comp_def] using hdistinct
  unfold LoadedModule.members
  rw [hancestors, List.reverse_cons, List.flatMap_append, habove, List.nil_append,
    List.flatMap_singleton, hattributes]
  exact foldl_put_eq hkeys

lemma unresolved_functionTypes (hm : Carried w home b m) {o : OperationPlan}
    (ho : ∀ u ∈ o.parameters, u.2.IsIn b) (receiver : Option String) (isAsync : Bool)
    (mark : Option Mark) (label : String) :
    unresolved label (m.functionTypes (o.function w receiver isAsync mark)) =
      .ok (o.parameters.map fun p => (p.1, p.2.value w (b.classOf home)),
        some (.cls nothingClass)) := by
  rw [functionTypes_function hm ho]
  rfl

/-- The hub is described as the operations that it receives are read. -/
lemma refines_describeHub (hm : Carried w home b m) (hb : b.WellFormed)
    (hhome : home ∉ primitiveHomes) :
    Refines (byClass home b)
      (fun os type => ∃ os', type = ⟨w.hubName, .hub, os'⟩ ∧ List.Forall₂ SameOperation os os')
      (m.describeHub (b.hubRecord w home))
      (b.received.mapM (b.readOperation b.types.length .serverReceived)) := by
  have hdistinct : ((b.hubFunctions w).map (·.name)).Nodup := by
    rw [Blueprint.hubFunctions, List.map_map]
    exact hb.received
  have hmembers : m.members (b.hubRecord w home) = b.received.map fun o =>
      (o.name, .function w.hubName (o.function w o.receiver true (some ⟨none⟩))) := by
    rw [members_heldFunctions hm.hub rfl rfl rfl hdistinct, heldFunctions, Blueprint.hubFunctions,
      List.map_map]
    rfl
  unfold LoadedModule.describeHub
  rw [hmembers]
  refine (refines_filterMapM fun o ho => ?_).map fun os os' hos => ⟨os', rfl, hos⟩
  have hmem : o ∈ b.operations := List.mem_append_left _ ho
  obtain ⟨-, hname, -⟩ := hb.operations o hmem
  have hshape : returnShape (o.function w o.receiver true (some ⟨none⟩))
      (some (.cls nothingClass)) = (true, "Task") := by
    simp [returnShape, OperationPlan.function, TypeValue.same]
  have hparameters := refines_describeParameters hm hb hhome hmem
    (fun _ => o.receiver_mem) true (some ⟨none⟩) w.hubName
  have htypes := unresolved_functionTypes hm (hb.parameters o hmem) o.receiver true (some ⟨none⟩)
    ((b.hubRecord w home).ref.name ++ "." ++ o.name)
  have hmark : (o.function w o.receiver true (some ⟨none⟩)).mark = some ⟨none⟩ := rfl
  dsimp only
  generalize o.function w o.receiver true (some ⟨none⟩) = f at hshape hparameters htypes hmark ⊢
  simp only [hmark]
  rw [htypes, lift_ok_bind]
  simp only [hshape]
  refine hparameters.bind fun ps ps' hps => refines_pure ⟨_, rfl, ?_⟩
  subst hps
  simp [SameOperation, hname]

/-- The client API is described as the operations that it is called with are read. -/
lemma refines_describeClientApi (hm : Carried w home b m) (hb : b.WellFormed)
    (hhome : home ∉ primitiveHomes) :
    Refines (byClass home b)
      (fun os type => ∃ os', type = ⟨w.apiName, .clientApi, os'⟩ ∧
        List.Forall₂ SameOperation os os')
      (m.describeClientApi (b.apiRecord w home) w.apiName)
      (b.invoked.mapM (b.readOperation b.types.length .clientInvoked)) := by
  have hdistinct : ((b.apiFunctions w).map (·.name)).Nodup := by
    rw [Blueprint.apiFunctions, List.map_map]
    exact hb.invoked
  have hmembers : m.members (b.apiRecord w home) = b.invoked.map fun o =>
      (o.name, .function w.apiName (o.function w none false none)) := by
    rw [members_heldFunctions hm.api rfl rfl rfl hdistinct, heldFunctions, Blueprint.apiFunctions,
      List.map_map]
    rfl
  unfold LoadedModule.describeClientApi
  rw [hmembers]
  refine (refines_filterMapM fun o ho => ?_).map fun os os' hos => ⟨os', rfl, hos⟩
  have hmem : o ∈ b.operations := List.mem_append_right _ ho
  obtain ⟨-, hname, -⟩ := hb.operations o hmem
  have hplain : '_' ∉ o.name.toList := hname ▸ underscore_not_mem_pascalCase o.name
  have hpublic : "_".toList.isPrefixOf o.name.toList = false := by
    rw [Bool.eq_false_iff]
    intro hprefix
    exact hplain ((List.isPrefixOf_iff_prefix.mp hprefix).subset (by decide))
  simp only [hpublic, Bool.false_eq_true, if_false]
  refine Refines.after (unresolved_functionTypes hm (hb.parameters o hmem) _ _ _ _) ?_
  have hstatic : ∀ name, none = some name → name ∈ ["self", "cls"] := by simp
  have hparameters := refines_describeParameters hm hb hhome hmem hstatic false none w.apiName
  refine hparameters.bind fun ps ps' hps => refines_pure ⟨_, rfl, ?_⟩
  subst hps
  simp [SameOperation, hname]

end Hubs

section Modules

lemma describeContractType_none {r : ClassRecord} (above : List ClassRef)
    (hr : recordOf? m.classes r.ref = some r) (hancestors : r.ancestors = r.ref :: above)
    (hown : ∀ c ∈ r.ref :: above, c ≠ hubClass)
    (habove : above.filterMap (recordOf? m.classes) = []) (hmark : r.mark = none) :
    m.describeContractType r = pure none := by
  have hhub : r.ancestors.contains hubClass = false := by
    rw [hancestors, Bool.eq_false_iff]
    exact fun hmem => hown _ (List.contains_iff_mem.mp hmem) rfl
  have hrecords : recordsOf m.classes r.ref = [r] := by
    rw [recordsOf, ancestorsOf, hr]
    dsimp only
    rw [hancestors, List.filterMap_cons_some hr, habove]
  unfold LoadedModule.describeContractType
  rw [hhub, hrecords, List.findSome?_cons, hmark]
  rfl

/-- The class for a type is neither a hub nor a client API. -/
lemma Carried.describeContractType_type (hm : Carried w home b m) {i : Nat}
    {p : String × TypePlan} (hp : b.types[i]? = some p) :
    m.describeContractType (p.2.made w home p.1 i) = pure none := by
  have hr : recordOf? m.classes (p.2.made w home p.1 i).ref = some (p.2.made w home p.1 i) := by
    rw [TypePlan.ref_made]
    exact hm.types i p hp
  have hnumber : (p.2.made w home p.1 i).ref.own = some i := by
    rw [TypePlan.ref_made]
    rfl
  have hown : (p.2.made w home p.1 i).ref ≠ hubClass :=
    own_ne hnumber rfl
  obtain ⟨name, plan⟩ := p
  cases plan with
  | enum members =>
    refine describeContractType_none [enumClass "Enum", objectClass] hr rfl ?_ rfl rfl
    exact List.forall_mem_cons.mpr ⟨hown, by decide⟩
  | record isInterface properties =>
    cases isInterface with
    | false =>
      refine describeContractType_none [objectClass] hr rfl ?_ rfl rfl
      exact List.forall_mem_cons.mpr ⟨hown, by decide⟩
    | true =>
      refine describeContractType_none [formClass "Protocol", formClass "Generic", objectClass] hr
        rfl ?_ rfl rfl
      exact List.forall_mem_cons.mpr ⟨hown, by decide⟩

lemma Carried.describeContractType_hub (m : LoadedModule) :
    m.describeContractType (b.hubRecord w home) = do
      return some (← m.describeHub (b.hubRecord w home)) := by
  have hhub : (b.hubRecord w home).ancestors.contains hubClass = true :=
    List.contains_iff_mem.mpr (List.mem_cons_of_mem _ List.mem_cons_self)
  unfold LoadedModule.describeContractType
  rw [hhub]
  rfl

lemma Carried.describeContractType_api (hm : Carried w home b m) :
    m.describeContractType (b.apiRecord w home) = do
      return some (← m.describeClientApi (b.apiRecord w home) w.apiName) := by
  have hhub : (b.apiRecord w home).ancestors.contains hubClass = false :=
    contains_own (rfl : (b.apiRecord w home).ref.own = some (b.types.length + 1)) rfl (by decide)
  have hrecords : recordsOf m.classes (b.apiRecord w home).ref =
      b.apiRecord w home :: [objectClass].filterMap (recordOf? m.classes) := by
    rw [recordsOf, ancestorsOf, hm.api]
    exact List.filterMap_cons_some hm.api
  have hmark : (b.apiRecord w home).mark = some w.apiName := rfl
  unfold LoadedModule.describeContractType
  rw [hhub, hrecords, List.findSome?_cons, hmark]
  rfl

/-- Adds a record unless the class is there already. -/
def addOnce (seen : List ClassRecord) (r : ClassRecord) : List ClassRecord :=
  if seen.any (·.ref == r.ref) then seen else seen ++ [r]

lemma mem_foldl_addOnce {r : ClassRecord} {rs seen : List ClassRecord}
    (h : r ∈ rs.foldl addOnce seen) : r ∈ seen ∨ r ∈ rs := by
  induction rs generalizing seen with
  | nil => exact .inl h
  | cons x rs ih =>
    rcases ih h with h | h
    · rw [addOnce] at h
      split at h
      · exact .inl h
      · rcases List.mem_append.mp h with h | h
        · exact .inl h
        · exact .inr (List.mem_singleton.mp h ▸ List.mem_cons_self)
    · exact .inr (List.mem_cons_of_mem x h)

lemma addOnce_eq_append {seen : List ClassRecord} {r : ClassRecord} (h : ∀ x ∈ seen, x.ref ≠ r.ref) :
    addOnce seen r = seen ++ [r] := by
  rw [addOnce, if_neg]
  intro hany
  obtain ⟨x, hx, heq⟩ := List.any_eq_true.mp hany
  exact h x hx (beq_iff_eq.mp heq)

/-- The record of the class that a name of a module stands for. -/
def namedRecord? (m : LoadedModule) (e : String × TypeValue) : Option ClassRecord :=
  match e.2 with
  | .cls c => recordOf? m.classes c
  | _ => none

/-- The hub and the client API come after classes with the numbers of types, since theirs are others. -/
lemma addOnce_hubs (w : Wording) (home : String) {before : List ClassRecord}
    (hnumber : ∀ r ∈ before, ∃ i < b.types.length, r.ref.own = some i) :
    addOnce (addOnce before (b.hubRecord w home)) (b.apiRecord w home) =
      before ++ [b.hubRecord w home, b.apiRecord w home] := by
  have hhub : addOnce before (b.hubRecord w home) = before ++ [b.hubRecord w home] := by
    refine addOnce_eq_append fun r hr heq => ?_
    obtain ⟨i, hi, hown⟩ := hnumber r hr
    rw [heq] at hown
    cases hown
    omega
  have hapi : addOnce (before ++ [b.hubRecord w home]) (b.apiRecord w home) =
      before ++ [b.hubRecord w home] ++ [b.apiRecord w home] := by
    refine addOnce_eq_append fun r hr heq => ?_
    rcases List.mem_append.mp hr with hr | hr
    · obtain ⟨i, hi, hown⟩ := hnumber r hr
      rw [heq] at hown
      cases hown
      omega
    · rw [List.mem_singleton.mp hr] at heq
      have hown := congrArg ClassRef.own heq
      simp [Blueprint.hubRecord, Blueprint.apiRecord, classRecord] at hown
  rw [hhub, hapi, List.append_assoc]
  rfl

/-- The classes that the module names: those for types come before the hub and the client API. -/
lemma Carried.namedClasses_eq (hm : Carried w home b m) :
    ∃ before, m.namedClasses = before ++ [b.hubRecord w home, b.apiRecord w home] ∧
      ∀ r ∈ before, ∃ i, ∃ p : String × TypePlan, b.types[i]? = some p ∧
        r = p.2.made w home p.1 i := by
  obtain ⟨names, hnames, hnumbered⟩ := hm.names
  have htype : ∀ r ∈ names.filterMap (namedRecord? m), ∃ i, ∃ p : String × TypePlan,
      b.types[i]? = some p ∧ r = p.2.made w home p.1 i := by
    intro r hr
    obtain ⟨⟨name, v⟩, he, hv⟩ := List.mem_filterMap.mp hr
    cases v with
    | cls c =>
      obtain ⟨i, hi, hrecord⟩ := Option.bind_eq_some_iff.mp hv
      have hp := List.getElem?_eq_getElem (hnumbered _ he c rfl i hi)
      refine ⟨i, _, hp, Option.some.inj ?_⟩
      rw [← hrecord, hm.types i _ hp]
    | _ => cases hv
  have hhub : namedRecord? m (w.hubName, .cls (b.hubRecord w home).ref) =
      some (b.hubRecord w home) := hm.hub
  have hapi : namedRecord? m (w.apiName, .cls (b.apiRecord w home).ref) =
      some (b.apiRecord w home) := hm.api
  have hbefore : ∀ r ∈ (names.filterMap (namedRecord? m)).foldl addOnce [], ∃ i,
      ∃ p : String × TypePlan, b.types[i]? = some p ∧ r = p.2.made w home p.1 i := fun r hr =>
    htype r ((mem_foldl_addOnce hr).resolve_left List.not_mem_nil)
  refine ⟨(names.filterMap (namedRecord? m)).foldl addOnce [], ?_, hbefore⟩
  have hnamed : m.namedClasses = (m.names.filterMap (namedRecord? m)).foldl addOnce [] := rfl
  rw [hnamed, hnames, List.filterMap_append, List.filterMap_cons_some hhub,
    List.filterMap_cons_some hapi, List.filterMap_nil, List.foldl_append, List.foldl_cons,
    List.foldl_cons, List.foldl_nil]
  refine addOnce_hubs w home fun r hr => ?_
  obtain ⟨i, p, hp, rfl⟩ := hbefore r hr
  exact ⟨i, (List.getElem?_eq_some_iff.mp hp).1, by rw [TypePlan.ref_made]; rfl⟩

lemma filterMapM_append_of_none {f : α → StateT σ (Except ε) (Option β)} {before rest : List α}
    (h : ∀ a ∈ before, f a = pure none) : (before ++ rest).filterMapM f = rest.filterMapM f := by
  induction before with
  | nil => rfl
  | cons a before ih =>
    rw [List.cons_append, List.filterMapM_cons, h a List.mem_cons_self, pure_bind]
    exact ih fun c hc => h c (List.mem_cons_of_mem a hc)

/-- A module that says a contract comes to what the contract does. -/
theorem Carried.exists_metadata (hm : Carried w home b m) (hb : b.WellFormed)
    (hhome : home ∉ primitiveHomes) {received invoked : List Operation} {t : Contract.TypeTable}
    (hread : (b.read b.types.length).run ⟨#[], []⟩ = some ((received, invoked), t)) :
    ∃ md, m.metadata = .ok md ∧ ComesFrom md received invoked t.classes := by
  obtain ⟨before, hnamed, hbefore⟩ := hm.namedClasses_eq
  have hnone : ∀ r ∈ before, m.describeContractType r = pure none := by
    intro r hr
    obtain ⟨i, p, hp, rfl⟩ := hbefore r hr
    exact hm.describeContractType_type hp
  have hboth : Refines (byClass home b)
      (fun os types => ∃ received invoked,
        types = [⟨w.hubName, .hub, received⟩, ⟨w.apiName, .clientApi, invoked⟩] ∧
        List.Forall₂ SameOperation os.1 received ∧ List.Forall₂ SameOperation os.2 invoked)
      (m.namedClasses.filterMapM m.describeContractType) (b.read b.types.length) := by
    rw [hnamed, filterMapM_append_of_none hnone, List.filterMapM_cons, List.filterMapM_cons,
      List.filterMapM_nil, Carried.describeContractType_hub, hm.describeContractType_api]
    simp only [bind_assoc, pure_bind]
    refine (refines_describeHub hm hb hhome).bind fun os hub hhub => ?_
    obtain ⟨received, rfl, hreceived⟩ := hhub
    refine (refines_describeClientApi hm hb hhome).bind fun os' api hapi => ?_
    obtain ⟨invoked, rfl, hinvoked⟩ := hapi
    exact refines_pure ⟨received, invoked, rfl, hreceived, hinvoked⟩
  obtain ⟨types, ⟨received', invoked', rfl, hreceived, hinvoked⟩, hrun⟩ := hboth _ _ _ hread
  refine ⟨⟨m.name, _, t.classes⟩, ?_, rfl, w.hubName, w.apiName, received', invoked', rfl, hreceived,
    hinvoked⟩
  unfold LoadedModule.metadata
  exact (congrArg (fun x => x >>= _) hrun).trans rfl

end Modules

end HubProxy.Proofs
