import HubProxy.Proofs.PascalNames
import HubProxy.Proofs.WrittenModule
import Mathlib.Data.List.Induction

/-!
# Carrying out a written module

The classes of the types of a contract are defined one after the other: each name comes to stand for
its class, and the table holds its record at the place of the type. The hub and the client API come
last.
-/

namespace HubProxy.Proofs

open ContractModule

/-- The record that the class for a type at a place gets. -/
def TypePlan.made (w : Wording) (home name : String) (place : Nat) : TypePlan → ClassRecord
  | .enum members => enumRecord home name place members
  | .record isInterface properties =>
    classRecord ⟨home, name, some place, if isInterface then .protocol else .plain⟩
      (if isInterface then [formClass "Protocol", formClass "Generic", objectClass]
        else [objectClass])
      (properties.map fun p => (p.1, p.2.term w)) [] none

lemma TypePlan.ref_made (w : Wording) (home : String) (place : Nat) (p : String × TypePlan) :
    (p.2.made w home p.1 place).ref = classAt home place p := by
  obtain ⟨name, plan⟩ := p
  cases plan <;> rfl

/-- What a module asks for beyond well-formedness: an enumeration takes its members as they are. -/
def Blueprint.KeepsMembers (b : Blueprint) : Prop :=
  ∀ p ∈ b.types, ∀ members, p.2 = .enum members → ∀ member ∈ members, TakenAsMember p.1 member

/-- A wording fits a contract: its words mean what they should, the names that it relies on are none
of those that the module defines, and these are distinct. -/
structure Wording.Fits (w : Wording) (b : Blueprint) : Prop where
  apt : w.Apt
  roots : ∀ root ∈ w.roots, root ∉ b.names ++ [w.hubName, w.apiName]
  hubName : w.hubName ∉ b.names ∧ startNames.lookup w.hubName = none
  apiName : w.apiName ∉ b.names ∧ w.apiName ≠ w.hubName ∧ startNames.lookup w.apiName = none

lemma Labelled.plain {uses : List (String × TypeUse)} (h : Labelled uses) :
    ∀ p ∈ uses, '_' ∉ p.1.toList := by
  intro p hp
  rw [← h.camel p hp]
  exact underscore_not_mem_camelCase p.1

section Types

variable (w : Wording) (home : String)

/-- The state after the definitions of the classes for types. -/
structure Loaded (ts : List (String × TypePlan)) (s : ModuleState) : Prop where
  named : ∀ i p, ts[i]? = some p → s.names.lookup p.1 = some (.cls (classAt home i p))
  other : ∀ name, name ∉ ts.map (·.1) → s.names.lookup name = startNames.lookup name
  size : s.classes.size = ts.length
  record : ∀ i (p : String × TypePlan), ts[i]? = some p →
    s.classes[i]? = some (p.2.made w home p.1 i)
  numbered : ∀ e ∈ s.names, ∀ c, e.2 = .cls c → ∀ i, c.own = some i → i < ts.length

variable {w home} {b : Blueprint} {ts : List (String × TypePlan)} {s : ModuleState}

/-- The number of a class if a value is one of the module. -/
def numberOf? : TypeValue → Option Nat
  | .cls c => c.own
  | _ => none

lemma loaded_nil : Loaded w home [] ⟨startNames, #[], 0⟩ where
  named _ _ h := by cases h
  other _ _ := rfl
  size := rfl
  record _ _ h := by cases h
  numbered e he c hc i hi := by
    have hstart : ∀ e ∈ startNames, numberOf? e.2 = none := by decide +kernel
    have hnumber := hstart e he
    rw [hc, numberOf?, hi] at hnumber
    cases hnumber

lemma getElem?_snoc {l : List α} {x y : α} {i : Nat} (h : (l ++ [x])[i]? = some y) :
    l[i]? = some y ∨ i = l.length ∧ y = x := by
  rcases Nat.lt_or_ge i l.length with hi | hi
  · exact .inl (by rwa [List.getElem?_append_left hi] at h)
  · rw [List.getElem?_append_right hi] at h
    obtain ⟨hzero, heq⟩ := List.getElem?_eq_some_iff.mp h
    have hlen : i = l.length := by simp at hzero; omega
    exact .inr ⟨hlen, by simpa using heq.symm⟩

lemma Loaded.snoc (h : Loaded w home ts s) {p : String × TypePlan} (hp : p.1 ∉ ts.map (·.1)) :
    Loaded w home (ts ++ [p]) (withRecord s (p.2.made w home p.1 s.classes.size)) := by
  have href := TypePlan.ref_made w home s.classes.size p
  have hnames : ∀ name, (withRecord s (p.2.made w home p.1 s.classes.size)).names.lookup name =
      if name = p.1 then some (.cls (classAt home s.classes.size p)) else s.names.lookup name := by
    intro name
    rw [withRecord, lookup_put, href]
    rfl
  refine ⟨fun i q hq => ?_, fun name hname => ?_, ?_, fun i q hq => ?_, fun e he c hc i hi => ?_⟩
  · rw [hnames]
    rcases getElem?_snoc hq with hq | ⟨rfl, rfl⟩
    · have hne : q.1 ≠ p.1 := fun heq =>
        hp (heq ▸ List.mem_map_of_mem (f := (·.1)) (List.mem_of_getElem? hq))
      rw [if_neg hne, h.named i q hq]
    · rw [if_pos rfl, h.size]
  · rw [List.map_append, List.mem_append, not_or] at hname
    rw [hnames, if_neg (by simpa using hname.2), h.other name hname.1]
  · simp [withRecord, h.size]
  · have hclasses : (withRecord s (p.2.made w home p.1 s.classes.size)).classes =
        s.classes.push (p.2.made w home p.1 s.classes.size) := rfl
    rw [hclasses, Array.getElem?_push]
    rcases getElem?_snoc hq with hq | ⟨rfl, rfl⟩
    · have hlt : i < ts.length := (List.getElem?_eq_some_iff.mp hq).1
      rw [if_neg (by rw [h.size]; exact Nat.ne_of_lt hlt), h.record i q hq]
    · rw [if_pos h.size.symm, h.size]
  · rw [List.length_append]
    rcases mem_put he with rfl | he
    · cases hc
      rw [href] at hi
      cases hi
      simp [h.size]
    · exact Nat.lt_add_right _ (h.numbered e he c hc i hi)

lemma Loaded.uncovered (h : Loaded w home ts s) {own : List String}
    (hown : ∀ name ∈ ts.map (·.1), name ∈ own) : Uncovered own s.scope where
  names name hname := h.other name fun hmem => hname (hown name hmem)
  attributes := rfl

/-- The class for a type can be defined. -/
lemma defineClass_type (home : String) (hb : b.WellFormed) (hkeep : b.KeepsMembers) (hw : w.Fits b)
    (hs : Uncovered (b.names ++ [w.hubName, w.apiName]) s.scope) {p : String × TypePlan}
    (hp : p ∈ b.types) :
    (defineClass home (p.2.definition w p.1)).run s =
      .ok (⟨⟩, withRecord s (p.2.made w home p.1 s.classes.size)) := by
  obtain ⟨name, plan⟩ := p
  have hlabelled := hb.properties _ hp
  cases plan with
  | enum members =>
    refine defineClass_enum (hs.evaluate (hw.roots _ ?_) hw.apt.enumeration)
      (hb.members _ hp members rfl) (hkeep _ hp members rfl)
    simp [Wording.roots]
  | record isInterface properties =>
    have hbody := readBody_fields (s := s.scope)
      (d := (TypePlan.record isInterface properties).definition w name) rfl hlabelled.distinct
      hlabelled.plain
    cases isInterface with
    | false => exact (makesClass_root rfl rfl hbody rfl).run
    | true =>
      refine (makesClass_interface rfl rfl (hs.evaluate (hw.roots _ ?_) hw.apt.interface) hbody).run
      simp [Wording.roots]

lemma forM_append_run {first rest : List Definition} {s' : ModuleState}
    (h : (first.forM (runDefinition home)).run s = .ok (⟨⟩, s')) :
    ((first ++ rest).forM (runDefinition home)).run s =
      (rest.forM (runDefinition home)).run s' := by
  rw [List.forM_eq_forM] at h ⊢
  rw [List.forM_append, StateT.run_bind, h]
  rfl

/-- The classes for types can be defined one after the other. -/
lemma run_types (home : String) (hb : b.WellFormed) (hkeep : b.KeepsMembers) (hw : w.Fits b) :
    ∃ s, ((b.types.map fun p => Definition.cls (p.2.definition w p.1)).forM (runDefinition home)).run
      ⟨startNames, #[], 0⟩ = .ok (⟨⟩, s) ∧ Loaded w home b.types s := by
  have hprefix : ∀ ts, ts <+: b.types → ∃ s,
      ((ts.map fun p => Definition.cls (p.2.definition w p.1)).forM (runDefinition home)).run
        ⟨startNames, #[], 0⟩ = .ok (⟨⟩, s) ∧ Loaded w home ts s := by
    intro ts
    induction ts using List.reverseRecOn with
    | nil => exact fun _ => ⟨_, rfl, loaded_nil⟩
    | append_singleton ts p ih =>
      rintro ⟨after, htypes⟩
      have hsplit : b.types = ts ++ p :: after := by rw [← htypes, List.append_assoc]; rfl
      obtain ⟨s, hrun, hs⟩ := ih ⟨p :: after, hsplit.symm⟩
      have hmem : p ∈ b.types := hsplit ▸ List.mem_append_right ts List.mem_cons_self
      have hown : ∀ name ∈ ts.map (·.1), name ∈ b.names ++ [w.hubName, w.apiName] := by
        intro name hname
        rw [Blueprint.names, hsplit, List.map_append]
        exact List.mem_append_left _ (List.mem_append_left _ hname)
      have hstep := defineClass_type home hb hkeep hw (hs.uncovered hown) hmem
      have hfresh : p.1 ∉ ts.map (·.1) := not_mem_of_nodup_map hb.names hsplit
      refine ⟨_, ?_, hs.snoc hfresh⟩
      rw [List.map_append, forM_append_run hrun]
      exact (congrArg (· >>= _) hstep).trans rfl
  exact hprefix b.types (List.prefix_refl _)

end Types

section Hubs

variable (w : Wording) (home : String) (b : Blueprint)

def Blueprint.hubRecord : ClassRecord :=
  classRecord ⟨home, w.hubName, some b.types.length, .plain⟩ [hubClass, objectClass] []
    (heldFunctions w.hubName (b.hubFunctions w)) none

def Blueprint.apiRecord : ClassRecord :=
  classRecord ⟨home, w.apiName, some (b.types.length + 1), .plain⟩ [objectClass] []
    (heldFunctions w.apiName (b.apiFunctions w)) (some w.apiName)

variable {w home b} {s : ModuleState}

lemma OperationPlan.receiver_plain (o : OperationPlan) : ∀ name, o.receiver = some name →
    '_' ∉ name.toList := by
  intro name hname
  have hmem : name ∈ ["self", "cls"] := List.mem_of_find?_eq_some hname
  have hplain : ∀ name ∈ ["self", "cls"], '_' ∉ name.toList := by decide
  exact hplain name hmem

lemma OperationPlan.function_plain {o : OperationPlan} (hname : Text.pascalCase o.name = o.name)
    (hparameters : Labelled o.parameters) {receiver : Option String}
    (hreceiver : ∀ name, receiver = some name → '_' ∉ name.toList) (isAsync : Bool)
    (mark : Option Mark) :
    '_' ∉ (o.function w receiver isAsync mark).name.toList ∧
      ∀ p ∈ (o.function w receiver isAsync mark).parameters, '_' ∉ p.name.toList := by
  constructor
  · rw [OperationPlan.function, ← hname]
    exact underscore_not_mem_pascalCase o.name
  · intro p hp
    rcases List.mem_append.mp hp with hp | hp
    · obtain ⟨name, hmem, rfl⟩ := List.mem_map.mp hp
      exact hreceiver name (Option.mem_toList.mp hmem)
    · obtain ⟨q, hq, rfl⟩ := List.mem_map.mp hp
      exact hparameters.plain q hq

lemma lookup_heldFunctions {functions : List FunctionDef}
    (hplain : ∀ f ∈ functions, '_' ∉ f.name.toList) (className : String) {name : String}
    (hname : '_' ∈ name.toList) : (heldFunctions className functions).lookup name = none := by
  refine List.lookup_eq_none_iff.mpr fun e he => bne_iff_ne.mpr ?_
  obtain ⟨f, hf, rfl⟩ := List.mem_map.mp he
  rintro rfl
  exact hplain f hf hname

lemma Blueprint.WellFormed.hubFunctions_plain (hb : b.WellFormed) :
    ∀ f ∈ b.hubFunctions w, '_' ∉ f.name.toList ∧ ∀ p ∈ f.parameters, '_' ∉ p.name.toList := by
  intro f hf
  obtain ⟨o, ho, rfl⟩ := List.mem_map.mp hf
  obtain ⟨-, hname, hlabelled⟩ := hb.operations o (List.mem_append_left _ ho)
  exact OperationPlan.function_plain hname hlabelled o.receiver_plain true _

lemma Blueprint.WellFormed.apiFunctions_plain (hb : b.WellFormed) :
    ∀ f ∈ b.apiFunctions w, '_' ∉ f.name.toList ∧ ∀ p ∈ f.parameters, '_' ∉ p.name.toList := by
  intro f hf
  obtain ⟨o, ho, rfl⟩ := List.mem_map.mp hf
  obtain ⟨-, hname, hlabelled⟩ := hb.operations o (List.mem_append_right _ ho)
  exact OperationPlan.function_plain hname hlabelled (by simp) false none

lemma defineClass_hub (home : String) (hb : b.WellFormed) (hw : w.Fits b)
    (hs : Uncovered (b.names ++ [w.hubName, w.apiName]) s.scope)
    (hsize : s.classes.size = b.types.length) :
    (defineClass home (b.hubDefinition w)).run s =
      .ok (⟨⟩, withRecord s (b.hubRecord w home)) := by
  have hdistinct : ((b.hubFunctions w).map (·.name)).Nodup := by
    rw [Blueprint.hubFunctions, List.map_map]
    exact hb.received
  have hbody := readBody_functions (s := s.scope) (d := b.hubDefinition w) rfl hdistinct
    hb.hubFunctions_plain
  have hroot : w.hub.root ∉ b.names ++ [w.hubName, w.apiName] :=
    hw.roots _ (by simp [Wording.roots])
  have hsaid := lookup_heldFunctions (fun f hf => (hb.hubFunctions_plain (w := w) f hf).1) w.hubName
    (by decide : '_' ∈ "_is_protocol".toList)
  have hmakes : MakesClass home s (b.hubDefinition w) _ :=
    makesClass_hub rfl rfl (hs.evaluate hroot hw.apt.hub) hbody hsaid
  rw [hsize] at hmakes
  exact hmakes.run

lemma defineClass_api (home : String) (w : Wording) (hb : b.WellFormed) (hsize : s.classes.size = b.types.length + 1) :
    (defineClass home (b.apiDefinition w)).run s =
      .ok (⟨⟩, withRecord s (b.apiRecord w home)) := by
  have hdistinct : ((b.apiFunctions w).map (·.name)).Nodup := by
    rw [Blueprint.apiFunctions, List.map_map]
    exact hb.invoked
  have hbody := readBody_functions (s := s.scope) (d := b.apiDefinition w) rfl hdistinct
    hb.apiFunctions_plain
  have hsaid := lookup_heldFunctions (fun f hf => (hb.apiFunctions_plain (w := w) f hf).1) w.apiName
    (by decide : '_' ∈ "_is_protocol".toList)
  have hmakes : MakesClass home s (b.apiDefinition w) _ := makesClass_root rfl rfl hbody hsaid
  rw [hsize] at hmakes
  exact hmakes.run

/-- The module of a contract can be carried out. -/
lemma run_definitions (home : String) (hb : b.WellFormed) (hkeep : b.KeepsMembers) (hw : w.Fits b) :
    ∃ s, run home (b.definitions w) =
        .ok (withRecord (withRecord s (b.hubRecord w home)) (b.apiRecord w home)) ∧
      Loaded w home b.types s := by
  obtain ⟨s, hrun, hs⟩ := run_types home hb hkeep hw
  refine ⟨s, ?_, hs⟩
  have huncovered : Uncovered (b.names ++ [w.hubName, w.apiName]) s.scope :=
    hs.uncovered fun name hname => List.mem_append_left _ hname
  have hhub := defineClass_hub home hb hw huncovered hs.size
  have hsize : (withRecord s (b.hubRecord w home)).classes.size = b.types.length + 1 := by
    simp [withRecord, hs.size]
  have hapi := defineClass_api home w hb hsize
  have hboth : ([Definition.cls (b.hubDefinition w), .cls (b.apiDefinition w)].forM
      (runDefinition home)).run s =
        .ok (⟨⟩, withRecord (withRecord s (b.hubRecord w home)) (b.apiRecord w home)) := by
    simp only [List.forM_eq_forM, List.forM_cons, List.forM_nil, runDefinition, StateT.run_bind,
      hhub, hapi, ok_bind]
    rfl
  unfold run
  rw [Blueprint.definitions, forM_append_run hrun, hboth]
  rfl

end Hubs

section Depth

variable {w : Wording} {b : Blueprint}

lemma le_foldl_add {f : α → Nat} {l : List α} {x : α} (hx : x ∈ l) (k : Nat) :
    f x ≤ l.foldl (fun n a => n + f a) k := by
  have hgrows : ∀ (l : List α) k, k ≤ l.foldl (fun n a => n + f a) k := by
    intro l
    induction l with
    | nil => exact fun k => Nat.le_refl k
    | cons a l ih => exact fun k => Nat.le_trans (Nat.le_add_right k (f a)) (ih _)
  induction l generalizing k with
  | nil => cases hx
  | cons a l ih =>
    rcases List.mem_cons.mp hx with rfl | hx
    · exact Nat.le_trans (Nat.le_add_left (f x) k) (hgrows l _)
    · exact ih hx _

lemma TypeUse.rank_le_size (w : Wording) (u : TypeUse) : u.rank ≤ (u.term w).size := by
  induction u with
  | common c => exact Nat.zero_le _
  | array element ih =>
    simp only [TypeUse.rank, TypeUse.term, TypeTerm.size, TypeTerm.sizes]
    omega
  | named name => exact Nat.zero_le _

lemma OperationPlan.rank_le_size {o : OperationPlan} {u : String × TypeUse}
    (hu : u ∈ o.parameters) (receiver : Option String) (isAsync : Bool) (mark : Option Mark) :
    u.2.rank ≤ (MemberDef.function (o.function w receiver isAsync mark)).size := by
  have hmem : ⟨u.1, some (u.2.term w), .single⟩ ∈
      (o.function w receiver isAsync mark).parameters :=
    List.mem_append_right _ (List.mem_map_of_mem
      (f := fun p : String × TypeUse => (⟨p.1, some (p.2.term w), .single⟩ : FunctionParameter)) hu)
  exact Nat.le_trans (u.2.rank_le_size w)
    (le_foldl_add (f := fun p : FunctionParameter => p.type.elim 0 TypeTerm.size) hmem _)

lemma rank_le_size_of_member {d : ClassDefinition} {u : TypeUse} {member : MemberDef}
    (hd : .cls d ∈ b.definitions w) (hmember : member ∈ d.members) (hu : u.rank ≤ member.size) :
    u.rank ≤ (b.definitions w).foldl (fun n d => n + d.size) 0 :=
  Nat.le_trans hu (Nat.le_trans (le_foldl_add (f := MemberDef.size) hmember _)
    (le_foldl_add (f := Definition.size) hd 0))

/-- The definitions of a contract have as many parts as a type in it is nested deep. -/
lemma rank_le_size_of_use {u : TypeUse}
    (hu : (∃ p ∈ b.types, u ∈ p.2.uses.map (·.2)) ∨
      ∃ o ∈ b.operations, u ∈ o.parameters.map (·.2)) :
    u.rank ≤ (b.definitions w).foldl (fun n d => n + d.size) 0 := by
  obtain ⟨⟨name, plan⟩, hp, hu⟩ | ⟨o, ho, hu⟩ := hu
  · have hd : .cls (plan.definition w name) ∈ b.definitions w :=
      List.mem_append_left _ (List.mem_map_of_mem
        (f := fun p : String × TypePlan => Definition.cls (p.2.definition w p.1)) hp)
    obtain ⟨q, hq, rfl⟩ := List.mem_map.mp hu
    cases plan with
    | enum members => cases hq
    | record isInterface properties =>
      refine rank_le_size_of_member hd (List.mem_map_of_mem
        (f := fun p : String × TypeUse => MemberDef.field p.1 (p.2.term w) none) hq) ?_
      exact q.2.rank_le_size w
  · obtain ⟨q, hq, rfl⟩ := List.mem_map.mp hu
    rcases List.mem_append.mp ho with ho | ho
    · refine rank_le_size_of_member (d := b.hubDefinition w) (by simp [Blueprint.definitions])
        (List.mem_map_of_mem (List.mem_map_of_mem ho)) (OperationPlan.rank_le_size hq _ _ _)
    · refine rank_le_size_of_member (d := b.apiDefinition w) (by simp [Blueprint.definitions])
        (List.mem_map_of_mem (List.mem_map_of_mem ho)) (OperationPlan.rank_le_size hq _ _ _)

end Depth

section Modules

variable {w : Wording} {home : String} {b : Blueprint}

lemma getElem?_idxOf {l : List (String × α)} {name : String} {a : α}
    (h : l.lookup name = some a) : l[(l.map (·.1)).idxOf name]? = some (name, a) := by
  induction l with
  | nil => cases h
  | cons p l ih =>
    obtain ⟨n, x⟩ := p
    by_cases hn : name = n
    · subst hn
      have ha : x = a := by simpa using h
      simp [ha]
    · rw [lookup_cons_ne hn] at h
      simpa [List.idxOf_cons, beq_false_of_ne (Ne.symm hn)] using ih h

/-- A module that says a contract was carried out: classes for types come before the hub and the
client API. -/
structure Carried (w : Wording) (home : String) (b : Blueprint) (m : LoadedModule) : Prop where
  resolves : Resolves w b (b.classOf home) (b.names ++ [w.hubName, w.apiName]) m.scope
  size : m.classes.size = b.types.length + 2
  types : ∀ i (p : String × TypePlan), b.types[i]? = some p →
    m.classes[i]? = some (p.2.made w home p.1 i)
  hub : recordOf? m.classes (b.hubRecord w home).ref = some (b.hubRecord w home)
  api : recordOf? m.classes (b.apiRecord w home).ref = some (b.apiRecord w home)
  names : ∃ before, m.names = before ++ [(w.hubName, .cls (b.hubRecord w home).ref),
      (w.apiName, .cls (b.apiRecord w home).ref)] ∧
    ∀ e ∈ before, ∀ c, e.2 = .cls c → ∀ i, c.own = some i → i < b.types.length
  depth : ∀ u : TypeUse, (∃ p ∈ b.types, u ∈ p.2.uses.map (·.2)) ∨
    (∃ o ∈ b.operations, u ∈ o.parameters.map (·.2)) → u.rank ≤ m.depth

lemma classOf_eq {name : String} {plan : TypePlan} (h : b.types.lookup name = some plan) :
    b.classOf home name = classAt home (b.names.idxOf name) (name, plan) := by
  rw [Blueprint.classOf, h]
  rfl

lemma Carried.type {m : LoadedModule} (hm : Carried w home b m) {name : String} {plan : TypePlan}
    (h : b.types.lookup name = some plan) :
    recordOf? m.classes (b.classOf home name) =
      some (plan.made w home name (b.names.idxOf name)) :=
  hm.types _ _ (getElem?_idxOf h)

/-- The state after the definitions of a contract. -/
def withHubs (w : Wording) (home : String) (b : Blueprint) (s : ModuleState) : ModuleState :=
  withRecord (withRecord s (b.hubRecord w home)) (b.apiRecord w home)

variable {s : ModuleState}

lemma Loaded.names_eq (hw : w.Fits b) (hs : Loaded w home b.types s) :
    (withHubs w home b s).names = s.names ++ [(w.hubName, .cls (b.hubRecord w home).ref),
      (w.apiName, .cls (b.apiRecord w home).ref)] := by
  have hfresh : ∀ name, name ∉ b.names → startNames.lookup name = none →
      name ∉ s.names.map (·.1) := by
    intro name hname hstart hmem
    obtain ⟨e, he, rfl⟩ := List.mem_map.mp hmem
    have hnone := (hs.other e.1 hname).trans hstart
    exact absurd (List.lookup_eq_none_iff.mp hnone e he) (by simp)
  have hhub : put s.names w.hubName (.cls (b.hubRecord w home).ref) =
      s.names ++ [(w.hubName, .cls (b.hubRecord w home).ref)] :=
    put_eq_append (hfresh _ hw.hubName.1 hw.hubName.2) _
  have hapi : w.apiName ∉
      (s.names ++ [(w.hubName, TypeValue.cls (b.hubRecord w home).ref)]).map (·.1) := by
    have hold := hfresh _ hw.apiName.1 hw.apiName.2.2
    simpa [hw.apiName.2.1] using hold
  calc (withHubs w home b s).names
      = put (put s.names w.hubName (.cls (b.hubRecord w home).ref)) w.apiName
          (.cls (b.apiRecord w home).ref) := rfl
    _ = _ := by
      rw [hhub, put_eq_append hapi, List.append_assoc]
      rfl

lemma Loaded.resolves (hw : w.Fits b) (hs : Loaded w home b.types s) :
    Resolves w b (b.classOf home) (b.names ++ [w.hubName, w.apiName])
      (withHubs w home b s).scope where
  apt := hw.apt
  roots := hw.roots
  owned name := ⟨_, rfl⟩
  uncovered := by
    refine ⟨fun name hname => ?_, rfl⟩
    simp only [List.mem_append, List.mem_cons, List.not_mem_nil, or_false, not_or] at hname
    have hscope : (withHubs w home b s).scope.names = (withHubs w home b s).names := rfl
    rw [hscope, hs.names_eq hw, List.lookup_append, hs.other name hname.1,
      lookup_cons_ne hname.2.1, lookup_cons_ne hname.2.2]
    simp
  named := by
    intro name hname
    obtain ⟨plan, hplan⟩ := exists_lookup hname
    have hscope : (withHubs w home b s).scope.names = (withHubs w home b s).names := rfl
    rw [hscope, hs.names_eq hw, List.lookup_append, hs.named _ _ (getElem?_idxOf hplan),
      classOf_eq hplan]
    rfl

/-- The module of a contract is carried out as the contract says. -/
lemma exists_carried (home : String) (hb : b.WellFormed) (hkeep : b.KeepsMembers) (hw : w.Fits b) :
    ∃ m, load home (b.definitions w) = .ok m ∧ Carried w home b m := by
  obtain ⟨s, hrun, hs⟩ := run_definitions home hb hkeep hw
  have hclasses : (withHubs w home b s).classes =
      (s.classes.push (b.hubRecord w home)).push (b.apiRecord w home) := rfl
  let size := (b.definitions w).foldl (fun n d => n + d.size) 0
  refine ⟨⟨home, (withHubs w home b s).names, (withHubs w home b s).classes,
    (size + 2) * (size + 2)⟩, ?_, hs.resolves hw, ?_, ?_, ?_, ?_, ?_, ?_⟩
  · unfold load
    rw [hrun]
    rfl
  · simp [hclasses, hs.size]
  · intro i p hp
    have hlt : i < b.types.length := (List.getElem?_eq_some_iff.mp hp).1
    have hne : i ≠ b.types.length ∧ i ≠ b.types.length + 1 := by omega
    simp [hclasses, Array.getElem?_push, hs.size, hne, hs.record i p hp]
  · have hown : (b.hubRecord w home).ref.own = some b.types.length := rfl
    simp [recordOf?, hown, hclasses, Array.getElem?_push, hs.size]
  · have hown : (b.apiRecord w home).ref.own = some (b.types.length + 1) := rfl
    simp [recordOf?, hown, hclasses, Array.getElem?_push, hs.size]
  · exact ⟨s.names, hs.names_eq hw, hs.numbered⟩
  · intro u hu
    have hrank : u.rank ≤ size := rank_le_size_of_use hu
    have hgrows : size ≤ size + 2 := Nat.le_add_right size 2
    exact Nat.le_trans hrank (Nat.le_trans hgrows (Nat.le_mul_self (size + 2)))

end Modules

end HubProxy.Proofs
