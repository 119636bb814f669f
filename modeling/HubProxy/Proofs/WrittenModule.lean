import HubProxy.Proofs.CasedNames
import HubProxy.Proofs.WrittenTerms

/-!
# Blueprints as modules

`Blueprint.definitions` writes a contract as a module: a class for every type, a hub class with
asynchronous methods that are marked, and a marked class of static functions. Each of the definitions
can be carried out, and the record that it makes holds what the contract says.
-/

namespace HubProxy.Proofs

open ContractModule

section Writing

variable (w : Wording)

def TypePlan.definition (name : String) : TypePlan → ClassDefinition
  | .enum members =>
    { name
      bases := [w.enumeration.term]
      members := members.zipIdx.map fun p => .value p.1 (.literal (.whole (p.2 + 1)))
      mark := none
      isRecord := false }
  | .record isInterface properties =>
    { name
      bases := if isInterface then [w.interface.term] else []
      members := properties.map fun p => .field p.1 (p.2.term w) none
      mark := none
      isRecord := false }

/-- A function with the parameters of an operation that yields nothing. A receiver comes first. -/
def OperationPlan.function (receiver : Option String) (isAsync : Bool) (mark : Option Mark)
    (o : OperationPlan) : FunctionDef :=
  { name := o.name
    parameters := receiver.toList.map (fun name => ⟨name, none, .single⟩) ++
      o.parameters.map fun p => ⟨p.1, some (p.2.term w), .single⟩
    isBound := receiver.isSome
    isAsync
    mark
    returns := some .nothing }

/-- The name for the object or the class that a method is called with: the first one that is no name
of a parameter. Without one the method is a static function. -/
def OperationPlan.receiver (o : OperationPlan) : Option String :=
  ["self", "cls"].find? fun name => !(o.parameters.map (·.1)).contains name

/-- The functions of the hub are asynchronous and marked. -/
def Blueprint.hubFunctions (b : Blueprint) : List FunctionDef :=
  b.received.map fun o => o.function w o.receiver true (some ⟨none⟩)

/-- The functions of the client API are static. -/
def Blueprint.apiFunctions (b : Blueprint) : List FunctionDef :=
  b.invoked.map fun o => o.function w none false none

def Blueprint.hubDefinition (b : Blueprint) : ClassDefinition where
  name := w.hubName
  bases := [w.hub.term]
  members := (b.hubFunctions w).map .function
  mark := none
  isRecord := false

def Blueprint.apiDefinition (b : Blueprint) : ClassDefinition where
  name := w.apiName
  bases := []
  members := (b.apiFunctions w).map .function
  mark := some ⟨none⟩
  isRecord := false

def Blueprint.definitions (b : Blueprint) : List Definition :=
  b.types.map (fun p => .cls (p.2.definition w p.1)) ++
    [.cls (b.hubDefinition w), .cls (b.apiDefinition w)]

end Writing

section Lists

lemma lift_ok_bind (a : α) (f : α → StateT σ (Except ε) β) :
    (liftM (Except.ok a : Except ε α) : StateT σ (Except ε) α) >>= f = f a := rfl

/-- A loop goes through the states that belong to what it has gone through. -/
lemma foldlM_eq_ok {f : σ → α → Except ε σ} {l : List α} (state : List α → σ)
    (h : ∀ before x after, l = before ++ x :: after →
      f (state before) x = .ok (state (before ++ [x]))) :
    l.foldlM f (state []) = .ok (state l) := by
  have hrest : ∀ after before, l = before ++ after →
      after.foldlM f (state before) = .ok (state l) := by
    intro after
    induction after with
    | nil =>
      intro before hl
      rw [hl, List.append_nil]
      rfl
    | cons x after ih =>
      intro before hl
      rw [List.foldlM_cons, h before x after hl, ok_bind]
      exact ih (before ++ [x]) (by rw [hl, List.append_assoc]; rfl)
  exact hrest l [] rfl

lemma put_eq_append {entries : List (String × α)} {name : String}
    (h : name ∉ entries.map (·.1)) (value : α) :
    put entries name value = entries ++ [(name, value)] := by
  induction entries with
  | nil => rfl
  | cons p entries ih =>
    rw [List.map_cons, List.mem_cons, not_or] at h
    rw [put, if_neg (Ne.symm h.1), ih h.2, List.cons_append]

lemma lookup_put (entries : List (String × α)) (name : String) (value : α) (n : String) :
    (put entries name value).lookup n = if n = name then some value else entries.lookup n := by
  induction entries with
  | nil =>
    by_cases hn : n = name
    · simp [put, hn]
    · simp [put, hn, lookup_cons_ne hn]
  | cons p entries ih =>
    obtain ⟨m, v⟩ := p
    by_cases hm : m = name
    · subst hm
      by_cases hn : n = m
      · simp [put, hn]
      · simp [put, hn, lookup_cons_ne hn]
    · rw [put, if_neg hm]
      by_cases hn : n = m
      · subst hn
        simp [hm]
      · rw [lookup_cons_ne hn, lookup_cons_ne hn, ih]

lemma mem_put {entries : List (String × α)} {name : String} {value : α} {p : String × α}
    (h : p ∈ put entries name value) : p = (name, value) ∨ p ∈ entries := by
  induction entries with
  | nil => simpa [put] using h
  | cons q entries ih =>
    rw [put] at h
    split at h
    · next heq =>
      rcases List.mem_cons.mp h with rfl | h
      · exact .inl (by rw [heq])
      · exact .inr (List.mem_cons_of_mem q h)
    · rcases List.mem_cons.mp h with rfl | h
      · exact .inr List.mem_cons_self
      · exact (ih h).imp id (List.mem_cons_of_mem q)

lemma not_mem_of_nodup_map {f : α → β} {l before after : List α} {x : α} (h : (l.map f).Nodup)
    (hl : l = before ++ x :: after) : f x ∉ before.map f := by
  rw [hl, List.map_append, List.map_cons] at h
  intro hmem
  exact (List.nodup_append.mp h).2.2 _ hmem _ List.mem_cons_self rfl

end Lists

section Names

lemma memberName_eq {name : String} (h : '_' ∉ name.toList) (className : String) :
    memberName className name = name := by
  unfold memberName
  rw [if_neg]
  intro hcond
  simp only [Bool.and_eq_true] at hcond
  exact h ((List.isPrefixOf_iff_prefix.mp hcond.1.1).subset (by decide))

/-- A member that an enumeration takes under its own name: neither private to it nor framed by
underscores, and no name that no member may have. -/
structure TakenAsMember (className name : String) : Prop where
  kept : memberName className name = name
  taken : enumName className name = .ok .member
  valid : name ≠ "mro" ∧ name ≠ ""

lemma TakenAsMember.ne_of_framed {className name other : String} (h : TakenAsMember className name)
    (hframed : isFramed 1 other = true ∨ isFramed 2 other = true) : name ≠ other := by
  rintro rfl
  have htaken := h.taken
  unfold enumName at htaken
  split at htaken
  · cases htaken
  split at htaken
  · split at htaken <;> cases htaken
  · next hone =>
    rw [if_pos (hframed.resolve_left hone)] at htaken
    cases htaken

end Names

section Bodies

variable {s : Scope} {d : ClassDefinition}

/-- The body of a class of fields without defaults. -/
lemma readBody_fields {w : Wording} {uses : List (String × TypeUse)}
    (hd : d.members = uses.map fun p => .field p.1 (p.2.term w) none)
    (hdistinct : (uses.map (·.1)).Nodup) (hplain : ∀ p ∈ uses, '_' ∉ p.1.toList) :
    readBody s false d = .ok ⟨uses.map fun p => (p.1, p.2.term w), ⟨[], [], []⟩⟩ := by
  unfold readBody
  dsimp only
  rw [hd, List.foldlM_map]
  let state (before : List (String × TypeUse)) : ClassBody :=
    ⟨before.map fun p => (p.1, p.2.term w), ⟨[], [], []⟩⟩
  have hloop := foldlM_eq_ok (l := uses) (ε := Fault) (f := fun body p => .ok
    { body with annotated := put body.annotated (memberName d.name p.1) (p.2.term w) }) state ?_
  · exact (congrArg (· >>= _) hloop).trans rfl
  · intro before p after hl
    have hp : p ∈ uses := hl ▸ List.mem_append_right before List.mem_cons_self
    have hfresh : p.1 ∉ (before.map fun p => (p.1, p.2.term w)).map (·.1) := by
      simpa using not_mem_of_nodup_map hdistinct hl
    simp only [state, memberName_eq (hplain p hp), put_eq_append hfresh, List.map_append]
    rfl

/-- What a class holds whose members are functions. -/
def heldFunctions (className : String) (functions : List FunctionDef) : List (String × Attribute) :=
  functions.map fun f => (f.name, .function className f)

/-- The body of a class of functions. -/
lemma readBody_functions {functions : List FunctionDef}
    (hd : d.members = functions.map .function) (hdistinct : (functions.map (·.name)).Nodup)
    (hplain : ∀ f ∈ functions, '_' ∉ f.name.toList ∧ ∀ p ∈ f.parameters, '_' ∉ p.name.toList) :
    readBody s false d = .ok ⟨[], ⟨heldFunctions d.name functions, [], []⟩⟩ := by
  unfold readBody
  dsimp only
  rw [hd, List.foldlM_map]
  let state (before : List FunctionDef) : ClassBody :=
    ⟨[], ⟨heldFunctions d.name before, [], []⟩⟩
  have hloop := foldlM_eq_ok (l := functions) (ε := Fault) (f := fun body f =>
    putAttribute false d.name f.name (.function d.name { f with
      parameters := f.parameters.map fun p => { p with name := memberName d.name p.name } }) body)
    state ?_
  · exact (congrArg (· >>= _) hloop).trans rfl
  · intro before f after hl
    obtain ⟨hname, hparameters⟩ :=
      hplain f (hl ▸ List.mem_append_right before List.mem_cons_self)
    have hfresh : f.name ∉ (heldFunctions d.name before).map (·.1) := by
      simpa [heldFunctions] using not_mem_of_nodup_map hdistinct hl
    have hkept : (f.parameters.map fun p => { p with name := memberName d.name p.name }) =
        f.parameters := by
      refine (List.map_congr_left fun p hp => ?_).trans (List.map_id _)
      rw [memberName_eq (hparameters p hp)]
      rfl
    simp only [putAttribute, memberName_eq hname, hkept, Bool.false_eq_true, if_false, state,
      put_eq_append hfresh]
    rw [heldFunctions, heldFunctions, List.map_append]
    rfl

def memberValue (place : Nat) : TypeValue :=
  .literal (.whole (place + 1))

def enumBody (members : List (String × Nat)) : EnumBody Attribute :=
  ⟨members.map fun p => (p.1, .value (memberValue p.2)), members.map (·.1), []⟩

lemma putEnum_enumBody {className : String} {before : List (String × Nat)} {p : String × Nat}
    (hp : TakenAsMember className p.1) (hfresh : p.1 ∉ before.map (·.1)) :
    putEnum className p.1 (.value (memberValue p.2)) (enumBody before) =
      .ok (enumBody (before ++ [p])) := by
  have hkeys : (enumBody before).entries.map (·.1) = before.map (·.1) := by
    simp [enumBody, Function.comp_def]
  have hbefore : (enumBody before).entries.lookup p.1 = none := by
    refine List.lookup_eq_none_iff.mpr fun q hq => ?_
    have hmem : q.1 ∈ before.map (·.1) := hkeys ▸ List.mem_map_of_mem hq
    exact bne_iff_ne.mpr fun heq => hfresh (by rwa [heq])
  unfold putEnum
  rw [hp.taken, ok_bind, hbefore, put_eq_append (hkeys ▸ hfresh)]
  simp [enumBody, hfresh]
  rfl

lemma readBody_members {members : List String}
    (hd : d.members = members.zipIdx.map fun p => .value p.1 (.literal (.whole (p.2 + 1))))
    (hdistinct : members.Nodup) (hm : ∀ member ∈ members, TakenAsMember d.name member) :
    readBody s true d = .ok ⟨[], enumBody members.zipIdx⟩ := by
  unfold readBody
  dsimp only
  have hvalue : ∀ place : Nat, s.evaluate (.literal (.whole (place + 1))) =
      .ok (memberValue place) := by
    intro place
    rw [Scope.evaluate, TypeValue.ofLiteral.eq_def]
    rfl
  rw [hd, List.foldlM_map]
  simp only [hvalue, ok_bind]
  let state (before : List (String × Nat)) : ClassBody := ⟨[], enumBody before⟩
  have hnames : (members.zipIdx.map (·.1)).Nodup := by rwa [List.zipIdx_map_fst]
  have hmember : ∀ p ∈ members.zipIdx, TakenAsMember d.name p.1 := fun p hp =>
    hm p.1 (List.fst_mem_of_mem_zipIdx hp)
  have hloop := foldlM_eq_ok (l := members.zipIdx) (ε := Fault) (f := fun body p =>
    putAttribute true d.name p.1 (.value (memberValue p.2)) body) state ?_
  · have hvalid :
        (members.zipIdx.map (·.1)).find? (fun name => name == "mro" || name == "") = none := by
      rw [List.zipIdx_map_fst, List.find?_eq_none]
      intro name hname
      simpa using (hm name hname).valid
    refine (congrArg (· >>= _) hloop).trans ?_
    simp only [ok_bind, state, enumBody, hvalid]
    rfl
  · intro before p after hl
    have hp : TakenAsMember d.name p.1 :=
      hmember p (hl ▸ List.mem_append_right before List.mem_cons_self)
    have horder : p.1 ≠ "__order__" := hp.ne_of_framed (by decide)
    simp only [putAttribute, hp.kept, horder, if_true, if_false, state,
      putEnum_enumBody hp (not_mem_of_nodup_map hnames hl)]
    rfl

/-- A member as an enumeration holds it that shows its members by their names. -/
def entryOf (owner : ClassRef) (p : String × Nat) : String × EnumEntry :=
  (p.1, ⟨⟨owner, p.1, (memberValue p.2).shown, owner.name ++ "." ++ p.1, none⟩, memberValue p.2⟩)

lemma enumItems_memberValue {rules : EnumRules} (htype : rules.dataType = none)
    (htext : rules.isText = false) (hshows : rules.showsValue = false) {members : List (String × Nat)}
    (hdistinct : (members.map (·.2)).Nodup) :
    enumItems rules (members.map fun p => (p.1, memberValue p.2)) =
      .ok (members.map (entryOf rules.owner)) := by
  unfold enumItems
  rw [List.foldlM_map]
  refine foldlM_eq_ok (fun before => before.map (entryOf rules.owner)) fun before p after hl => ?_
  have hvalue : enumValue none false (memberValue p.2) = .ok (memberValue p.2) := rfl
  have hnew : (before.map (entryOf rules.owner)).find?
      (fun e => e.2.value.same (memberValue p.2)) = none := by
    refine List.find?_eq_none.mpr fun e he hsame => ?_
    obtain ⟨q, hq, rfl⟩ := List.mem_map.mp he
    have hplace : (q.2 : Int) = p.2 := by
      simpa [entryOf, memberValue, TypeValue.same, Literal.same, Literal.sameNumber,
        Literal.numberKey?] using hsame
    have heq : q.2 = p.2 := Int.ofNat.inj hplace
    exact not_mem_of_nodup_map hdistinct hl (heq ▸ List.mem_map_of_mem (f := (·.2)) hq)
  dsimp only
  rw [htype, htext, hvalue, ok_bind]
  simp only [hnew, hshows, List.map_append]
  rfl

/-- Such a body holds nothing besides the members. -/
lemma attributes_enumBody (members : List (String × Nat)) :
    ((enumBody members).entries.filter fun p =>
      !(enumBody members).members.contains p.1 && !(enumBody members).ignored.contains p.1) = [] := by
  refine List.filter_eq_nil_iff.mpr fun e he => ?_
  obtain ⟨p, hp, rfl⟩ := List.mem_map.mp he
  have hmem : p.1 ∈ (enumBody members).members := List.mem_map_of_mem hp
  simp [hmem]

/-- The members of an enumeration with numbered members are those that its body gives. -/
lemma newMembers_enumBody {rules : EnumRules} (htype : rules.dataType = none)
    (htext : rules.isText = false) (hshows : rules.showsValue = false)
    (hkind : rules.owner.kind = .enumeration) {bases : List ClassRef}
    (hbases : bases.contains (enumClass "ReprEnum") = false) {members : List String}
    (hdistinct : members.Nodup) (hm : ∀ member ∈ members, TakenAsMember rules.owner.name member) :
    newMembers rules false bases (enumBody members.zipIdx) =
      .ok (members.zipIdx.map fun p => (p.1, (entryOf rules.owner p).2.item), members) := by
  have hnames : (members.zipIdx.map (·.1)).Nodup := by rwa [List.zipIdx_map_fst]
  have hplaces : (members.zipIdx.map (·.2)).Nodup := by
    rw [List.zipIdx_map_snd]
    exact List.nodup_range'
  have hkeys : ((enumBody members.zipIdx).entries.map (·.1)).Nodup := by
    simpa [enumBody, Function.comp_def] using hnames
  have hgiven : ((enumBody members.zipIdx).members.filterMap fun name =>
      (((enumBody members.zipIdx).entries.lookup name).bind Attribute.value?).map fun v => (name, v)) =
      members.zipIdx.map fun p => (p.1, memberValue p.2) := by
    have hlookup : ∀ p ∈ members.zipIdx, (enumBody members.zipIdx).entries.lookup p.1 =
        some (.value (memberValue p.2)) := fun p hp =>
      lookup_of_mem hkeys (List.mem_map_of_mem (f := fun p => (p.1, Attribute.value (memberValue p.2)))
        hp)
    have hmembers : (enumBody members.zipIdx).members = members.zipIdx.map (·.1) := rfl
    rw [hmembers, List.filterMap_map, ← List.filterMap_eq_map]
    refine List.filterMap_congr fun p hp => ?_
    simp [hlookup p hp, Attribute.value?]
  have horder : (enumBody members.zipIdx).entries.lookup "_order_" = none := by
    refine List.lookup_eq_none_iff.mpr fun q hq => bne_iff_ne.mpr fun heq => ?_
    obtain ⟨p, hp, rfl⟩ := List.mem_map.mp hq
    exact (hm p.1 (List.fst_mem_of_mem_zipIdx hp)).ne_of_framed (by decide) heq.symm
  have hlisted : listedNames rules (members.zipIdx.map (entryOf rules.owner)) = members := by
    unfold listedNames
    rw [List.filter_eq_self.mpr, List.map_map]
    · exact List.zipIdx_map_fst ..
    · intro e he
      obtain ⟨p, -, rfl⟩ := List.mem_map.mp he
      simp [entryOf, hkind]
  unfold newMembers
  dsimp only
  rw [hgiven, enumItems_memberValue htype htext hshows hplaces, ok_bind, hbases, horder, hlisted,
    List.map_map]
  rfl

end Bodies

section Classes

variable {home : String} {d : ClassDefinition} {s : ModuleState}

/-- The name that a mark gives to a class. -/
def markOf (d : ClassDefinition) : Option String :=
  d.mark.map fun m => (m.name.filter (· != "")).getD d.name

/-- The state after the definition of a class. -/
def withRecord (s : ModuleState) (r : ClassRecord) : ModuleState :=
  { s with names := put s.names r.ref.name (.cls r.ref), classes := s.classes.push r }

/-- The record of a class that is neither an enumeration nor a record class. -/
structure MakesClass (home : String) (s : ModuleState) (d : ClassDefinition) (r : ClassRecord) : Prop
    where
  notRecord : d.isRecord = false
  bases : ∃ values bases kind, d.bases.mapM s.scope.evaluate = .ok values ∧
    (baseClasses s.classes values >>= onlyClasses) = .ok bases ∧
    ContractModule.kindOf bases = .ok kind ∧
    kind.isEnumeration = false ∧ r.ref = ⟨home, d.name, some s.classes.size, kind⟩ ∧
    layoutOf s.classes r.ref bases = .ok r.layout ∧
    newAncestors s.classes r.ref bases = .ok r.ancestors ∧
    newVariables values r.ancestors = .ok r.typeVariables ∧
    newProtocol s.classes r.attributes r.ancestors bases = .ok r.isProtocol
  body : readBody s.scope false d = .ok ⟨r.annotated, ⟨r.attributes, [], []⟩⟩
  mark : r.mark = markOf d
  rest : r.recordFields = none ∧ r.dataType = none ∧ r.items = [] ∧ r.members = []

lemma MakesClass.run {r : ClassRecord} (h : MakesClass home s d r) :
    (defineClass home d).run s = .ok (⟨⟩, withRecord s r) := by
  obtain ⟨hrecord, ⟨values, bases, kind, hvalues, hbases, hkind, henum, href, hlayout, hancestors,
    hvariables, hprotocol⟩, hbody, hmark, hfields, hdata, hitems, hmembers⟩ := h
  have hbases' : (do onlyClasses (← baseClasses s.classes values)) = Except.ok bases := hbases
  have hattributes : (r.attributes.filter fun p =>
      !([] : List String).contains p.1 && !([] : List String).contains p.1) = r.attributes :=
    List.filter_eq_self.mpr fun _ _ => rfl
  unfold defineClass
  rw [StateT.run_bind, StateT.run_get, pure_bind]
  dsimp only
  rw [hvalues, lift_ok_bind, hbases', lift_ok_bind, hkind, lift_ok_bind]
  simp only [henum, Bool.false_eq_true, if_false, pure_bind]
  rw [← href, hbody, lift_ok_bind, hlayout, lift_ok_bind, hancestors, lift_ok_bind]
  simp only [hvariables, lift_ok_bind, hattributes, hprotocol, hrecord, Bool.false_eq_true, if_false]
  have hr : { r with
      mark := markOf d, recordFields := none, dataType := none, items := [], members := [] } = r := by
    rw [← hmark, ← hfields, ← hdata, ← hitems, ← hmembers]
  exact congrArg (fun r => Except.ok (PUnit.unit, withRecord s r)) hr

/-- A class of a module is none that every module knows. -/
lemma own_ne {c other : ClassRef} {place : Nat} (hc : c.own = some place) (hother : other.own = none) :
    c ≠ other := by
  rintro rfl
  rw [hc] at hother
  cases hother

lemma contains_own {c other : ClassRef} {place : Nat} (hc : c.own = some place)
    (hother : other.own = none) {rest : List ClassRef} (hrest : rest.contains other = false) :
    (c :: rest).contains other = false := by
  rw [List.contains_cons, hrest, beq_false_of_ne (own_ne hc hother).symm]
  rfl

lemma newVariables_eq_none {ancestors : List ClassRef}
    (h : ancestors.contains (formClass "Generic") = false) (values : List TypeValue) :
    newVariables values ancestors = .ok none := by
  unfold newVariables
  simp only [h]
  rfl

lemma newProtocol_eq_false {classes : Array ClassRecord} {attributes : List (String × Attribute)}
    {ancestors : List ClassRef} (h : ancestors.contains (formClass "Protocol") = false)
    (hsaid : attributes.lookup "_is_protocol" = none)
    (hrest : (ancestors.drop 1).filterMap (recordOf? classes) = []) (bases : List ClassRef) :
    newProtocol classes attributes ancestors bases = .ok false := by
  unfold newProtocol
  simp only [h, hsaid, hrest]
  rfl

def enumRecord (home name : String) (place : Nat) (members : List String) : ClassRecord :=
  let ref : ClassRef := ⟨home, name, some place, .enumeration⟩
  { ref
    ancestors := [ref, enumClass "Enum", objectClass]
    layout := objectClass
    typeVariables := none
    isProtocol := false
    annotated := []
    attributes := []
    mark := none
    recordFields := none
    dataType := none
    items := members.zipIdx.map fun p => (p.1, (entryOf ref p).2.item)
    members }

lemma defineClass_enum {w : Wording} {name : String} {members : List String}
    (hbase : s.scope.evaluate w.enumeration.term = .ok (.cls (enumClass "Enum")))
    (hdistinct : members.Nodup) (hm : ∀ member ∈ members, TakenAsMember name member) :
    (defineClass home ((TypePlan.enum members).definition w name)).run s =
      .ok (⟨⟩, withRecord s (enumRecord home name s.classes.size members)) := by
  have hvalues : [w.enumeration.term].mapM s.scope.evaluate = .ok [.cls (enumClass "Enum")] := by
    rw [List.mapM_cons, hbase]
    rfl
  have hbases : (do onlyClasses (← baseClasses s.classes [.cls (enumClass "Enum")])) =
      Except.ok [enumClass "Enum"] := rfl
  have hkind : ContractModule.kindOf [enumClass "Enum"] = .ok .enumeration := rfl
  have henum : ClassKind.enumeration.isEnumeration = true := rfl
  have hdata : enumDataType s.classes name [enumClass "Enum"] = .ok none := rfl
  have hbody : readBody s.scope true ((TypePlan.enum members).definition w name) =
      .ok ⟨[], enumBody members.zipIdx⟩ := readBody_members rfl hdistinct hm
  let ref : ClassRef := ⟨home, name, some s.classes.size, .enumeration⟩
  have hlayout : layoutOf s.classes ref [enumClass "Enum"] = .ok objectClass := rfl
  have hancestors : newAncestors s.classes ref [enumClass "Enum"] =
      .ok [ref, enumClass "Enum", objectClass] := rfl
  have hapart : ∀ other : ClassRef, other.own = none →
      [enumClass "Enum", objectClass].contains other = false →
      [ref, enumClass "Enum", objectClass].contains other = false := fun other hother hrest =>
    contains_own (rfl : ref.own = some s.classes.size) hother hrest
  let rules : EnumRules :=
    ⟨ref, none, false, [ref, enumClass "Enum", objectClass].contains (enumClass "ReprEnum")⟩
  have hmembers : newMembers rules false [enumClass "Enum"] (enumBody members.zipIdx) = _ :=
    newMembers_enumBody rfl rfl (hapart _ rfl (by decide)) rfl (by decide) hdistinct hm
  have hvariables : newVariables [.cls (enumClass "Enum")] [ref, enumClass "Enum", objectClass] =
      .ok none := newVariables_eq_none (hapart _ rfl (by decide)) _
  have hprotocol : newProtocol s.classes [] [ref, enumClass "Enum", objectClass]
      [enumClass "Enum"] = .ok false :=
    newProtocol_eq_false (hapart _ rfl (by decide)) rfl rfl _
  unfold defineClass
  rw [StateT.run_bind, StateT.run_get, pure_bind]
  simp only [TypePlan.definition]
  rw [hvalues, lift_ok_bind, hbases, lift_ok_bind, hkind, lift_ok_bind]
  simp only [henum, if_true]
  rw [hdata, lift_ok_bind]
  simp only [TypePlan.definition] at hbody
  rw [hbody, lift_ok_bind, hlayout, lift_ok_bind, hancestors, lift_ok_bind]
  refine (congrArg (fun x => StateT.run (liftM x >>= _) s) hmembers).trans ?_
  rw [lift_ok_bind]
  dsimp only
  rw [hvariables, lift_ok_bind, attributes_enumBody, hprotocol, lift_ok_bind]
  rfl

/-- The record of a class with the given ancestors above it that is no enumeration. -/
def classRecord (ref : ClassRef) (above : List ClassRef) (annotated : List (String × TypeTerm))
    (attributes : List (String × Attribute)) (mark : Option String) : ClassRecord where
  ref
  ancestors := ref :: above
  layout := objectClass
  typeVariables := if above.contains (formClass "Generic") then some [] else none
  isProtocol := above.contains (formClass "Protocol")
  annotated
  attributes
  mark
  recordFields := none
  dataType := none
  items := []
  members := []

section Kinds

variable {annotated : List (String × TypeTerm)} {attributes : List (String × Attribute)}

lemma makesClass_root (hrecord : d.isRecord = false) (hbases : d.bases = [])
    (hbody : readBody s.scope false d = .ok ⟨annotated, ⟨attributes, [], []⟩⟩)
    (hsaid : attributes.lookup "_is_protocol" = none) :
    MakesClass home s d (classRecord ⟨home, d.name, some s.classes.size, .plain⟩ [objectClass]
      annotated attributes (markOf d)) := by
  refine ⟨hrecord, ⟨[], [], .plain, by rw [hbases]; rfl, rfl, rfl, rfl, rfl, rfl, rfl, ?_, ?_⟩,
    hbody, rfl, rfl, rfl, rfl, rfl⟩
  · exact newVariables_eq_none (contains_own rfl rfl (by decide)) _
  · exact newProtocol_eq_false (contains_own rfl rfl (by decide)) hsaid rfl _

lemma makesClass_hub (hrecord : d.isRecord = false) {term : TypeTerm} (hbases : d.bases = [term])
    (hterm : s.scope.evaluate term = .ok (.cls hubClass))
    (hbody : readBody s.scope false d = .ok ⟨annotated, ⟨attributes, [], []⟩⟩)
    (hsaid : attributes.lookup "_is_protocol" = none) :
    MakesClass home s d (classRecord ⟨home, d.name, some s.classes.size, .plain⟩
      [hubClass, objectClass] annotated attributes (markOf d)) := by
  have hvalues : d.bases.mapM s.scope.evaluate = .ok [.cls hubClass] := by
    rw [hbases, List.mapM_cons, hterm]
    rfl
  refine ⟨hrecord, ⟨_, [hubClass], .plain, hvalues, rfl, rfl, rfl, rfl, rfl, rfl, ?_, ?_⟩, hbody,
    rfl, rfl, rfl, rfl, rfl⟩
  · exact newVariables_eq_none (contains_own rfl rfl (by decide)) _
  · exact newProtocol_eq_false (contains_own rfl rfl (by decide)) hsaid rfl _

lemma makesClass_interface (hrecord : d.isRecord = false) {term : TypeTerm}
    (hbases : d.bases = [term])
    (hterm : s.scope.evaluate term = .ok (.cls (formClass "Protocol")))
    (hbody : readBody s.scope false d = .ok ⟨annotated, ⟨[], [], []⟩⟩) :
    MakesClass home s d (classRecord ⟨home, d.name, some s.classes.size, .protocol⟩
      [formClass "Protocol", formClass "Generic", objectClass] annotated [] (markOf d)) := by
  have hvalues : d.bases.mapM s.scope.evaluate = .ok [.cls (formClass "Protocol")] := by
    rw [hbases, List.mapM_cons, hterm]
    rfl
  refine ⟨hrecord, ⟨_, [formClass "Protocol"], .protocol, hvalues, rfl, rfl, rfl, rfl, rfl, rfl,
    ?_, ?_⟩, hbody, rfl, rfl, rfl, rfl, rfl⟩
  · have hgeneric : (classRecord ⟨home, d.name, some s.classes.size, .protocol⟩
        [formClass "Protocol", formClass "Generic", objectClass] annotated [] (markOf d)
        ).ancestors.contains (formClass "Generic") = true := by
      simp [classRecord]
    have hamong : TypeValue.among (.cls (formClass "Generic")) [.cls (formClass "Protocol")] =
        false := by
      simp [TypeValue.among, TypeValue.same, formClass]
    unfold newVariables
    simp only [hgeneric, hamong]
    rfl
  · have hprotocol : (classRecord ⟨home, d.name, some s.classes.size, .protocol⟩
        [formClass "Protocol", formClass "Generic", objectClass] annotated [] (markOf d)
        ).ancestors.contains (formClass "Protocol") = true := by
      simp [classRecord]
    unfold newProtocol
    simp only [hprotocol]
    rfl

end Kinds

end Classes

end HubProxy.Proofs
