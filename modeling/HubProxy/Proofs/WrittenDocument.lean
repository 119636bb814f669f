import HubProxy.Proofs.Blueprint
import HubProxy.Proofs.TypeExpressions
import Mathlib.Data.List.Perm.Subperm

/-!
# Blueprints in documents

A document `Says` a blueprint if its sections give the types under their names and the operations in
order. Reading the document refines reading the blueprint.
-/

namespace HubProxy.Proofs

open Contract (TypeTable ReadM)
open Document (ValueId)

section Saying

variable (doc : Document)

/-- A value is a mapping with the given entries. What is missing or null has none. -/
inductive HasEntries : Option ValueId → Section → Prop
  | missing : HasEntries none []
  | null {id : ValueId} (h : doc.value id = .scalar .null) : HasEntries (some id) []
  | mapping {id : ValueId} {entries : Section} (h : doc.value id = .mapping entries) :
      HasEntries (some id) entries

/-- A value is a list of the given items. What is missing or null has none. -/
inductive HasItems : Option ValueId → List ValueId → Prop
  | missing : HasItems none []
  | null {id : ValueId} (h : doc.value id = .scalar .null) : HasItems (some id) []
  | sequence {id : ValueId} {items : List ValueId} (h : doc.value id = .sequence items) :
      HasItems (some id) items

/-- A value is a given text. One that is missing counts as the first text. -/
inductive HasText (missing : String) : Option ValueId → String → Prop
  | missing : HasText missing none missing
  | text {id : ValueId} {s : String} (h : doc.value id = .scalar (.text s)) :
      HasText missing (some id) s

def TypeUse.text : TypeUse → String
  | .common c => c.word
  | .array element => element.text ++ "[]"
  | .named name => name

/-- Entries give names their types, in order. -/
def SaysUses (uses : List (String × TypeUse)) (entries : Section) : Prop :=
  List.Forall₂ (fun u e => e.1 = .text u.1 ∧ doc.value e.2 = .scalar (.text u.2.text)) uses entries

/-- A value defines a type. -/
def SaysType (id : ValueId) : TypePlan → Prop
  | .enum members => ∃ entries items, HasEntries doc (some id) entries ∧
      HasText doc "class" (Document.findKey entries "kind") "enum" ∧
      HasItems doc (Document.findKey entries "members") items ∧
      List.Forall₂ (fun member item => doc.value item = .scalar (.text member)) members items
  | .record isInterface properties => ∃ entries fields, HasEntries doc (some id) entries ∧
      HasText doc "class" (Document.findKey entries "kind")
        (if isInterface then "interface" else "class") ∧
      HasEntries doc (Document.findKey entries "properties") fields ∧
      SaysUses doc properties fields

/-- A value describes an operation that is asynchronous and yields no value. -/
def SaysOperation (o : OperationPlan) (id : ValueId) : Prop :=
  ∃ entries parameters result, ∃ name, HasEntries doc (some id) entries ∧
    Document.findKey entries "name" = some name ∧ doc.value name = .scalar (.text o.name) ∧
    HasEntries doc (Document.findKey entries "parameters") parameters ∧
    SaysUses doc o.parameters parameters ∧
    HasText doc "Task" (Document.findKey entries "returns") result ∧
    result ∈ Contract.asyncVoidResults

/-- A section lists operations. -/
def SaysSection (root : Section) (part : String) (operations : List OperationPlan) : Prop :=
  ∃ id data items, ∃ name, Document.findKey root part = some id ∧ doc.value id = .mapping data ∧
    HasText doc part (Document.findKey data "name") name ∧
    HasItems doc (Document.findKey data "operations") items ∧
    List.Forall₂ (SaysOperation doc) operations items

/-- A document is about a contract. Further types that it defines do not count. -/
def Says (b : Blueprint) : Prop :=
  ∃ root types, doc.value doc.top = .mapping root ∧
    HasEntries doc (Document.findKey root "types") types ∧
    (∀ p ∈ b.types, ∃ id, Document.findKey types p.1 = some id ∧ SaysType doc id p.2) ∧
    SaysSection doc root "hub" b.received ∧ SaysSection doc root "client_api" b.invoked

end Saying

section Values

variable {doc : Document}

lemma HasEntries.asMapping {value : Option ValueId} {entries : Section}
    (h : HasEntries doc value entries) (place : String) :
    Contract.asMapping doc value place = .ok entries := by
  cases h with
  | missing => rfl
  | null h => simp [Contract.asMapping, h]
  | mapping h => simp [Contract.asMapping, h]

lemma HasText.textOr {missing s : String} {value : Option ValueId} (h : HasText doc missing value s) :
    Contract.textOr doc value missing = pure s := by
  cases h with
  | missing => rfl
  | text h => simp [Contract.textOr, Contract.shown, Document.text?, h, Document.Scalar.outer?]

lemma HasText.sectionName {part name : String} {data : Section}
    (h : HasText doc part (Document.findKey data "name") name) :
    ∃ s, Contract.sectionName doc part data = pure s := by
  unfold Contract.sectionName
  cases hkey : Document.findKey data "name" with
  | none => exact ⟨part, rfl⟩
  | some id =>
    rw [hkey] at h
    cases h with
    | text h =>
      by_cases hgiven : (doc.value id).isGiven = true
      · refine ⟨name, ?_⟩
        simp only [hgiven, if_true]
        simp [Document.text?, h, Document.Scalar.outer?, Contract.shown]
      · exact ⟨part, by simp [hgiven]⟩

lemma HasItems.members {definition : Section} {items : List ValueId}
    (h : HasItems doc (Document.findKey definition "members") items) {members : List String}
    (hm : List.Forall₂ (fun member item => doc.value item = .scalar (.text member)) members items)
    (name : String) : Contract.readMembers doc name definition = .ok members := by
  unfold Contract.readMembers
  generalize Document.findKey definition "members" = value at h
  cases h with
  | missing =>
    cases hm
    rfl
  | null h =>
    cases hm
    simp [h, Document.Value.isGiven]
  | sequence h =>
    cases items with
    | nil =>
      cases hm
      simp [h, Document.Value.isGiven]
    | cons item items =>
      have hgiven : (Document.Value.sequence (item :: items)).isGiven = true := rfl
      simp only [Option.map_some, h, hgiven, Bool.not_true, Bool.false_eq_true, if_false]
      refine mapM_eq_ok (hm.flip.imp fun id member hid => ?_)
      simp only [hid]

end Values

section Expressions

lemma CommonType.unmarked_word (c : CommonType) : Unmarked c.word := by
  cases c <;> decide

lemma Unmarked.ofTrimmed {name : String} (h : Unmarked name) :
    Outer.ofTrimmed name.toList = .name name.toList := by
  have hmarks : [']', '?', '>'] ⊆ typeMarks := by decide
  exact ofTrimmed_of_not_mem fun mark hmark hmem => (h.2 mark hmem).2 (hmarks hmark)

lemma TypeUse.not_isBlank {b : Blueprint} (hb : ∀ name ∈ b.names, Unmarked name) {u : TypeUse}
    (hu : u.IsIn b) : ∀ c ∈ u.text.toList, Text.isBlank c = false := by
  induction u with
  | common c => exact fun d hd => (c.unmarked_word.2 d hd).1
  | array element ih =>
    intro c hc
    rw [TypeUse.text, String.toList_append] at hc
    rcases List.mem_append.mp hc with hc | hc
    · exact ih hu c hc
    · have hbrackets : "[]".toList.all (!Text.isBlank ·) = true := by decide
      simpa using List.all_eq_true.mp hbrackets c hc
  | named name => exact fun c hc => ((hb name hu).2 c hc).1

lemma TypeUse.text_ne_nil {b : Blueprint} (hb : ∀ name ∈ b.names, Unmarked name) {u : TypeUse}
    (hu : u.IsIn b) : u.text.toList ≠ [] := by
  cases u with
  | common c => cases c <;> decide
  | array element => simp [TypeUse.text]
  | named name => simpa [TypeUse.text] using (hb name hu).1

lemma TypeUse.rank_le_length (u : TypeUse) : u.rank ≤ u.text.toList.length := by
  induction u with
  | common c => exact Nat.zero_le _
  | array element ih =>
    rw [TypeUse.rank, TypeUse.text, String.toList_append, List.length_append]
    have htwo : "[]".toList.length = 2 := by decide
    omega
  | named name => exact Nat.zero_le _

section Named

variable {named : String → ReadM Descriptor} {isDefined : String → Bool} {name : String}

lemma Unmarked.readExpression_primitive (h : Unmarked name) {d : Descriptor}
    (hd : primitive? name = some d) (place : String) (bound : Nat) :
    Contract.readExpression named isDefined place (bound + 1) name.toList = pure d := by
  have hempty : name.toList.isEmpty = false := by simpa using h.1
  unfold Contract.readExpression
  simp [trimChars_eq fun c hc => (h.2 c hc).1, hempty, h.ofTrimmed, hd]

lemma Unmarked.readExpression_named (h : Unmarked name) (hd : primitive? name = none)
    (hdefined : isDefined name = true) (place : String) (bound : Nat) :
    Contract.readExpression named isDefined place (bound + 1) name.toList = named name := by
  have hempty : name.toList.isEmpty = false := by simpa using h.1
  unfold Contract.readExpression
  simp [trimChars_eq fun c hc => (h.2 c hc).1, hempty, h.ofTrimmed, hd, hdefined]

end Named

lemma refines_readExpression {b : Blueprint} (hb : ∀ name ∈ b.names, Unmarked name)
    (hprimitive : ∀ name ∈ b.names, primitive? name = none) {named : String → ReadM Descriptor}
    {named' : String → PlanM Descriptor} {isDefined : String → Bool}
    (hdefined : ∀ name ∈ b.names, isDefined name = true)
    (hnamed : ∀ name ∈ b.names, Refines id Eq (named name) (named' name)) (place : String)
    {u : TypeUse} (hu : u.IsIn b) {bound : Nat} (hbound : u.rank < bound) :
    Refines id Eq (Contract.readExpression named isDefined place bound u.text.toList)
      (u.read named') := by
  obtain ⟨bound, rfl⟩ := Nat.exists_eq_add_one_of_ne_zero (Nat.ne_of_gt (Nat.zero_lt_of_lt hbound))
  induction u generalizing bound with
  | common c =>
    rw [TypeUse.text, c.unmarked_word.readExpression_primitive c.primitive?_word]
    exact refines_pure rfl
  | array element ih =>
    have hblank := TypeUse.not_isBlank hb hu
    have hempty : (TypeUse.array element).text.toList.isEmpty = false := by
      simpa using TypeUse.text_ne_nil hb hu
    have htext : (TypeUse.array element).text.toList = element.text.toList ++ ['[', ']'] := by
      simp [TypeUse.text]
    unfold Contract.readExpression
    simp only [trimChars_eq hblank, hempty, Bool.false_eq_true, if_false]
    rw [htext, ofTrimmed_brackets]
    rw [TypeUse.rank] at hbound
    obtain ⟨bound, rfl⟩ := Nat.exists_eq_add_one_of_ne_zero (n := bound) (by omega)
    refine (ih hu bound (by omega)).bind fun d d' hd => refines_pure ?_
    rw [hd]
  | named name =>
    rw [TypeUse.text, (hb name hu).readExpression_named (hprimitive name hu) (hdefined name hu)]
    exact hnamed name hu

end Expressions

section Reading

variable {doc : Document} {b : Blueprint}

lemma refines_fields {property : ValueId → String → ReadM Descriptor}
    {named : String → PlanM Descriptor}
    (hp : ∀ value place, ∀ u : TypeUse, doc.value value = .scalar (.text u.text) → u.IsIn b →
      Refines id Eq (property value place) (u.read named))
    {uses : List (String × TypeUse)} (hu : ∀ u ∈ uses, u.2.IsIn b) {entries : Section}
    (hs : SaysUses doc uses entries) (place : String) :
    Refines id Eq (entries.mapM fun e => do
      let key ← Contract.shown e.1.outer?
      return (key, ← property e.2 (place ++ "." ++ key))) (readUses named uses) := by
  refine refines_mapM_eq ?_
  refine ((List.forall₂_and_left (p := fun u : String × TypeUse => u.2.IsIn b) uses entries).mpr
    ⟨hu, hs⟩).imp ?_
  rintro u ⟨key, value⟩ ⟨hin, rfl, hvalue⟩
  exact (hp value _ u.2 hvalue hin).bind fun d d' hd => refines_pure (by rw [hd])

lemma refines_readDefinition {types : Section} {property : ValueId → String → ReadM Descriptor}
    {named : String → PlanM Descriptor}
    (hp : ∀ value place, ∀ u : TypeUse, doc.value value = .scalar (.text u.text) → u.IsIn b →
      Refines id Eq (property value place) (u.read named))
    {name : String} {id : ValueId} (hid : Document.findKey types name = some id) {plan : TypePlan}
    (hs : SaysType doc id plan) (hu : ∀ u ∈ plan.uses, u.2.IsIn b) :
    Refines (fun t => t) Eq (Contract.readDefinition doc types property name)
      (plan.read named name) := by
  unfold Contract.readDefinition
  rw [hid]
  cases plan with
  | enum members =>
    obtain ⟨entries, items, hentries, hkind, hitems, hmembers⟩ := hs
    refine Refines.after (hentries.asMapping _) ?_
    rw [hkind.textOr, pure_bind, if_pos rfl]
    refine Refines.after (hitems.members hmembers name) ?_
    exact (refines_modify fun t => rfl).bind fun _ _ _ => refines_pure rfl
  | record isInterface properties =>
    obtain ⟨entries, fields, hentries, hkind, hfields, huses⟩ := hs
    refine Refines.after (hentries.asMapping _) ?_
    rw [hkind.textOr, pure_bind, if_neg (by cases isInterface <;> decide),
      if_pos (by cases isInterface <;> decide)]
    have hrest : ∀ id place, Refines (fun t => t) Eq (do
        let entries ← liftM (Contract.asMapping doc (Document.findKey entries "properties") place)
        let properties ← entries.mapM fun e => do
          let key ← Contract.shown e.1.outer?
          return (key, ← property e.2 ("types." ++ name ++ "." ++ key))
        modify fun t => withProperties t id properties
        return Descriptor.cls id : ReadM Descriptor) (do
        let ps ← readUses named properties
        modify fun t => withProperties t id ps
        return .cls id) := by
      intro id place
      refine Refines.after (hfields.asMapping _) ?_
      refine (refines_fields hp hu huses ("types." ++ name)).bind fun ps ps' hps => ?_
      subst hps
      exact (refines_modify fun t => rfl).bind fun _ _ _ => refines_pure rfl
    intro t
    have ht := hrest t.classes.size ("types." ++ name ++ ".properties") (withClass t name isInterface)
    cases isInterface <;> exact ht

/-- The types of a contract as a document defines them. -/
structure DefinesTypes (doc : Document) (types : Section) (b : Blueprint) : Prop where
  unmarked : ∀ name ∈ b.names, Unmarked name
  apart : ∀ name ∈ b.names, primitive? name = none
  closed : ∀ p ∈ b.types, ∀ u ∈ p.2.uses, u.2.IsIn b
  defined : ∀ p ∈ b.types, ∃ id, Document.findKey types p.1 = some id ∧ SaysType doc id p.2

variable {types : Section}

lemma DefinesTypes.isSome_findKey (h : DefinesTypes doc types b) {name : String}
    (hname : name ∈ b.names) : (Document.findKey types name).isSome = true := by
  obtain ⟨p, hp, rfl⟩ := List.mem_map.mp hname
  obtain ⟨id, hid, -⟩ := h.defined p hp
  rw [hid]
  rfl

/-- A document may be read deeper than the blueprint. -/
lemma refines_readType (h : DefinesTypes doc types b) (bound : Nat) :
    ∀ depth ≥ bound, ∀ value place, ∀ u : TypeUse, doc.value value = .scalar (.text u.text) →
      u.IsIn b → Refines id Eq (Contract.readType doc types depth value place)
        (u.read (b.readNamed bound)) := by
  induction bound with
  | zero =>
    intro depth _ value place u hvalue hu
    unfold Contract.readType
    simp only [hvalue]
    refine refines_readExpression h.unmarked h.apart (fun name => h.isSome_findKey) ?_ place hu
      (Nat.lt_succ_of_le u.rank_le_length)
    intro name hname t d t' hrun
    obtain ⟨d', hknown, heq⟩ := Option.map_eq_some_iff.mp hrun
    cases heq
    refine ⟨d, rfl, ?_⟩
    simp [hknown]
    rfl
  | succ bound ih =>
    intro depth hdepth value place u hvalue hu
    obtain ⟨depth, rfl⟩ := Nat.exists_eq_add_one_of_ne_zero (n := depth) (by omega)
    unfold Contract.readType
    simp only [hvalue]
    refine refines_readExpression h.unmarked h.apart (fun name => h.isSome_findKey) ?_ place hu
      (Nat.lt_succ_of_le u.rank_le_length)
    intro name hname t d t' hrun
    cases hknown : t.known.lookup name with
    | some d' =>
      rw [Blueprint.readNamed, StateT.run, hknown] at hrun
      cases hrun
      refine ⟨d, rfl, ?_⟩
      simp [hknown]
      rfl
    | none =>
      rw [Blueprint.readNamed, StateT.run, hknown] at hrun
      obtain ⟨plan, hplan, hread⟩ := Option.bind_eq_some_iff.mp hrun
      have hmem : (name, plan) ∈ b.types := mem_types_of_lookup hplan
      obtain ⟨id, hid, hsays⟩ := h.defined _ hmem
      have hdefinition := refines_readDefinition (ih depth (by omega)) hid hsays (h.closed _ hmem)
      obtain ⟨c, rfl, hx⟩ := hdefinition t d t' hread
      exact ⟨d, rfl, by simpa [StateT.run_bind, hknown] using hx⟩

/-- Every type is found under a key of its own. -/
lemma DefinesTypes.length_le (h : DefinesTypes doc types b) (hb : b.names.Nodup) :
    b.types.length ≤ types.length := by
  have hsub : b.names.map Document.Scalar.text ⊆ types.map (·.1) := by
    intro key hkey
    obtain ⟨name, hname, rfl⟩ := List.mem_map.mp hkey
    obtain ⟨p, hp, rfl⟩ := List.mem_map.mp hname
    obtain ⟨id, hid, -⟩ := h.defined p hp
    exact List.mem_map.mpr ⟨_, mem_of_findKey hid, rfl⟩
  have hdistinct : (b.names.map Document.Scalar.text).Nodup :=
    List.Pairwise.map _ (fun _ _ hne h => hne (Document.Scalar.text.inj h)) hb
  simpa [Blueprint.names] using (List.subperm_of_subset hdistinct hsub).length_le

lemma refines_readOperation (h : DefinesTypes doc types b) (hle : b.types.length ≤ types.length)
    {o : OperationPlan} (hname : o.name ≠ "") (ho : ∀ u ∈ o.parameters, u.2.IsIn b) {id : ValueId}
    (hs : SaysOperation doc o id) (direction : Direction) (place : String) :
    Refines (fun t => t) SameOperation (Contract.readOperation doc types direction place id)
      (b.readOperation b.types.length direction o) := by
  obtain ⟨entries, parameters, result, name, hentries, hkey, htext, hparameters, huses, hresult,
    hvoid⟩ := hs
  unfold Contract.readOperation
  refine Refines.after (hentries.asMapping place) ?_
  simp only [hkey, Option.map_some, htext, hname, if_false]
  unfold Contract.readParameters
  rw [bind_assoc]
  refine Refines.after (hparameters.asMapping _) ?_
  refine (refines_fields (refines_readType h _ _ hle) ho huses place).bind fun ps ps' hps => ?_
  subst hps
  rw [hresult.textOr, pure_bind]
  refine refines_pure ?_
  simp [SameOperation, hvoid]

lemma refines_readOperations (h : DefinesTypes doc types b) (hle : b.types.length ≤ types.length)
    {operations : List OperationPlan} (hname : ∀ o ∈ operations, o.name ≠ "")
    (ho : ∀ o ∈ operations, ∀ u ∈ o.parameters, u.2.IsIn b) {data : Section} {items : List ValueId}
    (hitems : HasItems doc (Document.findKey data "operations") items)
    (hs : List.Forall₂ (SaysOperation doc) operations items) (direction : Direction) (part : String) :
    Refines (fun t => t) (List.Forall₂ SameOperation)
      (Contract.readOperations doc types direction part data)
      (operations.mapM (b.readOperation b.types.length direction)) := by
  unfold Contract.readOperations
  generalize Document.findKey data "operations" = value at hitems
  cases hitems with
  | missing =>
    cases hs
    exact refines_pure .nil
  | null hnull =>
    cases hs
    simp only [Option.map_some, hnull, Document.Value.isGiven, Bool.not_false, if_true]
    exact refines_pure .nil
  | sequence hsequence =>
    cases items with
    | nil =>
      cases hs
      simp only [Option.map_some, hsequence, Document.Value.isGiven, List.isEmpty_nil, Bool.not_true,
        Bool.not_false, if_true]
      exact refines_pure .nil
    | cons item items =>
      have hgiven : (Document.Value.sequence (item :: items)).isGiven = true := rfl
      simp only [Option.map_some, hsequence, hgiven, Bool.not_true, Bool.false_eq_true, if_false]
      refine refines_mapM ?_
      have hindexed : List.Forall₂ (fun o i => SaysOperation doc o i.1) operations
          (item :: items).zipIdx := by
        rw [← List.forall₂_map_right_iff, List.zipIdx_map_fst]
        exact hs
      refine ((List.forall₂_and_left (p := fun o => o ∈ operations) _ _).mpr
        ⟨fun o ho => ho, hindexed⟩).imp fun o i hoi => ?_
      exact refines_readOperation h hle (hname o hoi.1) (ho o hoi.1) hoi.2 direction _

lemma refines_readSection (h : DefinesTypes doc types b) (hle : b.types.length ≤ types.length)
    {operations : List OperationPlan} (hname : ∀ o ∈ operations, o.name ≠ "")
    (ho : ∀ o ∈ operations, ∀ u ∈ o.parameters, u.2.IsIn b) {root : Section} {part : String}
    (hs : SaysSection doc root part operations) (role : Role) (direction : Direction) :
    Refines (fun t => t)
      (fun os ts => ∃ name os', ts = [⟨name, role, os'⟩] ∧ List.Forall₂ SameOperation os os')
      (Contract.readSection doc types root part role direction)
      (operations.mapM (b.readOperation b.types.length direction)) := by
  obtain ⟨id, data, items, name, hkey, hdata, hsection, hitems, hall⟩ := hs
  obtain ⟨s, hs⟩ := hsection.sectionName
  unfold Contract.readSection
  simp only [hkey, hdata]
  refine Refines.after ((HasEntries.mapping hdata).asMapping part) ?_
  rw [hs, pure_bind]
  have hread := refines_readOperations h hle hname ho hitems hall direction part
  exact hread.map fun os os' hos => ⟨s, os', rfl, hos⟩

/-- A document that says a contract is read as the contract is. -/
theorem ofDocument_of_says (hb : b.WellFormed) (hs : Says doc b) {received invoked : List Operation}
    {t : TypeTable} (hread : (b.read b.types.length).run ⟨#[], []⟩ = some ((received, invoked), t))
    (source : String) :
    ∃ m, Contract.ofDocument doc source = .ok m ∧ ComesFrom m received invoked t.classes := by
  obtain ⟨root, types, htop, htypes, hdefined, hhub, hapi⟩ := hs
  have h : DefinesTypes doc types b := ⟨hb.unmarked, hb.apart, hb.closed, hdefined⟩
  have hle := h.length_le hb.names
  have hname : ∀ o ∈ b.operations, o.name ≠ "" := fun o ho => (hb.operations o ho).1
  have hsections : Refines (fun t => t)
      (fun os ts => ∃ hub api received invoked,
        ts = [⟨hub, .hub, received⟩, ⟨api, .clientApi, invoked⟩] ∧
        List.Forall₂ SameOperation os.1 received ∧ List.Forall₂ SameOperation os.2 invoked)
      (do
        let hub ← Contract.readSection doc types root "hub" .hub .serverReceived
        let api ← Contract.readSection doc types root "client_api" .clientApi .clientInvoked
        return hub ++ api) (b.read b.types.length) := by
    have hreceived := refines_readSection h hle (fun o h => hname o (List.mem_append_left _ h))
      (fun o h => hb.parameters o (List.mem_append_left _ h)) hhub .hub .serverReceived
    have hinvoked := refines_readSection h hle (fun o h => hname o (List.mem_append_right _ h))
      (fun o h => hb.parameters o (List.mem_append_right _ h)) hapi .clientApi .clientInvoked
    refine hreceived.bind fun os ts hts => hinvoked.bind fun os' ts' hts' => refines_pure ?_
    obtain ⟨hub, received, rfl, hreceived⟩ := hts
    obtain ⟨api, invoked, rfl, hinvoked⟩ := hts'
    exact ⟨hub, api, received, invoked, rfl, hreceived, hinvoked⟩
  obtain ⟨ts, hts, hrun⟩ := hsections _ _ _ hread
  refine ⟨⟨source, ts, t.classes⟩, ?_, rfl, hts⟩
  unfold Contract.ofDocument
  simp only [htop, ok_bind, htypes.asMapping]
  exact (congrArg (· >>= _) hrun).trans rfl

end Reading

end HubProxy.Proofs
