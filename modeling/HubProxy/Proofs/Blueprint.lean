import HubProxy.Proofs.ContractReading
import HubProxy.Text.Casing

/-!
# Contracts apart from their form

A `Blueprint` is what a contract says, apart from whether a document or a module says it: types by
their names and operations with parameters. `readNamed` reads a type in the order in which both kinds
of contracts are read: a class enters the table before its properties. A step of reading a contract
`Refines` a step of reading a blueprint if it comes to the same whenever the latter succeeds.
-/

namespace HubProxy.Proofs

open Contract (TypeTable)

/-- The types that documents and modules both have a word for. -/
inductive CommonType where
  | string | int | double | bool | decimal | object | dateTime | timeSpan | guid | context
  deriving DecidableEq, Repr

def CommonType.word : CommonType → String
  | .string => "string"
  | .int => "int"
  | .double => "double"
  | .bool => "bool"
  | .decimal => "decimal"
  | .object => "object"
  | .dateTime => "DateTime"
  | .timeSpan => "TimeSpan"
  | .guid => "Guid"
  | .context => "IClientProxy"

def CommonType.descriptor (c : CommonType) : Descriptor :=
  (primitive? c.word).getD default

lemma CommonType.primitive?_word (c : CommonType) : primitive? c.word = some c.descriptor := by
  cases c <;> rfl

/-- A type as it is used: a common one, an array, or one that the contract names. -/
inductive TypeUse where
  | common (c : CommonType)
  | array (element : TypeUse)
  | named (name : String)
  deriving DecidableEq, Repr

/-- The type that a contract gives to a name. -/
inductive TypePlan where
  | enum (members : List String)
  | record (isInterface : Bool) (properties : List (String × TypeUse))
  deriving Repr

structure OperationPlan where
  name : String
  parameters : List (String × TypeUse)
  deriving Repr

/-- A contract: its types, the operations of its hub and those of its client API. -/
structure Blueprint where
  types : List (String × TypePlan)
  received : List OperationPlan
  invoked : List OperationPlan
  deriving Repr

def Blueprint.names (b : Blueprint) : List String :=
  b.types.map (·.1)

/-- Whether a name that a type consists of is among those of a contract. -/
def TypeUse.IsIn (b : Blueprint) : TypeUse → Prop
  | .common _ => True
  | .array element => element.IsIn b
  | .named name => name ∈ b.names

/-- How many arrays a type consists of. -/
def TypeUse.rank : TypeUse → Nat
  | .array element => element.rank + 1
  | _ => 0

def TypePlan.uses : TypePlan → List (String × TypeUse)
  | .enum _ => []
  | .record _ properties => properties

def Blueprint.operations (b : Blueprint) : List OperationPlan :=
  b.received ++ b.invoked

/-- The marks of type expressions. -/
def typeMarks : List Char := ['[', ']', '?', '<', '>']

/-- A name without white space and without marks of type expressions. -/
def Unmarked (name : String) : Prop :=
  name ≠ "" ∧ ∀ c ∈ name.toList, Text.isBlank c = false ∧ c ∉ typeMarks

instance : DecidablePred Unmarked :=
  -- only the characters of the name are gone through
  fun name => @instDecidableAnd (name ≠ "") _ inferInstance (List.decidableBAll _ name.toList)

/-- Names of parameters or of properties: they are distinct and in camel case. -/
structure Labelled (uses : List (String × TypeUse)) : Prop where
  distinct : (uses.map (·.1)).Nodup
  camel : ∀ p ∈ uses, Text.camelCase p.1 = p.1

/-- What either kind of contract asks for: names are distinct, those of types are no words for
primitive types, operations are named in Pascal case and parameters and properties in camel case. -/
structure Blueprint.WellFormed (b : Blueprint) : Prop where
  names : b.names.Nodup
  unmarked : ∀ name ∈ b.names, Unmarked name
  apart : ∀ name ∈ b.names, primitive? name = none
  members : ∀ p ∈ b.types, ∀ members, p.2 = .enum members → members.Nodup
  properties : ∀ p ∈ b.types, Labelled p.2.uses
  received : (b.received.map (·.name)).Nodup
  invoked : (b.invoked.map (·.name)).Nodup
  operations : ∀ o ∈ b.operations,
    o.name ≠ "" ∧ Text.pascalCase o.name = o.name ∧ Labelled o.parameters
  closed : ∀ p ∈ b.types, ∀ u ∈ p.2.uses, u.2.IsIn b
  parameters : ∀ o ∈ b.operations, ∀ u ∈ o.parameters, u.2.IsIn b

section Reading

/-- A step of reading a blueprint, which fails where a type is missing or the bound is met. -/
abbrev PlanM := StateT TypeTable Option

/-- The type that a use stands for, `named` reading the types that the contract names. -/
def TypeUse.read (named : String → PlanM Descriptor) : TypeUse → PlanM Descriptor
  | .common c => pure c.descriptor
  | .array element => do return .array (← element.read named)
  | .named name => named name

/-- Names with the types that uses stand for. -/
def readUses (named : String → PlanM Descriptor) (uses : List (String × TypeUse)) :
    PlanM (List (String × Descriptor)) :=
  uses.mapM fun p => do return (p.1, ← p.2.read named)

/-- The type of a name that was not read before. -/
def TypePlan.read (named : String → PlanM Descriptor) (name : String) : TypePlan → PlanM Descriptor
  | .enum members => do
    modify fun t => withEnum t name members
    return .enum name members
  | .record isInterface properties => do
    let id := (← get).classes.size
    modify fun t => withClass t name isInterface
    let ps ← readUses named properties
    modify fun t => withProperties t id ps
    return .cls id

lemma TypePlan.read_record (named : String → PlanM Descriptor) (name : String) (isInterface : Bool)
    (properties : List (String × TypeUse)) (t : TypeTable) :
    ((TypePlan.record isInterface properties).read named name).run t =
      ((readUses named properties).run (withClass t name isInterface)).bind fun r =>
        some (.cls t.classes.size, withProperties r.2 t.classes.size r.1) :=
  rfl

/-- The type of a name. The bound limits how many types are read inside each other. -/
def Blueprint.readNamed (b : Blueprint) : Nat → String → PlanM Descriptor
  | 0, name => fun t => (t.known.lookup name).map (·, t)
  | depth + 1, name => fun t =>
    match t.known.lookup name with
    | some d => some (d, t)
    | none => do (← b.types.lookup name).read (b.readNamed depth) name t

/-- An operation. Its result is left open. -/
def Blueprint.readOperation (b : Blueprint) (depth : Nat) (direction : Direction)
    (o : OperationPlan) : PlanM Operation := do
  return { name := o.name, direction, parameters := ← readUses (b.readNamed depth) o.parameters
           asyncVoid := true, returns := none }

/-- The operations of the hub and those of the client API. -/
def Blueprint.read (b : Blueprint) (depth : Nat) : PlanM (List Operation × List Operation) := do
  let received ← b.received.mapM (b.readOperation depth .serverReceived)
  let invoked ← b.invoked.mapM (b.readOperation depth .clientInvoked)
  return (received, invoked)

end Reading

section Success

variable (b : Blueprint)

/-- How many types of a contract a table does not know. -/
def Blueprint.unread (t : TypeTable) : Nat :=
  (b.types.filter fun p => (t.known.lookup p.1).isNone).length

/-- A step succeeds on every table that lacks no more types than a bound, and no table lacks more
after it. -/
def Succeeds (bound : Nat) (x : PlanM α) : Prop :=
  ∀ t, b.unread t ≤ bound → ∃ a t', x.run t = some (a, t') ∧ b.unread t' ≤ b.unread t

variable {b}

lemma succeeds_pure (bound : Nat) (a : α) : Succeeds b bound (pure a) :=
  fun t _ => ⟨a, t, rfl, Nat.le_refl _⟩

lemma Succeeds.bind {bound : Nat} {x : PlanM α} {f : α → PlanM β} (h : Succeeds b bound x)
    (hf : ∀ a, Succeeds b bound (f a)) : Succeeds b bound (x >>= f) := by
  intro t ht
  obtain ⟨a, t', hx, hle⟩ := h t ht
  obtain ⟨c, t'', hfa, hle'⟩ := hf a t' (Nat.le_trans hle ht)
  refine ⟨c, t'', ?_, Nat.le_trans hle' hle⟩
  rw [StateT.run_bind, hx]
  exact hfa

lemma succeeds_mapM {bound : Nat} {f : α → PlanM β} {l : List α}
    (h : ∀ a ∈ l, Succeeds b bound (f a)) : Succeeds b bound (l.mapM f) := by
  induction l with
  | nil => exact succeeds_pure bound []
  | cons a l ih =>
    rw [List.mapM_cons]
    have htail := ih fun c hc => h c (List.mem_cons_of_mem a hc)
    exact (h a List.mem_cons_self).bind fun c => htail.bind fun cs => succeeds_pure bound (c :: cs)

lemma TypeUse.read_succeeds {bound : Nat} {named : String → PlanM Descriptor}
    (hn : ∀ name ∈ b.names, Succeeds b bound (named name)) {u : TypeUse} (hu : u.IsIn b) :
    Succeeds b bound (u.read named) := by
  induction u with
  | common c => exact succeeds_pure bound c.descriptor
  | array element ih => exact (ih hu).bind fun d => succeeds_pure bound (Descriptor.array d)
  | named name => exact hn name hu

lemma readUses_succeeds {bound : Nat} {named : String → PlanM Descriptor}
    (hn : ∀ name ∈ b.names, Succeeds b bound (named name)) {uses : List (String × TypeUse)}
    (hu : ∀ p ∈ uses, p.2.IsIn b) : Succeeds b bound (readUses named uses) :=
  succeeds_mapM fun p hp =>
    (TypeUse.read_succeeds hn (hu p hp)).bind fun d => succeeds_pure bound (p.1, d)

lemma mem_types_of_lookup {name : String} {p : TypePlan} (h : b.types.lookup name = some p) :
    (name, p) ∈ b.types := by
  obtain ⟨before, after, heq, -⟩ := List.lookup_eq_some_iff.mp h
  rw [heq]
  simp

lemma exists_lookup {name : String} (h : name ∈ b.names) : ∃ p, b.types.lookup name = some p := by
  obtain ⟨⟨n, p⟩, hp, rfl⟩ := List.mem_map.mp h
  cases hl : b.types.lookup n with
  | some q => exact ⟨q, rfl⟩
  | none => exact absurd (List.lookup_eq_none_iff.mp hl (n, p) hp) (by simp)

/-- A table lacks less when a type that it lacked has been entered. -/
lemma unread_enter {t t' : TypeTable} {name : String} {d : Descriptor} (hname : name ∈ b.names)
    (ht : t.known.lookup name = none) (ht' : t'.known = (name, d) :: t.known) :
    b.unread t' < b.unread t := by
  have hsub : b.types.filter (fun p => (t'.known.lookup p.1).isNone) =
      (b.types.filter fun p => (t.known.lookup p.1).isNone).filter (·.1 != name) := by
    rw [List.filter_filter]
    refine List.filter_congr fun p _ => ?_
    by_cases hp : p.1 = name
    · simp [ht', hp]
    · simp [ht', hp, lookup_cons_ne hp]
  obtain ⟨p, hp, hpname⟩ := List.mem_map.mp hname
  rw [Blueprint.unread, Blueprint.unread, hsub]
  refine List.length_filter_lt_length_iff_exists.mpr ⟨p, ?_, by simp [hpname]⟩
  exact List.mem_filter.mpr ⟨hp, by simp [hpname, ht]⟩

/-- Every type that a contract names can be read within as many steps as it has types. -/
lemma readNamed_succeeds (hb : ∀ p ∈ b.types, ∀ u ∈ p.2.uses, u.2.IsIn b) (bound : Nat) :
    ∀ name ∈ b.names, Succeeds b bound (b.readNamed bound name) := by
  induction bound with
  | zero =>
    intro name hname t ht
    cases hl : t.known.lookup name with
    | some d => exact ⟨d, t, by simp [Blueprint.readNamed, hl, StateT.run], Nat.le_refl _⟩
    | none =>
      have hlt : b.unread (withEnum t name []) < b.unread t := unread_enter hname hl rfl
      omega
  | succ bound ih =>
    intro name hname t ht
    cases hl : t.known.lookup name with
    | some d => exact ⟨d, t, by simp [Blueprint.readNamed, hl, StateT.run], Nat.le_refl _⟩
    | none =>
      obtain ⟨plan, hplan⟩ := exists_lookup hname
      have hrun : (b.readNamed (bound + 1) name).run t = plan.read (b.readNamed bound) name t := by
        simp [Blueprint.readNamed, hl, hplan, StateT.run]
      rw [hrun]
      cases plan with
      | enum members =>
        have hlt : b.unread (withEnum t name members) < b.unread t := unread_enter hname hl rfl
        exact ⟨_, _, rfl, Nat.le_of_lt hlt⟩
      | record isInterface properties =>
        have hlt : b.unread (withClass t name isInterface) < b.unread t := unread_enter hname hl rfl
        have hread := readUses_succeeds ih (hb _ (mem_types_of_lookup hplan))
        obtain ⟨ps, t', hps, hle⟩ := hread (withClass t name isInterface) (by omega)
        refine ⟨.cls t.classes.size, withProperties t' t.classes.size ps, ?_,
          Nat.le_of_lt (Nat.lt_of_le_of_lt hle hlt)⟩
        exact (TypePlan.read_record _ _ _ _ t).trans (Option.bind_eq_some_iff.mpr ⟨_, hps, rfl⟩)

/-- A well-formed contract can be read. -/
lemma Blueprint.WellFormed.read_succeeds (hb : b.WellFormed) :
    ∃ received invoked t, (b.read b.types.length).run ⟨#[], []⟩ = some ((received, invoked), t) := by
  have hoperation : ∀ direction, ∀ o ∈ b.operations,
      Succeeds b b.types.length (b.readOperation b.types.length direction o) := by
    intro direction o h
    have hparameters :=
      readUses_succeeds (readNamed_succeeds hb.closed b.types.length) (hb.parameters o h)
    exact hparameters.bind fun ps => succeeds_pure _ _
  have hread : Succeeds b b.types.length (b.read b.types.length) := by
    refine (succeeds_mapM fun o h => hoperation _ o (List.mem_append_left _ h)).bind fun received => ?_
    refine (succeeds_mapM fun o h => hoperation _ o (List.mem_append_right _ h)).bind fun invoked => ?_
    exact succeeds_pure _ (received, invoked)
  obtain ⟨⟨received, invoked⟩, t, hrun, -⟩ := hread ⟨#[], []⟩ (List.length_filter_le _ _)
  exact ⟨received, invoked, t, hrun⟩

end Success

section Refinement

/-- A step of reading a contract comes to what a step of reading a blueprint comes to, if that
succeeds. `table` shows the table of the latter as the former keeps it. -/
def Refines (table : TypeTable → σ) (R : α → β → Prop) (x : StateT σ (Except ε) β) (y : PlanM α) :
    Prop :=
  ∀ t a t', y.run t = some (a, t') → ∃ c, R a c ∧ x.run (table t) = .ok (c, table t')

variable {table : TypeTable → σ} {R : α → β → Prop} {S : α' → β' → Prop}

lemma refines_pure {a : α} {c : β} (h : R a c) :
    Refines table R (pure c : StateT σ (Except ε) β) (pure a) := by
  intro t a' t' hrun
  cases hrun
  exact ⟨c, h, rfl⟩

lemma Refines.bind {x : StateT σ (Except ε) β} {y : PlanM α} {f : β → StateT σ (Except ε) β'}
    {g : α → PlanM α'} (h : Refines table R x y)
    (hf : ∀ a c, R a c → Refines table S (f c) (g a)) : Refines table S (x >>= f) (y >>= g) := by
  intro t a' t'' hrun
  rw [StateT.run_bind] at hrun
  obtain ⟨⟨a, t'⟩, hy, hg⟩ := Option.bind_eq_some_iff.mp hrun
  obtain ⟨c, hR, hx⟩ := h t a t' hy
  obtain ⟨c', hS, hfc⟩ := hf a c hR t' a' t'' hg
  refine ⟨c', hS, ?_⟩
  rw [StateT.run_bind, hx]
  exact hfc

lemma refines_modify {x : StateT σ (Except ε) PUnit} {f : TypeTable → TypeTable}
    (h : ∀ t, x.run (table t) = .ok (⟨⟩, table (f t))) :
    Refines table Eq x (modify f : PlanM PUnit) := by
  intro t a t' hrun
  cases hrun
  exact ⟨⟨⟩, rfl, h t⟩

lemma Refines.map {x : StateT σ (Except ε) β} {y : PlanM α} {f : β → γ} {S : α → γ → Prop}
    (h : Refines table R x y) (hf : ∀ a c, R a c → S a (f c)) :
    Refines table S (do return f (← x)) y := by
  intro t a t' hrun
  obtain ⟨c, hR, hx⟩ := h t a t' hrun
  refine ⟨f c, hf a c hR, ?_⟩
  rw [StateT.run_bind, hx]
  rfl

/-- What succeeds without reading a table may come first. -/
lemma Refines.after {x : Except ε γ} {c : γ} {f : γ → StateT σ (Except ε) β} {y : PlanM α}
    (hx : x = .ok c) (h : Refines table R (f c) y) : Refines table R (liftM x >>= f) y := by
  subst hx
  exact h

lemma refines_mapM {f : β → StateT σ (Except ε) β'} {g : α → PlanM α'} {l : List α} {m : List β}
    (h : List.Forall₂ (fun a c => Refines table S (f c) (g a)) l m) :
    Refines table (List.Forall₂ S) (m.mapM f) (l.mapM g) := by
  induction h with
  | nil => exact refines_pure .nil
  | cons hhead _ ih =>
    rw [List.mapM_cons, List.mapM_cons]
    refine hhead.bind fun a c hac => ih.bind fun as cs hcs => ?_
    exact refines_pure (.cons hac hcs)

/-- Lists of steps that come to the same types come to the same list. -/
lemma refines_mapM_eq {f : β → StateT σ (Except ε) γ} {g : α → PlanM γ} {l : List α} {m : List β}
    (h : List.Forall₂ (fun a c => Refines table Eq (f c) (g a)) l m) :
    Refines table Eq (m.mapM f) (l.mapM g) := by
  intro t cs t' hrun
  obtain ⟨ds, hds, hx⟩ := refines_mapM h t cs t' hrun
  rw [List.forall₂_eq_eq_eq] at hds
  exact ⟨ds, hds, hx⟩

/-- The same operation, whatever its result is said to be. -/
def SameOperation (o o' : Operation) : Prop :=
  o' = { o with returns := o'.returns }

/-- What a contract comes to: the operations of its hub and of its client API with its classes. -/
structure ComesFrom (m : Metadata) (received invoked : List Operation) (classes : ClassTable) :
    Prop where
  classes_eq : m.classes = classes
  types : ∃ hub api received' invoked', m.types =
    [⟨hub, .hub, received'⟩, ⟨api, .clientApi, invoked'⟩] ∧
    List.Forall₂ SameOperation received received' ∧ List.Forall₂ SameOperation invoked invoked'

end Refinement

end HubProxy.Proofs
