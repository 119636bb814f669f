import HubProxy.Contract.Module.Introspect
import HubProxy.Proofs.Blueprint

/-!
# Types of a blueprint as terms

A module has a choice of words for common types and arrays: a `Naming` is one that it starts with, a
`Wording` is a choice for all of them. In a scope that has redefined none of these words, the term
for a use of a type stands for the value of that use, which nothing inside it changes any further.
-/

namespace HubProxy.Proofs

open ContractModule

/-- A word for something that a module does not define: a name, or a name within a home. -/
inductive Naming where
  | plain (name : String)
  | within (home name : String)
  deriving DecidableEq, Repr

def Naming.term : Naming → TypeTerm
  | .plain name => .name name
  | .within home name => .member (.name home) name

/-- The name that is looked up for the word. -/
def Naming.root : Naming → String
  | .plain name => name
  | .within home _ => home

/-- What the word stands for where its root is not redefined. -/
def Naming.value? : Naming → Option TypeValue
  | .plain name => (startNames.lookup name).or (coreName? name)
  | .within home name =>
    match startNames.lookup home with
    | some (.module m) => homeName? m name
    | _ => none

/-- What makes a type an array of another one. -/
inductive IsArrayHead : TypeValue → Head → Prop
  | cls {c : ClassRef} (hc : c ∈ [coreClass "list", abstractClass "Sequence",
      abstractClass "MutableSequence"]) : IsArrayHead (.cls c) (.plain c)
  | generic {a : Alias} (ha : a ∈ [⟨"List", coreClass "list", some 1⟩,
      ⟨"Sequence", abstractClass "Sequence", some 1⟩,
      ⟨"MutableSequence", abstractClass "MutableSequence", some 1⟩]) :
      IsArrayHead (.alias a) (.alias a)

/-- How a module words a contract: its words for common types, for arrays and for the classes that
its own ones descend from, and the names of its hub and its client API. -/
structure Wording where
  common : CommonType → Naming
  array : Naming
  hub : Naming
  interface : Naming
  enumeration : Naming
  hubName : String
  apiName : String

/-- The names that a wording relies on. -/
def Wording.roots (w : Wording) : List String :=
  w.array.root :: w.hub.root :: w.interface.root :: w.enumeration.root ::
    [.string, .int, .double, .bool, .decimal, .object, .dateTime, .timeSpan, .guid, .context].map
      fun c => (w.common c).root

lemma Wording.root_mem (w : Wording) (c : CommonType) : (w.common c).root ∈ w.roots := by
  cases c <;> simp [roots]

/-- The class that a word stands for. -/
def Naming.cls (n : Naming) : ClassRef :=
  match n.value? with
  | some (.cls c) => c
  | _ => default

/-- What a word makes of another type if it is one for arrays. -/
def Naming.head (n : Naming) : Head :=
  match n.value? with
  | some (.cls c) => .plain c
  | some (.alias a) => .alias a
  | _ => default

/-- The words mean what they are used for. -/
structure Wording.Apt (w : Wording) : Prop where
  common : ∀ c, (w.common c).value? = some (.cls (w.common c).cls) ∧
    primitiveOf? (w.common c).cls = some c.descriptor
  array : ∃ v, w.array.value? = some v ∧ IsArrayHead v w.array.head
  hub : w.hub.value? = some (.cls hubClass)
  interface : w.interface.value? = some (.cls (formClass "Protocol"))
  enumeration : w.enumeration.value? = some (.cls (enumClass "Enum"))

section Writing

variable (w : Wording)

def TypeUse.term : TypeUse → TypeTerm
  | .common c => (w.common c).term
  | .array element => .apply w.array.term [element.term]
  | .named name => .name name

/-- The kind of the class that a module defines for a type. -/
def TypePlan.kind : TypePlan → ClassKind
  | .enum _ => .enumeration
  | .record isInterface _ => if isInterface then .protocol else .plain

/-- The class that a module defines for a type at a place. -/
def classAt (home : String) (place : Nat) (p : String × TypePlan) : ClassRef :=
  ⟨home, p.1, some place, p.2.kind⟩

/-- The class that a module defines for the type of a name. -/
def Blueprint.classOf (b : Blueprint) (home name : String) : ClassRef :=
  ⟨home, name, some (b.names.idxOf name), ((b.types.lookup name).map TypePlan.kind).getD .plain⟩

/-- The value that the term for a use of a type stands for. -/
def TypeUse.value (classOf : String → ClassRef) : TypeUse → TypeValue
  | .common c => .cls (w.common c).cls
  | .array element => .apply w.array.head [element.value classOf]
  | .named name => .cls (classOf name)

end Writing

section Evaluation

variable {s : Scope}

/-- A scope in which a module looks up types: the names of the module apart from its own ones are
those that it starts with. -/
structure Uncovered (own : List String) (s : Scope) : Prop where
  names : ∀ name, name ∉ own → s.names.lookup name = startNames.lookup name
  attributes : s.attributes = []

lemma Uncovered.evaluate {own : List String} (h : Uncovered own s) {n : Naming} (hn : n.root ∉ own)
    {v : TypeValue} (hv : n.value? = some v) : s.evaluate n.term = .ok v := by
  have hroot := h.names n.root hn
  cases n with
  | plain name =>
    simp only [Naming.value?, Naming.root] at hv hroot
    simp [Naming.term, Scope.evaluate, Scope.lookup, hroot, h.attributes, hv]
  | within home name =>
    simp only [Naming.value?, Naming.root] at hv hroot
    split at hv
    · next m hm =>
      simp [Naming.term, Scope.evaluate, Scope.lookup, hroot, h.attributes, hm, ok_bind,
        Scope.memberOf, hv]
    · cases hv

lemma evaluate_own {name : String} {v : TypeValue} (h : s.names.lookup name = some v) :
    s.evaluate (.name name) = .ok v := by
  simp [Scope.evaluate, Scope.lookup, h]

/-- A value that is a type as it stands: looking up what is inside it changes nothing. -/
structure SettledValue (v : TypeValue) : Prop where
  checkedFor : ∀ reason atField, v.checkedFor reason atField = .ok v
  settle : ∀ (s : Scope) atField depth around, s.settle atField depth around v = .ok v
  withoutRemarks : v.withoutRemarks = .ok v
  noText : ∀ text, v ≠ .literal (.text text)

lemma settled_cls {c : ClassRef} (hc : isGenericMaker c = false) : SettledValue (.cls c) where
  checkedFor reason atField := by
    simp only [TypeValue.checkedFor, TypeValue.asType, ok_bind, hc]
    rfl
  settle s atField depth around := by cases depth <;> rfl
  withoutRemarks := rfl
  noText text := nofun

lemma IsArrayHead.applied {v : TypeValue} {h : Head} (hv : IsArrayHead v h)
    (viewOf : Nat → Option ClassView) {x : TypeValue} (hx : SettledValue x) :
    v.applied viewOf [x] = .ok (.apply h [x]) := by
  cases hv with
  | cls hc =>
    simp only [List.mem_cons, List.not_mem_nil, or_false] at hc
    rcases hc with rfl | rfl | rfl <;> rfl
  | generic ha =>
    simp only [List.mem_cons, List.not_mem_nil, or_false] at ha
    have hchecked : [x].mapM TypeValue.checked = .ok [x] := by
      rw [List.mapM_cons, TypeValue.checked, hx.checkedFor]
      rfl
    rcases ha with rfl | rfl | rfl <;>
      simp [TypeValue.applied, applyAlias, functionClass, coreClass, abstractClass, hchecked,
        pure, Except.pure, bind, Except.bind]

lemma IsArrayHead.settled {v : TypeValue} {h : Head} (hv : IsArrayHead v h) {x : TypeValue}
    (hx : SettledValue x) : SettledValue (.apply h [x]) := by
  have hremarks : TypeValue.allWithoutRemarks [x] = .ok [x] := by
    rw [TypeValue.allWithoutRemarks, hx.withoutRemarks]
    rfl
  have hbare : (TypeValue.apply h [x]).withoutRemarks = .ok (.apply h [x]) := by
    rw [TypeValue.withoutRemarks, hremarks]
    rfl
  have hsettle : ∀ (s : Scope) atField depth around,
      s.settle atField depth around (.apply h [x]) = .ok (.apply h [x]) := by
    intro s atField depth around
    cases depth with
    | zero => rfl
    | succ depth =>
      rw [Scope.settle, List.mapM_cons]
      split
      · next _ text => exact absurd rfl (hx.noText text)
      · rw [hx.settle]
        rfl
  cases hv with
  | cls hc => exact ⟨fun _ _ => rfl, hsettle, hbare, fun _ => nofun⟩
  | generic ha => exact ⟨fun _ _ => rfl, hsettle, hbare, fun _ => nofun⟩

lemma IsArrayHead.parts? {v : TypeValue} {h : Head} (hv : IsArrayHead v h) (x : TypeValue) :
    (TypeValue.apply h [x]).parts? = some (h.origin, [x]) ∧ isSequence h.origin = true := by
  cases hv with
  | cls hc =>
    simp only [List.mem_cons, List.not_mem_nil, or_false] at hc
    rcases hc with rfl | rfl | rfl <;> exact ⟨rfl, rfl⟩
  | generic ha =>
    simp only [List.mem_cons, List.not_mem_nil, or_false] at ha
    rcases ha with rfl | rfl | rfl <;> exact ⟨rfl, rfl⟩

lemma isGenericMaker_of_primitiveOf? {c : ClassRef} {d : Descriptor} (h : primitiveOf? c = some d) :
    isGenericMaker c = false := by
  have hgeneric : primitiveOf? (formClass "Generic") = none := rfl
  have hprotocol : primitiveOf? (formClass "Protocol") = none := rfl
  rw [isGenericMaker, Bool.or_eq_false_iff, beq_eq_false_iff_ne, beq_eq_false_iff_ne]
  constructor
  · rintro rfl
    rw [hgeneric] at h
    cases h
  · rintro rfl
    rw [hprotocol] at h
    cases h

lemma isGenericMaker_own {c : ClassRef} {place : Nat} (h : c.own = some place) :
    isGenericMaker c = false := by
  have hne : ∀ name, (c == formClass name) = false := by
    rintro name
    rw [beq_eq_false_iff_ne]
    rintro rfl
    cases h
  simp [isGenericMaker, hne]

variable {w : Wording} {b : Blueprint} {classOf : String → ClassRef}

lemma TypeUse.settled_value (hw : w.Apt) (hown : ∀ name, ∃ place, (classOf name).own = some place)
    (u : TypeUse) : SettledValue (u.value w classOf) := by
  obtain ⟨v, -, hhead⟩ := hw.array
  induction u with
  | common c => exact settled_cls (isGenericMaker_of_primitiveOf? (hw.common c).2)
  | array element ih => exact hhead.settled ih
  | named name =>
    obtain ⟨place, hplace⟩ := hown name
    exact settled_cls (isGenericMaker_own hplace)

/-- A scope in which the names of the types of a contract stand for classes. -/
structure Resolves (w : Wording) (b : Blueprint) (classOf : String → ClassRef) (own : List String)
    (s : Scope) : Prop where
  apt : w.Apt
  uncovered : Uncovered own s
  roots : ∀ root ∈ w.roots, root ∉ own
  owned : ∀ name, ∃ place, (classOf name).own = some place
  named : ∀ name ∈ b.names, s.names.lookup name = some (.cls (classOf name))

variable {own : List String}

lemma Resolves.evaluate (h : Resolves w b classOf own s) {u : TypeUse} (hu : u.IsIn b) :
    s.evaluate (u.term w) = .ok (u.value w classOf) := by
  induction u with
  | common c => exact h.uncovered.evaluate (h.roots _ (w.root_mem c)) (h.apt.common c).1
  | array element ih =>
    obtain ⟨v, hv, hhead⟩ := h.apt.array
    have hroot : w.array.root ∉ own := h.roots _ (by simp [Wording.roots])
    rw [TypeUse.term, Scope.evaluate, h.uncovered.evaluate hroot hv, ok_bind, Scope.evaluateAll,
      ih hu]
    exact hhead.applied s.viewOf (element.settled_value h.apt h.owned)
  | named name => exact evaluate_own (h.named name hu)

/-- The term for a use of a type stands for its value, at a field and elsewhere. -/
lemma Resolves.resolve (h : Resolves w b classOf own s) {u : TypeUse} (hu : u.IsIn b) (depth : Nat)
    (atField : Bool) : s.resolve depth atField (u.term w) = .ok (u.value w classOf) := by
  have hsettled := u.settled_value h.apt h.owned
  rw [Scope.resolve, h.evaluate hu, ok_bind, hsettled.checkedFor, ok_bind, hsettled.settle, ok_bind,
    hsettled.withoutRemarks]

end Evaluation

end HubProxy.Proofs
