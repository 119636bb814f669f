import Mathlib.Logic.Relation
import HubProxy.Generation.Resolve
import HubProxy.Proofs.RegistryOperations

/-!
# Resolution as a machine with an agenda

Resolving a type is followed here as a machine that holds a registry and a list of tasks. A class
that is being expanded is one whose closing task is still on the agenda, so an invariant can speak
about unfinished work. `Effect` lists everything that a task can do when it succeeds.
-/

namespace HubProxy.Proofs

/-- The reference to a type. It does not depend on what the registry contains. -/
def reference (classes : ClassTable) : Descriptor → TypeReference
  | .array element => .arrayOf (reference classes element)
  | d => .named ((d.name? classes).getD "")

lemma reference_name {classes : ClassTable} {d : Descriptor} {name : String}
    (hd : d.name? classes = some name) : (reference classes d).name = name := by
  induction d using reference.induct generalizing name with
  | case1 element ih =>
    simp only [Descriptor.name?, Option.map_eq_some_iff] at hd
    obtain ⟨inner, hi, rfl⟩ := hd
    simp only [reference, TypeReference.arrayOf, ih hi]
  | case2 d h => simp [reference, TypeReference.named, hd]

def memberDeclaration (classes : ClassTable) (visibility : String) (p : String × Descriptor) :
    PropertyDeclaration :=
  let type := reference classes p.2
  { name := Text.firstUpper p.1
    type
    visibility
    field := ⟨"_" ++ Text.firstLower p.1, type, "private"⟩
    hasGet := true
    hasSet := true }

def classDeclaration (classes : ClassTable) (visibility : String) (c : ClassDef) :
    ClassDeclaration :=
  ⟨c.name, c.properties.map (memberDeclaration classes visibility), [], false, c.isInterface,
    "public"⟩

/-- The declaration of a type, if it is a class or an enumeration. -/
def declarationOf? (classes : ClassTable) (visibility : String) : Descriptor → Option TypeDeclaration
  | .enum name members => some (.enum ⟨name, members, "public"⟩)
  | .cls id => classes[id]?.map fun c => .cls (classDeclaration classes visibility c)
  | _ => none

/-- A piece of work that is still to be done. -/
inductive Task where
  | visit (d : Descriptor)
  /-- The array of an element, which has been resolved, is to be declared. -/
  | wrap (element : Descriptor)
  /-- A class whose properties have been resolved is to be declared. -/
  | close (id : ClassId)
  | demand (holds : Bool) (cause : BuildError)
  | require (ns : String)
  deriving DecidableEq

def memberTasks (p : String × Descriptor) : List Task :=
  [.visit p.2, .demand (p.1 ≠ "") .emptyPropertyName]

def classTasks (id : ClassId) (c : ClassDef) : List Task :=
  c.properties.flatMap memberTasks ++ [.close id]

variable (classes : ClassTable) (visibility : String)

/-- Visits a named type: a known one is checked, for another one `fresh` gives further tasks. -/
def visitNamed (d : Descriptor) (name : String) (fresh : RegistryM (List Task)) :
    RegistryM (List Task) := do
  if (← get).contains name then
    checkConsistent classes d
    return []
  else fresh

/-- Carries out a task. What it leads to is to be done before the rest of the agenda. -/
def perform : Task → RegistryM (List Task)
  | .visit (.primitive _ ns) => do
    requireImport ns
    return []
  | .visit (.array element) => return [.visit element, .wrap element]
  | .visit (.enum name members) =>
    visitNamed classes (.enum name members) name do
      declare classes (.enum name members) (declarationOf? classes visibility (.enum name members))
      return []
  | .visit (.generic name arguments) =>
    throw (.genericType ((Descriptor.generic name arguments).display classes))
  | .visit (.cls id) =>
    match classes[id]? with
    | some c =>
      visitNamed classes (.cls id) c.name do
        reserve classes (.cls id)
        return classTasks id c
    | none => throw (.unknownKind ((Descriptor.cls id).display classes))
  | .visit (.unknown id) => throw (.unknownKind ((Descriptor.unknown id).display classes))
  | .wrap element => do
    unless element.isBuiltin || (← get).contains (reference classes (.array element)).name do
      declare classes (.array element) none
    return []
  | .close id => do
    declare classes (.cls id) (declarationOf? classes visibility (.cls id))
    return []
  | .demand holds cause => do
    unless holds do throw cause
    return []
  | .require ns => do
    requireImport (some ns)
    return []

structure Configuration where
  agenda : List Task
  registry : Registry

/-- The first task of the agenda is carried out with success. -/
inductive Step : Configuration → Configuration → Prop
  | intro {t : Task} {rest more : List Task} {r r' : Registry}
      (h : runOn r (perform classes visibility t) = (.ok more, r')) :
      Step ⟨t :: rest, r⟩ ⟨more ++ rest, r'⟩

/-- Finitely many tasks are carried out. -/
abbrev Steps : Configuration → Configuration → Prop :=
  Relation.ReflTransGen (Step classes visibility)

/-- Work from a configuration comes to a task that fails and leaves a registry. -/
def Fails (c : Configuration) (cause : BuildError) (r' : Registry) : Prop :=
  ∃ t rest r, Steps classes visibility c ⟨t :: rest, r⟩ ∧
    runOn r (perform classes visibility t) = (.error cause, r')

/-- A type may be mentioned under a name: whatever has the name has the type's shape. -/
def Consistent (r : Registry) (name : String) (d : Descriptor) : Prop :=
  ∀ known, known? r name = some known → known = d ∨ agree classes known d = .ok true

/-- Everything that a task can do when it succeeds. -/
inductive Effect : Task → Registry → List Task → Registry → Prop
  | primitive (name : String) (ns : Option String) (r : Registry) :
      Effect (.visit (.primitive name ns)) r [] (importing r ns)
  | array (element : Descriptor) (r : Registry) :
      Effect (.visit (.array element)) r [.visit element, .wrap element] r
  | knownEnum {name : String} {members : List String} {r : Registry} (hr : r.contains name = true)
      (hk : Consistent classes r name (.enum name members)) :
      Effect (.visit (.enum name members)) r [] r
  | newEnum {name : String} {members : List String} {r : Registry} (hr : r.contains name = false) :
      Effect (.visit (.enum name members)) r []
        (entering r name (.enum name members)
          (declarationOf? classes visibility (.enum name members)))
  | knownClass {id : ClassId} {c : ClassDef} {r : Registry} (hc : classes[id]? = some c)
      (hr : r.contains c.name = true) (hk : Consistent classes r c.name (.cls id)) :
      Effect (.visit (.cls id)) r [] r
  | newClass {id : ClassId} {c : ClassDef} {r : Registry} (hc : classes[id]? = some c)
      (hr : r.contains c.name = false) :
      Effect (.visit (.cls id)) r (classTasks id c) (reserving r c.name (.cls id))
  | knownArray {element : Descriptor} {r : Registry}
      (hr : element.isBuiltin = true ∨
        r.contains (reference classes (.array element)).name = true) :
      Effect (.wrap element) r [] r
  | newArray {element : Descriptor} {name : String} {r : Registry}
      (hb : element.isBuiltin = false)
      (hn : (Descriptor.array element).name? classes = some name) (hr : r.contains name = false) :
      Effect (.wrap element) r [] (entering r name (.array element) none)
  | close {id : ClassId} {c : ClassDef} {r : Registry} (hc : classes[id]? = some c)
      (he : r.existing.contains c.name = false) (hd : r.isDeclared c.name = false)
      (hk : ∀ known, r.reserved.lookup c.name = some known →
        agree classes known (.cls id) = .ok true) :
      Effect (.close id) r []
        (entering r c.name (.cls id) (declarationOf? classes visibility (.cls id)))
  | demand (cause : BuildError) (r : Registry) : Effect (.demand true cause) r [] r
  | require (ns : String) (r : Registry) : Effect (.require ns) r [] (importing r (some ns))

variable {classes visibility}

lemma visitNamed_effect {d : Descriptor} {name : String} {fresh : RegistryM (List Task)}
    {r r' : Registry} {more : List Task} (hd : d.name? classes = some name)
    (h : runOn r (visitNamed classes d name fresh) = (.ok more, r')) :
    (r.contains name = true ∧ Consistent classes r name d ∧ more = [] ∧ r' = r) ∨
      (r.contains name = false ∧ runOn r fresh = (.ok more, r')) := by
  cases hr : r.contains name with
  | false => simpa [visitNamed, runOn_bind, hr] using h
  | true =>
    left
    simp only [visitNamed, runOn_bind, runOn_get, hr, ite_true, runOn_checkConsistent hd] at h
    unfold Consistent
    cases hk : known? r name with
    | none => simp_all
    | some known =>
      by_cases he : known = d
      · simp_all
      · cases ha : agree classes known d with
        | error e => simp_all
        | ok same => cases same <;> simp_all

/-- A name that the registry does not contain is declared without fail. -/
lemma runOn_declare_fresh {d : Descriptor} {name : String} (hd : d.name? classes = some name)
    (declaration : Option TypeDeclaration) {r : Registry} (hr : r.contains name = false) :
    runOn r (declare classes d declaration) = (.ok ⟨⟩, entering r name d declaration) := by
  simp only [Registry.contains, Bool.or_eq_false_iff] at hr
  have hl : r.reserved.lookup name = none := by simpa [Registry.isReserved] using hr.1.2
  rw [runOn_declare hd declaration r hr.1.1 hr.2, hl]

lemma wrap_effect {element : Descriptor} {r r' : Registry} {more : List Task}
    (h : runOn r (perform classes visibility (.wrap element)) = (.ok more, r')) :
    Effect classes visibility (.wrap element) r more r' := by
  by_cases hk : (element.isBuiltin || r.contains (reference classes (.array element)).name) = true
  · simp only [perform, runOn_bind, runOn_get, hk, ite_true, runOn_pure, Prod.mk.injEq,
      Except.ok.injEq] at h
    obtain ⟨rfl, rfl⟩ := h
    exact .knownArray (by simpa using hk)
  · simp only [perform, runOn_bind, runOn_get, hk, Bool.false_eq_true, ite_false] at h
    rw [Bool.not_eq_true, Bool.or_eq_false_iff] at hk
    cases hn : (Descriptor.array element).name? classes with
    | none => simp [declare, runOn_bind, runOn_named, hn] at h
    | some name =>
      have hr : r.contains name = false := by rw [← reference_name hn]; exact hk.2
      rw [runOn_declare_fresh hn none hr] at h
      simp only [runOn_pure, Prod.mk.injEq, Except.ok.injEq] at h
      obtain ⟨rfl, rfl⟩ := h
      exact .newArray hk.1 hn hr

lemma close_effect {id : ClassId} {r r' : Registry} {more : List Task}
    (h : runOn r (perform classes visibility (.close id)) = (.ok more, r')) :
    Effect classes visibility (.close id) r more r' := by
  cases hc : classes[id]? with
  | none => simp [perform, declare, runOn_bind, runOn_named, Descriptor.name?, hc] at h
  | some c =>
    have hn : (Descriptor.cls id).name? classes = some c.name := by simp [Descriptor.name?, hc]
    by_cases hk : (r.existing.contains c.name || r.isDeclared c.name) = true
    · simp [perform, runOn_map, runOn_declare_again hn _ r hk] at h
    rw [Bool.not_eq_true, Bool.or_eq_false_iff] at hk
    simp only [perform, runOn_bind, runOn_declare hn _ r hk.1 hk.2] at h
    cases hl : r.reserved.lookup c.name with
    | none =>
      simp only [hl, runOn_pure, Prod.mk.injEq, Except.ok.injEq] at h
      obtain ⟨rfl, rfl⟩ := h
      exact .close hc hk.1 hk.2 (by simp [hl])
    | some known =>
      rw [hl] at h
      cases ha : agree classes known (.cls id) with
      | error e => simp [ha] at h
      | ok same =>
        cases same with
        | false => simp [ha] at h
        | true =>
          simp only [ha, runOn_pure, Prod.mk.injEq, Except.ok.injEq] at h
          obtain ⟨rfl, rfl⟩ := h
          exact .close hc hk.1 hk.2 (by simpa [hl] using ha)

lemma visit_effect {d : Descriptor} {r r' : Registry} {more : List Task}
    (h : runOn r (perform classes visibility (.visit d)) = (.ok more, r')) :
    Effect classes visibility (.visit d) r more r' := by
  cases d with
  | primitive name ns =>
    simp only [perform, runOn_bind, runOn_requireImport, runOn_pure, Prod.mk.injEq,
      Except.ok.injEq] at h
    obtain ⟨rfl, rfl⟩ := h
    exact .primitive name ns r
  | array element =>
    simp only [perform, runOn_pure, Prod.mk.injEq, Except.ok.injEq] at h
    obtain ⟨rfl, rfl⟩ := h
    exact .array element r
  | enum name members =>
    have hn : (Descriptor.enum name members).name? classes = some name := rfl
    rcases visitNamed_effect hn h with ⟨hr, hk, rfl, rfl⟩ | ⟨hr, hf⟩
    · exact .knownEnum hr hk
    · simp only [runOn_bind, runOn_declare_fresh hn _ hr, runOn_pure, Prod.mk.injEq,
        Except.ok.injEq] at hf
      obtain ⟨rfl, rfl⟩ := hf
      exact .newEnum hr
  | generic name arguments => simp [perform] at h
  | cls id =>
    cases hc : classes[id]? with
    | none => simp [perform, hc] at h
    | some c =>
      have hn : (Descriptor.cls id).name? classes = some c.name := by simp [Descriptor.name?, hc]
      simp only [perform, hc] at h
      rcases visitNamed_effect hn h with ⟨hr, hk, rfl, rfl⟩ | ⟨hr, hf⟩
      · exact .knownClass hc hr hk
      · simp only [runOn_bind, runOn_reserve hn r hr, runOn_pure, Prod.mk.injEq,
          Except.ok.injEq] at hf
        obtain ⟨rfl, rfl⟩ := hf
        exact .newClass hc hr
  | unknown id => simp [perform] at h

/-- Whatever succeeds is one of the effects. -/
theorem effect_of_perform {t : Task} {r r' : Registry} {more : List Task}
    (h : runOn r (perform classes visibility t) = (.ok more, r')) :
    Effect classes visibility t r more r' := by
  cases t with
  | visit d => exact visit_effect h
  | wrap element => exact wrap_effect h
  | close id => exact close_effect h
  | demand holds cause =>
    cases holds with
    | false => simp [perform] at h
    | true =>
      simp only [perform, ite_true, runOn_pure, Prod.mk.injEq, Except.ok.injEq] at h
      obtain ⟨rfl, rfl⟩ := h
      exact .demand cause r
  | require ns =>
    simp only [perform, runOn_bind, runOn_requireImport, runOn_pure, Prod.mk.injEq,
      Except.ok.injEq] at h
    obtain ⟨rfl, rfl⟩ := h
    exact .require ns r

end HubProxy.Proofs
