import HubProxy.Generation.Registry
import HubProxy.Proofs.Basic

/-!
# Effects of registry operations

Each operation of a registry is run on an arbitrary registry, and its result and the registry that
it leaves are given in closed form. Later files use these equations and do not open the operations.
-/

namespace HubProxy.Proofs

/-- What a computation does to a registry: its result and the registry that it leaves. -/
def runOn (r : Registry) (step : RegistryM α) : Except BuildError α × Registry :=
  step r

@[simp] lemma runOn_pure (r : Registry) (a : α) : runOn r (pure a) = (.ok a, r) := rfl

@[simp] lemma runOn_throw (r : Registry) (e : BuildError) :
    runOn r (throw e : RegistryM α) = (.error e, r) := rfl

lemma runOn_bind (r : Registry) (x : RegistryM α) (f : α → RegistryM β) :
    runOn r (x >>= f) = match runOn r x with
      | (.ok a, r') => runOn r' (f a)
      | (.error e, r') => (.error e, r') := by
  have hrun : runOn r (x >>= f) = match x r with
      | (result, r') => ExceptT.bindCont f result r' := rfl
  rw [hrun]
  unfold runOn
  rcases h : x r with ⟨e | a, r'⟩ <;> rfl

@[simp] lemma runOn_get (r : Registry) : runOn r get = (.ok r, r) := rfl

@[simp] lemma runOn_set (r s : Registry) : runOn r (set s) = (.ok ⟨⟩, s) := rfl

@[simp] lemma runOn_modify (r : Registry) (f : Registry → Registry) :
    runOn r (modify f) = (.ok ⟨⟩, f r) := rfl

lemma runOn_map (r : Registry) (f : α → β) (x : RegistryM α) :
    runOn r (f <$> x) = match runOn r x with
      | (.ok a, r') => (.ok (f a), r')
      | (.error e, r') => (.error e, r') := by
  rw [map_eq_pure_bind, runOn_bind]
  rfl

@[simp] lemma runOn_lift (r : Registry) (x : Except BuildError α) :
    runOn r (liftM x : RegistryM α) = (x, r) := by
  cases x <;> rfl

/-- The descriptor that a name has been declared or reserved for. -/
def known? (r : Registry) (name : String) : Option Descriptor :=
  (r.declared.lookup name).or (r.reserved.lookup name)

def reserving (r : Registry) (name : String) (d : Descriptor) : Registry :=
  { r with reserved := (name, d) :: r.reserved }

/-- The registry without any reservation of a name. -/
def releasing (r : Registry) (name : String) : Registry :=
  { r with reserved := r.reserved.filter (·.1 != name) }

/-- The registry with a type declared under a name, whose reservation ends. -/
def entering (r : Registry) (name : String) (d : Descriptor)
    (declaration : Option TypeDeclaration) : Registry :=
  { releasing r name with
    declared := r.declared ++ [(name, d)]
    declarations := r.declarations ++ declaration.toList }

def importing (r : Registry) (ns : Option String) : Registry :=
  match ns with
  | none | some "" => r
  | some ns => if r.imports.contains ns then r else { r with imports := r.imports ++ [ns] }

/-- Whether two types have one shape, unless one of them has no shape. -/
def agree (classes : ClassTable) (a b : Descriptor) : Except BuildError Bool :=
  match a.shape? classes, b.shape? classes with
  | some s, some t => .ok (s == t)
  | _, _ => .error .nameless

lemma runOn_named (r : Registry) (value : Option α) :
    runOn r (named value) = (match value with | some v => .ok v | none => .error .nameless, r) := by
  cases value <;> rfl

lemma runOn_sameShape (classes : ClassTable) (a b : Descriptor) (r : Registry) :
    runOn r (sameShape classes a b) = (agree classes a b, r) := by
  unfold sameShape agree
  cases ha : a.shape? classes <;> cases hb : b.shape? classes <;>
    simp [runOn_bind, runOn_map, runOn_named]

lemma runOn_requireImport (r : Registry) (ns : Option String) :
    runOn r (requireImport ns) = (.ok ⟨⟩, importing r ns) := by
  unfold requireImport importing
  split <;> simp

lemma runOn_reserve {classes : ClassTable} {d : Descriptor} {name : String}
    (hd : d.name? classes = some name) (r : Registry) (hr : r.contains name = false) :
    runOn r (reserve classes d) = (.ok ⟨⟩, reserving r name d) := by
  simp [reserve, runOn_bind, runOn_named, hd, hr, reserving]

/-- A type whose name is neither existing nor declared is entered, unless its name is reserved for
a type of another shape. -/
lemma runOn_declare {classes : ClassTable} {d : Descriptor} {name : String}
    (hd : d.name? classes = some name) (declaration : Option TypeDeclaration) (r : Registry)
    (he : r.existing.contains name = false) (hr : r.isDeclared name = false) :
    runOn r (declare classes d declaration) =
      match r.reserved.lookup name with
      | none => (.ok ⟨⟩, entering r name d declaration)
      | some known =>
        match agree classes known d with
        | .ok true => (.ok ⟨⟩, entering r name d declaration)
        | .ok false => (.error (.typeConflict name), releasing r name)
        | .error e => (.error e, releasing r name) := by
  simp only [declare, runOn_bind, runOn_named, hd, runOn_get, he, hr, Bool.or_self,
    Bool.false_eq_true, ite_false, runOn_set]
  cases hk : r.reserved.lookup name with
  | none => rfl
  | some known =>
    simp only [runOn_bind, runOn_sameShape]
    rcases agree classes known d with e | _ | _ <;> rfl

lemma runOn_declare_again {classes : ClassTable} {d : Descriptor} {name : String}
    (hd : d.name? classes = some name) (declaration : Option TypeDeclaration) (r : Registry)
    (hr : (r.existing.contains name || r.isDeclared name) = true) :
    runOn r (declare classes d declaration) = (.error (.duplicateDeclaration name), r) := by
  simp only [declare, runOn_bind, runOn_named, hd, runOn_get, hr, ite_true]
  rfl

/-- A check fails only against another descriptor whose shape differs or cannot be told. -/
lemma runOn_checkConsistent {classes : ClassTable} {d : Descriptor} {name : String}
    (hd : d.name? classes = some name) (r : Registry) :
    runOn r (checkConsistent classes d) =
      match known? r name with
      | none => (.ok ⟨⟩, r)
      | some known =>
        if known = d then (.ok ⟨⟩, r)
        else match agree classes known d with
          | .ok true => (.ok ⟨⟩, r)
          | .ok false => (.error (.typeConflict name), r)
          | .error e => (.error e, r) := by
  simp only [checkConsistent, runOn_bind, runOn_named, hd, runOn_get]
  have hknown : (r.declared.lookup name <|> r.reserved.lookup name) = known? r name := by
    simp [known?]
  rw [hknown]
  cases hk : known? r name with
  | none => rfl
  | some known =>
    by_cases hkd : known = d
    · simp [hkd]
    · simp only [hkd, ite_false, runOn_bind, runOn_sameShape]
      rcases agree classes known d with e | _ | _ <;> rfl

lemma contains_iff (r : Registry) (name : String) :
    r.contains name = true ↔ name ∈ r.existing ∨ (known? r name).isSome = true := by
  simp only [Registry.contains, Registry.isReserved, Registry.isDeclared, known?, Bool.or_eq_true,
    List.contains_iff_mem]
  cases r.declared.lookup name <;> cases r.reserved.lookup name <;> simp

lemma not_contains_iff (r : Registry) (name : String) :
    r.contains name = false ↔ name ∉ r.existing ∧ known? r name = none := by
  rw [← Bool.not_eq_true, contains_iff]
  simp

/-- A name that was unknown before it is reserved is known for its type alone. -/
lemma known?_reserving {r : Registry} {name : String} (hr : known? r name = none) (d : Descriptor)
    (n : String) : known? (reserving r name d) n = if n = name then some d else known? r n := by
  by_cases hn : n = name
  · subst n
    have hd : r.declared.lookup name = none := (Option.or_eq_none_iff.mp hr).1
    simp [known?, reserving, hd]
  · simp [known?, reserving, hn, lookup_cons_ne hn]

/-- A name under which a type is entered is known for this type from then on. -/
lemma known?_entering {r : Registry} {name : String} (hr : r.isDeclared name = false)
    (d : Descriptor) (declaration : Option TypeDeclaration) (n : String) :
    known? (entering r name d declaration) n = if n = name then some d else known? r n := by
  have hd : r.declared.lookup name = none := by simpa [Registry.isDeclared] using hr
  by_cases hn : n = name
  · subst n
    simp [known?, entering, hd, List.lookup_append]
  · simp [known?, entering, releasing, hn, List.lookup_append, lookup_cons_ne hn, lookup_filter_ne]

lemma importing_fields (r : Registry) (ns : Option String) :
    (importing r ns).existing = r.existing ∧ (importing r ns).reserved = r.reserved ∧
      (importing r ns).declared = r.declared ∧ (importing r ns).declarations = r.declarations := by
  unfold importing
  split
  · simp
  · simp
  · split <;> simp

@[simp] lemma known?_importing (r : Registry) (ns : Option String) (n : String) :
    known? (importing r ns) n = known? r n := by
  obtain ⟨-, hr, hd, -⟩ := importing_fields r ns
  rw [known?, known?, hr, hd]

lemma isDeclared_eq_false {r : Registry} {name : String} (hr : known? r name = none) :
    r.isDeclared name = false := by
  rw [Registry.isDeclared, (Option.or_eq_none_iff.mp hr).1]
  rfl

end HubProxy.Proofs
