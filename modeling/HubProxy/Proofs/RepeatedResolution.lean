import HubProxy.Proofs.BuildSuccess
import HubProxy.Proofs.RegistryRuns

/-!
# Resolving a type again

A resolution leaves every name alone that the registry contains when it starts, whether it succeeds
or fails (`Retains`). A type that has been resolved is therefore `AtRest` from then on: resolving it
again gives the same reference and changes nothing. After a failure it depends on whether the
registry knew the class in question: a check fails again, but a class that was to be expanded keeps
its reservation, so the next resolution takes it for a known one.
-/

namespace HubProxy.Proofs

/-- Every name of a registry stays existing, reserved or declared as it is, and nothing that was
imported is lost. -/
structure Retains (r r' : Registry) : Prop where
  existing_eq : r'.existing = r.existing
  reserved : ∀ n, r.contains n = true → r'.reserved.lookup n = r.reserved.lookup n
  declared : ∀ n, r.contains n = true → r'.declared.lookup n = r.declared.lookup n
  imports : r.imports ⊆ r'.imports

/-- A step leaves the names of every registry alone, whether it succeeds or fails. -/
def Retaining (step : RegistryM α) : Prop :=
  ∀ r, Retains r (runOn r step).2

/-- A step comes to one value if it succeeds. -/
def GivesOnly (step : RegistryM α) (value : α) : Prop :=
  ∀ r a r', runOn r step = (.ok a, r') → a = value

/-- Nothing is left to be done for a type: it is known under its name, or what it needs is there. -/
def AtRest (classes : ClassTable) (r : Registry) : Descriptor → Prop
  | .primitive _ ns => ∀ n, ns = some n → n ≠ "" → n ∈ r.imports
  | .array element => AtRest classes r element ∧
      (element.isBuiltin = true ∨ r.contains (reference classes (.array element)).name = true)
  | .generic .. | .unknown _ => False
  | d => Settled classes r d

variable {classes : ClassTable} {visibility : String} {r r' r'' : Registry} {name : String}
  {d : Descriptor}

/-! ## Names that are left alone -/

lemma Retains.refl (r : Registry) : Retains r r :=
  ⟨rfl, fun _ _ => rfl, fun _ _ => rfl, List.Subset.refl _⟩

lemma Retains.contains (h : Retains r r') {n : String} (hn : r.contains n = true) :
    r'.contains n = true := by
  rw [Registry.contains, Registry.isReserved, Registry.isDeclared, h.existing_eq, h.reserved n hn,
    h.declared n hn]
  exact hn

lemma Retains.known?_eq (h : Retains r r') {n : String} (hn : r.contains n = true) :
    known? r' n = known? r n := by
  rw [known?, known?, h.declared n hn, h.reserved n hn]

lemma Retains.trans (h : Retains r r') (h' : Retains r' r'') : Retains r r'' where
  existing_eq := h'.existing_eq.trans h.existing_eq
  reserved n hn := (h'.reserved n (h.contains hn)).trans (h.reserved n hn)
  declared n hn := (h'.declared n (h.contains hn)).trans (h.declared n hn)
  imports := List.Subset.trans h.imports h'.imports

lemma Retains.importing (h : Retains r r') (ns : Option String) : Retains r (importing r' ns) := by
  obtain ⟨hex, hres, hdecl, -⟩ := importing_fields r' ns
  have hchange : Change #[] r' (HubProxy.Proofs.importing r' ns) := .require ns r'
  refine ⟨hex.trans h.existing_eq, fun n hn => ?_, fun n hn => ?_, fun n hn => ?_⟩
  · rw [hres, h.reserved n hn]
  · rw [hdecl, h.declared n hn]
  · exact hchange.grows.imports.subset (h.imports hn)

/-- What becomes of a name that was unknown at first does not count. -/
lemma Retains.of_ne (h : Retains r r') (hname : r.contains name = false)
    (hex : r''.existing = r'.existing) (himports : r''.imports = r'.imports)
    (hother : ∀ n, n ≠ name → r''.reserved.lookup n = r'.reserved.lookup n ∧
      r''.declared.lookup n = r'.declared.lookup n) : Retains r r'' := by
  have hne : ∀ n, r.contains n = true → n ≠ name := by
    rintro n hn rfl
    cases hn.symm.trans hname
  refine ⟨hex.trans h.existing_eq, fun n hn => ?_, fun n hn => ?_, himports ▸ h.imports⟩
  · rw [(hother n (hne n hn)).1, h.reserved n hn]
  · rw [(hother n (hne n hn)).2, h.declared n hn]

lemma Retains.reserving (h : Retains r r') (hname : r.contains name = false) (d : Descriptor) :
    Retains r (reserving r' name d) :=
  h.of_ne hname rfl rfl fun _ hn => ⟨lookup_cons_ne hn _ _, rfl⟩

lemma Retains.releasing (h : Retains r r') (hname : r.contains name = false) :
    Retains r (releasing r' name) :=
  h.of_ne hname rfl rfl fun n hn => ⟨by simp [HubProxy.Proofs.releasing, lookup_filter_ne, hn], rfl⟩

lemma Retains.entering (h : Retains r r') (hname : r.contains name = false) (d : Descriptor)
    (declaration : Option TypeDeclaration) : Retains r (entering r' name d declaration) := by
  refine (h.releasing hname).of_ne hname rfl rfl fun n hn => ⟨rfl, ?_⟩
  simp [HubProxy.Proofs.entering, HubProxy.Proofs.releasing, List.lookup_append,
    lookup_cons_ne hn]

/-- A type whose name was unknown at first may be declared. -/
lemma Retains.declare (h : Retains r r') (hd : d.name? classes = some name)
    (hname : r.contains name = false) (declaration : Option TypeDeclaration) :
    Retains r (runOn r' (declare classes d declaration)).2 := by
  by_cases hr : (r'.existing.contains name || r'.isDeclared name) = true
  · rw [runOn_declare_again hd declaration r' hr]
    exact h
  rw [Bool.not_eq_true, Bool.or_eq_false_iff] at hr
  rw [runOn_declare hd declaration r' hr.1 hr.2]
  split
  · exact h.entering hname d declaration
  · split
    · exact h.entering hname d declaration
    · exact h.releasing hname
    · exact h.releasing hname

/-- A name that has been reserved and left alone since is held for its type. -/
lemma Retains.held (h : Retains (HubProxy.Proofs.reserving r name d) r')
    (hname : r.contains name = false) : r'.existing.contains name = false ∧
      r'.isDeclared name = false ∧ r'.reserved.lookup name = some d := by
  obtain ⟨hex, hknown⟩ := (not_contains_iff r name).mp hname
  have hnow : (HubProxy.Proofs.reserving r name d).contains name = true := by
    simp [contains_iff, known?_reserving hknown]
  have hdecl : r.declared.lookup name = none := (Option.or_eq_none_iff.mp hknown).1
  refine ⟨?_, ?_, ?_⟩
  · rw [h.existing_eq]
    simpa [HubProxy.Proofs.reserving] using hex
  · rw [Registry.isDeclared, h.declared name hnow]
    simp [HubProxy.Proofs.reserving, hdecl]
  · rw [h.reserved name hnow]
    simp [HubProxy.Proofs.reserving]

/-! ## Resolution leaves names alone -/

lemma ok_of_runOn_bind {x : RegistryM α} {f : α → RegistryM β} {b : β}
    (h : runOn r (x >>= f) = (.ok b, r')) :
    ∃ a mid, runOn r x = (.ok a, mid) ∧ runOn mid (f a) = (.ok b, r') := by
  rw [runOn_bind] at h
  rcases hrun : runOn r x with ⟨cause | a, mid⟩
  · rw [hrun] at h
    cases h
  · rw [hrun] at h
    exact ⟨a, mid, rfl, h⟩

lemma exists_runOn_of_mapM {f : β → RegistryM α} {l : List β} {as : List α}
    (h : runOn r (l.mapM f) = (.ok as, r')) :
    ∀ x ∈ l, ∃ before a after, runOn before (f x) = (.ok a, after) := by
  induction l generalizing r r' as with
  | nil => exact fun x hx => absurd hx List.not_mem_nil
  | cons y l ih =>
    rw [List.mapM_cons] at h
    obtain ⟨a, mid, hfirst, hrest⟩ := ok_of_runOn_bind h
    obtain ⟨as', mid', hlater, -⟩ := ok_of_runOn_bind hrest
    exact List.forall_mem_cons.mpr ⟨⟨r, a, mid, hfirst⟩, ih hlater⟩

/-- A class whose name is known is checked, whatever the bound. -/
lemma runOn_expandClass_known {depth : Nat} {id : ClassId} {c : ClassDef}
    (hname : r.contains c.name = true) :
    runOn r (expandClass classes visibility depth id c) =
      runOn r (do checkConsistent classes (.cls id); return .named c.name) := by
  cases depth <;> rw [expandClass, runOn_bind, runOn_get] <;> simp only [hname, ite_true]

lemma retaining_pure (a : α) : Retaining (pure a : RegistryM α) := fun r => .refl r

lemma retaining_throw (cause : BuildError) : Retaining (throw cause : RegistryM α) :=
  fun r => .refl r

lemma retaining_lift (x : Except BuildError α) : Retaining (liftM x : RegistryM α) := fun r => by
  rw [runOn_lift]
  exact .refl r

lemma retaining_bind {x : RegistryM α} {f : α → RegistryM β} (hx : Retaining x)
    (hf : ∀ a, Retaining (f a)) : Retaining (x >>= f) := by
  intro r
  have hfirst := hx r
  rw [runOn_bind]
  rcases hrun : runOn r x with ⟨cause | a, r'⟩
  · rw [hrun] at hfirst
    exact hfirst
  · rw [hrun] at hfirst
    exact hfirst.trans (hf a r')

/-- The later step need leave names alone only for the value that the earlier one comes to. -/
lemma retaining_bind_value {x : RegistryM α} {f : α → RegistryM β} {value : α} (hx : Retaining x)
    (hvalue : GivesOnly x value) (hf : Retaining (f value)) : Retaining (x >>= f) := by
  intro r
  have hfirst := hx r
  rw [runOn_bind]
  rcases hrun : runOn r x with ⟨cause | a, r'⟩
  · rw [hrun] at hfirst
    exact hfirst
  · rw [hrun] at hfirst
    obtain rfl := hvalue r a r' hrun
    exact hfirst.trans (hf r')

lemma retaining_ask {f : Registry → RegistryM α} (hf : ∀ r, Retains r (runOn r (f r)).2) :
    Retaining (get >>= f) := by
  intro r
  rw [runOn_bind]
  exact hf r

lemma retaining_mapM {f : β → RegistryM α} (l : List β) (h : ∀ x ∈ l, Retaining (f x)) :
    Retaining (l.mapM f) := by
  induction l with
  | nil => exact retaining_pure []
  | cons x l ih =>
    rw [List.mapM_cons]
    refine retaining_bind (h x (by simp)) fun a => ?_
    exact retaining_bind (ih fun y hy => h y (by simp [hy])) fun _ => retaining_pure _

lemma retaining_requireImport (ns : Option String) : Retaining (requireImport ns) := fun r => by
  rw [runOn_requireImport]
  exact (Retains.refl r).importing ns

lemma runOn_checkConsistent_snd (classes : ClassTable) (d : Descriptor) (r : Registry) :
    (runOn r (checkConsistent classes d)).2 = r := by
  cases hd : d.name? classes with
  | none => rw [checkConsistent, runOn_bind, runOn_named, hd]
  | some name =>
    rw [runOn_checkConsistent hd]
    split
    · rfl
    · split
      · rfl
      · split <;> rfl

lemma retaining_checkConsistent (d : Descriptor) : Retaining (checkConsistent classes d) :=
  fun r => by
    rw [runOn_checkConsistent_snd]
    exact .refl r

lemma givesOnly_pure (a : α) : GivesOnly (pure a : RegistryM α) a := by
  rintro r b r' h
  exact (Except.ok.inj (Prod.mk.inj h).1).symm

lemma givesOnly_throw (cause : BuildError) (value : α) :
    GivesOnly (throw cause : RegistryM α) value := by
  rintro r a r' h
  cases h

lemma givesOnly_bind {x : RegistryM α} {f : α → RegistryM β} {value : β}
    (hf : ∀ a, GivesOnly (f a) value) : GivesOnly (x >>= f) value := by
  intro r b r' h
  obtain ⟨a, mid, -, hrest⟩ := ok_of_runOn_bind h
  exact hf a mid b r' hrest

lemma givesOnly_bind_value {x : RegistryM α} {f : α → RegistryM β} {v : α} {value : β}
    (hx : GivesOnly x v) (hf : GivesOnly (f v) value) : GivesOnly (x >>= f) value := by
  intro r b r' h
  obtain ⟨a, mid, hfirst, hrest⟩ := ok_of_runOn_bind h
  obtain rfl := hx r a mid hfirst
  exact hf mid b r' hrest

lemma givesOnly_expandClass (depth : Nat) (id : ClassId) (c : ClassDef) :
    GivesOnly (expandClass classes visibility depth id c) (.named c.name) := by
  cases depth with
  | zero =>
    refine givesOnly_bind fun r => ?_
    split
    · exact givesOnly_bind fun _ => givesOnly_pure _
    · exact givesOnly_throw _ _
  | succ depth =>
    refine givesOnly_bind fun r => ?_
    split
    · exact givesOnly_bind fun _ => givesOnly_pure _
    · exact givesOnly_bind fun _ => givesOnly_bind fun _ => givesOnly_bind fun _ => givesOnly_pure _

variable {expand : ClassId → ClassDef → RegistryM TypeReference}

lemma givesOnly_resolveWith (hexpand : ∀ id c, GivesOnly (expand id c) (.named c.name))
    (d : Descriptor) : GivesOnly (resolveWith classes expand d) (reference classes d) := by
  induction d using reference.induct with
  | case1 element ih =>
    rw [resolveWith]
    refine givesOnly_bind_value ih (givesOnly_bind fun r => ?_)
    split
    · exact givesOnly_pure _
    · exact givesOnly_bind fun _ => givesOnly_pure _
  | case2 d hleaf =>
    cases d with
    | primitive name ns => exact givesOnly_bind fun _ => givesOnly_pure _
    | array element => exact absurd rfl (hleaf element)
    | enum name members =>
      rw [resolveWith]
      refine givesOnly_bind fun r => ?_
      split
      · exact givesOnly_bind fun _ => givesOnly_pure _
      · exact givesOnly_bind fun _ => givesOnly_pure _
    | generic name arguments => exact givesOnly_throw _ _
    | cls id =>
      rw [resolveWith]
      cases hc : classes[id]? with
      | none => exact givesOnly_throw _ _
      | some c => simpa [reference, Descriptor.name?, hc] using hexpand id c
    | unknown id => exact givesOnly_throw _ _

lemma retaining_resolveWith (hyields : ∀ id c, GivesOnly (expand id c) (.named c.name))
    (hexpand : ∀ id c, classes[id]? = some c → Retaining (expand id c)) (d : Descriptor) :
    Retaining (resolveWith classes expand d) := by
  induction d using reference.induct with
  | case1 element ih =>
    rw [resolveWith]
    -- the name that is looked up is that of the array, since the element comes to its reference
    refine retaining_bind_value ih (givesOnly_resolveWith hyields element)
      (retaining_ask fun r => ?_)
    split
    · exact .refl r
    · next hnew =>
      rw [runOn_bind]
      cases hn : (Descriptor.array element).name? classes with
      | none =>
        rw [declare, runOn_bind, runOn_named, hn]
        exact .refl r
      | some name =>
        rw [Bool.not_eq_true, Bool.or_eq_false_iff] at hnew
        have hname : r.contains name = false := reference_name hn ▸ hnew.2
        rw [runOn_declare_fresh hn none hname]
        exact (Retains.refl r).entering hname _ _
  | case2 d hleaf =>
    cases d with
    | primitive name ns =>
      exact retaining_bind (retaining_requireImport ns) fun _ => retaining_pure _
    | array element => exact absurd rfl (hleaf element)
    | enum name members =>
      rw [resolveWith]
      refine retaining_ask fun r => ?_
      split
      · exact retaining_bind (retaining_checkConsistent _) (fun _ => retaining_pure _) r
      · next hnew =>
        have hname : r.contains name = false := by simpa using hnew
        rw [runOn_bind, runOn_declare_fresh rfl _ hname]
        exact (Retains.refl r).entering hname _ _
    | generic name arguments => exact retaining_throw _
    | cls id =>
      rw [resolveWith]
      split
      · next c hc => exact hexpand id c hc
      · exact retaining_throw _
    | unknown id => exact retaining_throw _

/-! ## Classes -/

/-- A type that is resolved has a name and shows it. -/
lemma label?_of_resolveWith {t : TypeReference}
    (h : runOn r (resolveWith classes expand d) = (.ok t, r')) :
    ∃ name, d.name? classes = some name ∧ d.label? classes = some name := by
  induction d using reference.induct generalizing r t r' with
  | case1 element ih =>
    rw [resolveWith] at h
    obtain ⟨inner, mid, helement, -⟩ := ok_of_runOn_bind h
    obtain ⟨name, hn, -⟩ := ih helement
    have harray : (Descriptor.array element).name? classes = some (name ++ "[]") := by
      simp [Descriptor.name?, hn]
    exact ⟨_, harray, by rw [Descriptor.label?, harray]⟩
  | case2 d hleaf =>
    cases d with
    | primitive name ns => exact ⟨name, rfl, rfl⟩
    | array element => exact absurd rfl (hleaf element)
    | enum name members => exact ⟨name, rfl, rfl⟩
    | generic name arguments => cases h
    | cls id =>
      rw [resolveWith] at h
      cases hc : classes[id]? with
      | none =>
        rw [hc] at h
        cases h
      | some c => exact ⟨c.name, by simp [Descriptor.name?, hc], by simp [Descriptor.label?, hc]⟩
    | unknown id => cases h

/-- The properties of a class with their types resolved, as an expansion has it. -/
def resolveMembers (classes : ClassTable) (visibility : String) (depth : Nat) (c : ClassDef) :
    RegistryM (List PropertyDeclaration) :=
  c.properties.mapM fun (name, d) => do
    let type ← resolveWith classes (expandClass classes visibility depth) d
    (buildProperty name type visibility : Except BuildError PropertyDeclaration)

lemma agree_self_of_resolveMembers {depth : Nat} {id : ClassId} {c : ClassDef}
    {properties : List PropertyDeclaration} (hc : classes[id]? = some c)
    (h : runOn r (resolveMembers classes visibility depth c) = (.ok properties, r')) :
    agree classes (.cls id) (.cls id) = .ok true := by
  obtain ⟨shape, hshape⟩ := exists_shape_cls hc fun p hp => by
    obtain ⟨before, declared, after, hmember⟩ := exists_runOn_of_mapM h p hp
    obtain ⟨type, mid, hresolved, -⟩ := ok_of_runOn_bind hmember
    obtain ⟨name, -, hlabel⟩ := label?_of_resolveWith hresolved
    exact ⟨name, hlabel⟩
  simp [agree, hshape]

/-- A class that is expanded is reserved until its properties are resolved. Then it is declared, and
if one of them fails, it stays reserved. -/
lemma expandClass_new (visibility : String) (depth : Nat) {id : ClassId} {c : ClassDef}
    (hc : classes[id]? = some c) (hname : r.contains c.name = false)
    (hmembers : ∀ id c, classes[id]? = some c →
      Retaining (expandClass classes visibility depth id c)) :
    ∃ r₁, Retains (reserving r c.name (.cls id)) r₁ ∧
      ((∃ cause, runOn r (expandClass classes visibility (depth + 1) id c) = (.error cause, r₁)) ∨
        ∃ declaration, runOn r (expandClass classes visibility (depth + 1) id c) =
          (.ok (.named c.name), entering r₁ c.name (.cls id) declaration)) := by
  have hn : (Descriptor.cls id).name? classes = some c.name := by simp [Descriptor.name?, hc]
  have hretaining : Retaining (resolveMembers classes visibility depth c) :=
    retaining_mapM _ fun p _ => retaining_bind
      (retaining_resolveWith (givesOnly_expandClass depth) hmembers p.2) fun _ => retaining_lift _
  have hrun : runOn r (expandClass classes visibility (depth + 1) id c) =
      runOn (reserving r c.name (.cls id)) (do
        let properties ← resolveMembers classes visibility depth c
        declare classes (.cls id)
          (some (.cls ⟨c.name, properties, [], false, c.isInterface, "public"⟩))
        return .named c.name) := by
    rw [expandClass, runOn_bind, runOn_get]
    simp only [hname, Bool.false_eq_true, ite_false]
    rw [runOn_bind, runOn_reserve hn r hname]
    rfl
  have hkept := hretaining (reserving r c.name (.cls id))
  rw [hrun, runOn_bind]
  rcases hresolved : runOn (reserving r c.name (.cls id))
      (resolveMembers classes visibility depth c) with ⟨cause | properties, r₁⟩
  · rw [hresolved] at hkept
    exact ⟨r₁, hkept, .inl ⟨cause, rfl⟩⟩
  · rw [hresolved] at hkept
    obtain ⟨hex, hdecl, hres⟩ := hkept.held hname
    refine ⟨r₁, hkept,
      .inr ⟨some (.cls ⟨c.name, properties, [], false, c.isInterface, "public"⟩), ?_⟩⟩
    dsimp only
    simp only [runOn_bind, runOn_declare hn _ r₁ hex hdecl, hres,
      agree_self_of_resolveMembers hc hresolved, runOn_pure]

theorem retaining_expandClass (depth : Nat) {id : ClassId} {c : ClassDef}
    (hc : classes[id]? = some c) : Retaining (expandClass classes visibility depth id c) := by
  induction depth generalizing id c with
  | zero =>
    rw [expandClass]
    refine retaining_ask fun r => ?_
    split
    · exact retaining_bind (retaining_checkConsistent _) (fun _ => retaining_pure _) r
    · exact .refl r
  | succ depth ih =>
    intro r
    cases hname : r.contains c.name with
    | true =>
      rw [runOn_expandClass_known hname]
      exact retaining_bind (retaining_checkConsistent _) (fun _ => retaining_pure _) r
    | false =>
      obtain ⟨r₁, hkept, ⟨cause, hrun⟩ | ⟨declaration, hrun⟩⟩ :=
        expandClass_new visibility depth hc hname fun _ _ hc => ih hc
      · rw [hrun]
        exact ((Retains.refl r).reserving hname _).trans hkept
      · rw [hrun]
        exact (((Retains.refl r).reserving hname _).trans hkept).entering hname _ _

/-- Every resolution leaves the names of a registry alone. -/
theorem retaining_resolve (classes : ClassTable) (visibility : String) (d : Descriptor) :
    Retaining (resolve classes visibility d) :=
  retaining_resolveWith (givesOnly_expandClass _) (fun _ _ hc => retaining_expandClass _ hc) d

/-! ## Types at rest -/

lemma resolve_array (classes : ClassTable) (visibility : String) (element : Descriptor) :
    resolve classes visibility (.array element) = (do
      let reference := TypeReference.arrayOf (← resolve classes visibility element)
      unless element.isBuiltin || (← get).contains reference.name do
        declare classes (.array element) none
      return reference) := rfl

lemma runOn_checkConsistent_eq_ok_iff (hd : d.name? classes = some name) :
    runOn r (checkConsistent classes d) = (.ok ⟨⟩, r) ↔ Consistent classes r name d := by
  rw [runOn_checkConsistent hd]
  unfold Consistent
  cases hk : known? r name with
  | none => simp
  | some known =>
    by_cases he : known = d
    · simp [he]
    · rcases ha : agree classes known d with cause | _ | _ <;> simp [he, ha]

lemma ok_of_runOn_checkConsistent {u : PUnit}
    (h : runOn r (checkConsistent classes d) = (.ok u, r')) :
    runOn r (checkConsistent classes d) = (.ok ⟨⟩, r) ∧ r' = r := by
  have hkept := runOn_checkConsistent_snd classes d r
  rw [h] at hkept
  obtain rfl : r' = r := hkept
  exact ⟨h, rfl⟩

lemma importing_eq_self {ns : Option String} (h : ∀ n, ns = some n → n ≠ "" → n ∈ r.imports) :
    importing r ns = r := by
  unfold importing
  split
  · rfl
  · rfl
  · next n hempty =>
    have hmem : n ∈ r.imports := h n rfl fun heq => hempty (by rw [heq])
    simp [hmem]

lemma mem_imports_importing {n : String} (hn : n ≠ "") : n ∈ (importing r (some n)).imports := by
  unfold importing
  split
  · next heq => cases heq
  · next heq => exact absurd (Option.some.inj heq) hn
  · next m _ heq =>
    obtain rfl := Option.some.inj heq
    split
    · next hmem => simpa using hmem
    · simp

lemma Settled.retains (h : Retains r r') (hd : Settled classes r d) : Settled classes r' d := by
  obtain ⟨name, hn, hr, hk⟩ := hd
  refine ⟨name, hn, h.contains hr, ?_⟩
  unfold Consistent
  rw [h.known?_eq hr]
  exact hk

/-- A type at rest stays so as long as names are left alone. -/
lemma AtRest.retains (h : Retains r r') (hd : AtRest classes r d) : AtRest classes r' d := by
  induction d using reference.induct with
  | case1 element ih => exact ⟨ih hd.1, hd.2.imp_right h.contains⟩
  | case2 d hleaf =>
    cases d with
    | primitive name ns => exact fun n hns hne => h.imports (hd n hns hne)
    | array element => exact absurd rfl (hleaf element)
    | enum | cls => exact Settled.retains h hd
    | generic | unknown => exact hd

lemma settled_of_expandClass {depth : Nat} {id : ClassId} {c : ClassDef} {t : TypeReference}
    (hc : classes[id]? = some c)
    (h : runOn r (expandClass classes visibility depth id c) = (.ok t, r')) :
    Settled classes r' (.cls id) := by
  have hn : (Descriptor.cls id).name? classes = some c.name := by simp [Descriptor.name?, hc]
  cases hname : r.contains c.name with
  | true =>
    rw [runOn_expandClass_known hname] at h
    obtain ⟨u, mid, hcheck, hpure⟩ := ok_of_runOn_bind h
    obtain ⟨hok, rfl⟩ := ok_of_runOn_checkConsistent hcheck
    cases hpure
    exact ⟨c.name, hn, hname, (runOn_checkConsistent_eq_ok_iff hn).mp hok⟩
  | false =>
    cases depth with
    | zero =>
      rw [expandClass, runOn_bind, runOn_get] at h
      simp only [hname, Bool.false_eq_true, ite_false] at h
      cases h
    | succ depth =>
      obtain ⟨r₁, hkept, ⟨cause, hrun⟩ | ⟨declaration, hrun⟩⟩ :=
        expandClass_new visibility depth hc hname
          fun _ _ hc => retaining_expandClass depth hc
      · cases hrun.symm.trans h
      · cases hrun.symm.trans h
        refine settled_of_known? hn ?_
        rw [known?_entering (hkept.held hname).2.1, if_pos rfl]

lemma settled_of_resolve_enum {t : TypeReference} {name : String} {members : List String}
    (h : runOn r (resolve classes visibility (.enum name members)) = (.ok t, r')) :
    Settled classes r' (.enum name members) := by
  obtain ⟨known, mid, hget, hrest⟩ := ok_of_runOn_bind h
  cases hget
  split at hrest
  · next hname =>
    obtain ⟨u, mid, hcheck, hpure⟩ := ok_of_runOn_bind hrest
    obtain ⟨hok, rfl⟩ := ok_of_runOn_checkConsistent hcheck
    cases hpure
    exact ⟨name, rfl, hname, (runOn_checkConsistent_eq_ok_iff rfl).mp hok⟩
  · next hnew =>
    have hname : r.contains name = false := by simpa using hnew
    rw [runOn_bind, runOn_declare_fresh rfl _ hname] at hrest
    cases hrest
    refine settled_of_known? rfl ?_
    rw [known?_entering (isDeclared_eq_false ((not_contains_iff _ _).mp hname).2), if_pos rfl]

/-- An array comes to rest as soon as its element does: its name is known, or is declared. -/
lemma atRest_of_resolve_array {t : TypeReference} {element : Descriptor}
    (hrests : ∀ {inner : TypeReference} {mid : Registry},
      runOn r (resolve classes visibility element) = (.ok inner, mid) →
        AtRest classes mid element)
    (h : runOn r (resolve classes visibility (.array element)) = (.ok t, r')) :
    AtRest classes r' (.array element) := by
  obtain ⟨inner, mid, helement, hrest⟩ := ok_of_runOn_bind h
  have hinner : inner = reference classes element :=
    givesOnly_resolveWith (givesOnly_expandClass _) element _ _ _ helement
  obtain ⟨known, mid', hget, hwrap⟩ := ok_of_runOn_bind hrest
  cases hget
  obtain ⟨name, hn, -⟩ := label?_of_resolveWith h
  have hatRest := hrests helement
  rw [hinner] at hwrap
  split at hwrap
  · next hknown =>
    cases hwrap
    exact ⟨hatRest, by simpa [reference] using hknown⟩
  · next hnew =>
    rw [Bool.not_eq_true, Bool.or_eq_false_iff] at hnew
    have hname : mid.contains name = false := reference_name hn ▸ hnew.2
    rw [runOn_bind, runOn_declare_fresh hn none hname] at hwrap
    cases hwrap
    refine ⟨hatRest.retains ((Retains.refl mid).entering hname _ none), .inr ?_⟩
    rw [reference_name hn, contains_iff,
      known?_entering (isDeclared_eq_false ((not_contains_iff _ _).mp hname).2), if_pos rfl]
    exact .inr rfl

/-- A type that has been resolved is at rest. -/
theorem atRest_of_resolve {t : TypeReference}
    (h : runOn r (resolve classes visibility d) = (.ok t, r')) : AtRest classes r' d := by
  induction d using reference.induct generalizing t r' with
  | case1 element ih => exact atRest_of_resolve_array ih h
  | case2 d hleaf =>
    cases d with
    | primitive name ns =>
      obtain ⟨u, mid, hrequire, hpure⟩ := ok_of_runOn_bind h
      rw [runOn_requireImport] at hrequire
      cases hrequire
      cases hpure
      rintro n rfl hne
      exact mem_imports_importing hne
    | array element => exact absurd rfl (hleaf element)
    | enum name members => exact settled_of_resolve_enum h
    | generic name arguments => cases h
    | cls id =>
      rw [resolve, resolveWith] at h
      cases hc : classes[id]? with
      | none =>
        rw [hc] at h
        cases h
      | some c =>
        rw [hc] at h
        exact settled_of_expandClass hc h
    | unknown id => cases h

/-- Nothing happens when a type at rest is resolved. -/
theorem AtRest.runOn_resolve (visibility : String) (h : AtRest classes r d) :
    runOn r (resolve classes visibility d) = (.ok (reference classes d), r) := by
  induction d using reference.induct with
  | case1 element ih =>
    have hknown : (element.isBuiltin || r.contains (TypeReference.arrayOf
        (reference classes element)).name) = true := by simpa [reference] using h.2
    rw [resolve_array, runOn_bind, ih h.1]
    simp only [runOn_bind, runOn_get, hknown, ite_true, runOn_pure, reference]
  | case2 d hleaf =>
    cases d with
    | primitive name ns =>
      have hrun : resolve classes visibility (.primitive name ns) = (do
          requireImport ns
          return .named name) := rfl
      rw [hrun, runOn_bind, runOn_requireImport, importing_eq_self h]
      rfl
    | array element => exact absurd rfl (hleaf element)
    | enum name members =>
      obtain ⟨_, hn, hr, hk⟩ := h
      obtain rfl := Option.some.inj hn
      have hcheck : runOn r (checkConsistent classes (.enum name members)) = (.ok ⟨⟩, r) :=
        (runOn_checkConsistent_eq_ok_iff rfl).mpr hk
      rw [resolve, resolveWith, runOn_bind, runOn_get]
      simp only [hr, ite_true, runOn_bind, hcheck]
      rfl
    | generic | unknown => exact h.elim
    | cls id =>
      obtain ⟨name, hn, hr, hk⟩ := h
      obtain ⟨c, hc, rfl⟩ := Option.map_eq_some_iff.mp hn
      have hcheck : runOn r (checkConsistent classes (.cls id)) = (.ok ⟨⟩, r) :=
        (runOn_checkConsistent_eq_ok_iff hn).mpr hk
      rw [resolve, resolveWith, hc]
      dsimp only
      rw [runOn_expandClass_known hr, runOn_bind, hcheck]
      simp [reference, hn]

lemma retains_after_resolutions (classes : ClassTable) (between : List (String × Descriptor))
    (r : Registry) :
    Retains r (after classes (between.map fun p => .resolve p.1 p.2) r) := by
  induction between generalizing r with
  | nil => exact .refl r
  | cons p between ih =>
    have hfirst : Retaining (Call.run classes (.resolve p.1 p.2)) :=
      retaining_bind (retaining_resolve classes p.1 p.2) fun _ => retaining_pure _
    exact (hfirst r).trans (ih _)

/-- A type that has been resolved on any registry is resolved to the same reference again, and this
changes nothing, whatever other resolutions succeed or fail in between. -/
theorem resolve_again {t : TypeReference} (h : runOn r (resolve classes visibility d) = (.ok t, r'))
    (between : List (String × Descriptor)) (visibility' : String) :
    runOn (after classes (between.map fun p => .resolve p.1 p.2) r')
        (resolve classes visibility' d) =
      (.ok t, after classes (between.map fun p => .resolve p.1 p.2) r') := by
  have hvalue : t = reference classes d := givesOnly_resolveWith (givesOnly_expandClass _) d _ _ _ h
  have hatRest := (atRest_of_resolve h).retains (retains_after_resolutions classes between r')
  rw [hvalue]
  exact hatRest.runOn_resolve visibility'

/-- A class whose only property cannot be resolved, and another one that leads to it and to
itself. -/
def unfinishedClasses : ClassTable :=
  #[⟨"Holder", [("values", .generic "List" [.primitive "int" none])], false⟩,
    ⟨"Node", [("next", .array (.cls 1)), ("id", .primitive "Guid" (some "System"))], false⟩,
    ⟨"Owner", [("node", .cls 1), ("holder", .cls 0)], false⟩]

theorem resolve_again_unfinishedClasses :
    let nodes := Descriptor.array (.array (.cls 1))
    let first := runOn (.ofExisting ["Leaf"]) (resolve unfinishedClasses "public" nodes)
    let later := after unfinishedClasses
      [.resolve "public" (.cls 2), .resolve "public" (.enum "Kind" [])] first.2
    first.1 = .ok (reference unfinishedClasses nodes) ∧ first.2.size = 4 ∧ later.size = 7 ∧
      runOn later (resolve unfinishedClasses "internal" nodes) =
        (.ok (reference unfinishedClasses nodes), later) := by
  refine ⟨rfl, rfl, rfl, ?_⟩
  exact resolve_again (Prod.ext rfl rfl)
    [("public", .cls 2), ("public", .enum "Kind" [])] "internal"

/-! ## Failed resolutions -/

/-- The class that a type holds in the end, if the registry does not contain its name. -/
def newClass? (classes : ClassTable) (r : Registry) (d : Descriptor) : Option ClassDef :=
  match d.innermost with
  | .cls id => classes[id]?.filter fun c => !r.contains c.name
  | _ => none

/-- Once its element is resolved, an array is resolved too. -/
lemma runOn_resolve_array {element : Descriptor} {t : TypeReference}
    (h : runOn r (resolve classes visibility element) = (.ok t, r')) :
    ∃ r'', runOn r (resolve classes visibility (.array element)) =
      (.ok (reference classes (.array element)), r'') := by
  obtain ⟨inner, hinner, -⟩ := label?_of_resolveWith h
  have harray : (Descriptor.array element).name? classes = some (inner ++ "[]") := by
    simp [Descriptor.name?, hinner]
  have hvalue : t = reference classes element :=
    givesOnly_resolveWith (givesOnly_expandClass _) element _ _ _ h
  have hname : (TypeReference.arrayOf (reference classes element)).name = inner ++ "[]" :=
    reference_name harray
  rw [resolve_array, runOn_bind, h]
  dsimp only
  rw [runOn_bind, runOn_get, hvalue]
  dsimp only
  split
  · exact ⟨r', rfl⟩
  · next hnew =>
    rw [Bool.not_eq_true, Bool.or_eq_false_iff, hname] at hnew
    rw [runOn_bind, runOn_declare_fresh harray none hnew.2]
    exact ⟨_, rfl⟩

lemma runOn_resolve_element {element : Descriptor} {cause : BuildError}
    (h : runOn r (resolve classes visibility (.array element)) = (.error cause, r')) :
    runOn r (resolve classes visibility element) = (.error cause, r') := by
  rcases hrun : runOn r (resolve classes visibility element) with ⟨cause' | t, mid⟩
  · rw [resolve_array, runOn_bind, hrun] at h
    exact h
  · obtain ⟨r'', hok⟩ := runOn_resolve_array hrun
    cases hok.symm.trans h

lemma eq_of_failed_check {cause : BuildError} {t : TypeReference}
    (h : runOn r (checkConsistent classes d >>= fun _ => pure t) = (.error cause, r')) : r' = r := by
  have hkept := runOn_checkConsistent_snd classes d r
  rw [runOn_bind] at h
  rcases hcheck : runOn r (checkConsistent classes d) with ⟨cause' | u, mid⟩
  · rw [hcheck] at h hkept
    cases h
    exact hkept
  · rw [hcheck] at h
    cases h

/-- A type that holds no new class fails over what the registry is only asked for. -/
lemma eq_of_failed_resolve {cause : BuildError} (hnew : newClass? classes r d = none)
    (h : runOn r (resolve classes visibility d) = (.error cause, r')) : r' = r := by
  induction d using reference.induct with
  | case1 element ih => exact ih hnew (runOn_resolve_element h)
  | case2 d hleaf =>
    cases d with
    | primitive name ns =>
      rw [resolve, resolveWith, runOn_bind, runOn_requireImport] at h
      cases h
    | array element => exact absurd rfl (hleaf element)
    | enum name members =>
      rw [resolve, resolveWith, runOn_bind, runOn_get] at h
      dsimp only at h
      split at h
      · exact eq_of_failed_check h
      · next hname =>
        rw [runOn_bind, runOn_declare_fresh rfl _ (by simpa using hname)] at h
        cases h
    | generic | unknown =>
      cases h
      rfl
    | cls id =>
      rw [resolve, resolveWith] at h
      cases hc : classes[id]? with
      | none =>
        rw [hc] at h
        cases h
        rfl
      | some c =>
        have hname : r.contains c.name = true := by
          simpa [newClass?, Descriptor.innermost, hc] using hnew
        rw [hc] at h
        dsimp only at h
        rw [runOn_expandClass_known hname] at h
        exact eq_of_failed_check h

/-- A new class that fails stays reserved. -/
lemma reserved_of_failed_resolve {cause : BuildError} {c : ClassDef}
    (hnew : newClass? classes r d = some c)
    (h : runOn r (resolve classes visibility d) = (.error cause, r')) :
    ∃ id, d.innermost = .cls id ∧ classes[id]? = some c ∧ r'.existing.contains c.name = false ∧
      r'.isDeclared c.name = false ∧ r'.reserved.lookup c.name = some (.cls id) := by
  induction d using reference.induct with
  | case1 element ih => exact ih hnew (runOn_resolve_element h)
  | case2 d hleaf =>
    cases d with
    | array element => exact absurd rfl (hleaf element)
    | cls id =>
      obtain ⟨hc, hname⟩ := Option.filter_eq_some_iff.mp hnew
      have hname : r.contains c.name = false := by simpa using hname
      obtain ⟨depth, hsize⟩ : ∃ depth, classes.size = depth + 1 :=
        Nat.exists_eq_succ_of_ne_zero (by have := (Array.getElem?_eq_some_iff.mp hc).1; omega)
      rw [resolve, resolveWith, hc, hsize] at h
      dsimp only at h
      obtain ⟨r₁, hkept, ⟨cause', hrun⟩ | ⟨declaration, hrun⟩⟩ :=
        expandClass_new visibility depth hc hname
          fun _ _ hc => retaining_expandClass depth hc
      · cases hrun.symm.trans h
        exact ⟨id, rfl, hc, hkept.held hname⟩
      · cases hrun.symm.trans h
    | _ => cases hnew

/-- A type that holds a known class in the end is resolved, since arrays can always be declared. -/
lemma resolve_of_settled {id : ClassId} (hd : d.innermost = .cls id)
    (h : Settled classes r (.cls id)) :
    ∃ r', runOn r (resolve classes visibility d) = (.ok (reference classes d), r') := by
  induction d using reference.induct with
  | case1 element ih =>
    obtain ⟨mid, helement⟩ := ih hd
    exact runOn_resolve_array helement
  | case2 d hleaf =>
    have hcls : d = .cls id := by
      cases d with
      | array element => exact absurd rfl (hleaf element)
      | _ => exact hd
    subst hcls
    have hatRest : AtRest classes r (.cls id) := h
    exact ⟨r, hatRest.runOn_resolve visibility⟩

/-- What a failed resolution comes to when it is tried again. If the type holds no class, or one
that the registry knew, the failure has left the registry as it was and comes back. A class that the
registry did not know has stayed reserved, and so a reference to it is given, though it is neither
existing nor declared. -/
theorem resolve_after_failure {cause : BuildError}
    (h : runOn r (resolve classes visibility d) = (.error cause, r')) :
    (newClass? classes r d = none → r' = r ∧
      runOn r' (resolve classes visibility d) = (.error cause, r')) ∧
    ∀ c, newClass? classes r d = some c → ∃ r'',
      runOn r' (resolve classes visibility d) = (.ok (reference classes d), r'') ∧
      c.name ∉ r''.existing ∧ r''.isDeclared c.name = false ∧ r''.isReserved c.name = true := by
  refine ⟨fun hnew => ?_, fun c hnew => ?_⟩
  · obtain rfl := eq_of_failed_resolve hnew h
    exact ⟨rfl, h⟩
  · obtain ⟨id, hd, hc, hex, hdecl, hres⟩ := reserved_of_failed_resolve hnew h
    have hn : (Descriptor.cls id).name? classes = some c.name := by simp [Descriptor.name?, hc]
    have hundeclared : r'.declared.lookup c.name = none := by
      simpa [Registry.isDeclared] using hdecl
    have hknown : known? r' c.name = some (.cls id) := by simp [known?, hundeclared, hres]
    obtain ⟨r'', hagain⟩ := resolve_of_settled hd (settled_of_known? hn hknown)
    have hkept := retaining_resolve classes visibility d r'
    rw [hagain] at hkept
    have hcontains : r'.contains c.name = true := (contains_iff _ _).mpr (.inr (by simp [hknown]))
    refine ⟨r'', hagain, ?_, ?_, ?_⟩
    · rw [hkept.existing_eq]
      simpa using hex
    · rw [Registry.isDeclared, hkept.declared _ hcontains, hundeclared]
      rfl
    · rw [Registry.isReserved, hkept.reserved _ hcontains, hres]
      rfl

/-- A registry that knows an enumeration. -/
def kindRegistry : Registry :=
  after unfinishedClasses [.resolve "public" (.enum "Kind" ["plain"])] (.ofExisting ["Leaf"])

theorem resolve_after_failure_unfinishedClasses :
    (runOn kindRegistry (resolve unfinishedClasses "public" (.enum "Kind" []))).1 =
      .error (.typeConflict "Kind") ∧
    runOn kindRegistry (resolve unfinishedClasses "public" (.enum "Kind" [])) =
      (.error (.typeConflict "Kind"), kindRegistry) ∧
    (runOn kindRegistry (resolve unfinishedClasses "public" (.array (.cls 2)))).1 =
      .error (.genericType "List<int>") ∧
    ∃ r'', runOn (runOn kindRegistry (resolve unfinishedClasses "public" (.array (.cls 2)))).2
        (resolve unfinishedClasses "public" (.array (.cls 2))) =
          (.ok (.arrayOf (.named "Owner")), r'') ∧
      "Owner" ∉ r''.existing ∧ r''.isDeclared "Owner" = false ∧ r''.isReserved "Owner" = true := by
  have hkind : runOn kindRegistry (resolve unfinishedClasses "public" (.enum "Kind" [])) =
      (.error (.typeConflict "Kind"), kindRegistry) := rfl
  have howner : runOn kindRegistry (resolve unfinishedClasses "public" (.array (.cls 2))) =
      (.error (.genericType "List<int>"), _) := Prod.ext rfl rfl
  exact ⟨rfl, ((resolve_after_failure hkind).1 rfl).2, rfl, (resolve_after_failure howner).2 _ rfl⟩

/-- A class that has failed is taken for a known one. -/
theorem resolve_unfinishedClasses_after_failure : ∃ r' : Registry,
    runOn (.ofExisting []) (resolve unfinishedClasses "public" (.cls 0)) =
      (.error (.genericType "List<int>"), r') ∧
    runOn r' (resolve unfinishedClasses "public" (.cls 0)) = (.ok (.named "Holder"), r') ∧
    "Holder" ∉ r'.existing ∧ r'.isDeclared "Holder" = false :=
  ⟨_, rfl, rfl, List.not_mem_nil, rfl⟩

end HubProxy.Proofs
