import Mathlib.Data.List.Infix
import HubProxy.Proofs.ResolutionInvariant

/-!
# Registries under any calls

A registry is used by direct calls and by resolutions, some of which fail half way, and is then used
again. Whatever is called in whatever order, the registry stays in order: every call comes down to
the changes of `Change`, and each of these keeps what `InOrder` says.
-/

namespace HubProxy.Proofs

inductive Call where
  | reserve (d : Descriptor)
  | declare (d : Descriptor) (declaration : Option TypeDeclaration)
  | checkConsistent (d : Descriptor)
  | requireImport (ns : Option String)
  | resolve (visibility : String) (d : Descriptor)

variable (classes : ClassTable)

def Call.run : Call → RegistryM Unit
  | .reserve d => HubProxy.reserve classes d
  | .declare d declaration => HubProxy.declare classes d declaration
  | .checkConsistent d => HubProxy.checkConsistent classes d
  | .requireImport ns => HubProxy.requireImport ns
  | .resolve visibility d => do
    let _ ← HubProxy.resolve classes visibility d

/-- The registry that a call leaves, also when it fails. -/
def afterCall (r : Registry) (call : Call) : Registry :=
  (runOn r (call.run classes)).2

/-- The registry after calls, each made whether or not the ones before it failed. -/
def after (calls : List Call) (r : Registry) : Registry :=
  calls.foldl (afterCall classes) r

/-- The namespaces that a call asks for, each once: the one that it names, or else those that it
imports where nothing is imported yet. -/
def asks (r : Registry) : Call → List String
  | .requireImport ns => (ns.filter (· ≠ "")).toList
  | call => (afterCall classes { r with imports := [] } call).imports

/-- The namespaces that calls ask for, in order. -/
def requested : List Call → Registry → List String
  | [], _ => []
  | call :: calls, r => asks classes r call ++ requested calls (afterCall classes r call)

/-- A registry in order that started from existing names. -/
structure InOrder (existing : List String) (r : Registry) : Prop where
  existing_eq : r.existing = existing.eraseDups
  declared_named : ∀ d ∈ r.declaredTypes, ∃ n, d.name? classes = some n ∧ n ∉ existing
  declared_distinct : (r.declaredTypes.map (·.name? classes)).Nodup
  declared_iff : ∀ n, r.isDeclared n = true ↔ ∃ d ∈ r.declaredTypes, d.name? classes = some n
  reserved_free : ∀ n, r.isReserved n = true → n ∉ existing ∧ r.isDeclared n = false
  contains_iff : ∀ n, r.contains n = true ↔
    n ∈ existing ∨ r.isReserved n = true ∨ r.isDeclared n = true
  size_eq : ∃ names : List String, names.Nodup ∧ (∀ n, n ∈ names ↔ r.contains n = true) ∧
    r.size = names.length
  imports_distinct : r.imports.Nodup

/-- A later registry keeps all that was declared and imported, and adds behind it. -/
structure Extends (r r' : Registry) : Prop where
  existing_eq : r'.existing = r.existing
  declared : ∀ n d, r.declared.lookup n = some d → r'.declared.lookup n = some d
  declaredTypes : r.declaredTypes <+: r'.declaredTypes
  declarations : r.declarations <+: r'.declarations
  imports : r.imports <+: r'.imports

/-- What a call may do to a registry, one thing after another. -/
inductive Change : Registry → Registry → Prop
  | reserve {d : Descriptor} {name : String} {r : Registry} (hr : r.contains name = false) :
      Change r (reserving r name d)
  | release (name : String) (r : Registry) : Change r (releasing r name)
  | enter {d : Descriptor} {name : String} (declaration : Option TypeDeclaration) {r : Registry}
      (hn : d.name? classes = some name) (he : r.existing.contains name = false)
      (hd : r.isDeclared name = false) : Change r (entering r name d declaration)
  | require (ns : Option String) (r : Registry) : Change r (importing r ns)

abbrev Changes : Registry → Registry → Prop :=
  Relation.ReflTransGen (Change classes)

/-- What every change preserves of a registry. -/
structure Kept (r : Registry) : Prop where
  named : ∀ p ∈ r.declared, p.2.name? classes = some p.1
  distinct : ((entries r).map (·.1)).Nodup
  fresh : ∀ p ∈ entries r, p.1 ∉ r.existing

/-- The imports with further namespaces, each of them once. -/
def addAll (imports asked : List String) : List String :=
  asked.foldl (fun imports ns => if imports.contains ns then imports else imports ++ [ns]) imports

/-- A computation makes changes, and the imports have a say only in which of the namespaces that it
asks for are added to them. -/
def Acts (step : RegistryM α) : Prop :=
  ∀ r, ∃ result r' asked, Changes classes r r' ∧ runOn r step = (result, r') ∧
    ∀ imports, runOn { r with imports := imports } step =
      (result, { r' with imports := addAll imports asked })

variable {classes}

lemma addAll_append (imports asked more : List String) :
    addAll imports (asked ++ more) = addAll (addAll imports asked) more :=
  List.foldl_append

lemma addAll_concat (imports asked : List String) (ns : String) :
    addAll imports (asked ++ [ns]) = if ns ∈ addAll imports asked then addAll imports asked
      else addAll imports asked ++ [ns] := by
  rw [addAll_append]
  simp [addAll]

lemma mem_addAll {imports asked : List String} {ns : String} :
    ns ∈ addAll imports asked ↔ ns ∈ imports ∨ ns ∈ asked := by
  induction asked using List.reverseRecOn with
  | nil => simp [addAll]
  | append_singleton asked last ih =>
    rw [addAll_concat, List.mem_append, List.mem_singleton, ← or_assoc, ← ih]
    split
    · next h => exact ⟨.inl, fun hns => hns.elim id fun he => he ▸ h⟩
    · rw [List.mem_append, List.mem_singleton]

/-- Adding namespaces is adding the ones that they come down to. -/
lemma addAll_addAll_nil (imports asked : List String) :
    addAll imports (addAll [] asked) = addAll imports asked := by
  induction asked using List.reverseRecOn with
  | nil => rfl
  | append_singleton asked last ih =>
    rw [addAll_concat [], addAll_concat imports]
    split
    · next h =>
      have hmem : last ∈ asked := by simpa [mem_addAll] using h
      rw [if_pos (mem_addAll.mpr (.inr hmem)), ih]
    · rw [addAll_concat, ih]

lemma addAll_nil_eq (asked : List String) : addAll [] asked = asked.eraseDups := by
  induction asked using List.reverseRecOn with
  | nil => rfl
  | append_singleton asked last ih =>
    rw [addAll_concat, List.eraseDups_append, ih]
    by_cases hmem : last ∈ asked
    · simp [hmem, List.removeAll]
    · simp [hmem, List.removeAll, List.eraseDups_cons]

lemma acts_of_const {step : RegistryM α} {result : Except BuildError α}
    (h : ∀ r, runOn r step = (result, r)) : Acts classes step :=
  fun r => ⟨result, r, [], .refl, h r, fun imports => h { r with imports := imports }⟩

lemma acts_pure (a : α) : Acts classes (pure a : RegistryM α) :=
  acts_of_const fun _ => rfl

lemma acts_throw (cause : BuildError) : Acts classes (throw cause : RegistryM α) :=
  acts_of_const fun _ => rfl

lemma acts_lift (x : Except BuildError α) : Acts classes (liftM x : RegistryM α) :=
  acts_of_const fun r => runOn_lift r x

lemma acts_bind {x : RegistryM α} {f : α → RegistryM β} (hx : Acts classes x)
    (hf : ∀ a, Acts classes (f a)) : Acts classes (x >>= f) := by
  intro r
  obtain ⟨result, r', asked, hchanges, hrun, hindep⟩ := hx r
  cases result with
  | error cause =>
    refine ⟨.error cause, r', asked, hchanges, ?_, fun imports => ?_⟩
    · rw [runOn_bind, hrun]
    · rw [runOn_bind, hindep]
  | ok a =>
    obtain ⟨result', r'', more, hchanges', hrun', hindep'⟩ := hf a r'
    refine ⟨result', r'', asked ++ more, hchanges.trans hchanges', ?_, fun imports => ?_⟩
    · rw [runOn_bind, hrun]
      exact hrun'
    · rw [runOn_bind, hindep, addAll_append]
      exact hindep' _

/-- A question to the registry, the answer to which does not depend on its imports. -/
lemma acts_ask {f : Registry → RegistryM α} (hf : ∀ r, Acts classes (f r))
    (hindep : ∀ r imports, f { r with imports := imports } = f r) :
    Acts classes (get >>= f) := by
  intro r
  obtain ⟨result, r', asked, hchanges, hrun, hall⟩ := hf r r
  refine ⟨result, r', asked, hchanges, ?_, fun imports => ?_⟩
  · rw [runOn_bind]
    exact hrun
  · rw [runOn_bind]
    simpa only [runOn_get, hindep] using hall imports

lemma acts_mapM {f : β → RegistryM α} (l : List β) (h : ∀ x ∈ l, Acts classes (f x)) :
    Acts classes (l.mapM f) := by
  induction l with
  | nil => exact acts_pure []
  | cons x l ih =>
    rw [List.mapM_cons]
    refine acts_bind (h x (by simp)) fun a => ?_
    exact acts_bind (ih fun y hy => h y (by simp [hy])) fun _ => acts_pure _

/-- A computation that changes the registry at once, whatever the imports are. -/
lemma acts_of_change (change : Registry → Registry) {step : RegistryM α} {r : Registry}
    {result : Except BuildError α} (hchange : Change classes r (change r))
    (himports : ∀ imports, change { r with imports := imports } =
      { change r with imports := imports })
    (hrun : ∀ imports, runOn { r with imports := imports } step =
      (result, change { r with imports := imports })) :
    ∃ result r' asked, Changes classes r r' ∧ runOn r step = (result, r') ∧
      ∀ imports, runOn { r with imports := imports } step =
        (result, { r' with imports := addAll imports asked }) :=
  ⟨result, change r, [], .single hchange, hrun r.imports,
    fun imports => (hrun imports).trans (congrArg _ (himports imports))⟩

lemma acts_nameless {d : Descriptor} (hd : d.name? classes = none) {f : String → RegistryM α} :
    Acts classes (named (d.name? classes) >>= f) := by
  rw [hd]
  exact acts_of_const fun r => by rw [runOn_bind, runOn_named]

lemma acts_reserve (d : Descriptor) : Acts classes (reserve classes d) := by
  cases hd : d.name? classes with
  | none => exact acts_nameless hd
  | some name =>
    intro r
    cases hr : r.contains name with
    | false =>
      exact acts_of_change (reserving · name d) (.reserve hr) (fun _ => rfl)
        fun imports => runOn_reserve hd _ hr
    | true =>
      have hrun : ∀ r' : Registry, r'.contains name = true →
          runOn r' (reserve classes d) = (.error (.duplicateDeclaration name), r') := by
        intro r' hr'
        simp only [reserve, runOn_bind, runOn_named, hd, runOn_get, hr', ite_true]
        rfl
      exact ⟨_, r, [], .refl, hrun r hr, fun imports => hrun _ hr⟩

lemma acts_declare (d : Descriptor) (declaration : Option TypeDeclaration) :
    Acts classes (declare classes d declaration) := by
  cases hd : d.name? classes with
  | none => exact acts_nameless hd
  | some name =>
    intro r
    by_cases hr : (r.existing.contains name || r.isDeclared name) = true
    · exact ⟨_, r, [], .refl, runOn_declare_again hd declaration r hr,
        fun imports => runOn_declare_again hd declaration _ hr⟩
    rw [Bool.not_eq_true, Bool.or_eq_false_iff] at hr
    have henter : Change classes r (entering r name d declaration) :=
      .enter declaration hd hr.1 hr.2
    have hrun := fun imports =>
      runOn_declare hd declaration { r with imports := imports } hr.1 hr.2
    cases hk : r.reserved.lookup name with
    | none =>
      simp only [hk] at hrun
      exact acts_of_change (entering · name d declaration) henter (fun _ => rfl) hrun
    | some known =>
      rcases ha : agree classes known d with cause | _ | _
      · simp only [hk, ha] at hrun
        exact acts_of_change (releasing · name) (.release name r) (fun _ => rfl) hrun
      · simp only [hk, ha] at hrun
        exact acts_of_change (releasing · name) (.release name r) (fun _ => rfl) hrun
      · simp only [hk, ha] at hrun
        exact acts_of_change (entering · name d declaration) henter (fun _ => rfl) hrun

lemma acts_checkConsistent (d : Descriptor) : Acts classes (checkConsistent classes d) := by
  unfold checkConsistent
  cases hd : d.name? classes with
  | none => exact hd ▸ acts_nameless hd
  | some name =>
    refine acts_bind (acts_pure name) fun name => acts_ask (fun r => ?_) fun _ _ => rfl
    cases r.declared.lookup name <|> r.reserved.lookup name with
    | none => exact acts_pure _
    | some known =>
      dsimp only
      split
      · exact acts_pure _
      · have hshape : Acts classes (sameShape classes known d) :=
          acts_of_const fun r => runOn_sameShape classes known d r
        refine acts_bind hshape fun same => ?_
        split
        · exact acts_pure _
        · exact acts_throw _

lemma acts_requireImport (ns : Option String) : Acts classes (requireImport ns) := by
  intro r
  have hchange : Changes classes r (importing r ns) := .single (.require ns r)
  have hrun := fun imports => runOn_requireImport { r with imports := imports } ns
  unfold importing at hrun
  split at hrun
  · exact ⟨_, _, [], hchange, runOn_requireImport r _, hrun⟩
  · exact ⟨_, _, [], hchange, runOn_requireImport r _, hrun⟩
  · next ns _ =>
    refine ⟨_, _, [ns], hchange, runOn_requireImport r _, fun imports => ?_⟩
    rw [hrun]
    simp only [importing, addAll, List.foldl_cons, List.foldl_nil]
    split <;> split <;> rfl

lemma acts_resolveWith {expand : ClassId → ClassDef → RegistryM TypeReference}
    (hexpand : ∀ id c, Acts classes (expand id c)) (d : Descriptor) :
    Acts classes (resolveWith classes expand d) := by
  induction d using reference.induct with
  | case1 element ih =>
    rw [resolveWith]
    refine acts_bind ih fun inner => acts_ask (fun r => ?_) fun _ _ => rfl
    split
    · exact acts_pure _
    · exact acts_bind (acts_declare _ none) fun _ => acts_pure _
  | case2 d hleaf =>
    cases d with
    | primitive name ns => exact acts_bind (acts_requireImport ns) fun _ => acts_pure _
    | array element => exact absurd rfl (hleaf element)
    | enum name members =>
      rw [resolveWith]
      refine acts_ask (fun r => ?_) fun _ _ => rfl
      split
      · exact acts_bind (acts_checkConsistent _) fun _ => acts_pure _
      · exact acts_bind (acts_declare _ _) fun _ => acts_pure _
    | generic name arguments => exact acts_throw _
    | cls id =>
      rw [resolveWith]
      split
      · exact hexpand id _
      · exact acts_throw _
    | unknown id => exact acts_throw _

lemma acts_expandClass (visibility : String) (depth : Nat) (id : ClassId) (c : ClassDef) :
    Acts classes (expandClass classes visibility depth id c) := by
  induction depth generalizing id c with
  | zero =>
    rw [expandClass]
    refine acts_ask (fun r => ?_) fun _ _ => rfl
    split
    · exact acts_bind (acts_checkConsistent _) fun _ => acts_pure _
    · exact acts_throw _
  | succ depth ih =>
    have hmember : ∀ p ∈ c.properties, Acts classes (do
        let type ← resolveWith classes (expandClass classes visibility depth) p.2
        (buildProperty p.1 type visibility : Except BuildError PropertyDeclaration)) :=
      fun p _ => acts_bind (acts_resolveWith ih p.2) fun _ => acts_lift _
    rw [expandClass]
    refine acts_ask (fun r => ?_) fun _ _ => rfl
    split
    · exact acts_bind (acts_checkConsistent _) fun _ => acts_pure _
    · refine acts_bind (acts_reserve _) fun _ => acts_bind (acts_mapM _ hmember) fun _ => ?_
      exact acts_bind (acts_declare _ _) fun _ => acts_pure _

/-- Every call makes changes only. -/
theorem acts_run (call : Call) : Acts classes (call.run classes) := by
  cases call with
  | reserve d => exact acts_reserve d
  | declare d declaration => exact acts_declare d declaration
  | checkConsistent d => exact acts_checkConsistent d
  | requireImport ns => exact acts_requireImport ns
  | resolve visibility d =>
    exact acts_bind (acts_resolveWith (acts_expandClass visibility _) d) fun _ => acts_pure _

lemma changes_afterCall (r : Registry) (call : Call) :
    Changes classes r (afterCall classes r call) := by
  have hacts : Acts classes (call.run classes) := acts_run call
  obtain ⟨result, r', asked, hchanges, hrun, -⟩ := hacts r
  rwa [afterCall, hrun]

lemma changes_after (calls : List Call) (r : Registry) :
    Changes classes r (after classes calls r) := by
  induction calls generalizing r with
  | nil => exact .refl
  | cons call calls ih => exact (changes_afterCall r call).trans (ih _)

lemma asks_eq (r : Registry) (call : Call) :
    asks classes r call = (afterCall classes { r with imports := [] } call).imports := by
  cases call with
  | requireImport ns =>
    rw [afterCall, Call.run, runOn_requireImport]
    rcases ns with _ | ns
    · rfl
    · by_cases hns : ns = ""
      · simp [asks, importing, hns]
      · simp [asks, importing, hns]
  | _ => rfl

lemma imports_afterCall (r : Registry) (call : Call) :
    (afterCall classes r call).imports = addAll r.imports (asks classes r call) := by
  have hacts : Acts classes (call.run classes) := acts_run call
  obtain ⟨result, r', asked, -, hrun, hindep⟩ := hacts r
  have halone : asks classes r call = addAll [] asked := by
    rw [asks_eq, afterCall, hindep]
  have hown : (afterCall classes r call).imports = addAll r.imports asked := by
    rw [afterCall, hindep r.imports]
  rw [hown, halone, addAll_addAll_nil]

/-- The imports of a run are those that it starts from and those that the calls ask for. -/
lemma imports_after (calls : List Call) (r : Registry) :
    (after classes calls r).imports = addAll r.imports (requested classes calls r) := by
  induction calls generalizing r with
  | nil => rfl
  | cons call calls ih =>
    rw [requested, addAll_append, ← imports_afterCall]
    exact ih _

lemma nodup_addAll {imports : List String} (h : imports.Nodup) (asked : List String) :
    (addAll imports asked).Nodup := by
  induction asked using List.reverseRecOn with
  | nil => exact h
  | append_singleton asked last ih =>
    rw [addAll_concat]
    split
    · exact ih
    · next hlast => exact List.Nodup.append ih (List.nodup_singleton last) (by simpa using hlast)

lemma nodup_eraseDups (l : List String) : l.eraseDups.Nodup :=
  addAll_nil_eq l ▸ nodup_addAll List.nodup_nil l

lemma kept_ofExisting (existing : List String) : Kept classes (.ofExisting existing) :=
  ⟨fun _ hp => absurd hp List.not_mem_nil, List.nodup_nil, fun _ hp => absurd hp List.not_mem_nil⟩

lemma entries_releasing_sublist (r : Registry) (name : String) :
    (entries (releasing r name)).Sublist (entries r) :=
  List.filter_sublist.append_right _

lemma Kept.change {r r' : Registry} (h : Kept classes r)
    (hchange : Change classes r r') : Kept classes r' := by
  cases hchange with
  | @reserve d name _ hr =>
    obtain ⟨he, hk⟩ := (not_contains_iff r name).mp hr
    have hname : name ∉ (entries r).map (·.1) := (known?_eq_none_iff r name).mp hk
    refine ⟨h.named, List.nodup_cons.mpr ⟨hname, h.distinct⟩, fun p hp => ?_⟩
    rcases List.mem_cons.mp hp with rfl | hp
    · exact he
    · exact h.fresh p hp
  | release name =>
    have hsub := entries_releasing_sublist r name
    exact ⟨h.named, h.distinct.sublist (hsub.map _), fun p hp => h.fresh p (hsub.subset hp)⟩
  | @enter d name declaration _ hn he hd =>
    refine ⟨?_, distinct_entering h.distinct (isDeclared_eq_false_iff.mp hd), ?_⟩
    · intro p hp
      rcases List.mem_append.mp hp with hp | hp
      · exact h.named p hp
      · rw [List.mem_singleton.mp hp]
        exact hn
    · intro p hp
      rcases mem_entries_entering hp with hp | rfl
      · exact h.fresh p hp
      · have hfree : name ∉ r.existing := by simpa using he
        exact hfree
  | require ns =>
    obtain ⟨he, hr, hd, -⟩ := importing_fields r ns
    have hent : entries (importing r ns) = entries r := by rw [entries, entries, hr, hd]
    exact ⟨hd ▸ h.named, hent ▸ h.distinct, by rw [hent, he]; exact h.fresh⟩

lemma Extends.refl (r : Registry) : Extends r r :=
  ⟨rfl, fun _ _ h => h, List.prefix_rfl, List.prefix_rfl, List.prefix_rfl⟩

lemma Extends.trans {r r' r'' : Registry} (h : Extends r r') (h' : Extends r' r'') :
    Extends r r'' where
  existing_eq := h'.existing_eq.trans h.existing_eq
  declared n d hd := h'.declared n d (h.declared n d hd)
  declaredTypes := h.declaredTypes.trans h'.declaredTypes
  declarations := h.declarations.trans h'.declarations
  imports := h.imports.trans h'.imports

lemma Change.grows {r r' : Registry} (h : Change classes r r') : Extends r r' := by
  cases h with
  | reserve hr => exact ⟨rfl, fun _ _ h => h, List.prefix_rfl, List.prefix_rfl, List.prefix_rfl⟩
  | release name => exact ⟨rfl, fun _ _ h => h, List.prefix_rfl, List.prefix_rfl, List.prefix_rfl⟩
  | @enter d name declaration _ hn he hd =>
    refine ⟨rfl, fun n known hk => ?_, ?_, List.prefix_append _ _, List.prefix_rfl⟩
    · simp [entering, List.lookup_append, hk]
    · simp [Registry.declaredTypes, entering]
  | require ns =>
    obtain ⟨he, -, hd, hdecl⟩ := importing_fields r ns
    refine ⟨he, fun n known hk => hd ▸ hk, ?_, hdecl ▸ List.prefix_rfl, ?_⟩
    · rw [Registry.declaredTypes, Registry.declaredTypes, hd]
    · unfold importing
      split
      · exact List.prefix_rfl
      · exact List.prefix_rfl
      · split
        · exact List.prefix_rfl
        · exact List.prefix_append _ _

theorem Changes.kept {r r' : Registry} (hchanges : Changes classes r r')
    (h : Kept classes r) : Kept classes r' := by
  induction hchanges with
  | refl => exact h
  | tail _ hchange ih => exact ih.change hchange

theorem Changes.grows {r r' : Registry} (hchanges : Changes classes r r') : Extends r r' := by
  induction hchanges with
  | refl => exact .refl r
  | tail _ hchange ih => exact ih.trans hchange.grows

lemma isDeclared_iff {r : Registry} {n : String} :
    r.isDeclared n = true ↔ n ∈ r.declared.map (·.1) := by
  rw [← Bool.not_eq_false, isDeclared_eq_false_iff, not_not]

lemma isReserved_iff {r : Registry} {n : String} :
    r.isReserved n = true ↔ n ∈ r.reserved.map (·.1) := by
  have h : r.isReserved n = { r with declared := r.reserved }.isDeclared n := rfl
  rw [h, isDeclared_iff]

/-- A registry that keeps what changes preserve is in order. -/
lemma Kept.inOrder {existing : List String} {r : Registry} (h : Kept classes r)
    (he : r.existing = existing.eraseDups) (hi : r.imports.Nodup) : InOrder classes existing r := by
  have hexisting : ∀ n, n ∈ r.existing ↔ n ∈ existing := fun n => by rw [he, List.mem_eraseDups]
  have hnames : r.declaredTypes.map (·.name? classes) = (r.declared.map (·.1)).map some := by
    rw [Registry.declaredTypes, List.map_map, List.map_map]
    exact List.map_congr_left h.named
  have hdistinct := h.distinct
  rw [entries, List.map_append, List.nodup_append] at hdistinct
  obtain ⟨-, hdeclared, hdisjoint⟩ := hdistinct
  have hcontains : ∀ n, r.contains n = true ↔
      n ∈ existing ∨ r.isReserved n = true ∨ r.isDeclared n = true := by
    intro n
    rw [Registry.contains, Bool.or_eq_true, Bool.or_eq_true, List.contains_iff_mem, hexisting,
      or_assoc]
  refine ⟨he, ?_, ?_, ?_, ?_, hcontains, ?_, hi⟩
  · intro d hd
    obtain ⟨p, hp, rfl⟩ := List.mem_map.mp hd
    exact ⟨p.1, h.named p hp, fun hmem =>
      h.fresh p (List.mem_append_right _ hp) ((hexisting p.1).mpr hmem)⟩
  · rw [hnames]
    exact hdeclared.map fun _ _ => Option.some.inj
  · intro n
    have hn : some n ∈ r.declaredTypes.map (·.name? classes) ↔ n ∈ r.declared.map (·.1) := by
      simp [hnames]
    rw [isDeclared_iff, ← hn, List.mem_map]
  · intro n hn
    have hmem := isReserved_iff.mp hn
    obtain ⟨p, hp, rfl⟩ := List.mem_map.mp hmem
    refine ⟨fun hex => h.fresh p (List.mem_append_left _ hp) ((hexisting _).mpr hex), ?_⟩
    rw [isDeclared_eq_false_iff]
    exact fun hd => hdisjoint _ hmem _ hd rfl
  · refine ⟨_, nodup_eraseDups _, fun n => ?_, rfl⟩
    rw [List.mem_eraseDups, hcontains, List.mem_append, List.mem_append, hexisting, isDeclared_iff,
      isReserved_iff, or_assoc]

/-- Whatever is called on a registry, it stays in order, and it only ever grows. -/
theorem registry_after_calls (existing : List String) (calls : List Call) :
    InOrder classes existing (after classes calls (.ofExisting existing)) ∧
      (after classes calls (.ofExisting existing)).imports =
        (requested classes calls (.ofExisting existing)).eraseDups ∧
      ∀ later, Extends (after classes calls (.ofExisting existing))
        (after classes (calls ++ later) (.ofExisting existing)) := by
  have hchanges : Changes classes (.ofExisting existing)
      (after classes calls (.ofExisting existing)) := changes_after calls _
  have himports : (after classes calls (.ofExisting existing)).imports =
      (requested classes calls (.ofExisting existing)).eraseDups :=
    (imports_after calls _).trans (addAll_nil_eq _)
  refine ⟨?_, himports, fun later => ?_⟩
  · exact (hchanges.kept (kept_ofExisting existing)).inOrder hchanges.grows.existing_eq
      (himports ▸ nodup_eraseDups _)
  · have hlater : after classes (calls ++ later) (.ofExisting existing) =
        after classes later (after classes calls (.ofExisting existing)) := List.foldl_append
    rw [hlater]
    exact (changes_after later _).grows

end HubProxy.Proofs
