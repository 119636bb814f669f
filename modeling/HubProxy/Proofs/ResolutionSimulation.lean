import Mathlib.Data.List.Basic
import HubProxy.Proofs.ResolutionAgenda

/-!
# Resolution follows its agenda

`resolve` recurses into properties under a bound on the nesting of classes. Here it is shown to do
what the machine of `ResolutionAgenda` does: every class that is expanded takes another name of the
table, so the bound is never met, and success, failure and the registry left are the same.
-/

namespace HubProxy.Proofs

variable {classes : ClassTable} {visibility : String}

lemma Effect.existing_eq {t : Task} {r r' : Registry} {more : List Task}
    (h : Effect classes visibility t r more r') : r'.existing = r.existing := by
  cases h with
  | primitive name ns => exact (importing_fields r ns).1
  | require ns => exact (importing_fields r (some ns)).1
  | _ => rfl

/-- A known name stays known. -/
lemma Effect.contains_mono {t : Task} {r r' : Registry} {more : List Task}
    (h : Effect classes visibility t r more r') {n : String} (hn : r.contains n = true) :
    r'.contains n = true := by
  rw [contains_iff] at hn ⊢
  rw [h.existing_eq]
  refine hn.imp_right fun hk => ?_
  cases h with
  | primitive name ns => simpa using hk
  | require ns => simpa using hk
  | newEnum hr =>
    rw [known?_entering (isDeclared_eq_false ((not_contains_iff _ _).mp hr).2)]
    split <;> simp [hk]
  | newArray hb hd hr =>
    rw [known?_entering (isDeclared_eq_false ((not_contains_iff _ _).mp hr).2)]
    split <;> simp [hk]
  | newClass hc hr =>
    rw [known?_reserving ((not_contains_iff _ _).mp hr).2]
    split <;> simp [hk]
  | close hc he hd _ =>
    rw [known?_entering hd]
    split <;> simp [hk]
  | _ => exact hk

/-- How many classes of the table have a name that the registry does not contain. -/
def freshCount (classes : ClassTable) (r : Registry) : Nat :=
  classes.toList.countP fun c => !r.contains c.name

lemma freshCount_le_size (classes : ClassTable) (r : Registry) :
    freshCount classes r ≤ classes.size := by
  have h := List.countP_le_length (p := fun c : ClassDef => !r.contains c.name)
    (l := classes.toList)
  simpa [freshCount] using h

lemma Effect.freshCount_le {t : Task} {r r' : Registry} {more : List Task}
    (h : Effect classes visibility t r more r') : freshCount classes r' ≤ freshCount classes r := by
  apply List.countP_mono_left
  intro c _ hc
  by_contra hr
  have hm := h.contains_mono (n := c.name) (by simpa using hr)
  simp [hm] at hc

lemma freshCount_pos {r : Registry} {id : ClassId} {c : ClassDef} (hc : classes[id]? = some c)
    (hr : r.contains c.name = false) : 0 < freshCount classes r := by
  rw [freshCount, List.countP_pos_iff]
  exact ⟨c, by simpa using Array.mem_of_getElem? hc, by simp [hr]⟩

/-- Reserving the name of a class leaves fewer fresh ones. -/
lemma freshCount_reserving_lt {r : Registry} {id : ClassId} {c : ClassDef}
    (hc : classes[id]? = some c) (hr : r.contains c.name = false) :
    freshCount classes (reserving r c.name (.cls id)) < freshCount classes r := by
  have hmem : c ∈ classes.toList := by simpa using Array.mem_of_getElem? hc
  obtain ⟨before, after, hsplit⟩ := List.append_of_mem hmem
  have hle : ∀ l : List ClassDef,
      l.countP (fun c' => !(reserving r c.name (.cls id)).contains c'.name) ≤
        l.countP (fun c' => !r.contains c'.name) := by
    intro l
    apply List.countP_mono_left
    intro c' _ h'
    by_contra hr'
    have hnew : Effect classes "" (.visit (.cls id)) r (classTasks id c)
        (reserving r c.name (.cls id)) := .newClass hc hr
    have hm := hnew.contains_mono (n := c'.name) (by simpa using hr')
    simp [hm] at h'
  have hnow : (reserving r c.name (.cls id)).contains c.name = true := by
    simp [contains_iff, known?_reserving ((not_contains_iff _ _).mp hr).2]
  have hb := hle before
  have ha := hle after
  simp only [freshCount, hsplit, List.countP_append, List.countP_cons, hnow, hr]
  simp only [Bool.not_true, Bool.not_false, Bool.false_eq_true, ite_false, ite_true]
  omega

variable (classes visibility)

/-- The machine comes to the same end as a computation: to the rest of the agenda, the value being
the given one, or to the same failure. -/
def Arrives (c : Configuration) (rest : List Task) (value : α) :
    Except BuildError α × Registry → Prop
  | (.ok a, r') => a = value ∧ Steps classes visibility c ⟨rest, r'⟩
  | (.error cause, r') => Fails classes visibility c cause r'

/-- A computation does what tasks say and yields a value that the registry does not influence, as
long as at most so many class names are fresh. -/
def Follows (bound : Nat) (step : RegistryM α) (ts : List Task) (value : α) : Prop :=
  ∀ r rest, freshCount classes r ≤ bound →
    Arrives classes visibility ⟨ts ++ rest, r⟩ rest value (runOn r step)

variable {classes visibility}

lemma Arrives.of_steps {c c' : Configuration} {rest : List Task} {value : α}
    {out : Except BuildError α × Registry} (hs : Steps classes visibility c c')
    (h : Arrives classes visibility c' rest value out) :
    Arrives classes visibility c rest value out := by
  rcases out with ⟨cause | a, r'⟩
  · obtain ⟨t, more, r, hm, hf⟩ := h
    exact ⟨t, more, r, hs.trans hm, hf⟩
  · exact ⟨h.1, hs.trans h.2⟩

lemma Steps.freshCount_le {c c' : Configuration} (h : Steps classes visibility c c') :
    freshCount classes c'.registry ≤ freshCount classes c.registry := by
  induction h with
  | refl => exact Nat.le_refl _
  | tail _ hs ih =>
    obtain ⟨hp⟩ := hs
    exact Nat.le_trans (effect_of_perform hp).freshCount_le ih

lemma follows_pure (bound : Nat) (value : α) :
    Follows classes visibility bound (pure value) [] value :=
  fun _ _ _ => ⟨rfl, .refl⟩

lemma follows_bind {bound : Nat} {x : RegistryM α} {f : α → RegistryM β} {t u : List Task}
    {v : α} {w : β} (hx : Follows classes visibility bound x t v)
    (hf : Follows classes visibility bound (f v) u w) :
    Follows classes visibility bound (x >>= f) (t ++ u) w := by
  intro r rest hr
  have h := hx r (u ++ rest) hr
  rw [runOn_bind, List.append_assoc]
  rcases hrun : runOn r x with ⟨cause | a, r'⟩
  · simpa [hrun, Arrives] using h
  · simp only [hrun, Arrives] at h
    obtain ⟨rfl, hs⟩ := h
    exact (hf r' rest (Nat.le_trans (Steps.freshCount_le hs) hr)).of_steps hs

lemma follows_return {bound : Nat} {x : RegistryM α} {ts : List Task} {v : α}
    (hx : Follows classes visibility bound x ts v) (g : α → β) :
    Follows classes visibility bound (x >>= fun a => pure (g a)) ts (g v) := by
  have h := follows_bind (f := fun a => pure (g a)) hx (follows_pure bound (g v))
  rwa [List.append_nil] at h

lemma follows_mapM {bound : Nat} {f : β → RegistryM α} {tasks : β → List Task} {value : β → α}
    (l : List β) (h : ∀ x ∈ l, Follows classes visibility bound (f x) (tasks x) (value x)) :
    Follows classes visibility bound (l.mapM f) (l.flatMap tasks) (l.map value) := by
  induction l with
  | nil => exact follows_pure bound []
  | cons x l ih =>
    rw [List.mapM_cons, List.flatMap_cons, List.map_cons]
    refine follows_bind (h x (by simp)) ?_
    have htail := ih fun y hy => h y (by simp [hy])
    exact follows_return htail (value x :: ·)

/-- A computation that is one task. -/
lemma follows_task {bound : Nat} {t : Task} {step : RegistryM PUnit}
    (ht : perform classes visibility t = step >>= fun _ => pure []) :
    Follows classes visibility bound step [t] ⟨⟩ := by
  intro r rest _
  have hp := congrArg (runOn r) ht
  rw [runOn_bind] at hp
  rcases hrun : runOn r step with ⟨cause | a, r'⟩
  · rw [hrun] at hp
    exact ⟨t, rest, r, .refl, hp⟩
  · rw [hrun] at hp
    exact ⟨rfl, .single (.intro hp)⟩

/-- A task that leaves the registry as it is may be replaced by what it leads to. -/
lemma follows_of_tasks {bound : Nat} {t : Task} {ts : List Task} {step : RegistryM α} {value : α}
    (ht : perform classes visibility t = pure ts)
    (h : Follows classes visibility bound step ts value) :
    Follows classes visibility bound step [t] value := by
  intro r rest hr
  have hs : Step classes visibility ⟨t :: rest, r⟩ ⟨ts ++ rest, r⟩ := .intro (by rw [ht]; rfl)
  exact (h r rest hr).of_steps (.single hs)

lemma follows_buildProperty (bound : Nat) (p : String × Descriptor) (shown : String) :
    Follows classes visibility bound
      (liftM (buildProperty p.1 (reference classes p.2) shown) : RegistryM PropertyDeclaration)
      [.demand (p.1 ≠ "") .emptyPropertyName] (memberDeclaration classes shown p) := by
  intro r rest _
  rw [runOn_lift]
  by_cases hp : p.1 = ""
  · rw [buildProperty, if_pos hp]
    exact ⟨_, rest, r, .refl, by simp [perform, hp]⟩
  · have hrun : runOn r (perform classes visibility (.demand (p.1 ≠ "") .emptyPropertyName)) =
        (.ok [], r) := by simp [perform, hp]
    rw [buildProperty, if_neg hp]
    exact ⟨rfl, .single (.intro hrun)⟩

/-- A mention of a named type follows its visit if what is done for an unknown one follows what the
visit leads to. -/
lemma follows_visitNamed {bound : Nat} {d : Descriptor} {name : String} {t : Task}
    {fresh : RegistryM (List Task)} {known step : RegistryM α} {value : α}
    (ht : perform classes visibility t = visitNamed classes d name fresh)
    (hk : Follows classes visibility bound known [] value)
    (hs : ∀ r rest, r.contains name = false → freshCount classes r ≤ bound →
      runOn r (perform classes visibility t) = runOn r fresh →
      Arrives classes visibility ⟨t :: rest, r⟩ rest value (runOn r step)) :
    Follows classes visibility bound
      (do
        if (← get).contains name then
          checkConsistent classes d
          known
        else step) [t] value := by
  intro r rest hr
  have hp := congrArg (runOn r) ht
  rw [visitNamed, runOn_bind, runOn_get] at hp
  rw [runOn_bind, runOn_get]
  cases hc : r.contains name with
  | false =>
    simp only [hc, Bool.false_eq_true, ite_false] at hp ⊢
    exact hs r rest hc hr hp
  | true =>
    simp only [hc, ite_true, runOn_bind] at hp ⊢
    rcases hrun : runOn r (checkConsistent classes d) with ⟨cause | a, r'⟩
    · rw [hrun] at hp
      exact ⟨t, rest, r, .refl, hp⟩
    · rw [hrun] at hp
      have hstep : Step classes visibility ⟨t :: rest, r⟩ ⟨rest, r'⟩ := .intro hp
      have hle := Steps.freshCount_le (.single hstep)
      exact (hk r' rest (Nat.le_trans hle hr)).of_steps (.single hstep)

lemma follows_wrap (bound : Nat) (element : Descriptor) :
    Follows classes visibility bound
      (do
        if element.isBuiltin || (← get).contains (reference classes (.array element)).name then
          pure (reference classes (.array element))
        else
          declare classes (.array element) none
          pure (reference classes (.array element)))
      [.wrap element] (reference classes (.array element)) := by
  intro r rest _
  have hp : runOn r (perform classes visibility (.wrap element)) =
      if element.isBuiltin || r.contains (reference classes (.array element)).name then (.ok [], r)
      else runOn r (declare classes (.array element) none >>= fun _ => pure []) := by
    simp only [perform, runOn_bind, runOn_get]
    split
    · rfl
    · rw [runOn_bind]
  rw [runOn_bind, runOn_get]
  by_cases hk : (element.isBuiltin || r.contains (reference classes (.array element)).name) = true
  · simp only [hk, ite_true] at hp ⊢
    exact ⟨rfl, .single (.intro hp)⟩
  · simp only [hk, Bool.false_eq_true, ite_false, runOn_bind] at hp ⊢
    rcases hrun : runOn r (declare classes (.array element) none) with ⟨cause | a, r'⟩
    · rw [hrun] at hp
      exact ⟨_, rest, r, .refl, hp⟩
    · rw [hrun] at hp
      exact ⟨rfl, .single (.intro hp)⟩

lemma resolveWith_follows {bound : Nat} {expand : ClassId → ClassDef → RegistryM TypeReference}
    (hexpand : ∀ id c, classes[id]? = some c →
      Follows classes visibility bound (expand id c) [.visit (.cls id)] (.named c.name))
    (d : Descriptor) :
    Follows classes visibility bound (resolveWith classes expand d) [.visit d]
      (reference classes d) := by
  induction d using reference.induct with
  | case1 element ih =>
    refine follows_of_tasks rfl ?_
    rw [resolveWith]
    exact follows_bind (u := [.wrap element]) ih (follows_wrap bound element)
  | case2 d h =>
    cases d with
    | primitive name ns =>
      rw [resolveWith]
      exact follows_return (follows_task rfl) fun _ => TypeReference.named name
    | array element => exact absurd rfl (h element)
    | enum name members =>
      rw [resolveWith]
      refine follows_visitNamed rfl (follows_pure bound _) fun r rest hr _ hp => ?_
      rw [runOn_bind, runOn_declare_fresh rfl _ hr] at hp ⊢
      exact ⟨rfl, .single (.intro hp)⟩
    | generic name arguments => exact fun r rest _ => ⟨_, rest, r, .refl, rfl⟩
    | cls id =>
      rw [resolveWith]
      cases hc : classes[id]? with
      | none => exact fun r rest _ => ⟨_, rest, r, .refl, by simp [perform, hc]⟩
      | some c => simpa [reference, Descriptor.name?, hc] using hexpand id c hc
    | unknown id => exact fun r rest _ => ⟨_, rest, r, .refl, rfl⟩

/-- What is left of the expansion of a class once its name is reserved. -/
lemma follows_members {bound : Nat} {id : ClassId} {c : ClassDef} (hc : classes[id]? = some c)
    {resolveMember : Descriptor → RegistryM TypeReference}
    (h : ∀ d, Follows classes visibility bound (resolveMember d) [.visit d] (reference classes d)) :
    Follows classes visibility bound
      (do
        let properties ← c.properties.mapM fun p => do
          let type ← resolveMember p.2
          (buildProperty p.1 type visibility : Except BuildError PropertyDeclaration)
        declare classes (.cls id)
          (some (.cls ⟨c.name, properties, [], false, c.isInterface, "public"⟩))
        return .named c.name)
      (classTasks id c) (TypeReference.named c.name) := by
  have hmember : ∀ p ∈ c.properties, Follows classes visibility bound
      (do
        let type ← resolveMember p.2
        (buildProperty p.1 type visibility : Except BuildError PropertyDeclaration))
      (memberTasks p) (memberDeclaration classes visibility p) :=
    fun p _ => follows_bind (h p.2) (follows_buildProperty bound p visibility)
  refine follows_bind (follows_mapM _ hmember) (follows_return (follows_task ?_) fun _ => TypeReference.named c.name)
  simp only [perform, declarationOf?, hc, Option.map_some, classDeclaration]

/-- Expanding a class is visiting it, if the bound admits as many classes as are fresh. -/
lemma expandClass_follows (bound : Nat) {id : ClassId} {c : ClassDef} (hc : classes[id]? = some c) :
    Follows classes visibility bound (expandClass classes visibility bound id c) [.visit (.cls id)]
      (.named c.name) := by
  have ht : perform classes visibility (.visit (.cls id)) =
      visitNamed classes (.cls id) c.name do
        reserve classes (.cls id)
        return classTasks id c := by
    simp only [perform, hc]
  have hn : (Descriptor.cls id).name? classes = some c.name := by simp [Descriptor.name?, hc]
  induction bound generalizing id c with
  | zero =>
    rw [expandClass]
    refine follows_visitNamed ht (follows_pure 0 _) fun r rest hr hf _ => ?_
    have hpos := freshCount_pos hc hr
    omega
  | succ bound ih =>
    rw [expandClass]
    refine follows_visitNamed ht (follows_pure _ _) fun r rest hr hf hp => ?_
    rw [runOn_bind, runOn_reserve hn r hr] at hp ⊢
    have hlt := freshCount_reserving_lt hc hr
    have hmembers := follows_members hc
      (resolveWith_follows fun id' c' hc' => ih hc' (by simp only [perform, hc'])
        (by simp [Descriptor.name?, hc']))
    have harrive := hmembers (reserving r c.name (.cls id)) rest (by omega)
    exact harrive.of_steps (.single (.intro hp))

/-- Resolving a type does, on every registry, what the machine does that visits it. -/
theorem resolve_follows (d : Descriptor) (r : Registry) (rest : List Task) :
    Arrives classes visibility ⟨.visit d :: rest, r⟩ rest (reference classes d)
      (runOn r (resolve classes visibility d)) := by
  exact resolveWith_follows (fun _ _ hc => expandClass_follows _ hc) d r rest
    (freshCount_le_size classes r)

end HubProxy.Proofs
