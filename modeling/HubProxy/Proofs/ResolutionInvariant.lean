import Mathlib.Data.List.Nodup
import HubProxy.Proofs.ResolutionSimulation

/-!
# Invariants of resolution

What holds of agenda and registry throughout a run that starts from existing names: the reservations
are the classes still to be closed, names are claimed once, and every type met so far is handled,
that is, known under its name or still on the agenda. Each invariant is shown for one task and then
for a run.
-/

namespace HubProxy.Proofs

variable {classes : ClassTable} {visibility : String}

/-- What every effect preserves, a run preserves. -/
theorem Steps.preserve {I : List Task → Registry → Prop}
    (hI : ∀ {t rest r more r'}, Effect classes visibility t r more r' → I (t :: rest) r →
      I (more ++ rest) r')
    {c c' : Configuration} (h : Steps classes visibility c c') (hc : I c.agenda c.registry) :
    I c'.agenda c'.registry := by
  induction h with
  | refl => exact hc
  | tail _ hs ih =>
    obtain ⟨hp⟩ := hs
    exact hI (effect_of_perform hp) ih

/-- The names that a registry knows with their types. -/
def entries (r : Registry) : List (String × Descriptor) :=
  r.reserved ++ r.declared

/-- The reservations of the classes that an agenda closes. -/
def closing (classes : ClassTable) (agenda : List Task) : List (String × Descriptor) :=
  agenda.filterMap fun
    | .close id => classes[id]?.map fun c => (c.name, .cls id)
    | _ => none

/-- The registry of a run is in order. -/
structure Sound (classes : ClassTable) (visibility : String) (existing : List String)
    (agenda : List Task) (r : Registry) : Prop where
  existing_iff : ∀ name, name ∈ r.existing ↔ name ∈ existing
  reserved_eq : r.reserved = closing classes agenda
  named : ∀ p ∈ r.declared, p.2.name? classes = some p.1
  distinct : ((entries r).map (·.1)).Nodup
  fresh : ∀ p ∈ entries r, p.1 ∉ existing
  declarations_eq : r.declarations =
    r.declared.filterMap fun p => declarationOf? classes visibility p.2

lemma known?_eq_none_iff (r : Registry) (name : String) :
    known? r name = none ↔ name ∉ (entries r).map (·.1) := by
  simp only [known?, Option.or_eq_none_iff, List.lookup_eq_none_iff, entries, List.mem_map,
    List.mem_append]
  constructor
  · rintro ⟨hd, hr⟩ ⟨p, hp | hp, rfl⟩
    · simpa using hr p hp
    · simpa using hd p hp
  · intro h
    constructor
    · intro p hp
      simpa using fun he => h ⟨p, .inr hp, he.symm⟩
    · intro p hp
      simpa using fun he => h ⟨p, .inl hp, he.symm⟩

lemma isDeclared_eq_false_iff {r : Registry} {name : String} :
    r.isDeclared name = false ↔ name ∉ r.declared.map (·.1) := by
  rw [Registry.isDeclared, Option.isSome_eq_false_iff, Option.isNone_iff_eq_none,
    List.lookup_eq_none_iff, List.mem_map]
  constructor
  · rintro h ⟨p, hp, rfl⟩
    simpa using h p hp
  · intro h p hp
    simpa using fun he => h ⟨p, hp, he.symm⟩

lemma mem_of_lookup {l : List (String × α)} {name : String} {a : α}
    (h : l.lookup name = some a) : (name, a) ∈ l := by
  obtain ⟨before, after, rfl, -⟩ := List.lookup_eq_some_iff.mp h
  simp

lemma mem_entries_of_known? {r : Registry} {name : String} {d : Descriptor}
    (h : known? r name = some d) : (name, d) ∈ entries r := by
  rcases Option.or_eq_some_iff.mp h with h | ⟨-, h⟩
  · exact List.mem_append_right _ (mem_of_lookup h)
  · exact List.mem_append_left _ (mem_of_lookup h)

lemma eq_of_mem_of_nodup {l : List (String × α)} (hl : (l.map (·.1)).Nodup) {name : String}
    {a b : α} (ha : (name, a) ∈ l) (hb : (name, b) ∈ l) : a = b := by
  have h := List.inj_on_of_nodup_map hl ha hb rfl
  exact congrArg Prod.snd h

/-- In a registry in order a name is known for the type of its only entry. -/
lemma known?_eq_some_iff {r : Registry} (hr : ((entries r).map (·.1)).Nodup) {name : String}
    {d : Descriptor} : known? r name = some d ↔ (name, d) ∈ entries r := by
  refine ⟨mem_entries_of_known?, fun h => ?_⟩
  cases hk : known? r name with
  | none => exact absurd (List.mem_map_of_mem h) ((known?_eq_none_iff r name).mp hk)
  | some known => rw [eq_of_mem_of_nodup hr h (mem_entries_of_known? hk)]

@[simp] lemma closing_append (ts us : List Task) :
    closing classes (ts ++ us) = closing classes ts ++ closing classes us :=
  List.filterMap_append

lemma closing_classTasks {id : ClassId} {c : ClassDef} (hc : classes[id]? = some c) :
    closing classes (classTasks id c) = [(c.name, .cls id)] := by
  simp [classTasks, closing, hc, List.filterMap_flatMap, memberTasks]

lemma filter_ne_of_known?_eq_none {r : Registry} {name : String} (hr : known? r name = none) :
    r.reserved.filter (·.1 != name) = r.reserved := by
  rw [List.filter_eq_self]
  intro p hp
  have hne : p.1 ≠ name := fun he => (known?_eq_none_iff r name).mp hr
    (he ▸ List.mem_map_of_mem (List.mem_append_left _ hp))
  simpa using hne

lemma Sound.named_entries {existing : List String} {agenda : List Task} {r : Registry}
    (h : Sound classes visibility existing agenda r) :
    ∀ p ∈ entries r, p.2.name? classes = some p.1 := by
  intro p hp
  rcases List.mem_append.mp hp with hp | hp
  · rw [h.reserved_eq, closing, List.mem_filterMap] at hp
    obtain ⟨t, -, ht⟩ := hp
    cases t with
    | close id =>
      obtain ⟨c, hc, rfl⟩ := Option.map_eq_some_iff.mp ht
      simp [Descriptor.name?, hc]
    | _ => cases ht
  · exact h.named p hp

/-- A change of neither the known names nor the classes to close leaves order as it is. -/
lemma Sound.of_fields {existing : List String} {agenda agenda' : List Task} {r r' : Registry}
    (h : Sound classes visibility existing agenda r)
    (ha : closing classes agenda' = closing classes agenda)
    (hr : r'.existing = r.existing ∧ r'.reserved = r.reserved ∧ r'.declared = r.declared ∧
      r'.declarations = r.declarations) : Sound classes visibility existing agenda' r' := by
  obtain ⟨he, hres, hd, hdecl⟩ := hr
  have hent : entries r' = entries r := by rw [entries, entries, hres, hd]
  refine ⟨fun name => by rw [he, h.existing_iff], ?_, ?_, ?_, ?_, ?_⟩
  · rw [hres, ha, h.reserved_eq]
  · rw [hd]
    exact h.named
  · rw [hent]
    exact h.distinct
  · rw [hent]
    exact h.fresh
  · rw [hdecl, hd, h.declarations_eq]

lemma mem_entries_entering {r : Registry} {name : String} {d : Descriptor}
    {declaration : Option TypeDeclaration} {p : String × Descriptor}
    (hp : p ∈ entries (entering r name d declaration)) : p ∈ entries r ∨ p = (name, d) := by
  rcases List.mem_append.mp hp with hp | hp
  · exact .inl (List.mem_append_left _ (List.mem_filter.mp hp).1)
  · exact (List.mem_append.mp hp).imp (List.mem_append_right _) List.mem_singleton.mp

/-- Entering a type under a name that no other type is declared under keeps the names distinct. -/
lemma distinct_entering {r : Registry} {name : String} {d : Descriptor}
    {declaration : Option TypeDeclaration} (hr : ((entries r).map (·.1)).Nodup)
    (hd : name ∉ r.declared.map (·.1)) :
    ((entries (entering r name d declaration)).map (·.1)).Nodup := by
  rw [entries, List.map_append, List.nodup_append] at hr
  obtain ⟨hres, hdecl, hdisj⟩ := hr
  have hfilter : ((r.reserved.filter (·.1 != name)).map (·.1)).Nodup :=
    hres.sublist (List.filter_sublist.map _)
  simp only [entries, entering, releasing, List.map_append, List.map_cons, List.map_nil]
  rw [List.nodup_append, List.nodup_append]
  refine ⟨hfilter, ⟨hdecl, List.nodup_singleton _, ?_⟩, ?_⟩
  · rintro a ha b hb rfl
    exact hd (List.mem_singleton.mp hb ▸ ha)
  · rintro a ha b hb rfl
    obtain ⟨p, hp, rfl⟩ := List.mem_map.mp ha
    obtain ⟨hmem, hne⟩ := List.mem_filter.mp hp
    rcases List.mem_append.mp hb with hb | hb
    · exact hdisj _ (List.mem_map_of_mem hmem) _ hb rfl
    · simp [List.mem_singleton.mp hb] at hne

/-- A type may be entered under its name if this is unknown, or reserved for it alone. -/
lemma Sound.enter {existing : List String} {agenda agenda' : List Task} {r : Registry}
    {name : String} {d : Descriptor} (h : Sound classes visibility existing agenda r)
    (hn : d.name? classes = some name) (he : name ∉ existing)
    (hd : name ∉ r.declared.map (·.1))
    (ha : r.reserved.filter (·.1 != name) = closing classes agenda') :
    Sound classes visibility existing agenda'
      (entering r name d (declarationOf? classes visibility d)) := by
  refine ⟨h.existing_iff, ha, ?_, distinct_entering h.distinct hd, ?_, ?_⟩
  · intro p hp
    rcases List.mem_append.mp hp with hp | hp
    · exact h.named p hp
    · obtain rfl := List.mem_singleton.mp hp
      exact hn
  · intro p hp
    rcases mem_entries_entering hp with hp | rfl
    · exact h.fresh p hp
    · exact he
  · simp only [entering, List.filterMap_append, h.declarations_eq]
    cases hdo : declarationOf? classes visibility d <;> simp [hdo]

lemma Sound.enter_fresh {existing : List String} {agenda agenda' : List Task} {r : Registry}
    {name : String} {d : Descriptor} (h : Sound classes visibility existing agenda r)
    (hn : d.name? classes = some name) (hr : r.contains name = false)
    (ha : closing classes agenda' = closing classes agenda) :
    Sound classes visibility existing agenda'
      (entering r name d (declarationOf? classes visibility d)) := by
  obtain ⟨he, hk⟩ := (not_contains_iff r name).mp hr
  have hk' := (known?_eq_none_iff r name).mp hk
  rw [entries, List.map_append, List.mem_append, not_or] at hk'
  refine h.enter hn (fun hmem => he ((h.existing_iff name).mpr hmem)) hk'.2 ?_
  rw [filter_ne_of_known?_eq_none hk, ha, h.reserved_eq]

lemma Sound.reserve {existing : List String} {agenda agenda' : List Task} {r : Registry}
    {name : String} {d : Descriptor} (h : Sound classes visibility existing agenda r)
    (hr : r.contains name = false)
    (ha : closing classes agenda' = (name, d) :: closing classes agenda) :
    Sound classes visibility existing agenda' (reserving r name d) := by
  obtain ⟨he, hk⟩ := (not_contains_iff r name).mp hr
  have hent : entries (reserving r name d) = (name, d) :: entries r := rfl
  refine ⟨h.existing_iff, ?_, h.named, ?_, ?_, h.declarations_eq⟩
  · rw [ha, ← h.reserved_eq]
    rfl
  · rw [hent, List.map_cons, List.nodup_cons]
    exact ⟨(known?_eq_none_iff r name).mp hk, h.distinct⟩
  · intro p hp
    rcases List.mem_cons.mp hp with rfl | hp
    · exact fun hmem => he ((h.existing_iff _).mpr hmem)
    · exact h.fresh p hp

/-- A class that is to be closed has its name reserved for it alone. -/
lemma Sound.of_close {existing : List String} {rest : List Task} {r : Registry} {id : ClassId}
    {c : ClassDef} (h : Sound classes visibility existing (.close id :: rest) r)
    (hc : classes[id]? = some c) :
    r.reserved = (c.name, .cls id) :: closing classes rest ∧ c.name ∉ existing ∧
      c.name ∉ r.declared.map (·.1) := by
  have hres : r.reserved = (c.name, .cls id) :: closing classes rest := by
    rw [h.reserved_eq]
    simp [closing, hc]
  have hdist := h.distinct
  rw [entries, hres, List.cons_append, List.map_cons, List.nodup_cons, List.map_append,
    List.mem_append, not_or] at hdist
  have hmem : (c.name, .cls id) ∈ entries r := by simp [entries, hres]
  exact ⟨hres, h.fresh _ hmem, hdist.1.2⟩

lemma Sound.close {existing : List String} {rest : List Task} {r : Registry} {id : ClassId}
    {c : ClassDef} (h : Sound classes visibility existing (.close id :: rest) r)
    (hc : classes[id]? = some c) :
    Sound classes visibility existing rest
      (entering r c.name (.cls id) (declarationOf? classes visibility (.cls id))) := by
  have hn : (Descriptor.cls id).name? classes = some c.name := by simp [Descriptor.name?, hc]
  obtain ⟨hres, hfresh, hdeclared⟩ := h.of_close hc
  refine h.enter hn hfresh hdeclared ?_
  have hdist := h.distinct
  rw [entries, hres, List.cons_append, List.map_cons, List.nodup_cons, List.map_append,
    List.mem_append, not_or] at hdist
  rw [hres, List.filter_cons_of_neg (by simp), List.filter_eq_self]
  intro p hp
  have hne : p.1 ≠ c.name := fun he => hdist.1.1 (List.mem_map.mpr ⟨p, hp, he⟩)
  simpa using hne

/-- Order is preserved by every task. -/
theorem Sound.step {existing : List String} {t : Task} {rest more : List Task} {r r' : Registry}
    (he : Effect classes visibility t r more r')
    (h : Sound classes visibility existing (t :: rest) r) :
    Sound classes visibility existing (more ++ rest) r' := by
  cases he with
  | primitive name ns => exact h.of_fields rfl (importing_fields r ns)
  | array element => exact h.of_fields rfl ⟨rfl, rfl, rfl, rfl⟩
  | knownEnum => exact h.of_fields rfl ⟨rfl, rfl, rfl, rfl⟩
  | newEnum hr => exact h.enter_fresh rfl hr rfl
  | knownClass => exact h.of_fields rfl ⟨rfl, rfl, rfl, rfl⟩
  | newClass hc hr =>
    refine h.reserve hr ?_
    rw [closing_append, closing_classTasks hc]
    rfl
  | knownArray => exact h.of_fields rfl ⟨rfl, rfl, rfl, rfl⟩
  | newArray hb hn hr => exact h.enter_fresh hn hr rfl
  | close hc => exact h.close hc
  | demand => exact h.of_fields rfl ⟨rfl, rfl, rfl, rfl⟩
  | require ns => exact h.of_fields rfl (importing_fields r (some ns))

/-- What a registry knows under a name it knows from then on. -/
lemma Sound.known?_eq {existing : List String} {t : Task} {rest more : List Task} {r r' : Registry}
    (h : Sound classes visibility existing (t :: rest) r)
    (he : Effect classes visibility t r more r') {n : String} (hn : r.contains n = true) :
    known? r' n = known? r n := by
  have hother : ∀ {name}, r.contains name = false → n ≠ name := by
    rintro name hr rfl
    simp [hr] at hn
  cases he with
  | primitive name ns => simp
  | newEnum hr =>
    rw [known?_entering (isDeclared_eq_false ((not_contains_iff _ _).mp hr).2), if_neg (hother hr)]
  | newClass hc hr => rw [known?_reserving ((not_contains_iff _ _).mp hr).2, if_neg (hother hr)]
  | newArray hb hd hr =>
    rw [known?_entering (isDeclared_eq_false ((not_contains_iff _ _).mp hr).2), if_neg (hother hr)]
  | @close id c _ hc hex hd hk =>
    rw [known?_entering hd]
    split
    · next heq =>
      subst heq
      have hmem : (c.name, .cls id) ∈ entries r := by
        simp [entries, h.reserved_eq, closing, hc]
      exact ((known?_eq_some_iff h.distinct).mpr hmem).symm
    · rfl
  | require ns => simp
  | _ => rfl

/-- A type may be mentioned by its name: the name is known, and for this type or one of its
shape if it has been declared or reserved. -/
def Settled (classes : ClassTable) (r : Registry) (d : Descriptor) : Prop :=
  ∃ name, d.name? classes = some name ∧ r.contains name = true ∧ Consistent classes r name d

lemma Sound.settled {existing : List String} {t : Task} {rest more : List Task} {r r' : Registry}
    (h : Sound classes visibility existing (t :: rest) r)
    (he : Effect classes visibility t r more r') {d : Descriptor} (hd : Settled classes r d) :
    Settled classes r' d := by
  obtain ⟨name, hn, hr, hk⟩ := hd
  refine ⟨name, hn, he.contains_mono hr, ?_⟩
  unfold Consistent
  rw [h.known?_eq he hr]
  exact hk

/-- A type has been resolved as far as the agenda does not still provide for it. -/
def Handled (classes : ClassTable) (agenda : List Task) (r : Registry) : Descriptor → Prop
  | .primitive .. => True
  | .array element =>
    .visit (.array element) ∈ agenda ∨ (Handled classes agenda r element ∧
      (.wrap element ∈ agenda ∨ element.isBuiltin = true ∨
        r.contains (reference classes (.array element)).name = true))
  | .enum name members =>
    .visit (.enum name members) ∈ agenda ∨ Settled classes r (.enum name members)
  | .generic name arguments => .visit (.generic name arguments) ∈ agenda
  | .cls id => .visit (.cls id) ∈ agenda ∨ Settled classes r (.cls id)
  | .unknown id => .visit (.unknown id) ∈ agenda

lemma Handled.named {r : Registry} {d : Descriptor} (h : Handled classes [] r d) :
    ∃ name, d.name? classes = some name := by
  induction d using reference.induct with
  | case1 element ih =>
    rcases h with h | ⟨h, -⟩
    · exact absurd h (List.not_mem_nil)
    · obtain ⟨name, hn⟩ := ih h
      exact ⟨name ++ "[]", by simp [Descriptor.name?, hn]⟩
  | case2 d hleaf =>
    cases d with
    | primitive name ns => exact ⟨name, rfl⟩
    | array element => exact absurd rfl (hleaf element)
    | enum name members => exact ⟨name, rfl⟩
    | generic name arguments => exact ⟨name, rfl⟩
    | cls id =>
      rcases h with h | ⟨name, hn, -⟩
      · exact absurd h (List.not_mem_nil)
      · exact ⟨name, hn⟩
    | unknown id => exact absurd h (List.not_mem_nil)

lemma handled_of_mem {agenda : List Task} {r : Registry} {d : Descriptor}
    (h : .visit d ∈ agenda) : Handled classes agenda r d := by
  cases d with
  | primitive name ns => trivial
  | array element => exact .inl h
  | enum name members => exact .inl h
  | generic name arguments => exact h
  | cls id => exact .inl h
  | unknown id => exact h

lemma settled_of_known? {r : Registry} {d : Descriptor} {name : String}
    (hn : d.name? classes = some name) (hk : known? r name = some d) : Settled classes r d := by
  refine ⟨name, hn, (contains_iff r name).mpr (.inr (by simp [hk])), ?_⟩
  intro known hknown
  exact .inl (Option.some.inj (hknown.symm.trans hk))

lemma settled_of_visit_enum {name : String} {members : List String} {r r' : Registry}
    {more : List Task} (he : Effect classes visibility (.visit (.enum name members)) r more r') :
    Settled classes r' (.enum name members) := by
  cases he with
  | knownEnum hr hk => exact ⟨name, rfl, hr, hk⟩
  | newEnum hr =>
    refine settled_of_known? rfl ?_
    rw [known?_entering (isDeclared_eq_false ((not_contains_iff _ _).mp hr).2), if_pos rfl]

lemma settled_of_visit_cls {id : ClassId} {r r' : Registry} {more : List Task}
    (he : Effect classes visibility (.visit (.cls id)) r more r') :
    Settled classes r' (.cls id) := by
  cases he with
  | knownClass hc hr hk => exact ⟨_, by simp [Descriptor.name?, hc], hr, hk⟩
  | @newClass _ c _ hc hr =>
    have hn : (Descriptor.cls id).name? classes = some c.name := by simp [Descriptor.name?, hc]
    refine settled_of_known? hn ?_
    rw [known?_reserving ((not_contains_iff _ _).mp hr).2, if_pos rfl]

lemma contains_of_wrap {element : Descriptor} {r r' : Registry} {more : List Task}
    (he : Effect classes visibility (.wrap element) r more r') :
    element.isBuiltin = true ∨
      r'.contains (reference classes (.array element)).name = true := by
  cases he with
  | knownArray hr => exact hr
  | newArray hb hn hr =>
    refine .inr ((contains_iff _ _).mpr (.inr ?_))
    rw [reference_name hn,
      known?_entering (isDeclared_eq_false ((not_contains_iff _ _).mp hr).2), if_pos rfl]
    rfl

/-- A type that is handled stays so, also by the first tasks of the agenda alone. -/
theorem Sound.handled {existing : List String} {t : Task} {first rest more : List Task}
    {r r' : Registry} (h : Sound classes visibility existing (t :: rest) r)
    (he : Effect classes visibility t r more r') {d : Descriptor}
    (hd : Handled classes (t :: first) r d) : Handled classes (more ++ first) r' d := by
  have hrest : ∀ {u}, u ∈ t :: first → u = t ∨ u ∈ more ++ first := fun hu =>
    (List.mem_cons.mp hu).imp_right (List.mem_append_right _)
  induction d using reference.induct with
  | case1 element ih =>
    rcases hd with hv | ⟨hd, hw⟩
    · rcases hrest hv with rfl | hv
      · cases he with
        | array _ _ => exact .inr ⟨handled_of_mem (by simp), .inl (by simp)⟩
      · exact .inl hv
    · refine .inr ⟨ih hd, ?_⟩
      rcases hw with hw | hb | hr
      · rcases hrest hw with rfl | hw
        · exact .inr (contains_of_wrap he)
        · exact .inl hw
      · exact .inr (.inl hb)
      · exact .inr (.inr (he.contains_mono hr))
  | case2 d hleaf =>
    cases d with
    | primitive name ns => trivial
    | array element => exact absurd rfl (hleaf element)
    | enum name members =>
      rcases hd with hv | hd
      · rcases hrest hv with rfl | hv
        · exact .inr (settled_of_visit_enum he)
        · exact .inl hv
      · exact .inr (h.settled he hd)
    | cls id =>
      rcases hd with hv | hd
      · rcases hrest hv with rfl | hv
        · exact .inr (settled_of_visit_cls he)
        · exact .inl hv
      · exact .inr (h.settled he hd)
    | generic | unknown =>
      rcases hrest hd with rfl | hv
      · cases he
      · exact hv

/-- The properties of every class that is declared or reserved are handled, and their names are
still to be checked or not empty. -/
def MembersHandled (classes : ClassTable) (agenda : List Task) (r : Registry) : Prop :=
  ∀ name id c, (name, .cls id) ∈ entries r → classes[id]? = some c → ∀ p ∈ c.properties,
    Handled classes agenda r p.2 ∧
      (p.1 = "" → .demand false .emptyPropertyName ∈ agenda)

/-- How a task comes to claim a name for a type. -/
inductive Claims (classes : ClassTable) : Task → List Task → Descriptor → Prop
  | enum (name : String) (members : List String) :
      Claims classes (.visit (.enum name members)) [] (.enum name members)
  | cls {id : ClassId} {c : ClassDef} (hc : classes[id]? = some c) :
      Claims classes (.visit (.cls id)) (classTasks id c) (.cls id)
  | array {element : Descriptor} (hb : element.isBuiltin = false) :
      Claims classes (.wrap element) [] (.array element)

/-- A new entry is one that the task claims under a name unknown before. -/
lemma Sound.mem_entries {existing : List String} {t : Task} {rest more : List Task}
    {r r' : Registry} (h : Sound classes visibility existing (t :: rest) r)
    (he : Effect classes visibility t r more r') {p : String × Descriptor}
    (hp : p ∈ entries r') :
    p ∈ entries r ∨ (r.contains p.1 = false ∧ Claims classes t more p.2) := by
  cases he with
  | primitive name ns =>
    left
    rwa [entries, (importing_fields r ns).2.1, (importing_fields r ns).2.2.1] at hp
  | @newEnum name members _ hr =>
    rcases mem_entries_entering hp with hp | rfl
    · exact .inl hp
    · exact .inr ⟨hr, .enum name members⟩
  | newClass hc hr =>
    rcases List.mem_cons.mp hp with rfl | hp
    · exact .inr ⟨hr, .cls hc⟩
    · exact .inl hp
  | newArray hb hn hr =>
    rcases mem_entries_entering hp with hp | rfl
    · exact .inl hp
    · exact .inr ⟨hr, .array hb⟩
  | close hc =>
    rcases mem_entries_entering hp with hp | rfl
    · exact .inl hp
    · left
      simp [entries, h.reserved_eq, closing, hc]
  | require ns =>
    left
    rwa [entries, (importing_fields r (some ns)).2.1, (importing_fields r (some ns)).2.2.1] at hp
  | _ => exact .inl hp

lemma mem_classTasks {id : ClassId} {c : ClassDef} {t : Task} :
    t ∈ classTasks id c ↔ (∃ p ∈ c.properties, t = .visit p.2 ∨
      t = .demand (p.1 ≠ "") .emptyPropertyName) ∨ t = .close id := by
  simp [classTasks, memberTasks]

theorem MembersHandled.step {existing : List String} {t : Task} {rest more : List Task}
    {r r' : Registry} (hm : MembersHandled classes (t :: rest) r)
    (h : Sound classes visibility existing (t :: rest) r)
    (he : Effect classes visibility t r more r') : MembersHandled classes (more ++ rest) r' := by
  intro name id c hp hc p hmem
  rcases h.mem_entries he hp with hp | ⟨-, hclaim⟩
  · obtain ⟨hd, hempty⟩ := hm name id c hp hc p hmem
    refine ⟨h.handled he hd, fun hname => ?_⟩
    rcases List.mem_cons.mp (hempty hname) with rfl | hin
    · cases he
    · exact List.mem_append_right _ hin
  · cases hclaim with
    | cls hc' =>
      obtain rfl := Option.some.inj (hc.symm.trans hc')
      have hvisit : .visit p.2 ∈ classTasks id c := mem_classTasks.mpr (.inl ⟨p, hmem, .inl rfl⟩)
      refine ⟨handled_of_mem (List.mem_append_left _ hvisit), fun hname => ?_⟩
      exact List.mem_append_left _ (mem_classTasks.mpr (.inl ⟨p, hmem, .inr (by simp [hname])⟩))

/-- The types that are declared under their names: classes, enumerations and arrays that hold no
primitives in the end. -/
def Declarable : Descriptor → Prop
  | .cls _ | .enum .. => True
  | .array element => element.isBuiltin = false
  | _ => False

lemma Handled.contains {r : Registry} {d : Descriptor} (h : Handled classes [] r d)
    (hd : Declarable d) : ∃ name, d.name? classes = some name ∧ r.contains name = true := by
  obtain ⟨name, hn⟩ := h.named
  cases d with
  | array element =>
    rcases h with hv | ⟨-, hv | hb | hr⟩
    · exact absurd hv List.not_mem_nil
    · exact absurd hv List.not_mem_nil
    · exact absurd (hb.symm.trans hd) (by simp)
    · rw [reference_name hn] at hr
      exact ⟨name, hn, hr⟩
  | enum | cls =>
    obtain ⟨name', hn', hr, -⟩ := h.resolve_left List.not_mem_nil
    exact ⟨name', hn', hr⟩
  | _ => exact hd.elim

lemma Claims.declarable {t : Task} {more : List Task} {d : Descriptor}
    (h : Claims classes t more d) : Declarable d := by
  cases h with
  | array hb => exact hb
  | _ => trivial

/-- Everything that is met in a run lies in a set of types. -/
structure Within (P : Descriptor → Prop) (agenda : List Task) (r : Registry) : Prop where
  visits : ∀ d, .visit d ∈ agenda → P d
  wraps : ∀ element, .wrap element ∈ agenda → P (.array element)
  closes : ∀ id, .close id ∈ agenda → P (.cls id)
  entries : ∀ p ∈ entries r, P p.2 ∧ Declarable p.2

/-- A set of types that a run which starts in it does not leave: with an array it holds the
element, and with a class whose name does not exist already it holds the types of its properties. -/
structure Closed (classes : ClassTable) (existing : List String) (P : Descriptor → Prop) :
    Prop where
  element : ∀ d, P (.array d) → P d
  member : ∀ id c, P (.cls id) → classes[id]? = some c → c.name ∉ existing →
    ∀ p ∈ c.properties, P p.2

lemma Claims.within {P : Descriptor → Prop} {t : Task} {more rest : List Task} {d : Descriptor}
    {r : Registry} (h : Claims classes t more d) (hw : Within P (t :: rest) r) : P d := by
  cases h with
  | enum name members => exact hw.visits _ (by simp)
  | cls hc => exact hw.visits _ (by simp)
  | array hb => exact hw.wraps _ (by simp)

/-- The tasks that a task leads to keep to the set. -/
lemma Within.of_more {P : Descriptor → Prop} {rest more : List Task} {t : Task}
    {r r' : Registry} (hw : Within P (t :: rest) r)
    (hvisit : ∀ d, .visit d ∈ more → P d)
    (hwrap : ∀ element, .wrap element ∈ more → P (.array element))
    (hclose : ∀ id, .close id ∈ more → P (.cls id))
    (hent : ∀ p ∈ HubProxy.Proofs.entries r', P p.2 ∧ Declarable p.2) :
    Within P (more ++ rest) r' where
  visits d hd := (List.mem_append.mp hd).elim (hvisit d)
    fun h => hw.visits d (List.mem_cons_of_mem _ h)
  wraps e he := (List.mem_append.mp he).elim (hwrap e)
    fun h => hw.wraps e (List.mem_cons_of_mem _ h)
  closes id hid := (List.mem_append.mp hid).elim (hclose id)
    fun h => hw.closes id (List.mem_cons_of_mem _ h)
  entries := hent

theorem Within.step {P : Descriptor → Prop} {existing : List String} {t : Task}
    {rest more : List Task} {r r' : Registry} (hw : Within P (t :: rest) r)
    (hP : Closed classes existing P) (h : Sound classes visibility existing (t :: rest) r)
    (he : Effect classes visibility t r more r') : Within P (more ++ rest) r' := by
  have hent : ∀ p ∈ HubProxy.Proofs.entries r', P p.2 ∧ Declarable p.2 := by
    intro p hp
    rcases h.mem_entries he hp with hp | ⟨-, hclaim⟩
    · exact hw.entries p hp
    · exact ⟨hclaim.within hw, hclaim.declarable⟩
  cases he with
  | array element =>
    have harr : P (.array element) := hw.visits _ (by simp)
    exact hw.of_more (by simpa using hP.element _ harr) (by simpa using harr) (by simp) hent
  | @newClass id c _ hc hr =>
    have hcls : P (.cls id) := hw.visits _ (by simp)
    have hfresh : c.name ∉ existing := fun hmem =>
      ((not_contains_iff r c.name).mp hr).1 ((h.existing_iff c.name).mpr hmem)
    refine hw.of_more ?_ ?_ ?_ hent
    · intro d hd
      obtain ⟨p, hp, heq⟩ : ∃ p ∈ c.properties, d = p.2 := by simpa [mem_classTasks] using hd
      exact heq ▸ hP.member id c hcls hc hfresh p hp
    · intro element he
      simp [mem_classTasks] at he
    · intro id' hid
      obtain rfl : id' = id := by simpa [mem_classTasks] using hid
      exact hcls
  | _ => exact hw.of_more (by simp) (by simp) (by simp) hent

/-- What holds throughout a run: order, members provided for, and no type outside of a set. -/
structure Ordered (classes : ClassTable) (visibility : String) (existing : List String)
    (P : Descriptor → Prop) (agenda : List Task) (r : Registry) : Prop where
  sound : Sound classes visibility existing agenda r
  members : MembersHandled classes agenda r
  within : Within P agenda r

theorem Ordered.step {existing : List String} {P : Descriptor → Prop} {t : Task}
    {rest more : List Task} {r r' : Registry} (hP : Closed classes existing P)
    (h : Ordered classes visibility existing P (t :: rest) r)
    (he : Effect classes visibility t r more r') :
    Ordered classes visibility existing P (more ++ rest) r' :=
  ⟨h.sound.step he, h.members.step h.sound he, h.within.step hP h.sound he⟩

theorem Ordered.of_steps {existing : List String} {P : Descriptor → Prop}
    {c c' : Configuration} (hP : Closed classes existing P)
    (h : Ordered classes visibility existing P c.agenda c.registry)
    (hs : Steps classes visibility c c') :
    Ordered classes visibility existing P c'.agenda c'.registry :=
  hs.preserve (fun he hi => hi.step hP he) h

/-- Whatever a run is to visit is handled at its end. -/
theorem Ordered.handled_of_steps {existing : List String} {P : Descriptor → Prop}
    {c c' : Configuration} (hP : Closed classes existing P)
    (h : Ordered classes visibility existing P c.agenda c.registry)
    (hs : Steps classes visibility c c') {d : Descriptor} (hd : .visit d ∈ c.agenda) :
    Handled classes c'.agenda c'.registry d := by
  have hrun := hs.preserve
    (I := fun agenda r => Ordered classes visibility existing P agenda r ∧ Handled classes agenda r d)
    (fun he hi => ⟨hi.1.step hP he, hi.1.sound.handled he hi.2⟩) ⟨h, handled_of_mem hd⟩
  exact hrun.2

/-- A run may start from existing names with types to visit and conditions to meet. -/
theorem ordered_ofExisting {existing : List String} {P : Descriptor → Prop} {agenda : List Task}
    (hvisit : ∀ d, .visit d ∈ agenda → P d) (hwrap : ∀ element, .wrap element ∉ agenda)
    (hclose : ∀ id, .close id ∉ agenda) :
    Ordered classes visibility existing P agenda (.ofExisting existing) := by
  have hent : HubProxy.Proofs.entries (.ofExisting existing) = [] := rfl
  have hreserved : closing classes agenda = [] := by
    rw [closing, List.filterMap_eq_nil_iff]
    intro t ht
    cases t with
    | close id => exact absurd ht (hclose id)
    | _ => rfl
  refine ⟨⟨fun name => by simp [Registry.ofExisting], hreserved.symm, ?_, ?_, ?_, rfl⟩, ?_, ?_⟩
  · exact fun p hp => absurd hp (List.not_mem_nil)
  · exact hent ▸ List.nodup_nil
  · exact fun p hp => absurd (hent ▸ hp) (List.not_mem_nil)
  · exact fun name id c hp => absurd (hent ▸ hp) (List.not_mem_nil)
  · exact ⟨hvisit, fun e he => absurd he (hwrap e), fun id hid => absurd hid (hclose id),
      fun p hp => absurd (hent ▸ hp) (List.not_mem_nil)⟩

/-- A condition that a run is to meet holds if the run comes to an end. -/
theorem demand_of_steps {agenda : List Task} {r r' : Registry} {holds : Bool} {cause : BuildError}
    (hs : Steps classes visibility ⟨agenda, r⟩ ⟨[], r'⟩)
    (hd : .demand holds cause ∈ agenda) : holds = true := by
  have hrun := hs.preserve
    (I := fun agenda _ => .demand holds cause ∈ agenda ∨ holds = true) ?_ (.inl hd)
  · simpa using hrun
  · intro t rest r more r' he hi
    rcases hi with hi | hi
    · rcases List.mem_cons.mp hi with rfl | hi
      · cases he
        exact .inr rfl
      · exact .inl (List.mem_append_right _ hi)
    · exact .inr hi

end HubProxy.Proofs
