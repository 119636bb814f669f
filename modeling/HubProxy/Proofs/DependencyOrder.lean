import HubProxy.Proofs.DeclaredTypes

/-!
# Declared types stand behind what they use

A declared type stands before one that it uses only if that one leads back to it. During a run the
declared types, followed by the reserved ones from the innermost outwards, are in the order in which
they end up: a new type comes between the two, and a class that is closed passes from one to the
other. The place of a new type is right since all tasks before the closing of a class are about types
that the class leads to.
-/

namespace HubProxy.Proofs

/-- A type leads to what it holds and to what that leads to. -/
def LeadsTo (classes : ClassTable) : Descriptor → Descriptor → Prop :=
  Relation.TransGen fun d part => part ∈ parts classes d

/-- The type that a task is about. -/
def Task.subject? : Task → Option Descriptor
  | .visit d => some d
  | .wrap element => some (.array element)
  | .close id => some (.cls id)
  | _ => none

/-- The types that must have been resolved before a task declares something. -/
def Task.awaited (classes : ClassTable) : Task → List Descriptor
  | .wrap element => parts classes (.array element)
  | .close id => parts classes (.cls id)
  | _ => []

/-- The tasks before the closing of a class are about types that the class leads to. -/
def Nested (classes : ClassTable) (agenda : List Task) : Prop :=
  agenda.Pairwise fun t u =>
    ∀ d id, t.subject? = some d → u = .close id → LeadsTo classes (.cls id) d

/-- What a task awaits is provided for by the tasks before it, the first ones being given apart. -/
def Prepared (classes : ClassTable) (r : Registry) : List Task → List Task → Prop
  | _, [] => True
  | first, t :: rest => (∀ part ∈ t.awaited classes, Handled classes first r part) ∧
      Prepared classes r (first ++ [t]) rest

/-- A type may stand before another one: it does not use that name, or is led to from there. -/
def MayPrecede (classes : ClassTable) (d later : Descriptor) : Prop :=
  ∀ part ∈ parts classes d, Declarable part → part.name? classes = later.name? classes →
    LeadsTo classes later d

/-- Declarations come and will come in an order in which types stand behind what they use. -/
structure DependencyOrder (classes : ClassTable) (agenda : List Task) (r : Registry) : Prop where
  nested : Nested classes agenda
  prepared : Prepared classes r [] agenda
  known : ∀ p ∈ r.declared, ∀ part ∈ parts classes p.2, Declarable part →
    ∃ name, part.name? classes = some name ∧ r.contains name = true
  order : (r.declared ++ r.reserved).Pairwise fun p q => MayPrecede classes p.2 q.2

variable {classes : ClassTable} {visibility : String} {existing : List String} {t : Task}
  {rest more : List Task} {r r' : Registry}

lemma mem_parts_cls {id : ClassId} {c : ClassDef} (hc : classes[id]? = some c) {part : Descriptor} :
    part ∈ parts classes (.cls id) ↔ ∃ p ∈ c.properties, p.2 = part := by
  simp [parts, hc]

lemma Effect.subject (he : Effect classes visibility t r more r') {u : Task} (hu : u ∈ more)
    {d : Descriptor} (hd : u.subject? = some d) :
    ∃ whole, t.subject? = some whole ∧ (d = whole ∨ LeadsTo classes whole d) := by
  cases he with
  | array element =>
    rcases List.mem_pair.mp hu with rfl | rfl
    · obtain rfl := Option.some.inj hd
      exact ⟨_, rfl, .inr (.single (by simp [parts]))⟩
    · obtain rfl := Option.some.inj hd
      exact ⟨_, rfl, .inl rfl⟩
  | newClass hc hr =>
    rcases mem_classTasks.mp hu with ⟨p, hp, rfl | rfl⟩ | rfl
    · obtain rfl := Option.some.inj hd
      exact ⟨_, rfl, .inr (.single ((mem_parts_cls hc).mpr ⟨p, hp, rfl⟩))⟩
    · cases hd
    · obtain rfl := Option.some.inj hd
      exact ⟨_, rfl, .inl rfl⟩
  | _ => exact absurd hu List.not_mem_nil

/-- What is done for the properties of a class neither closes a class nor awaits anything, and is
about what the class holds. -/
lemma member_task {id : ClassId} {c : ClassDef} (hc : classes[id]? = some c) {u : Task}
    (hu : u ∈ c.properties.flatMap memberTasks) :
    (∀ id', u ≠ .close id') ∧ u.awaited classes = [] ∧
      ∀ d, u.subject? = some d → d ∈ parts classes (.cls id) := by
  obtain ⟨p, hp, hu⟩ := List.mem_flatMap.mp hu
  have hcases : u = .visit p.2 ∨ u = .demand (p.1 ≠ "") .emptyPropertyName := by
    simpa [memberTasks] using hu
  rcases hcases with rfl | rfl
  · refine ⟨by simp, rfl, fun d hd => ?_⟩
    obtain rfl := Option.some.inj hd
    exact (mem_parts_cls hc).mpr ⟨p, hp, rfl⟩
  · exact ⟨by simp, rfl, by simp [Task.subject?]⟩

lemma nested_of_forall_ne_close {agenda : List Task} (h : ∀ u ∈ agenda, ∀ id, u ≠ .close id) :
    Nested classes agenda := by
  refine (List.pairwise_of_forall (R := fun _ _ => True) fun _ _ => trivial).imp_of_mem ?_
  intro _ u _ hu _ _ id _ hclose
  exact absurd hclose (h u hu id)

lemma nested_classTasks {id : ClassId} {c : ClassDef} (hc : classes[id]? = some c) :
    Nested classes (classTasks id c) := by
  rw [Nested, classTasks, List.pairwise_append]
  refine ⟨nested_of_forall_ne_close fun u hu => (member_task hc hu).1, List.pairwise_singleton _ _, ?_⟩
  intro u hu w hw d id' hd hclose
  obtain rfl := List.mem_singleton.mp hw
  obtain rfl := Task.close.inj hclose
  exact .single ((member_task hc hu).2.2 d hd)

theorem Nested.step (h : Nested classes (t :: rest)) (he : Effect classes visibility t r more r') :
    Nested classes (more ++ rest) := by
  obtain ⟨hhead, hrest⟩ := List.pairwise_cons.mp h
  rw [Nested, List.pairwise_append]
  refine ⟨?_, hrest, ?_⟩
  · cases he with
    | array element => simp
    | newClass hc hr => exact nested_classTasks hc
    | _ => exact List.Pairwise.nil
  · intro u hu w hw d id hd hclose
    obtain ⟨whole, hwhole, hle⟩ := he.subject hu hd
    have hlead := hhead w hw whole id hwhole hclose
    rcases hle with rfl | hle
    · exact hlead
    · exact hlead.trans hle

lemma prepared_append {first ts us : List Task} :
    Prepared classes r first (ts ++ us) ↔
      Prepared classes r first ts ∧ Prepared classes r (first ++ ts) us := by
  induction ts generalizing first with
  | nil => simp [Prepared]
  | cons t ts ih => simp [Prepared, ih, and_assoc]

lemma prepared_of_awaited_eq_nil {first ts : List Task} (h : ∀ u ∈ ts, u.awaited classes = []) :
    Prepared classes r first ts := by
  induction ts generalizing first with
  | nil => trivial
  | cons t ts ih =>
    refine ⟨?_, ih fun u hu => h u (List.mem_cons_of_mem t hu)⟩
    simp [h t List.mem_cons_self]

lemma Effect.prepared (he : Effect classes visibility t r more r') :
    Prepared classes r' [] more := by
  -- Only the wrapping of an array and the closing of a class await types.
  cases he with
  | array element =>
    have hvisit : Handled classes [.visit element] r element := handled_of_mem List.mem_cons_self
    simpa [Prepared, Task.awaited, parts] using hvisit
  | @newClass id c _ hc hr =>
    refine prepared_append.mpr ⟨prepared_of_awaited_eq_nil fun u hu => (member_task hc hu).2.1, ?_⟩
    refine ⟨fun part hpart => ?_, trivial⟩
    obtain ⟨p, hp, rfl⟩ := (mem_parts_cls hc).mp hpart
    exact handled_of_mem (List.mem_flatMap.mpr ⟨p, hp, by simp [memberTasks]⟩)
  | _ => trivial

theorem Prepared.step (h : Prepared classes r [] (t :: rest))
    (hs : Sound classes visibility existing (t :: rest) r)
    (he : Effect classes visibility t r more r') : Prepared classes r' [] (more ++ rest) := by
  have hrest : ∀ (us first : List Task), Prepared classes r (t :: first) us →
      Prepared classes r' (more ++ first) us := by
    -- By induction on the tasks ahead, what stands before them being left free: it changes with them.
    intro us
    induction us with
    | nil => exact fun _ _ => trivial
    | cons u us ih =>
      intro first hus
      refine ⟨fun part hpart => hs.handled he (hus.1 part hpart), ?_⟩
      rw [List.append_assoc]
      exact ih (first ++ [u]) hus.2
  refine prepared_append.mpr ⟨he.prepared, ?_⟩
  simpa using hrest rest [] h.2

/-- What a task declares is a type whose parts it awaits. -/
lemma Effect.mem_declared (he : Effect classes visibility t r more r') {p : String × Descriptor}
    (hp : p ∈ r'.declared) : p ∈ r.declared ∨ parts classes p.2 = t.awaited classes := by
  cases he with
  | primitive name ns => rw [(importing_fields r ns).2.2.1] at hp; exact .inl hp
  | require ns => rw [(importing_fields r (some ns)).2.2.1] at hp; exact .inl hp
  | newEnum | newArray | close =>
    refine (List.mem_append.mp hp).imp_right fun hp => ?_
    obtain rfl := List.mem_singleton.mp hp
    rfl
  | _ => exact .inl hp

lemma Nested.reserved_leads (h : Nested classes (t :: rest))
    (hs : Sound classes visibility existing (t :: rest) r) (ht : ∀ id, t ≠ .close id)
    {d : Descriptor} (hd : t.subject? = some d) {p : String × Descriptor} (hp : p ∈ r.reserved) :
    LeadsTo classes p.2 d := by
  rw [hs.reserved_eq, closing, List.mem_filterMap] at hp
  obtain ⟨u, hu, hup⟩ := hp
  cases u with
  | close id =>
    obtain ⟨c, -, rfl⟩ := Option.map_eq_some_iff.mp hup
    have hrest : .close id ∈ rest := (List.mem_cons.mp hu).resolve_left fun heq => ht id heq.symm
    exact (List.pairwise_cons.mp h).1 _ hrest d id hd rfl
  | _ => cases hup

lemma pairwise_insert {α : Type} {R : α → α → Prop} {l l' : List α} {a : α}
    (h : (l ++ l').Pairwise R) (hl : ∀ b ∈ l, R b a) (hl' : ∀ b ∈ l', R a b) :
    (l ++ a :: l').Pairwise R := by
  rw [List.pairwise_append] at h ⊢
  obtain ⟨hfirst, hlast, hacross⟩ := h
  refine ⟨hfirst, List.pairwise_cons.mpr ⟨hl', hlast⟩, fun b hb c hc => ?_⟩
  rcases List.mem_cons.mp hc with rfl | hc
  · exact hl b hb
  · exact hacross b hb c hc

lemma DependencyOrder.insert (h : DependencyOrder classes (t :: rest) r)
    (hs : Sound classes visibility existing (t :: rest) r) (ht : ∀ id, t ≠ .close id)
    {d : Descriptor} {name : String} (hd : t.subject? = some d) (hn : d.name? classes = some name)
    (hr : r.contains name = false) :
    (r.declared ++ (name, d) :: r.reserved).Pairwise fun p q => MayPrecede classes p.2 q.2 := by
  refine pairwise_insert h.order ?_ ?_
  -- What is declared uses known names only, and this one is unknown.
  · intro p hp part hpart hdecl heq
    obtain ⟨used, hused, hknown⟩ := h.known p hp part hpart hdecl
    obtain rfl := Option.some.inj (hused.symm.trans (heq.trans hn))
    cases hr.symm.trans hknown
  -- What is reserved leads to the type, as it is closed only afterwards.
  · intro q hq part _ _ _
    exact h.nested.reserved_leads hs ht hd hq

theorem DependencyOrder.step_order (h : DependencyOrder classes (t :: rest) r)
    (hs : Sound classes visibility existing (t :: rest) r)
    (he : Effect classes visibility t r more r') :
    (r'.declared ++ r'.reserved).Pairwise fun p q => MayPrecede classes p.2 q.2 := by
  have hkept : ∀ {name}, r.contains name = false → r.reserved.filter (·.1 != name) = r.reserved :=
    fun hr => filter_ne_of_known?_eq_none ((not_contains_iff _ _).mp hr).2
  cases he with
  | primitive name ns =>
    rw [(importing_fields r ns).2.2.1, (importing_fields r ns).2.1]
    exact h.order
  | require ns =>
    rw [(importing_fields r (some ns)).2.2.1, (importing_fields r (some ns)).2.1]
    exact h.order
  | newEnum hr =>
    have hins := h.insert hs (by simp) rfl rfl hr
    simpa [entering, releasing, hkept hr] using hins
  | newArray hb hn hr =>
    have hins := h.insert hs (by simp) rfl hn hr
    simpa [entering, releasing, hkept hr] using hins
  | @newClass id c _ hc hr =>
    exact h.insert hs (by simp) rfl (by simp [Descriptor.name?, hc]) hr
  | @close id c _ hc _ _ _ =>
    have hclosed := (hs.close hc).reserved_eq
    have hres := (hs.of_close hc).1
    have horder := h.order
    rw [hclosed]
    rw [hres] at horder
    simpa [entering] using horder
  | _ => exact h.order

theorem DependencyOrder.step (h : DependencyOrder classes (t :: rest) r)
    (hs : Sound classes visibility existing (t :: rest) r)
    (he : Effect classes visibility t r more r') : DependencyOrder classes (more ++ rest) r' := by
  refine ⟨h.nested.step he, h.prepared.step hs he, ?_, h.step_order hs he⟩
  intro p hp part hpart hdecl
  obtain ⟨name, hn, hr⟩ : ∃ name, part.name? classes = some name ∧ r.contains name = true := by
    rcases he.mem_declared hp with hp | hawaited
    · exact h.known p hp part hpart hdecl
    · exact (h.prepared.1 part (hawaited ▸ hpart)).contains hdecl
  exact ⟨name, hn, he.contains_mono hr⟩

lemma dependencyOrder_build (options : BuildOptions) (m : Metadata) (existing : List String)
    (operations : List Operation) :
    DependencyOrder m.classes (buildTasks options operations) (.ofExisting existing) := by
  have hstart : ∀ u ∈ buildTasks options operations,
      (∀ id, u ≠ .close id) ∧ u.awaited m.classes = [] := by
    intro u hu
    cases starting_of_mem hu with
    | _ => exact ⟨by simp, rfl⟩
  refine ⟨nested_of_forall_ne_close fun u hu => (hstart u hu).1,
    prepared_of_awaited_eq_nil fun u hu => (hstart u hu).2, ?_, List.Pairwise.nil⟩
  exact fun p hp => absurd hp List.not_mem_nil

variable {options : BuildOptions} {m : Metadata} {operations : List Operation}

lemma Ended.dependencyOrder (h : Ended options m existing operations r) :
    DependencyOrder m.classes [] r := by
  have hrun := h.steps.preserve
    (I := fun agenda r => Sound m.classes "public" existing agenda r ∧
      DependencyOrder m.classes agenda r)
    (fun he hi => ⟨hi.1.step he, hi.2.step hi.1 he⟩)
    ⟨(ordered_build options existing h.built).sound, dependencyOrder_build options m existing operations⟩
  exact hrun.2

lemma Ended.pairwise_mayPrecede (h : Ended options m existing operations r) :
    r.declaredTypes.Pairwise (MayPrecede m.classes) := by
  have horder := h.dependencyOrder.order
  have hreserved : r.reserved = [] := h.ordered.sound.reserved_eq
  rw [hreserved, List.append_nil] at horder
  exact List.pairwise_map.mpr horder

lemma Ended.of_mem_declaredTypes (h : Ended options m existing operations r) {d : Descriptor}
    (hd : d ∈ r.declaredTypes) : Needed m existing d ∧ Declarable d := by
  obtain ⟨p, hp, rfl⟩ := List.mem_map.mp hd
  obtain ⟨hneeded, hdecl, -⟩ := h.of_mem_declared hp
  exact ⟨hneeded, hdecl⟩

/-- No needed type leads to one of its own name. -/
def Acyclic (m : Metadata) (existing : List String) : Prop :=
  ∀ d part, Needed m existing d → Declarable d → Declarable part → LeadsTo m.classes d part →
    part.name? m.classes ≠ d.name? m.classes

/-- Without cycles a declared type has what it uses before it. -/
lemma Ended.exists_used_before (h : Ended options m existing operations r)
    (hm : Acyclic m existing) {before after : List Descriptor} {d part : Descriptor}
    (hsplit : r.declaredTypes = before ++ d :: after) (hpart : part ∈ parts m.classes d)
    (hdecl : Declarable part) : ∃ name, part.name? m.classes = some name ∧
      (name ∈ existing ∨ ∃ used ∈ before, used.name? m.classes = some name) := by
  have hd : d ∈ r.declaredTypes := by simp [hsplit]
  obtain ⟨p, hp, rfl⟩ := List.mem_map.mp hd
  obtain ⟨name, hn, hr⟩ := h.dependencyOrder.known p hp part hpart hdecl
  refine ⟨name, hn, ?_⟩
  rcases (contains_iff r name).mp hr with hex | hknown
  · exact .inl ((h.ordered.sound.existing_iff name).mp hex)
  obtain ⟨used, hused⟩ := Option.isSome_iff_exists.mp hknown
  have hmem : (name, used) ∈ r.declared := h.ordered.entries_eq ▸ mem_entries_of_known? hused
  have hname : used.name? m.classes = some name := h.ordered.sound.named _ hmem
  have hin : used ∈ r.declaredTypes := List.mem_map_of_mem (f := (·.2)) hmem
  have hleads : LeadsTo m.classes p.2 part := .single hpart
  have hpairs := h.pairwise_mayPrecede
  rw [hsplit, List.pairwise_append, List.pairwise_cons] at hpairs
  rw [hsplit, List.mem_append, List.mem_cons] at hin
  rcases hin with hin | rfl | hin
  · exact .inr ⟨used, hin, hname⟩
  · exact absurd (hn.trans hname.symm) (hm _ _ (h.of_mem_declaredTypes hd).1 (h.of_mem_declaredTypes hd).2 hdecl hleads)
  -- Behind the type stands only what leads back to it, and so to a type of its own name.
  · have hback := hpairs.2.1.1 used hin part hpart hdecl (hn.trans hname.symm)
    have hlater : used ∈ r.declaredTypes := by simp [hsplit, hin]
    exact absurd (hn.trans hname.symm)
      (hm _ _ (h.of_mem_declaredTypes hlater).1 (h.of_mem_declaredTypes hlater).2 hdecl (hback.trans hleads))

lemma MayPrecede.not_mem_parts {d later : Descriptor} (h : MayPrecede classes d later)
    (hlater : Declarable later) (hd : ¬LeadsTo classes d d) : later ∉ parts classes d :=
  fun hpart => hd (.trans (.single hpart) (h later hpart hlater rfl))

/-- A declared type stands before one whose name it uses only if that one leads back to it. So no
type stands before one that it uses where none leads to itself, and where also no name leads to
itself, the names that a type uses exist already or are declared before it. -/
theorem declaredTypes_ordered_of_build {ns className : String} {model : ApiModel}
    (h : (build options m ns className existing).1 = .ok model) :
    model.declaredTypes.Pairwise (MayPrecede m.classes) ∧
      ((∀ d ∈ model.declaredTypes, ¬LeadsTo m.classes d d) →
        model.declaredTypes.Pairwise fun d later => later ∉ parts m.classes d) ∧
      (Acyclic m existing → ∀ before d after, model.declaredTypes = before ++ d :: after →
        ∀ part ∈ parts m.classes d, Declarable part → ∃ name, part.name? m.classes = some name ∧
          (name ∈ existing ∨ ∃ used ∈ before, used.name? m.classes = some name)) := by
  obtain ⟨operations, r, hend, rfl⟩ := ended_of_build h
  have horder := hend.pairwise_mayPrecede
  refine ⟨horder, fun hm => ?_, fun hm before d after hsplit part hpart hdecl =>
    hend.exists_used_before hm hsplit hpart hdecl⟩
  refine horder.imp_of_mem fun hd hlater hmay => hmay.not_mem_parts ?_ (hm _ hd)
  exact (hend.of_mem_declaredTypes hlater).2

lemma acyclic_of_rank {m : Metadata} (existing : List String) (l : List Descriptor)
    (rank : Option String → Nat)
    (hp : ∀ t ∈ m.types, ∀ o ∈ t.operations, ∀ p ∈ o.parameters, p.2 ∈ l)
    (hparts : ∀ d ∈ l, ∀ part ∈ parts m.classes d, part ∈ l ∧
      rank (part.name? m.classes) < rank (d.name? m.classes)) : Acyclic m existing := by
  have hlower : ∀ d part, d ∈ l → LeadsTo m.classes d part →
      part ∈ l ∧ rank (part.name? m.classes) < rank (d.name? m.classes) := by
    intro d part hd hleads
    induction hleads with
    | single hpart => exact hparts d hd _ hpart
    | tail _ hpart ih =>
      have hlast := hparts _ ih.1 _ hpart
      exact ⟨hlast.1, Nat.lt_trans hlast.2 ih.2⟩
  intro d part hd _ _ hleads heq
  have hmem : d ∈ l := hd.mentioned.mem hp fun e he e' he' => (hparts e he e' he').1
  have hless := (hlower d part hmem hleads).2
  rw [heq] at hless
  exact Nat.lt_irrefl _ hless

/-- A contract with a single operation. -/
def sendingContract (parameter : Descriptor) (classes : ClassTable) : Metadata where
  source := "sending"
  types := [⟨"Hub", .hub, [⟨"send", .serverReceived, [("value", parameter)], true, none⟩]⟩,
    ⟨"Api", .clientApi, []⟩]
  classes

def treeContract : Metadata :=
  sendingContract (.cls 0) #[⟨"TreeNode", [("children", .array (.cls 0))], false⟩]

def routeContract : Metadata :=
  sendingContract (.array (.cls 0)) #[⟨"Route", [("start", .cls 1), ("color", .enum "Color" ["Red"]),
    ("stops", .array (.cls 1))], false⟩, ⟨"Coordinate", [("x", .primitive "double" none)], false⟩]

def routeRank : Option String → Nat
  | some "Route[]" => 4
  | some "Route" => 3
  | some "Coordinate[]" => 2
  | some "Coordinate" => 1
  | _ => 0

lemma acyclic_routeContract : Acyclic routeContract [] :=
  acyclic_of_rank [] [.array (.cls 0), .cls 0, .cls 1, .enum "Color" ["Red"], .array (.cls 1),
    .primitive "double" none] routeRank (by decide) (by decide)

/-- The array of a class in a cycle stands before the class; without cycles all stands behind what
it uses. -/
theorem declaredTypes_ordered_treeContract :
    (∃ model, (build {} treeContract "Games" "Proxy" []).1 = .ok model ∧
      model.declaredTypes = [.array (.cls 0), .cls 0] ∧
      LeadsTo treeContract.classes (.cls 0) (.array (.cls 0))) ∧
    ∃ model, (build {} routeContract "Games" "Proxy" []).1 = .ok model ∧
      model.declaredTypes = [.cls 1, .enum "Color" ["Red"], .array (.cls 1), .cls 0,
        .array (.cls 0)] ∧
      ∃ used ∈ [Descriptor.cls 1, .enum "Color" ["Red"]],
        used.name? routeContract.classes = some "Coordinate" := by
  have htree : ∃ model, (build {} treeContract "Games" "Proxy" []).1 = .ok model ∧
      model.declaredTypes = [.array (.cls 0), .cls 0] := ⟨_, rfl, rfl⟩
  have hroute : ∃ model, (build {} routeContract "Games" "Proxy" []).1 = .ok model ∧
      model.declaredTypes = [.cls 1, .enum "Color" ["Red"], .array (.cls 1), .cls 0,
        .array (.cls 0)] := ⟨_, rfl, rfl⟩
  obtain ⟨tree, hbuilt, htypes⟩ := htree
  obtain ⟨route, hbuilt', htypes'⟩ := hroute
  refine ⟨⟨tree, hbuilt, htypes, ?_⟩, route, hbuilt', htypes', ?_⟩
  · have horder := (declaredTypes_ordered_of_build hbuilt).1
    rw [htypes, List.pairwise_cons] at horder
    exact horder.1 (.cls 0) (by simp) (.cls 0) (by decide) trivial rfl
  · have hbefore := (declaredTypes_ordered_of_build hbuilt').2.2 acyclic_routeContract
      [.cls 1, .enum "Color" ["Red"]] (.array (.cls 1)) [.cls 0, .array (.cls 0)] htypes' (.cls 1)
      (by decide) trivial
    obtain ⟨name, hname, hused⟩ := hbefore
    obtain rfl : "Coordinate" = name := Option.some.inj hname
    exact hused.resolve_left List.not_mem_nil

end HubProxy.Proofs
