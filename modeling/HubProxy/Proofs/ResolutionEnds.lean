import Mathlib.Algebra.Order.BigOperators.Group.List
import Mathlib.Algebra.Order.Ring.Nat
import HubProxy.Proofs.BuildSuccess

/-!
# Resolution ends

A registry may know any names and a class may lead back to itself, yet resolving a type takes a
bounded number of tasks. Each task lowers what is left to do, `work`: the tasks on the agenda weigh
as much as the descriptors they are about, and a class that the registry does not know weighs as
much as its properties, which come onto the agenda when it is expanded. A class that is to be closed
has its name for itself meanwhile (`Regular`), so only few causes of failure remain.
-/

namespace HubProxy.Proofs

/-- A type of a contract: one of the five kinds, all the way down, its classes being in the table. -/
inductive IsType (classes : ClassTable) : Descriptor → Prop
  | primitive (name : String) (ns : Option String) : IsType classes (.primitive name ns)
  | array {element : Descriptor} (h : IsType classes element) : IsType classes (.array element)
  | enum (name : String) (members : List String) : IsType classes (.enum name members)
  | generic (name : String) {arguments : List Descriptor} (h : ∀ d ∈ arguments, IsType classes d) :
      IsType classes (.generic name arguments)
  | cls {id : ClassId} (h : id < classes.size) : IsType classes (.cls id)

/-- A table whose classes have properties of types only. Cycles are allowed. -/
def TypedTable (classes : ClassTable) : Prop :=
  ∀ c ∈ classes, ∀ p ∈ c.properties, IsType classes p.2

/-- The causes for which a type cannot be resolved. -/
inductive ResolutionFault : BuildError → Prop
  | genericType (display : String) : ResolutionFault (.genericType display)
  | typeConflict (name : String) : ResolutionFault (.typeConflict name)
  | emptyPropertyName : ResolutionFault .emptyPropertyName

/-- What a visit weighs: an array is visited, its element too, and then it is declared. -/
def visitWeight : Descriptor → Nat
  | .array element => visitWeight element + 2
  | _ => 1

def Task.weight : Task → Nat
  | .visit d => visitWeight d
  | _ => 1

def tasksWeight (tasks : List Task) : Nat :=
  (tasks.map Task.weight).sum

/-- What a class weighs, whatever its identity is. -/
def classWeight (c : ClassDef) : Nat :=
  tasksWeight (classTasks 0 c)

/-- What the classes weigh whose names a registry does not contain. -/
def freshWeight (classes : ClassTable) (r : Registry) : Nat :=
  ((classes.toList.filter fun c => !r.contains c.name).map classWeight).sum

/-- An upper bound on how many tasks are still carried out. -/
def work (classes : ClassTable) (c : Configuration) : Nat :=
  freshWeight classes c.registry + tasksWeight c.agenda

variable (classes : ClassTable) (visibility : String)

/-- A run of the machine with the tasks that it carries out, each with what the task leads to. -/
inductive Trace : Configuration → List (Task × List Task) → Configuration → Prop
  | done (c : Configuration) : Trace c [] c
  | next {t : Task} {rest more : List Task} {r r' : Registry} {trace : List (Task × List Task)}
      {c : Configuration} (h : runOn r (perform classes visibility t) = (.ok more, r'))
      (htrace : Trace ⟨more ++ rest, r'⟩ trace c) : Trace ⟨t :: rest, r⟩ ((t, more) :: trace) c

/-- The name of the class whose properties a task of a run expands, if it does that. -/
def expanded? : Task × List Task → Option String
  | (.visit (.cls id), _ :: _) => classes[id]?.map (·.name)
  | _ => none

def expansions (trace : List (Task × List Task)) : List String :=
  trace.filterMap (expanded? classes)

/-- What a task of a run that starts from types is about. -/
def Task.Typed : Task → Prop
  | .visit d | .wrap d => IsType classes d
  | .close id => id < classes.size
  | .demand _ cause => cause = .emptyPropertyName
  | .require _ => True

/-- Agenda and registry are about types, and every class to be closed has its name reserved for it
alone. Nothing is said about other names that the registry knows. -/
structure Regular (agenda : List Task) (r : Registry) : Prop where
  tasks : ∀ t ∈ agenda, t.Typed classes
  entries : ∀ p ∈ entries r, IsType classes p.2
  distinct : ((closing classes agenda).map (·.1)).Nodup
  held : ∀ p ∈ closing classes agenda,
    p.1 ∉ r.existing ∧ r.isDeclared p.1 = false ∧ r.reserved.lookup p.1 = some p.2

variable {classes visibility} {t : Task} {rest more : List Task} {r r' : Registry}
  {trace : List (Task × List Task)} {c c' : Configuration}

/-! ## The bound -/

lemma tasksWeight_append (ts us : List Task) :
    tasksWeight (ts ++ us) = tasksWeight ts + tasksWeight us := by
  simp [tasksWeight]

lemma tasksWeight_cons (t : Task) (ts : List Task) :
    tasksWeight (t :: ts) = t.weight + tasksWeight ts := rfl

lemma visitWeight_pos (d : Descriptor) : 0 < visitWeight d := by
  cases d <;> simp [visitWeight]

lemma Task.weight_pos (t : Task) : 0 < t.weight := by
  cases t with
  | visit d => exact visitWeight_pos d
  | _ => exact Nat.one_pos

lemma tasksWeight_classTasks (id : ClassId) (c : ClassDef) :
    tasksWeight (classTasks id c) = classWeight c := by
  simp [classWeight, classTasks, tasksWeight, Task.weight]

lemma sum_fresh_le (hknown : ∀ n, r.contains n = true → r'.contains n = true) (l : List ClassDef) :
    ((l.filter fun c => !r'.contains c.name).map classWeight).sum ≤
      ((l.filter fun c => !r.contains c.name).map classWeight).sum := by
  have hsub : (l.filter fun c => !r'.contains c.name).Sublist
      (l.filter fun c => !r.contains c.name) := by
    apply List.monotone_filter_right
    intro c hc
    by_contra hr
    have hm := hknown c.name (by simpa using hr)
    simp [hm] at hc
  exact (hsub.map classWeight).sum_le_sum fun _ _ => Nat.zero_le _

lemma Effect.freshWeight_le (he : Effect classes visibility t r more r') :
    freshWeight classes r' ≤ freshWeight classes r :=
  sum_fresh_le (fun _ => he.contains_mono) classes.toList

lemma contains_reserving {name n : String} {d : Descriptor} (hr : r.contains name = false) :
    (reserving r name d).contains n = (n == name || r.contains n) := by
  rw [Bool.eq_iff_iff, contains_iff, known?_reserving ((not_contains_iff _ _).mp hr).2,
    Bool.or_eq_true, contains_iff, beq_iff_eq]
  have hex : (reserving r name d).existing = r.existing := rfl
  by_cases hn : n = name <;> simp [hn, hex]

/-- A class that gets known does not weigh among the fresh ones any more. -/
lemma freshWeight_reserving {id : ClassId} {c : ClassDef} (hc : classes[id]? = some c)
    (hr : r.contains c.name = false) :
    freshWeight classes (reserving r c.name (.cls id)) + classWeight c ≤ freshWeight classes r := by
  have hmem : c ∈ classes.toList := by simpa using Array.mem_of_getElem? hc
  obtain ⟨before, after, hsplit⟩ := List.append_of_mem hmem
  have hkept : ∀ n, r.contains n = true → (reserving r c.name (.cls id)).contains n = true := by
    intro n hn
    rw [contains_reserving hr, hn, Bool.or_true]
  have hnow : (reserving r c.name (.cls id)).contains c.name = true := by
    rw [contains_reserving hr, beq_self_eq_true, Bool.true_or]
  have hb := sum_fresh_le hkept before
  have ha := sum_fresh_le hkept after
  simp only [freshWeight, hsplit, List.filter_append, List.filter_cons, hnow, hr, Bool.not_true,
    Bool.not_false, Bool.false_eq_true, ite_false, ite_true, List.map_append, List.map_cons,
    List.sum_append, List.sum_cons]
  omega

/-- Every task leaves less to do. -/
theorem Effect.work_lt (he : Effect classes visibility t r more r') (rest : List Task) :
    work classes ⟨more ++ rest, r'⟩ < work classes ⟨t :: rest, r⟩ := by
  have hfresh := he.freshWeight_le
  have hpos := t.weight_pos
  simp only [work, tasksWeight_append, tasksWeight_cons]
  cases he with
  | array element =>
    have hmore : tasksWeight [.visit element, .wrap element] = visitWeight element + 1 := rfl
    have ht : (Task.visit (.array element)).weight = visitWeight element + 2 := rfl
    omega
  | @newClass id c _ hc hr =>
    -- the tasks of the class weigh what the class weighed among the fresh ones
    have hlt := freshWeight_reserving hc hr
    rw [tasksWeight_classTasks]
    omega
  | _ =>
    have hmore : tasksWeight [] = 0 := rfl
    omega

/-- A run takes no more tasks than there was work to do. -/
theorem Trace.length_le (h : Trace classes visibility c trace c') :
    trace.length + work classes c' ≤ work classes c := by
  induction h with
  | done c => simp
  | @next t rest _ _ _ _ _ h _ ih =>
    have hlt := (effect_of_perform h).work_lt rest
    rw [List.length_cons]
    omega

lemma exists_trace (h : Steps classes visibility c c') :
    ∃ trace, Trace classes visibility c trace c' := by
  induction h using Relation.ReflTransGen.head_induction_on with
  | refl => exact ⟨[], .done c'⟩
  | head hs _ ih =>
    obtain ⟨hp⟩ := hs
    obtain ⟨trace, htrace⟩ := ih
    exact ⟨_, .next hp htrace⟩

/-! ## Classes expanded -/

lemma Effect.of_expanded (he : Effect classes visibility t r more r') {name : String}
    (hx : expanded? classes (t, more) = some name) :
    r.contains name = false ∧ r'.contains name = true := by
  cases he with
  | @newClass id c _ hc hr =>
    have hcons : expanded? classes (.visit (.cls id), classTasks id c) = some c.name := by
      obtain ⟨first, others, hts⟩ : ∃ first others, classTasks id c = first :: others :=
        List.exists_cons_of_ne_nil (by simp [classTasks])
      rw [hts, expanded?, hc, Option.map_some]
    obtain rfl := Option.some.inj (hcons.symm.trans hx)
    exact ⟨hr, by rw [contains_reserving hr, beq_self_eq_true, Bool.true_or]⟩
  | _ => cases hx

/-- A run expands at most one class of a name, and none of a name known before. -/
theorem Trace.expansions_fresh (h : Trace classes visibility c trace c') :
    (expansions classes trace).Nodup ∧
      ∀ name ∈ expansions classes trace, c.registry.contains name = false := by
  induction h with
  | done c => exact ⟨List.nodup_nil, fun _ h => absurd h List.not_mem_nil⟩
  | @next t rest more r r' trace c h _ ih =>
    have he := effect_of_perform h
    have hfresh : ∀ name ∈ expansions classes trace, r.contains name = false := by
      intro name hname
      by_contra hr
      have hknown := he.contains_mono (n := name) (by simpa using hr)
      rw [ih.2 name hname] at hknown
      cases hknown
    cases hx : expanded? classes (t, more) with
    | none => rw [expansions, List.filterMap_cons_none hx]; exact ⟨ih.1, hfresh⟩
    | some name =>
      obtain ⟨hbefore, hafter⟩ := he.of_expanded hx
      rw [expansions, List.filterMap_cons_some hx, List.nodup_cons, List.forall_mem_cons]
      refine ⟨⟨fun hmem => ?_, ih.1⟩, hbefore, hfresh⟩
      rw [ih.2 name hmem] at hafter
      cases hafter

/-! ## Causes of failure -/

lemma IsType.name? {d : Descriptor} (h : IsType classes d) : ∃ name, d.name? classes = some name := by
  induction h with
  | array _ ih =>
    obtain ⟨name, hn⟩ := ih
    exact ⟨name ++ "[]", by simp [Descriptor.name?, hn]⟩
  | cls h => exact ⟨_, by simp [Descriptor.name?, Array.getElem?_eq_getElem h]; rfl⟩
  | _ => exact ⟨_, rfl⟩

lemma exists_labels {l : List Descriptor} (h : ∀ d ∈ l, ∃ label, d.label? classes = some label) :
    ∃ labels, Descriptor.labels? classes l = some labels := by
  induction l with
  | nil => exact ⟨[], rfl⟩
  | cons d l ih =>
    obtain ⟨label, hlabel⟩ := h d List.mem_cons_self
    obtain ⟨labels, hlabels⟩ := ih fun d' hd' => h d' (List.mem_cons_of_mem d hd')
    exact ⟨label :: labels, by simp [Descriptor.labels?, hlabel, hlabels]⟩

lemma IsType.label? {d : Descriptor} (h : IsType classes d) :
    ∃ label, d.label? classes = some label := by
  induction h with
  | primitive name ns => exact ⟨name, rfl⟩
  | array h _ =>
    obtain ⟨name, hn⟩ := (IsType.array h).name?
    exact ⟨name, by rw [Descriptor.label?, hn]⟩
  | enum name members => exact ⟨name, rfl⟩
  | generic name _ ih =>
    obtain ⟨labels, hlabels⟩ := exists_labels ih
    exact ⟨_, by simp [Descriptor.label?, hlabels]; rfl⟩
  | cls h =>
    obtain ⟨name, hn⟩ := (IsType.cls h).name?
    exact ⟨name, by simpa [Descriptor.label?, Descriptor.name?] using hn⟩

lemma IsType.shape? (hclasses : TypedTable classes) {d : Descriptor} (h : IsType classes d) :
    ∃ shape, d.shape? classes = some shape := by
  cases h with
  | primitive name ns => exact ⟨.reference name, rfl⟩
  | array h =>
    obtain ⟨label, hlabel⟩ := (IsType.array h).label?
    exact ⟨.reference label, by simp [Descriptor.shape?, hlabel]⟩
  | enum name members => exact ⟨.enum name members, rfl⟩
  | generic name h =>
    obtain ⟨label, hlabel⟩ := (IsType.generic name h).label?
    exact ⟨.reference label, by simp [Descriptor.shape?, hlabel]⟩
  | cls h =>
    exact exists_shape_cls (Array.getElem?_eq_getElem h) fun p hp =>
      (hclasses _ (Array.getElem_mem h) p hp).label?

lemma IsType.agree (hclasses : TypedTable classes) {a b : Descriptor} (ha : IsType classes a)
    (hb : IsType classes b) : ∃ same, agree classes a b = .ok same := by
  obtain ⟨s, hs⟩ := ha.shape? hclasses
  obtain ⟨t, ht⟩ := hb.shape? hclasses
  exact ⟨s == t, by simp [HubProxy.Proofs.agree, hs, ht]⟩

/-- A name that stays as it is in the registry stays held. -/
lemma Regular.of_fields {agenda' : List Task} (h : Regular classes (t :: rest) r)
    (htasks : ∀ u ∈ agenda', u.Typed classes)
    (ha : (closing classes agenda').Sublist (closing classes (t :: rest)))
    (hr : r'.existing = r.existing ∧ r'.reserved = r.reserved ∧ r'.declared = r.declared ∧
      r'.declarations = r.declarations) : Regular classes agenda' r' where
  tasks := htasks
  entries := by
    rw [HubProxy.Proofs.entries, hr.2.1, hr.2.2.1]
    exact h.entries
  distinct := h.distinct.sublist (ha.map _)
  held p hp := by
    rw [Registry.isDeclared, hr.1, hr.2.1, hr.2.2.1]
    exact h.held p (ha.subset hp)

lemma Regular.enter {name : String} {d : Descriptor} {declaration : Option TypeDeclaration}
    (h : Regular classes (t :: rest) r) (hd : IsType classes d)
    (ha : (closing classes rest).Sublist (closing classes (t :: rest)))
    (hname : ∀ p ∈ closing classes rest, p.1 ≠ name) :
    Regular classes rest (entering r name d declaration) where
  tasks u hu := h.tasks u (List.mem_cons_of_mem t hu)
  entries p hp := by
    rcases mem_entries_entering hp with hp | rfl
    · exact h.entries p hp
    · exact hd
  distinct := h.distinct.sublist (ha.map _)
  held p hp := by
    obtain ⟨hex, hdecl, hres⟩ := h.held p (ha.subset hp)
    refine ⟨hex, ?_, ?_⟩
    · rw [isDeclared_eq_false_iff] at hdecl ⊢
      simpa [entering] using ⟨by simpa using hdecl, hname p hp⟩
    · simpa [entering, releasing, lookup_filter_ne, hname p hp] using hres

lemma Regular.ne_of_fresh {agenda : List Task} (h : Regular classes agenda r) {name : String}
    (hr : r.contains name = false) : ∀ p ∈ closing classes agenda, p.1 ≠ name := by
  rintro p hp rfl
  have hknown := ((not_contains_iff r p.1).mp hr).2
  rw [known?, Option.or_eq_none_iff, (h.held p hp).2.2] at hknown
  cases hknown.2

lemma typed_classTasks (hclasses : TypedTable classes) {id : ClassId} {c : ClassDef}
    (hc : classes[id]? = some c) : ∀ u ∈ classTasks id c, u.Typed classes := by
  intro u hu
  rcases mem_classTasks.mp hu with ⟨p, hp, rfl | rfl⟩ | rfl
  · exact hclasses c (Array.mem_of_getElem? hc) p hp
  · rfl
  · exact (Array.getElem?_eq_some_iff.mp hc).1

/-- A new class is reserved until the last of its tasks closes it. -/
lemma Regular.expand (hclasses : TypedTable classes) {id : ClassId} {c : ClassDef}
    (h : Regular classes (.visit (.cls id) :: rest) r) (hc : classes[id]? = some c)
    (hr : r.contains c.name = false) :
    Regular classes (classTasks id c ++ rest) (reserving r c.name (.cls id)) := by
  have hne := h.ne_of_fresh hr
  obtain ⟨hex, hknown⟩ := (not_contains_iff r c.name).mp hr
  have hdeclared : r.isDeclared c.name = false := isDeclared_eq_false hknown
  have hclosing : closing classes (classTasks id c ++ rest) =
      (c.name, .cls id) :: closing classes rest := by
    rw [closing_append, closing_classTasks hc, List.singleton_append]
  refine ⟨fun u hu => ?_, ?_, ?_, ?_⟩
  · exact (List.mem_append.mp hu).elim (typed_classTasks hclasses hc u) fun hmem =>
      h.tasks u (List.mem_cons_of_mem _ hmem)
  · exact List.forall_mem_cons.mpr ⟨h.tasks (.visit (.cls id)) List.mem_cons_self, h.entries⟩
  · rw [hclosing, List.map_cons, List.nodup_cons]
    refine ⟨fun hmem => ?_, h.distinct⟩
    obtain ⟨p, hp, heq⟩ := List.mem_map.mp hmem
    exact hne p hp heq
  · rw [hclosing]
    refine List.forall_mem_cons.mpr ⟨⟨hex, hdeclared, ?_⟩, fun p hp => ?_⟩
    · simp [reserving]
    · obtain ⟨hex', hdecl, hres⟩ := h.held p hp
      exact ⟨hex', hdecl, by rw [reserving, lookup_cons_ne (hne p hp), hres]⟩

theorem Regular.step (hclasses : TypedTable classes) (he : Effect classes visibility t r more r')
    (h : Regular classes (t :: rest) r) : Regular classes (more ++ rest) r' := by
  have hrest : ∀ u ∈ rest, u.Typed classes := fun u hu => h.tasks u (List.mem_cons_of_mem t hu)
  have ht : t.Typed classes := h.tasks t List.mem_cons_self
  cases he with
  | primitive name ns => exact h.of_fields hrest (List.Sublist.refl _) (importing_fields r ns)
  | array element =>
    cases ht with
    | array helement =>
      refine h.of_fields ?_ (List.Sublist.refl _) ⟨rfl, rfl, rfl, rfl⟩
      exact List.forall_mem_cons.mpr ⟨helement, List.forall_mem_cons.mpr ⟨helement, hrest⟩⟩
  | newEnum hr => exact h.enter ht (List.Sublist.refl _) (h.ne_of_fresh hr)
  | newClass hc hr => exact h.expand hclasses hc hr
  | newArray hb hn hr => exact h.enter (.array ht) (List.Sublist.refl _) (h.ne_of_fresh hr)
  | @close id c _ hc hex hd hk =>
    have hclosing : closing classes (.close id :: rest) =
        (c.name, .cls id) :: closing classes rest := by simp [closing, hc]
    have hdistinct := h.distinct
    rw [hclosing, List.map_cons, List.nodup_cons] at hdistinct
    refine h.enter (.cls ht) (hclosing ▸ List.sublist_cons_self _ _) fun p hp heq => ?_
    exact hdistinct.1 (List.mem_map.mpr ⟨p, hp, heq⟩)
  | require ns => exact h.of_fields hrest (List.Sublist.refl _) (importing_fields r (some ns))
  | knownEnum | knownClass | knownArray | demand =>
    exact h.of_fields hrest (List.Sublist.refl _) ⟨rfl, rfl, rfl, rfl⟩

/-- The mention of a type under a known name fails only over the shape of what has the name. -/
lemma Regular.visitNamed_fault (h : Regular classes (t :: rest) r) (hclasses : TypedTable classes)
    {d : Descriptor} {name : String} (hd : IsType classes d) (hn : d.name? classes = some name)
    {fresh : RegistryM (List Task)} {cause : BuildError}
    (hfresh : r.contains name = false → ∃ more r', runOn r fresh = (.ok more, r'))
    (hfail : runOn r (visitNamed classes d name fresh) = (.error cause, r')) :
    ResolutionFault cause := by
  cases hr : r.contains name with
  | false =>
    obtain ⟨more, r'', hok⟩ := hfresh hr
    simp [visitNamed, runOn_bind, hr, hok] at hfail
  | true =>
    simp only [visitNamed, runOn_bind, runOn_get, hr, ite_true, runOn_checkConsistent hn] at hfail
    cases hk : known? r name with
    | none => simp [hk] at hfail
    | some known =>
      obtain ⟨same, hsame⟩ := (h.entries _ (mem_entries_of_known? hk)).agree hclasses hd
      by_cases he : known = d
      · simp [hk, he] at hfail
      · cases same with
        | true => simp [hk, he, hsame] at hfail
        | false =>
          simp only [hk, he, ite_false, hsame, Prod.mk.injEq, Except.error.injEq] at hfail
          exact hfail.1 ▸ .typeConflict name

lemma Regular.visit_fault (h : Regular classes (t :: rest) r) (hclasses : TypedTable classes)
    {d : Descriptor} (hd : IsType classes d) {cause : BuildError}
    (hfail : runOn r (perform classes visibility (.visit d)) = (.error cause, r')) :
    ResolutionFault cause := by
  cases hd with
  | primitive name ns =>
    simp only [perform, runOn_bind, runOn_requireImport, runOn_pure] at hfail
    cases hfail
  | array helement => cases hfail
  | enum name members =>
    refine h.visitNamed_fault hclasses (.enum name members) rfl (fun hr => ?_) hfail
    exact ⟨[], _, by rw [runOn_bind, runOn_declare_fresh rfl _ hr]; rfl⟩
  | generic name harguments =>
    simp only [perform, runOn_throw, Prod.mk.injEq, Except.error.injEq] at hfail
    exact hfail.1 ▸ .genericType _
  | @cls id hid =>
    have hc := Array.getElem?_eq_getElem hid
    have hn : (Descriptor.cls id).name? classes = some classes[id].name := by
      simp [Descriptor.name?, hc]
    simp only [perform, hc] at hfail
    refine h.visitNamed_fault hclasses (.cls hid) hn (fun hr => ?_) hfail
    exact ⟨_, _, by rw [runOn_bind, runOn_reserve hn r hr]; rfl⟩

lemma perform_wrap_succeeds {element : Descriptor} (hd : IsType classes element) :
    ∃ r', runOn r (perform classes visibility (.wrap element)) = (.ok [], r') := by
  obtain ⟨name, hn⟩ := hd.array.name?
  rcases wrap_outcome classes visibility element r with hok | ⟨-, hnone, -⟩
  · exact hok
  · cases hn.symm.trans hnone

/-- A class that is closed still has its name reserved for it, and it has its own shape. -/
lemma Regular.perform_close_succeeds {id : ClassId} (h : Regular classes (.close id :: rest) r)
    (hclasses : TypedTable classes) :
    ∃ r', runOn r (perform classes visibility (.close id)) = (.ok [], r') := by
  have hid : id < classes.size := h.tasks (.close id) List.mem_cons_self
  have hc := Array.getElem?_eq_getElem hid
  have hn : (Descriptor.cls id).name? classes = some classes[id].name := by
    simp [Descriptor.name?, hc]
  obtain ⟨hex, hdecl, hres⟩ := h.held (classes[id].name, .cls id) (by simp [closing, hc])
  obtain ⟨shape, hshape⟩ := (IsType.cls hid).shape? hclasses
  have hagree : HubProxy.Proofs.agree classes (.cls id) (.cls id) = .ok true := by
    simp [HubProxy.Proofs.agree, hshape]
  have hex' : r.existing.contains classes[id].name = false := by simpa using hex
  refine ⟨entering r classes[id].name (.cls id) (declarationOf? classes visibility (.cls id)), ?_⟩
  simp only [perform, runOn_bind, runOn_declare hn _ r hex' hdecl, hres, hagree, runOn_pure]

theorem Regular.perform_fault (h : Regular classes (t :: rest) r) (hclasses : TypedTable classes)
    {cause : BuildError} (hfail : runOn r (perform classes visibility t) = (.error cause, r')) :
    ResolutionFault cause := by
  have ht : t.Typed classes := h.tasks t List.mem_cons_self
  cases t with
  | visit d => exact h.visit_fault hclasses ht hfail
  | wrap element =>
    obtain ⟨r'', hok⟩ : ∃ r'', runOn r (perform classes visibility (.wrap element)) = (.ok [], r'') :=
      perform_wrap_succeeds ht
    cases hfail.symm.trans hok
  | close id =>
    obtain ⟨r'', hok⟩ : ∃ r'', runOn r (perform classes visibility (.close id)) = (.ok [], r'') :=
      h.perform_close_succeeds hclasses
    cases hfail.symm.trans hok
  | demand holds own =>
    obtain rfl : own = .emptyPropertyName := ht
    obtain ⟨-, rfl⟩ := demand_error hfail
    exact .emptyPropertyName
  | require ns => cases (runOn_require classes visibility ns r).symm.trans hfail

lemma regular_visit {d : Descriptor} (hd : IsType classes d)
    (hr : ∀ p ∈ entries r, IsType classes p.2) : Regular classes [.visit d] r where
  tasks := List.forall_mem_singleton.mpr hd
  entries := hr
  distinct := List.nodup_nil
  held := fun _ hp => absurd hp List.not_mem_nil

/-- A computation on a registry ends as a run of the machine does: with the value, when nothing is
left to do, or with the cause for which the next task fails. -/
inductive EndsAs (classes : ClassTable) (visibility : String) (value : α) (c : Configuration) :
    Except BuildError α × Registry → Prop
  | done (h : c.agenda = []) : EndsAs classes visibility value c (.ok value, c.registry)
  | failed {t : Task} {rest : List Task} {cause : BuildError} {r' : Registry}
      (h : c.agenda = t :: rest)
      (hfail : runOn c.registry (perform classes visibility t) = (.error cause, r')) :
      EndsAs classes visibility value c (.error cause, r')

lemma exists_trace_of_arrives {value : α} {out : Except BuildError α × Registry}
    (h : Arrives classes visibility c [] value out) :
    ∃ trace c', Trace classes visibility c trace c' ∧ EndsAs classes visibility value c' out := by
  rcases out with ⟨cause | a, r'⟩
  · obtain ⟨t, rest, r, hs, hfail⟩ := h
    obtain ⟨trace, htrace⟩ := exists_trace hs
    exact ⟨trace, _, htrace, .failed rfl hfail⟩
  · obtain ⟨rfl, hs⟩ := h
    obtain ⟨trace, htrace⟩ := exists_trace hs
    exact ⟨trace, _, htrace, .done rfl⟩

/-- Resolving a type ends, whatever names the registry knows and however classes lead to each other:
no run of tasks from the visit of the type is longer than the work there is, none expands two classes
of one name or one whose name was known, and `resolve` ends as such a run does. It fails for the
given causes only, so no name is ever declared twice. -/
theorem resolve_ends (visibility : String) (hclasses : TypedTable classes) {d : Descriptor}
    (hd : IsType classes d) (hr : ∀ p ∈ entries r, IsType classes p.2) :
    (∀ trace c, Trace classes visibility ⟨[.visit d], r⟩ trace c →
      trace.length ≤ work classes ⟨[.visit d], r⟩ ∧ (expansions classes trace).Nodup ∧
        ∀ name ∈ expansions classes trace, r.contains name = false) ∧
      (∃ trace c, Trace classes visibility ⟨[.visit d], r⟩ trace c ∧
        EndsAs classes visibility (reference classes d) c (runOn r (resolve classes visibility d))) ∧
      ∀ cause r', runOn r (resolve classes visibility d) = (.error cause, r') →
        ResolutionFault cause := by
  have harrives : Arrives classes visibility ⟨[.visit d], r⟩ [] (reference classes d)
      (runOn r (resolve classes visibility d)) := resolve_follows d r []
  refine ⟨fun trace c htrace => ?_, exists_trace_of_arrives harrives, fun cause r' hfail => ?_⟩
  · obtain ⟨hnodup, hfresh⟩ := htrace.expansions_fresh
    exact ⟨Nat.le_of_add_right_le htrace.length_le, hnodup, hfresh⟩
  · rw [hfail] at harrives
    obtain ⟨t, rest, r₁, hs, hperform⟩ := harrives
    -- the task that fails is on an agenda that types have led to
    have hregular := hs.preserve (I := Regular classes) (fun he hi => hi.step hclasses he)
      (regular_visit hd hr)
    exact hregular.perform_fault hclasses hperform

/-- Two classes that lead to each other. -/
def tangledClasses : ClassTable :=
  #[⟨"Node", [("next", .cls 0), ("owners", .array (.cls 1))], false⟩,
    ⟨"Owner", [("node", .cls 0), ("kind", .enum "Kind" ["plain"])], false⟩]

/-- A registry that knows one name in every way, for another enumeration. -/
def tangledRegistry : Registry where
  existing := ["Kind", "Leaf"]
  reserved := [("Kind", .enum "Kind" ["plain"]), ("Held", .cls 1)]
  declared := [("Kind", .enum "Kind" ["round"])]
  declarations := []
  imports := []

theorem resolve_ends_tangledClasses :
    (∀ trace c, Trace tangledClasses "public" ⟨[.visit (.cls 0)], tangledRegistry⟩ trace c →
      trace.length ≤ 13 ∧ (expansions tangledClasses trace).Nodup ∧
        ∀ name ∈ expansions tangledClasses trace, name ∉ ["Kind", "Leaf", "Held"]) ∧
      (runOn tangledRegistry (resolve tangledClasses "public" (.cls 0))).1 =
        .error (.typeConflict "Kind") ∧
      ResolutionFault (.typeConflict "Kind") := by
  have hnode : IsType tangledClasses (.cls 0) := .cls (by decide)
  have howner : IsType tangledClasses (.cls 1) := .cls (by decide)
  have htable : TypedTable tangledClasses := by
    simp only [TypedTable, tangledClasses, List.mem_toArray, List.forall_mem_cons,
      List.not_mem_nil, false_imp_iff, implies_true, and_true]
    exact ⟨⟨hnode, howner.array⟩, hnode, .enum _ _⟩
  have hregistry : ∀ p ∈ entries tangledRegistry, IsType tangledClasses p.2 := by
    simp only [entries, tangledRegistry, List.cons_append, List.nil_append, List.forall_mem_cons,
      List.not_mem_nil, false_imp_iff, implies_true, and_true]
    exact ⟨.enum _ _, howner, .enum _ _⟩
  have hwork : work tangledClasses ⟨[.visit (.cls 0)], tangledRegistry⟩ = 13 := by decide
  have hfail : (runOn tangledRegistry (resolve tangledClasses "public" (.cls 0))).1 =
      .error (.typeConflict "Kind") := rfl
  obtain ⟨hbound, -, hfault⟩ := resolve_ends "public" htable hnode hregistry
  refine ⟨fun trace c htrace => ?_, hfail, hfault _ _ (Prod.ext hfail rfl)⟩
  obtain ⟨hlength, hnodup, hfresh⟩ := hbound trace c htrace
  refine ⟨hwork ▸ hlength, hnodup, fun name hname hmem => ?_⟩
  have hknown : ∀ n ∈ ["Kind", "Leaf", "Held"], tangledRegistry.contains n = true := by decide
  cases (hknown name hmem).symm.trans (hfresh name hname)

end HubProxy.Proofs
