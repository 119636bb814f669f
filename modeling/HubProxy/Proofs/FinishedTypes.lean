import HubProxy.Proofs.NeededTypes
import HubProxy.Proofs.ReadingEnds

/-!
# Types are finished

A class is handed out before its properties are read, so what it has in the end is only known when the
reading that opened it is over. `Advances` says what a step of reading does to the table as a whole: it
keeps what was there, the classes under construction included, and every class that it adds is `Finished`.
The classes of a contract, which starts from an empty table, are therefore all as their definitions say.
-/

namespace HubProxy.Proofs

open Contract (ReadM TypeTable)
open Document (ValueId)

section Definitions

variable (doc : Document) (types : Section)

/-- A name is defined, and the table has its type. -/
def Known (t : TypeTable) (name : String) (d : Descriptor) : Prop :=
  (Document.findKey types name).isSome = true ∧ t.known.lookup name = some d

/-- A value is an expression of a type. -/
def Describes (named : String → Descriptor → Prop) (value : ValueId) (d : Descriptor) : Prop :=
  ∃ text, doc.value value = .scalar (.text text) ∧ Means named text.toList d

/-- A class is as its definition says. It has all the properties in the order of the document, each with
the type that its expression means, and is an interface if that is its kind. -/
def Finished (named : String → Descriptor → Prop) (c : ClassDef) : Prop :=
  ∃ definition kind entries,
    Contract.asMapping doc (Document.findKey types c.name) ("types." ++ c.name) = .ok definition ∧
    (Document.findKey definition "kind").elim (some "class") doc.text? = some kind ∧
    (kind = "class" ∨ kind = "interface") ∧ (c.isInterface = true ↔ kind = "interface") ∧
    Contract.asMapping doc (Document.findKey definition "properties")
      ("types." ++ c.name ++ ".properties") = .ok entries ∧
    List.Forall₂ (fun entry p => entry.1.outer? = some p.1 ∧ Describes doc named entry.2 p.2) entries
      c.properties

/-- What a step of reading does to the table. -/
structure Advances (t t' : TypeTable) : Prop where
  known : ∀ name d, t.known.lookup name = some d → t'.known.lookup name = some d
  kept : ∀ (id : ClassId) (c : ClassDef), t.classes[id]? = some c → t'.classes[id]? = some c
  finished : ∀ (id : ClassId) (c : ClassDef), t.classes[id]? = none → t'.classes[id]? = some c →
    Finished doc types (Known types t') c
  introduced : ∀ name d, t'.known.lookup name = some d →
    t.known.lookup name = some d ∨ UserType d ∧ d.name? t'.classes = some name

end Definitions

section Growth

variable {doc : Document} {types : Section} {named named' : String → Descriptor → Prop}
  (hnamed : ∀ name d, named name d → named' name d)

include hnamed

lemma Describes.mono {value : ValueId} {d : Descriptor} (h : Describes doc named value d) :
    Describes doc named' value d := by
  obtain ⟨text, hvalue, hmeans⟩ := h
  exact ⟨text, hvalue, hmeans.mono hnamed⟩

lemma Finished.mono {c : ClassDef} (h : Finished doc types named c) : Finished doc types named' c := by
  obtain ⟨definition, kind, entries, hdefinition, hkind, hclass, hinterface, hentries, hall⟩ := h
  exact ⟨definition, kind, entries, hdefinition, hkind, hclass, hinterface, hentries,
    hall.imp fun _ _ hp => ⟨hp.1, hp.2.mono hnamed⟩⟩

end Growth

section Advancing

variable {doc : Document} {types : Section} {t t' t'' : TypeTable}

lemma Advances.knows (h : Advances doc types t t') (name : String) (d : Descriptor)
    (hd : Known types t name d) : Known types t' name d :=
  ⟨hd.1, h.known name d hd.2⟩

lemma Advances.name?_eq (h : Advances doc types t t') {d : Descriptor} (huser : UserType d)
    {name : String} (hn : d.name? t.classes = some name) : d.name? t'.classes = some name := by
  cases d with
  | cls id =>
    obtain ⟨c, hc, rfl⟩ := Option.map_eq_some_iff.mp hn
    rw [Descriptor.name?, h.kept id c hc]
    rfl
  | enum => exact hn
  | primitive | array | generic | unknown => exact huser.elim

lemma Advances.trans (h : Advances doc types t t') (h' : Advances doc types t' t'') :
    Advances doc types t t'' where
  known name d hd := h'.known name d (h.known name d hd)
  kept id c hc := h'.kept id c (h.kept id c hc)
  finished id c hnew hc := by
    cases hmid : t'.classes[id]? with
    | none => exact h'.finished id c hmid hc
    | some c' =>
      obtain rfl := Option.some.inj ((h'.kept id c' hmid).symm.trans hc)
      exact (h.finished id c' hnew hmid).mono h'.knows
  introduced name d hd := by
    rcases h'.introduced name d hd with hd | hd
    · exact (h.introduced name d hd).imp id fun hd => ⟨hd.1, h'.name?_eq hd.1 hd.2⟩
    · exact .inr hd

instance : IsPreorder TypeTable (Advances doc types) where
  refl _ := ⟨fun _ _ hd => hd, fun _ _ hc => hc,
    fun _ _ hnone hc => (Option.some_ne_none _ (hc.symm.trans hnone)).elim, fun _ _ hd => .inl hd⟩
  trans _ _ _ h h' := h.trans h'

lemma lookup_cons_cases {name name' : String} {d d' : Descriptor} {l : List (String × Descriptor)}
    (h : ((name, d) :: l).lookup name' = some d') : name' = name ∧ d' = d ∨ l.lookup name' = some d' := by
  by_cases hname : name' = name
  · subst hname
    rw [List.lookup_cons_self] at h
    exact .inl ⟨rfl, (Option.some.inj h).symm⟩
  · rw [lookup_cons_ne hname] at h
    exact .inr h

lemma lookup_cons_of_new {name name' : String} {d d' : Descriptor} {l : List (String × Descriptor)}
    (hnew : l.lookup name = none) (h : l.lookup name' = some d') :
    ((name, d) :: l).lookup name' = some d' := by
  have hname : name' ≠ name := by
    rintro rfl
    exact Option.some_ne_none _ (h.symm.trans hnew)
  rwa [lookup_cons_ne hname]

/-- An enumeration enters the table. -/
lemma advances_withEnum {name : String} (hnew : t.known.lookup name = none) (members : List String) :
    Advances doc types t (withEnum t name members) where
  known _ _ hd := lookup_cons_of_new hnew hd
  kept _ _ hc := hc
  finished _ _ hnone hc := (Option.some_ne_none _ (hc.symm.trans hnone)).elim
  introduced _ _ hd := by
    rcases lookup_cons_cases hd with ⟨rfl, rfl⟩ | hd
    · exact .inr ⟨trivial, rfl⟩
    · exact .inl hd

/-- A class that has been opened is closed with what its definition says. Between the two, the table
advances from where the class is open. -/
lemma advances_closed {name : String} (hnew : t.known.lookup name = none) {isInterface : Bool}
    (h : Advances doc types (withClass t name isInterface) t') {properties : List (String × Descriptor)}
    (hfinished : Finished doc types (Known types t') ⟨name, properties, isInterface⟩) :
    Advances doc types t (withProperties t' t.classes.size properties) := by
  have hopen : t'.classes[t.classes.size]? = some ⟨name, [], isInterface⟩ :=
    h.kept _ _ (by simp [withClass])
  have hclosed : (withProperties t' t.classes.size properties).classes[t.classes.size]? =
      some ⟨name, properties, isInterface⟩ := by
    simp [withProperties, Array.getElem?_modify, hopen]
  have hother : ∀ id ≠ t.classes.size,
      (withProperties t' t.classes.size properties).classes[id]? = t'.classes[id]? := fun id hid => by
    simp [withProperties, Array.getElem?_modify, hid.symm]
  refine ⟨fun n d hd => h.known n d (lookup_cons_of_new hnew hd), fun id c hc => ?_,
    fun id c hnone hc => ?_, fun n d hd => ?_⟩
  · have hlt : id < t.classes.size := (Array.getElem?_eq_some_iff.mp hc).1
    rw [hother id hlt.ne]
    refine h.kept id c ?_
    rw [withClass, Array.getElem?_push_lt hlt, ← hc]
    exact (Array.getElem?_eq_getElem hlt).symm
  · by_cases hid : id = t.classes.size
    · subst hid
      obtain rfl := Option.some.inj (hclosed.symm.trans hc)
      exact hfinished
    · rw [hother id hid] at hc
      refine h.finished id c ?_ hc
      have hle : t.classes.size ≤ id := Array.getElem?_eq_none_iff.mp hnone
      refine Array.getElem?_eq_none_iff.mpr ?_
      rw [withClass, Array.size_push]
      exact Nat.lt_of_le_of_ne hle (Ne.symm hid)
  · have hname : ∀ id', (Descriptor.cls id').name? t'.classes = some n →
        (Descriptor.cls id').name? (withProperties t' t.classes.size properties).classes = some n :=
      fun id' hn => by rwa [name?_withProperties]
    rcases h.introduced n d hd with hd | ⟨huser, hn⟩
    · rcases lookup_cons_cases hd with ⟨rfl, rfl⟩ | hd
      · exact .inr ⟨trivial, hname _ (by rw [Descriptor.name?, hopen]; rfl)⟩
      · exact .inl hd
    · refine .inr ⟨huser, ?_⟩
      cases d with
      | cls id' => exact hname id' hn
      | enum => exact hn
      | primitive | array | generic | unknown => exact huser.elim

end Advancing

section Reading

variable {doc : Document} {types : Section}

/-- A step of reading from any table, which advances it and yields what satisfies `post`. -/
abbrev AdvancesTo (doc : Document) (types : Section) (pre : TypeTable → Prop) (x : ReadM α)
    (post : α → TypeTable → Prop) : Prop :=
  Yields (Advances doc types) (fun _ => True) pre x post

/-- Reading an expression yields what it means. -/
lemma advances_readExpression {named : String → ReadM Descriptor} {place : String}
    (hn : ∀ name, (Document.findKey types name).isSome = true →
      AdvancesTo doc types (fun _ => True) (named name) fun d t => Known types t name d)
    (bound : Nat) (cs : List Char) :
    AdvancesTo doc types (fun _ => True)
      (Contract.readExpression named (fun name => (Document.findKey types name).isSome) place bound cs)
      fun d t => Means (Known types t) cs d := by
  induction bound generalizing cs with
  | zero => exact yields_throw _ _
  | succ bound ih =>
    unfold Contract.readExpression
    dsimp only
    split
    · exact yields_throw _ _
    cases houter : Outer.ofTrimmed (Text.trimChars cs) with
    | array element => exact yields_bind (ih element) fun d => yields_pure fun t _ hd => .array houter hd
    | nullable element =>
      exact yields_bind (ih element) fun d => yields_pure fun t _ hd => .nullable houter hd
    | generic base arguments =>
      refine yields_bind (yields_forall₂ (fun cs d t t' ht hd => hd.mono ht.knows) fun cs _ => ih cs)
        fun ds => yields_pure fun t _ hds => ?_
      obtain ⟨hlength, hmeans⟩ := List.forall₂_iff_zip.mp hds
      exact .generic houter hlength fun argument d hmem => hmeans hmem
    | name text =>
      dsimp only
      cases hprimitive : primitive? (String.ofList text) with
      | some d => exact yields_pure fun t _ _ => .primitive houter hprimitive
      | none =>
        by_cases hdefined : (Document.findKey types (String.ofList text)).isSome = true
        · rw [if_pos hdefined]
          exact (hn _ hdefined).mono (fun _ h => h) fun d t hd => .named houter hprimitive hd
        · rw [if_neg hdefined]
          exact yields_throw _ _

lemma advances_properties {property : ValueId → String → ReadM Descriptor}
    (hp : ∀ value place, AdvancesTo doc types (fun _ => True) (property value place)
      fun d t => Describes doc (Known types t) value d) (place : String) (entries : Section) :
    AdvancesTo doc types (fun _ => True)
      (entries.mapM fun entry => do
        let key ← Contract.shown entry.1.outer?
        return (key, ← property entry.2 (place ++ "." ++ key)))
      fun ps t => List.Forall₂
        (fun entry p => entry.1.outer? = some p.1 ∧ Describes doc (Known types t) entry.2 p.2) entries ps := by
  refine yields_forall₂ (fun entry p t t' ht hp => ⟨hp.1, hp.2.mono ht.knows⟩) fun entry _ => ?_
  intro t p t' _ _ hrun
  obtain ⟨key, s, hshown, hrun⟩ := ok_of_run_bind hrun
  obtain ⟨hkey, rfl⟩ := ok_of_run_shown hshown
  obtain ⟨d, s, hproperty, hrun⟩ := ok_of_run_bind hrun
  obtain ⟨rfl, rfl⟩ := ok_of_run_pure hrun
  obtain ⟨-, hadvances, hd⟩ := hp _ _ _ _ _ trivial trivial hproperty
  exact ⟨trivial, hadvances, hkey, hd⟩

/-- A definition that has not been met becomes a finished type. -/
lemma advances_readDefinition {property : ValueId → String → ReadM Descriptor}
    (hp : ∀ value place, AdvancesTo doc types (fun _ => True) (property value place)
      fun d t => Describes doc (Known types t) value d) {name : String}
    (hdefined : (Document.findKey types name).isSome = true) :
    AdvancesTo doc types (fun t => t.known.lookup name = none)
      (Contract.readDefinition doc types property name) fun d t => Known types t name d := by
  intro t d t' _ hnew hrun
  unfold Contract.readDefinition at hrun
  obtain ⟨definition, s, hlift, hrun⟩ := ok_of_run_bind hrun
  obtain ⟨hdefinition, rfl⟩ := ok_of_run_lift hlift
  obtain ⟨kind, s, hshown, hrun⟩ := ok_of_run_bind hrun
  obtain ⟨hkind, rfl⟩ := ok_of_run_shown hshown
  split at hrun
  · obtain ⟨members, s, hmembers, hrun⟩ := ok_of_run_bind hrun
    obtain ⟨-, rfl⟩ := ok_of_run_lift hmembers
    obtain ⟨rfl, rfl⟩ : .enum name members = d ∧ withEnum t name members = t' := ok_of_run_pure hrun
    exact ⟨trivial, advances_withEnum hnew members, hdefined, List.lookup_cons_self⟩
  split at hrun
  · next hclass =>
    obtain ⟨before, s, hget, hrun⟩ := ok_of_run_bind hrun
    obtain ⟨rfl, rfl⟩ := ok_of_run_get hget
    obtain ⟨_, s, hpush, hrun⟩ := ok_of_run_bind hrun
    obtain rfl := ok_of_run_modify hpush
    obtain ⟨_, s, hremember, hrun⟩ := ok_of_run_bind hrun
    obtain rfl : withClass t name (kind = "interface") = s := ok_of_run_modify hremember
    obtain ⟨entries, s, hlift, hrun⟩ := ok_of_run_bind hrun
    obtain ⟨hentries, rfl⟩ := ok_of_run_lift hlift
    obtain ⟨properties, s, hproperties, hrun⟩ := ok_of_run_bind hrun
    obtain ⟨_, s', hclose, hrun⟩ := ok_of_run_bind hrun
    obtain rfl : withProperties s t.classes.size properties = s' := ok_of_run_modify hclose
    obtain ⟨rfl, rfl⟩ := ok_of_run_pure hrun
    obtain ⟨-, hadvances, hall⟩ :=
      advances_properties hp ("types." ++ name) entries _ _ _ trivial trivial hproperties
    refine ⟨trivial, advances_closed hnew hadvances ?_, hdefined, ?_⟩
    · exact ⟨definition, kind, entries, hdefinition, hkind, hclass, by simp, hentries, hall⟩
    · exact hadvances.known name _ List.lookup_cons_self
  · cases hrun

lemma advances_lookup {name : String} (hdefined : (Document.findKey types name).isSome = true)
    {x : ReadM Descriptor} (hx : AdvancesTo doc types (fun t => t.known.lookup name = none) x
      fun d t => Known types t name d) :
    AdvancesTo doc types (fun _ => True) (do
      match (← get).known.lookup name with
      | some d => return d
      | none => x) fun d t => Known types t name d := by
  refine yields_bind yields_get fun t => ?_
  cases hlookup : t.known.lookup name with
  | some d => exact yields_pure fun s _ hs => ⟨hdefined, hs.2 ▸ hlookup⟩
  | none => exact hx.mono (fun s hs => hs.2 ▸ hlookup) fun _ _ h => h

/-- Reading a type advances the table and yields what the expression means. -/
lemma advances_readType (doc : Document) (types : Section) (depth : Nat) (value : ValueId)
    (place : String) : AdvancesTo doc types (fun _ => True)
      (Contract.readType doc types depth value place)
      fun d t => Describes doc (Known types t) value d := by
  induction depth using Nat.strong_induction_on generalizing value place with
  | h depth ih =>
  unfold Contract.readType
  split
  · next text hvalue =>
    refine (advances_readExpression (fun name hdefined => ?_) _ _).mono (fun _ h => h)
      fun d t hd => ⟨text, hvalue, hd⟩
    refine advances_lookup hdefined ?_
    cases depth with
    | zero => exact yields_throw _ _
    | succ depth => exact advances_readDefinition (ih depth (Nat.lt_succ_self depth)) hdefined
  · exact yields_throw _ _

end Reading

/-- The types that occur in a contract, those that stand as arguments of others included. -/
inductive Occurs (m : Metadata) : Descriptor → Prop
  | parameter {t : ContractType} {o : Operation} {p : String × Descriptor} (ht : t ∈ m.types)
      (ho : o ∈ t.operations) (hp : p ∈ o.parameters) : Occurs m p.2
  | element {d : Descriptor} (h : Occurs m (.array d)) : Occurs m d
  | argument {name : String} {ds : List Descriptor} {d : Descriptor} (h : Occurs m (.generic name ds))
      (hd : d ∈ ds) : Occurs m d
  | member {id : ClassId} {c : ClassDef} {p : String × Descriptor} (h : Occurs m (.cls id))
      (hc : m.classes[id]? = some c) (hp : p ∈ c.properties) : Occurs m p.2

lemma Mentioned.occurs {m : Metadata} {d : Descriptor} (h : Mentioned m d) : Occurs m d := by
  induction h with
  | parameter ht ho hp => exact .parameter ht ho hp
  | element _ ih => exact .element ih
  | member _ hc hp ih => exact .member ih hc hp

/-- A class or an enumeration occurs in a contract under a name. -/
def OccursAs (m : Metadata) (name : String) (d : Descriptor) : Prop :=
  Occurs m d ∧ UserType d ∧ d.name? m.classes = some name

section Contracts

variable {doc : Document} {types : Section} {t : TypeTable} {m : Metadata}

/-- The classes of a contract are those of a table of finished types, which has the parameters of its
operations. -/
structure FinishedContract (doc : Document) (types : Section) (t : TypeTable) (m : Metadata) : Prop where
  classes : m.classes = t.classes
  finished : ∀ (id : ClassId) (c : ClassDef), t.classes[id]? = some c →
    Finished doc types (Known types t) c
  named : ∀ name d, Known types t name d → UserType d ∧ d.name? t.classes = some name
  parameters : ∀ c ∈ m.types, ∀ o ∈ c.operations, ∀ p ∈ o.parameters,
    ∃ cs, Means (Known types t) cs p.2

/-- A contract that has been read is finished. -/
theorem finishedContract_of_ofDocument {source : String}
    (h : Contract.ofDocument doc source = .ok m) : ∃ types t,
      Contract.asMapping doc (Document.findKey (rootOf doc) "types") "types" = .ok types ∧
      FinishedContract doc types t m := by
  obtain ⟨types, t, htypes, hread, hclasses⟩ := sections_of_ofDocument h
  have htype : ∀ value place, AdvancesTo doc types (fun _ => True)
      (Contract.readType doc types types.length value place)
      fun d t => ∃ cs, Means (Known types t) cs d := fun value place =>
    (advances_readType doc types _ value place).mono (fun _ h => h)
      fun d t ⟨text, _, hmeans⟩ => ⟨text.toList, hmeans⟩
  have hkeeps : ∀ t t' d, Advances doc types t t' → (∃ cs, Means (Known types t) cs d) →
      ∃ cs, Means (Known types t') cs d := fun t t' d ht ⟨cs, hmeans⟩ => ⟨cs, hmeans.mono ht.knows⟩
  obtain ⟨-, hadvances, hparameters⟩ :=
    yields_sections hkeeps htype (rootOf doc) _ _ _ trivial trivial hread
  refine ⟨types, t, htypes, hclasses, fun id c hc => hadvances.finished id c (by simp) hc,
    fun name d hd => ?_, hparameters⟩
  exact (hadvances.introduced name d hd.2).resolve_left fun hnone => nomatch hnone

lemma FinishedContract.means (h : FinishedContract doc types t m) {d : Descriptor} (hd : Occurs m d) :
    ∃ cs, Means (Known types t) cs d := by
  induction hd with
  | parameter hc ho hp => exact h.parameters _ hc _ ho _ hp
  | element _ ih =>
    obtain ⟨cs, hmeans⟩ := ih
    cases hmeans with
    | array _ hd => exact ⟨_, hd⟩
    | primitive _ hd =>
      obtain ⟨word, ns, hd⟩ := eq_primitive_of_primitive? hd
      cases hd
    | named _ _ hd => exact (h.named _ _ hd).1.elim
  | argument _ hd ih =>
    obtain ⟨cs, hmeans⟩ := ih
    cases hmeans with
    | nullable _ hinner => exact ⟨_, List.mem_singleton.mp hd ▸ hinner⟩
    | generic _ hlength hds =>
      obtain ⟨argument, -, hargument⟩ :=
        exists_of_forall₂ (List.forall₂_iff_zip.mpr ⟨hlength, hds _ _⟩) hd
      exact ⟨argument, hargument⟩
    | primitive _ hd =>
      obtain ⟨word, ns, hd⟩ := eq_primitive_of_primitive? hd
      cases hd
    | named _ _ hd => exact (h.named _ _ hd).1.elim
  | member _ hc hp _ =>
    rw [h.classes] at hc
    obtain ⟨_, _, _, -, -, -, -, -, hall⟩ := h.finished _ _ hc
    obtain ⟨entry, -, -, text, -, hmeans⟩ := exists_of_forall₂ hall hp
    exact ⟨text.toList, hmeans⟩

lemma FinishedContract.known (h : FinishedContract doc types t m) {d : Descriptor} (hd : Occurs m d)
    (huser : UserType d) : ∃ name, Known types t name d := by
  obtain ⟨cs, hmeans⟩ := h.means hd
  cases hmeans with
  | array | nullable | generic => exact huser.elim
  | primitive _ hd =>
    obtain ⟨word, ns, rfl⟩ := eq_primitive_of_primitive? hd
    exact huser.elim
  | named _ _ hd => exact ⟨_, hd⟩

/-- The meaning of an expression whose type occurs in the contract refers to what occurs there. -/
lemma FinishedContract.means_occurring (h : FinishedContract doc types t m) {cs : List Char}
    {d : Descriptor} (hmeans : Means (Known types t) cs d) (hd : Occurs m d) :
    Means (OccursAs m) cs d := by
  induction hmeans with
  | array houter _ ih => exact .array houter (ih hd.element)
  | nullable houter _ ih => exact .nullable houter (ih (hd.argument List.mem_cons_self))
  | generic houter hlength _ ih =>
    exact .generic houter hlength fun argument d hmem =>
      ih argument d hmem (hd.argument (List.of_mem_zip hmem).2)
  | primitive houter hprimitive => exact .primitive houter hprimitive
  | named houter hother hknown =>
    obtain ⟨huser, hn⟩ := h.named _ _ hknown
    exact .named houter hother ⟨hd, huser, h.classes ▸ hn⟩

lemma FinishedContract.eq_of_occursAs (h : FinishedContract doc types t m) {name : String}
    {d d' : Descriptor} (hd : OccursAs m name d) (hd' : OccursAs m name d') : d = d' := by
  have hlookup : ∀ {d}, OccursAs m name d → t.known.lookup name = some d := by
    intro d ⟨hd, huser, hn⟩
    obtain ⟨name', hknown⟩ := h.known hd huser
    have hn' := (h.named name' d hknown).2
    rw [← h.classes] at hn'
    obtain rfl := Option.some.inj (hn.symm.trans hn')
    exact hknown.2
  exact Option.some.inj ((hlookup hd).symm.trans (hlookup hd'))

/-- No class and no enumeration of a contract has the name of a primitive. -/
lemma FinishedContract.primitive?_eq_none (h : FinishedContract doc types t m) {name : String}
    {d : Descriptor} (hd : OccursAs m name d) : primitive? name = none := by
  obtain ⟨hoccurs, huser, hn⟩ := hd
  obtain ⟨cs, hmeans⟩ := h.means hoccurs
  cases hmeans with
  | array | nullable | generic => exact huser.elim
  | primitive _ hprimitive =>
    obtain ⟨word, ns, rfl⟩ := eq_primitive_of_primitive? hprimitive
    exact huser.elim
  | named _ hother hknown =>
    have hname := (h.named _ _ hknown).2
    rw [← h.classes] at hname
    exact Option.some.inj (hn.symm.trans hname) ▸ hother

lemma primitive?_eq_none_of_ofText {text source name : String} {d : Descriptor}
    (hread : Contract.ofText text source = .ok m) (hd : OccursAs m name d) : primitive? name = none := by
  unfold Contract.ofText at hread
  split at hread
  · cases hread
  · cases hread
  · obtain ⟨_, _, -, hfinished⟩ := finishedContract_of_ofDocument hread
    exact hfinished.primitive?_eq_none hd

lemma FinishedContract.finished_class (h : FinishedContract doc types t m) {id : ClassId}
    (hd : Occurs m (.cls id)) :
    ∃ c, m.classes[id]? = some c ∧ Finished doc types (OccursAs m) c := by
  obtain ⟨name, hknown⟩ := h.known hd trivial
  obtain ⟨c, hc, -⟩ := Option.map_eq_some_iff.mp (h.named name _ hknown).2
  have hclass : m.classes[id]? = some c := h.classes ▸ hc
  obtain ⟨definition, kind, entries, hdefinition, hkind, hcls, hinterface, hentries, hall⟩ :=
    h.finished id c hc
  refine ⟨c, hclass, definition, kind, entries, hdefinition, hkind, hcls, hinterface, hentries,
    (forall₂_mem_right hall).imp ?_⟩
  rintro entry p ⟨hp, hkey, text, hvalue, hmeans⟩
  exact ⟨hkey, text, hvalue, h.means_occurring hmeans (.member hd hclass hp)⟩

end Contracts

/-- Reading the types of a document ends: from some depth on, it does not matter what the calls at that
depth would do. If a contract comes of it, classes and enumerations of one name in it are the same type,
and every class is as its definition says, whether or not it contains itself. -/
theorem types_are_finished (doc : Document) (source : String) :
    (∀ (types : Section) (n : Nat), callDepth doc types ≤ n → ∀ inner id place,
      (readOnce doc types)^[n] inner (doc.value id) place =
        Contract.readType doc types types.length id place) ∧
    ∀ m, Contract.ofDocument doc source = .ok m →
      (∀ name d d', OccursAs m name d → OccursAs m name d' → d = d') ∧
      ∃ types, Contract.asMapping doc (Document.findKey (rootOf doc) "types") "types" = .ok types ∧
        ∀ id, Occurs m (.cls id) →
          ∃ c, m.classes[id]? = some c ∧ Finished doc types (OccursAs m) c := by
  refine ⟨fun types n hn inner id place => readOnce_iterate doc types hn inner id place,
    fun m hread => ?_⟩
  obtain ⟨types, t, htypes, h⟩ := finishedContract_of_ofDocument hread
  exact ⟨fun name d d' hd hd' => h.eq_of_occursAs hd hd', types, htypes,
    fun id hid => h.finished_class hid⟩

/-- A class that contains itself, both directly and through an interface. -/
def ringDocument : Document where
  values := #[
    .mapping [(.text "types", 1), (.text "client_api", 2)],
    .mapping [(.text "Node", 3), (.text "Edge", 4)],
    .mapping [(.text "operations", 5)],
    .mapping [(.text "properties", 6)],
    .mapping [(.text "kind", 7), (.text "properties", 8)],
    .sequence [9],
    .mapping [(.text "next", 10), (.text "edges", 11)],
    .scalar (.text "interface"),
    .mapping [(.text "ends", 12)],
    .mapping [(.text "name", 13), (.text "parameters", 14)],
    .scalar (.text "Node?"),
    .scalar (.text "List<Edge[]>"),
    .scalar (.text "Node[]"),
    .scalar (.text "Visit"),
    .mapping [(.text "node", 15)],
    .scalar (.text "Node")]
  top := 0

theorem types_are_finished_ringDocument : ∃ m, Contract.ofDocument ringDocument "ring.yml" = .ok m ∧
    (m.types.flatMap (·.operations)).flatMap (·.parameters) = [("node", .cls 0)] ∧
    m.classes.toList.map (·.properties) =
      [[("next", .generic "Nullable" [.cls 0]), ("edges", .generic "List" [.array (.cls 1)])],
        [("ends", .array (.cls 0))]] ∧
    ∃ types, Contract.asMapping ringDocument (Document.findKey (rootOf ringDocument) "types") "types" =
      .ok types ∧ ∀ id, Occurs m (.cls id) →
        ∃ c, m.classes[id]? = some c ∧ Finished ringDocument types (OccursAs m) c := by
  have hread : (Contract.ofDocument ringDocument "ring.yml").toOption.any (fun m =>
      (m.types.flatMap (·.operations)).flatMap (·.parameters) = [("node", .cls 0)] ∧
      m.classes.toList.map (·.properties) =
        [[("next", .generic "Nullable" [.cls 0]), ("edges", .generic "List" [.array (.cls 1)])],
          [("ends", .array (.cls 0))]]) = true := by
    decide +kernel
  cases hm : Contract.ofDocument ringDocument "ring.yml" with
  | error e =>
    rw [hm] at hread
    cases hread
  | ok m =>
    rw [hm] at hread
    obtain ⟨hparameters, hclasses⟩ := of_decide_eq_true hread
    exact ⟨m, rfl, hparameters, hclasses, ((types_are_finished ringDocument "ring.yml").2 m hm).2⟩

end HubProxy.Proofs
