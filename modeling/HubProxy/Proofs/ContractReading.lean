import Mathlib.Order.Defs.Unbundled
import HubProxy.Contract.FromDocument
import HubProxy.Proofs.Basic

/-!
# What reading a contract keeps

Reading a document fills a table of types. What a step does to the table is stated by `Yields` over any
preorder of tables, and goes from the reading of a type to that of a whole contract. A
`ReadingInvariant` is a condition on tables, with one on the types that have been read, that every entry
into the table keeps. From the entries it follows for each step of reading, and so for the contract that
a text describes.
-/

namespace HubProxy.Proofs

open Contract (ReadM TypeTable)

/-- A table knows what another one knows, and its classes have the names that they have there. -/
structure Grows (t t' : TypeTable) : Prop where
  known : ∀ p ∈ t.known, p ∈ t'.known
  names : ∀ id name, (Descriptor.cls id).name? t.classes = some name →
    (Descriptor.cls id).name? t'.classes = some name

instance : IsPreorder TypeTable Grows where
  refl _ := ⟨fun _ hp => hp, fun _ _ hn => hn⟩
  trans _ _ _ h h' :=
    ⟨fun p hp => h'.known p (h.known p hp), fun id name hn => h'.names id name (h.names id name hn)⟩

def withEnum (t : TypeTable) (name : String) (members : List String) : TypeTable :=
  { t with known := (name, .enum name members) :: t.known }

/-- The table with a class the properties of which have not been read. -/
def withClass (t : TypeTable) (name : String) (isInterface : Bool) : TypeTable where
  classes := t.classes.push ⟨name, [], isInterface⟩
  known := (name, .cls t.classes.size) :: t.known

def withProperties (t : TypeTable) (id : ClassId) (properties : List (String × Descriptor)) :
    TypeTable :=
  { t with classes := t.classes.modify id fun c => { c with properties } }

lemma grows_withEnum (t : TypeTable) (name : String) (members : List String) :
    Grows t (withEnum t name members) :=
  ⟨fun _ hp => List.mem_cons_of_mem _ hp, fun _ _ hn => hn⟩

lemma grows_withClass (t : TypeTable) (name : String) (isInterface : Bool) :
    Grows t (withClass t name isInterface) := by
  refine ⟨fun _ hp => List.mem_cons_of_mem _ hp, fun id n hn => ?_⟩
  obtain ⟨c, hc, rfl⟩ := Option.map_eq_some_iff.mp hn
  obtain ⟨hlt, -⟩ := Array.getElem?_eq_some_iff.mp hc
  have hkept : (withClass t name isInterface).classes[id]? = some c := by
    rw [withClass, Array.getElem?_push_lt hlt, ← hc]
    exact (Array.getElem?_eq_getElem hlt).symm
  rw [Descriptor.name?, hkept]
  rfl

lemma name?_withProperties (t : TypeTable) (id : ClassId)
    (properties : List (String × Descriptor)) (id' : ClassId) :
    (Descriptor.cls id').name? (withProperties t id properties).classes =
      (Descriptor.cls id').name? t.classes := by
  simp only [Descriptor.name?, withProperties, Array.getElem?_modify]
  split
  · rw [Option.map_map]
    rfl
  · rfl

lemma grows_withProperties (t : TypeTable) (id : ClassId)
    (properties : List (String × Descriptor)) : Grows t (withProperties t id properties) :=
  ⟨fun _ hp => hp, fun id' n hn => by rwa [name?_withProperties]⟩

/-- A name that a type expression consists of, without a suffix. -/
def Unsuffixed (name : String) : Prop :=
  Outer.ofTrimmed name.toList = .name name.toList

lemma eq_primitive_of_primitive? {name : String} {d : Descriptor} (h : primitive? name = some d) :
    ∃ word ns, d = .primitive word ns := by
  unfold primitive? at h
  split at h
  · exact ⟨_, _, (Option.some.inj h).symm⟩
  split at h
  · exact ⟨_, _, (Option.some.inj h).symm⟩
  split at h
  · exact ⟨_, _, (Option.some.inj h).symm⟩
  · cases h

/-- Conditions on tables and on the types read that hold throughout the reading of a contract. -/
structure ReadingInvariant (I : TypeTable → Prop) (D : TypeTable → Descriptor → Prop) : Prop where
  start : I ⟨#[], []⟩
  primitive : ∀ t name d, primitive? name = some d → D t d
  array : ∀ t d, D t d → D t (.array d)
  generic : ∀ t name arguments, D t (.generic name arguments)
  known : ∀ t name d, I t → t.known.lookup name = some d → D t d
  grows : ∀ t t' d, Grows t t' → D t d → D t' d
  enum : ∀ t name members, I t → t.known.lookup name = none → Unsuffixed name →
    I (withEnum t name members)
  opened : ∀ t name isInterface, I t → t.known.lookup name = none → Unsuffixed name →
    I (withClass t name isInterface)
  closed : ∀ t id properties, I t → (∀ p ∈ properties, D t p.2) → I (withProperties t id properties)

/-- A step of reading, from a table of which `pre` holds, keeps an invariant of tables, changes the
table as `R` says and yields what satisfies `post`. -/
def Yields (R : TypeTable → TypeTable → Prop) (I pre : TypeTable → Prop) (x : ReadM α)
    (post : α → TypeTable → Prop) : Prop :=
  ∀ t a t', I t → pre t → x.run t = .ok (a, t') → I t' ∧ R t t' ∧ post a t'

section Runs

lemma ok_of_run_bind {x : ReadM α} {f : α → ReadM β} {b : β} {t t' : TypeTable}
    (h : (x >>= f).run t = .ok (b, t')) :
    ∃ a s, x.run t = .ok (a, s) ∧ (f a).run s = .ok (b, t') := by
  rw [StateT.run_bind] at h
  obtain ⟨⟨a, s⟩, hx, hf⟩ := ok_of_bind h
  exact ⟨a, s, hx, hf⟩

lemma ok_of_run_pure {a b : α} {t t' : TypeTable} (h : (pure a : ReadM α).run t = .ok (b, t')) :
    a = b ∧ t = t' :=
  Prod.mk.inj (Except.ok.inj h)

lemma ok_of_run_lift {x : Except ContractError α} {a : α} {t t' : TypeTable}
    (h : (liftM x : ReadM α).run t = .ok (a, t')) : x = .ok a ∧ t = t' := by
  cases x with
  | error e => cases h
  | ok b =>
    obtain ⟨rfl, rfl⟩ := ok_of_run_pure h
    exact ⟨rfl, rfl⟩

lemma ok_of_run_shown {text : Option String} {s : String} {t t' : TypeTable}
    (h : (Contract.shown text).run t = .ok (s, t')) : text = some s ∧ t = t' := by
  cases text with
  | none => cases h
  | some text =>
    obtain ⟨rfl, rfl⟩ := ok_of_run_pure h
    exact ⟨rfl, rfl⟩

lemma ok_of_run_get {t s t' : TypeTable} (h : (get : ReadM TypeTable).run t = .ok (s, t')) :
    t = s ∧ t = t' :=
  ok_of_run_pure (show (pure t : ReadM TypeTable).run t = .ok (s, t') from h)

lemma ok_of_run_modify {f : TypeTable → TypeTable} {a : PUnit} {t t' : TypeTable}
    (h : (modify f : ReadM PUnit).run t = .ok (a, t')) : f t = t' :=
  congrArg Prod.snd (Except.ok.inj h)

end Runs

section Rules

variable {R : TypeTable → TypeTable → Prop} {I pre : TypeTable → Prop}

lemma yields_throw (e : ContractError) (post : α → TypeTable → Prop) :
    Yields R I pre (throw e) post := by
  intro t a t' _ _ hrun
  cases hrun

lemma yields_modify {f : TypeTable → TypeTable} {post : PUnit → TypeTable → Prop}
    (h : ∀ t, I t → pre t → I (f t) ∧ R t (f t) ∧ post ⟨⟩ (f t)) :
    Yields R I pre (modify f : ReadM PUnit) post := by
  intro t a t' ht hpre hrun
  obtain rfl := ok_of_run_modify hrun
  exact h t ht hpre

lemma Yields.mono {pre' : TypeTable → Prop} {x : ReadM α} {post post' : α → TypeTable → Prop}
    (h : Yields R I pre x post) (hpre : ∀ t, pre' t → pre t)
    (hpost : ∀ a t, post a t → post' a t) : Yields R I pre' x post' := by
  intro t a t' ht hp hrun
  obtain ⟨ht', hR, ha⟩ := h t a t' ht (hpre t hp) hrun
  exact ⟨ht', hR, hpost a t' ha⟩

/-- What a table keeps as it changes is still there after a step. -/
lemma Yields.frame {K : TypeTable → Prop} {x : ReadM α} {post : α → TypeTable → Prop}
    (h : Yields R I pre x post) (hK : ∀ t t', R t t' → K t → K t') :
    Yields R I (fun t => pre t ∧ K t) x fun a t => post a t ∧ K t := by
  intro t a t' ht hp hrun
  obtain ⟨ht', hR, ha⟩ := h t a t' ht hp.1 hrun
  exact ⟨ht', hR, ha, hK t t' hR hp.2⟩

variable [IsPreorder TypeTable R]

lemma yields_pure {a : α} {post : α → TypeTable → Prop} (h : ∀ t, I t → pre t → post a t) :
    Yields R I pre (pure a) post := by
  intro t b t' ht hpre hrun
  obtain ⟨rfl, rfl⟩ := ok_of_run_pure hrun
  exact ⟨ht, refl_of R t, h t ht hpre⟩

lemma yields_bind {x : ReadM α} {f : α → ReadM β} {mid : α → TypeTable → Prop}
    {post : β → TypeTable → Prop} (hx : Yields R I pre x mid)
    (hf : ∀ a, Yields R I (mid a) (f a) post) : Yields R I pre (x >>= f) post := by
  intro t b t' ht hpre hrun
  obtain ⟨a, s, hxt, hrun⟩ := ok_of_run_bind hrun
  obtain ⟨hs, hR, ha⟩ := hx t a s ht hpre hxt
  obtain ⟨ht', hR', hpost⟩ := hf a s b t' hs ha hrun
  exact ⟨ht', trans_of R hR hR', hpost⟩

lemma yields_get : Yields R I pre get fun a t => pre t ∧ a = t := by
  intro t a t' ht hpre hrun
  obtain ⟨rfl, rfl⟩ := ok_of_run_get hrun
  exact ⟨ht, refl_of R t, hpre, rfl⟩

lemma yields_lift (x : Except ContractError α) :
    Yields R I pre (liftM x : ReadM α) fun _ => pre := by
  intro t a t' ht hpre hrun
  obtain ⟨-, rfl⟩ := ok_of_run_lift hrun
  exact ⟨ht, refl_of R t, hpre⟩

lemma yields_forall₂ {f : α → ReadM β} {post : α → β → TypeTable → Prop} {l : List α}
    (hpost : ∀ x y t t', R t t' → post x y t → post x y t')
    (h : ∀ x ∈ l, Yields R I (fun _ => True) (f x) (post x)) :
    Yields R I (fun _ => True) (l.mapM f) fun ys t => List.Forall₂ (post · · t) l ys := by
  induction l with
  | nil => exact yields_pure fun _ _ _ => .nil
  | cons x l ih =>
    rw [List.mapM_cons]
    refine yields_bind (h x List.mem_cons_self) fun y => ?_
    have htail := (ih fun z hz => h z (List.mem_cons_of_mem x hz)).frame (hpost x y)
    refine yields_bind (htail.mono (fun _ hy => ⟨trivial, hy⟩) fun _ _ hys => hys) fun ys => ?_
    exact yields_pure fun t _ hys => .cons hys.2 hys.1

lemma yields_mapM {f : α → ReadM β} {post : β → TypeTable → Prop} {l : List α}
    (hpost : ∀ y t t', R t t' → post y t → post y t')
    (h : ∀ x ∈ l, Yields R I (fun _ => True) (f x) post) :
    Yields R I (fun _ => True) (l.mapM f) fun ys t => ∀ y ∈ ys, post y t := by
  refine (yields_forall₂ (fun _ => hpost) h).mono (fun _ h => h) fun ys t hys => ?_
  intro y hy
  obtain ⟨-, -, hpost⟩ := exists_of_forall₂ hys hy
  exact hpost

end Rules

section Texts

variable {R : TypeTable → TypeTable → Prop} [IsPreorder TypeTable R] {I pre : TypeTable → Prop}

lemma yields_shown (text : Option String) :
    Yields R I pre (Contract.shown text) fun _ => pre := by
  cases text with
  | none => exact yields_throw _ _
  | some text => exact yields_pure fun _ _ h => h

lemma yields_textOr (doc : Document) (value : Option Document.ValueId) (missing : String) :
    Yields R I pre (Contract.textOr doc value missing) fun _ => pre :=
  yields_shown _

lemma yields_sectionName (doc : Document) (part : String) (data : Section) :
    Yields R I pre (Contract.sectionName doc part data) fun _ => pre := by
  unfold Contract.sectionName
  split
  · split
    · exact yields_shown _
    · exact yields_pure fun _ _ h => h
  · exact yields_pure fun _ _ h => h

end Texts

section Types

variable {I : TypeTable → Prop} {D : TypeTable → Descriptor → Prop}

/-- A step that yields a type of which the condition holds. -/
abbrev YieldsType (I : TypeTable → Prop) (D : TypeTable → Descriptor → Prop)
    (x : ReadM Descriptor) : Prop :=
  Yields Grows I (fun _ => True) x fun d t => D t d

lemma ofTrimmed_eq_name {cs text : List Char} (h : Outer.ofTrimmed cs = .name text) : cs = text := by
  unfold Outer.ofTrimmed at h
  split at h
  · cases h
  split at h
  · cases h
  split at h
  · split at h
    · cases h
    · exact Outer.name.inj h
  · exact Outer.name.inj h

lemma yields_readExpression (hI : ReadingInvariant I D) {named : String → ReadM Descriptor}
    (isDefined : String → Bool) (place : String)
    (hn : ∀ name, Unsuffixed name → YieldsType I D (named name)) (bound : Nat) (cs : List Char) :
    YieldsType I D (Contract.readExpression named isDefined place bound cs) := by
  induction bound generalizing cs with
  | zero => exact yields_throw _ _
  | succ bound ih =>
    unfold Contract.readExpression
    dsimp only
    split
    · exact yields_throw _ _
    split
    · exact yields_bind (ih _) fun d => yields_pure fun t _ hd => hI.array t d hd
    · exact yields_bind (ih _) fun d => yields_pure fun t _ _ => hI.generic t _ _
    · refine yields_bind (yields_mapM (fun d t t' => hI.grows t t' d) fun x _ => ih x) fun ds => ?_
      exact yields_pure fun t _ _ => hI.generic t _ _
    · next text houter =>
      obtain rfl := ofTrimmed_eq_name houter
      split
      · next d hd => exact yields_pure fun t _ _ => hI.primitive t _ d hd
      split
      · exact hn _ (by simpa [Unsuffixed] using houter)
      · exact yields_throw _ _

/-- A class enters the table under its name. -/
lemma yields_open (hI : ReadingInvariant I D) {name : String} (hname : Unsuffixed name)
    (isInterface : Bool) (before : TypeTable) :
    Yields Grows I (fun t => t.known.lookup name = none ∧ before = t)
      (do
        modify fun t => { t with classes := t.classes.push ⟨name, [], isInterface⟩ }
        Contract.remember name (.cls before.classes.size) : ReadM Unit)
      fun _ t => D t (.cls before.classes.size) := by
  intro t a t' ht hpre hrun
  obtain ⟨hl, rfl⟩ := hpre
  have hrun' : (Except.ok (⟨⟩, withClass before name isInterface) :
      Except ContractError (Unit × TypeTable)) = .ok (a, t') := hrun
  obtain rfl : withClass before name isInterface = t' := congrArg Prod.snd (Except.ok.inj hrun')
  have hnew := hI.opened before name isInterface ht hl hname
  exact ⟨hnew, grows_withClass before name isInterface, hI.known _ name _ hnew List.lookup_cons_self⟩

lemma yields_rememberEnum (hI : ReadingInvariant I D) {name : String} (hname : Unsuffixed name)
    (members : List String) :
    Yields Grows I (fun t => t.known.lookup name = none)
      (Contract.remember name (.enum name members)) fun _ t => D t (.enum name members) := by
  refine yields_modify fun t ht hl => ?_
  have hnew := hI.enum t name members ht hl hname
  exact ⟨hnew, grows_withEnum t name members, hI.known _ name _ hnew List.lookup_cons_self⟩

/-- A class that is in the table gets its properties. -/
lemma yields_close (hI : ReadingInvariant I D) (id : ClassId)
    (properties : List (String × Descriptor)) :
    Yields Grows I (fun t => (∀ p ∈ properties, D t p.2) ∧ D t (.cls id))
      (modify fun t => withProperties t id properties : ReadM Unit) fun _ t => D t (.cls id) := by
  refine yields_modify fun t ht hd => ?_
  have hgrows := grows_withProperties t id properties
  exact ⟨hI.closed t _ properties ht hd.1, hgrows, hI.grows _ _ _ hgrows hd.2⟩

lemma yields_readDefinition (hI : ReadingInvariant I D) {doc : Document} {types : Section}
    {property : Document.ValueId → String → ReadM Descriptor}
    (hp : ∀ value place, YieldsType I D (property value place)) {name : String}
    (hname : Unsuffixed name) :
    Yields Grows I (fun t => t.known.lookup name = none)
      (Contract.readDefinition doc types property name) fun d t => D t d := by
  unfold Contract.readDefinition
  refine yields_bind (yields_lift _) fun definition => ?_
  refine yields_bind (yields_textOr doc _ _) fun kind => ?_
  split
  · refine yields_bind (yields_lift _) fun members => ?_
    exact yields_bind (yields_rememberEnum hI hname members) fun _ => yields_pure fun _ _ hd => hd
  split
  · refine yields_bind yields_get fun before => ?_
    rw [← bind_assoc]
    refine yields_bind (yields_open hI hname _ before) fun _ => ?_
    refine yields_bind (yields_lift _) fun entries => ?_
    have hproperty : ∀ entry ∈ entries, Yields Grows I (fun _ => True) (do
        let key ← Contract.shown entry.1.outer?
        return (key, ← property entry.2 ("types." ++ name ++ "." ++ key)))
        fun p t => D t p.2 := by
      intro entry _
      refine yields_bind (yields_shown _) fun key => yields_bind (hp _ _) fun d => ?_
      exact yields_pure fun _ _ hd => hd
    have hproperties := (yields_mapM (fun p t t' => hI.grows t t' p.2) hproperty).frame
      fun t t' => hI.grows t t' (.cls before.classes.size)
    refine yields_bind (hproperties.mono (fun _ hd => ⟨trivial, hd⟩) fun _ _ h => h) fun ps => ?_
    exact yields_bind (yields_close hI _ ps) fun _ => yields_pure fun _ _ hd => hd
  · exact yields_throw _ _

lemma yields_readType (hI : ReadingInvariant I D) (doc : Document) (types : Section) (depth : Nat)
    (value : Document.ValueId) (place : String) :
    YieldsType I D (Contract.readType doc types depth value place) := by
  have hknown : ∀ {name : String} {t : TypeTable} {d : Descriptor} {pre : TypeTable → Prop},
      (∀ s, pre s → t = s) → t.known.lookup name = some d →
      Yields Grows I pre (pure d : ReadM Descriptor) fun d t => D t d := by
    intro name t d pre hpre hd
    exact yields_pure fun s hs hp => hI.known s name d hs (hpre s hp ▸ hd)
  induction depth generalizing value place with
  | zero =>
    unfold Contract.readType
    split
    · refine yields_readExpression hI _ _ (fun name hname => ?_) _ _
      refine yields_bind yields_get fun t => ?_
      split
      · next hd => exact hknown (fun s hs => hs.2) hd
      · exact yields_throw _ _
    · exact yields_throw _ _
  | succ depth ih =>
    unfold Contract.readType
    split
    · refine yields_readExpression hI _ _ (fun name hname => ?_) _ _
      refine yields_bind yields_get fun t => ?_
      split
      · next hd => exact hknown (fun s hs => hs.2) hd
      · next hl =>
        refine (yields_readDefinition hI ih hname).mono (fun s hs => ?_) fun _ _ h => h
        exact hs.2 ▸ hl
    · exact yields_throw _ _

end Types

/-- The types of the parameters of operations satisfy a condition. -/
def Parameters (D : Descriptor → Prop) (o : Operation) : Prop :=
  ∀ p ∈ o.parameters, D p.2

section Operations

variable {R : TypeTable → TypeTable → Prop} [IsPreorder TypeTable R] {I : TypeTable → Prop}
  {D : TypeTable → Descriptor → Prop} {doc : Document} {types : Section}
  (hD : ∀ t t' d, R t t' → D t d → D t' d)
  (htype : ∀ value place, Yields R I (fun _ => True)
    (Contract.readType doc types types.length value place) fun d t => D t d)

include hD htype

lemma yields_readOperation (direction : Direction) (place : String) (value : Document.ValueId) :
    Yields R I (fun _ => True) (Contract.readOperation doc types direction place value)
      fun o t => Parameters (D t) o := by
  unfold Contract.readOperation
  refine yields_bind (yields_lift _) fun entry => ?_
  split
  · next name _ =>
    have hparameters : Yields R I (fun _ => True) (Contract.readParameters doc types entry place)
        fun ps t => ∀ p ∈ ps, D t p.2 := by
      refine yields_bind (yields_lift _) fun entries => ?_
      refine yields_mapM (fun p t t' => hD t t' p.2) fun e _ => ?_
      refine yields_bind (yields_shown _) fun key => ?_
      exact yields_bind (htype _ _) fun d => yields_pure fun _ _ hd => hd
    have hrest : Yields R I (fun _ => True) (do
        let parameters ← Contract.readParameters doc types entry place
        let returns ← Contract.textOr doc (Document.findKey entry "returns") "Task"
        return { name, direction, parameters, asyncVoid := returns ∈ Contract.asyncVoidResults
                 returns := some returns : Operation }) fun o t => Parameters (D t) o := by
      refine yields_bind hparameters fun parameters => yields_bind (yields_textOr doc _ _) fun _ => ?_
      exact yields_pure fun _ _ hd => hd
    split
    · exact yields_throw _ _
    · exact hrest
  · exact yields_throw _ _

lemma yields_readOperations (direction : Direction) (part : String) (data : Section) :
    Yields R I (fun _ => True) (Contract.readOperations doc types direction part data)
      fun os t => ∀ o ∈ os, Parameters (D t) o := by
  unfold Contract.readOperations
  split
  · exact yields_pure (by simp)
  split
  · exact yields_pure (by simp)
  split
  · exact yields_mapM (fun o t t' hR ho p hp => hD t t' p.2 hR (ho p hp))
      fun item _ => yields_readOperation hD htype direction _ _
  · exact yields_throw _ _
  · exact yields_throw _ _

lemma yields_readSection (root : Section) (part : String) (role : Role) (direction : Direction) :
    Yields R I (fun _ => True) (Contract.readSection doc types root part role direction)
      fun ts t => ∀ c ∈ ts, ∀ o ∈ c.operations, Parameters (D t) o := by
  unfold Contract.readSection
  split
  · exact yields_pure (by simp)
  split
  · exact yields_pure (by simp)
  · refine yields_bind (yields_lift _) fun data => ?_
    refine yields_bind (yields_sectionName doc part data) fun name => ?_
    refine yields_bind (yields_readOperations hD htype direction part data) fun os => ?_
    exact yields_pure fun t _ hos c hc => by
      obtain rfl := List.mem_singleton.mp hc
      exact hos

/-- What the types of a contract satisfy holds of the parameters of both its sections. -/
lemma yields_sections (root : Section) :
    Yields R I (fun _ => True) (do
      let hub ← Contract.readSection doc types root "hub" .hub .serverReceived
      let api ← Contract.readSection doc types root "client_api" .clientApi .clientInvoked
      return hub ++ api) fun ts t => ∀ c ∈ ts, ∀ o ∈ c.operations, Parameters (D t) o := by
  refine yields_bind (yields_readSection hD htype root _ _ _) fun hub => ?_
  have hapi := (yields_readSection hD htype root "client_api" .clientApi .clientInvoked).frame
    (K := fun t => ∀ c ∈ hub, ∀ o ∈ c.operations, Parameters (D t) o)
    fun t t' hR hhub c hc o ho p hp => hD t t' p.2 hR (hhub c hc o ho p hp)
  refine yields_bind (hapi.mono (fun _ hhub => ⟨trivial, hhub⟩) fun _ _ hts => hts) fun api => ?_
  refine yields_pure fun t _ hts c hc => ?_
  exact (List.mem_append.mp hc).elim (hts.2 c) (hts.1 c)

end Operations

section Keys

lemma sameKey_text {key : Document.Scalar} {s : String} (h : key.sameKey (.text s) = true) :
    key = .text s := by
  cases key <;> simp_all [Document.Scalar.sameKey, Document.Scalar.whole?]

lemma mem_of_findKey {entries : List (Document.Scalar × α)} {key : String} {a : α}
    (h : Document.findKey entries key = some a) : (.text key, a) ∈ entries := by
  obtain ⟨e, hfind, rfl⟩ := Option.map_eq_some_iff.mp h
  have hkey : e.1 = .text key := sameKey_text (by simpa using List.find?_some hfind)
  rw [← hkey]
  exact List.mem_of_find?_eq_some hfind

end Keys

section Documents

def rootOf (doc : Document) : Section :=
  match doc.value doc.top with
  | .mapping entries => entries
  | _ => []

/-- A contract comes from the definitions of its document and a table that its sections fill. -/
lemma sections_of_ofDocument {doc : Document} {source : String} {m : Metadata}
    (h : Contract.ofDocument doc source = .ok m) : ∃ types t,
      Contract.asMapping doc (Document.findKey (rootOf doc) "types") "types" = .ok types ∧
      StateT.run (do
        let hub ← Contract.readSection doc types (rootOf doc) "hub" .hub .serverReceived
        let api ← Contract.readSection doc types (rootOf doc) "client_api" .clientApi .clientInvoked
        return hub ++ api) ⟨#[], []⟩ = .ok (m.types, t) ∧ m.classes = t.classes := by
  have hsections : ∀ root : Section, (do
        let types ← Contract.asMapping doc (Document.findKey root "types") "types"
        let read : ReadM (List ContractType) := do
          let hub ← Contract.readSection doc types root "hub" .hub .serverReceived
          let api ← Contract.readSection doc types root "client_api" .clientApi .clientInvoked
          return hub ++ api
        let out ← read.run ⟨#[], []⟩
        return (⟨source, out.1, out.2.classes⟩ : Metadata)) = Except.ok m →
      ∃ types t, Contract.asMapping doc (Document.findKey root "types") "types" = .ok types ∧
        StateT.run (do
          let hub ← Contract.readSection doc types root "hub" .hub .serverReceived
          let api ← Contract.readSection doc types root "client_api" .clientApi .clientInvoked
          return hub ++ api) ⟨#[], []⟩ = .ok (m.types, t) ∧ m.classes = t.classes := by
    intro root h
    obtain ⟨types, htypes, h⟩ := ok_of_bind h
    obtain ⟨⟨contractTypes, t⟩, hread, h⟩ := ok_of_bind h
    obtain rfl := Except.ok.inj h
    exact ⟨types, t, htypes, hread, rfl⟩
  unfold Contract.ofDocument at h
  unfold rootOf
  split at h
  · next hv => rw [hv]; exact hsections [] h
  · next entries hv => rw [hv]; exact hsections entries h
  · cases h

variable {I : TypeTable → Prop} {D : TypeTable → Descriptor → Prop}

/-- A contract is made from a table: its classes are those of the table, and a condition that holds
of types while the table is filled holds of the parameters of all operations. -/
def Read (I : TypeTable → Prop) (D : TypeTable → Descriptor → Prop) (m : Metadata) : Prop :=
  ∃ t, I t ∧ m.classes = t.classes ∧ ∀ c ∈ m.types, ∀ o ∈ c.operations, Parameters (D t) o

/-- What entering types into the table keeps holds of the contract that a text describes. -/
theorem read_of_ofText (hI : ReadingInvariant I D) {text source : String} {m : Metadata}
    (h : Contract.ofText text source = .ok m) : Read I D m := by
  unfold Contract.ofText at h
  split at h
  · cases h
  · cases h
  next doc _ =>
  obtain ⟨types, t, -, hread, hclasses⟩ := sections_of_ofDocument h
  have htype := fun value place => yields_readType hI doc types types.length value place
  obtain ⟨htable, -, hparameters⟩ :=
    yields_sections hI.grows htype (rootOf doc) _ _ _ hI.start trivial hread
  exact ⟨t, htable, hclasses, hparameters⟩

end Documents

end HubProxy.Proofs
