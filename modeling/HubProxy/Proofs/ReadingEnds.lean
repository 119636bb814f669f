import HubProxy.Proofs.ContractReading
import HubProxy.Proofs.TypeExpressions
import Mathlib.Logic.Function.Iterate

/-!
# Where reading a type ends

A type is read by a function that calls itself on the expressions inside an expression and on the
properties of a class. `readOnce` is one call of it, with its own calls left open. A class enters the
table before its properties are read, so between two calls the expression gets shorter or a definition is
met for the first time. The calls therefore end at a depth that the document bounds, whatever the table
and the definitions are.
-/

namespace HubProxy.Proofs

open Contract (ReadM TypeTable)
open Document (ValueId)

section Calls

variable (doc : Document) (types : Section)

/-- The type of a name that is not primitive: what the table has, or else that of its definition. -/
def readName (property : ValueId → String → ReadM Descriptor) (name : String) : ReadM Descriptor := do
  match (← get).known.lookup name with
  | some d => return d
  | none => Contract.readDefinition doc types property name

/-- One call of the reader of types. What it calls in turn is answered by `inner`. -/
def readOnce (inner : Document.Value → String → ReadM Descriptor) (value : Document.Value)
    (place : String) : ReadM Descriptor :=
  match value with
  | .scalar (.text text) => do
    let cs := Text.trimChars text.toList
    if cs.isEmpty then throw (.typeNotText place)
    let inside (part : List Char) := inner (.scalar (.text (String.ofList part))) place
    match Outer.ofTrimmed cs with
    | .array element => return .array (← inside element)
    | .nullable element => return .generic "Nullable" [← inside element]
    | .generic base arguments => return .generic (String.ofList base) (← arguments.mapM inside)
    | .name name =>
      let name := String.ofList name
      match primitive? name with
      | some d => return d
      | none =>
        if (Document.findKey types name).isSome then
          readName doc types (fun id place => inner (doc.value id) place) name
        else throw (.unknownType place name)
  | _ => throw (.typeNotText place)

/-- The length of a text. -/
def textLength : Document.Value → Nat
  | .scalar (.text text) => text.toList.length
  | _ => 0

/-- A length that no text of the document exceeds. -/
def longestText : Nat :=
  (doc.values.toList.map textLength).foldr max 0

/-- How deep the calls that read a type can lie in each other. -/
def callDepth : Nat :=
  (types.length + 1) * (longestText doc + 1)

lemma textLength_le_longestText (id : ValueId) : textLength (doc.value id) ≤ longestText doc := by
  have hmax : ∀ (l : List Nat), ∀ n ∈ l, n ≤ l.foldr max 0 := by
    intro l n hn
    induction l with
    | nil => exact absurd hn List.not_mem_nil
    | cons k l ih =>
      rcases List.mem_cons.mp hn with rfl | hn
      · exact Nat.le_max_left _ _
      · exact (ih hn).trans (Nat.le_max_right _ _)
  unfold Document.value Array.getD
  split
  · exact hmax _ _ (List.mem_map_of_mem (Array.getElem_mem_toList _))
  · exact Nat.zero_le _

end Calls

/-- From a table of which `pre` holds, two steps do the same, and leave one of which `post` holds. -/
def Coincide (pre post : TypeTable → Prop) (x y : ReadM α) : Prop :=
  ∀ t, pre t → x.run t = y.run t ∧ ∀ a t', x.run t = .ok (a, t') → post t'

section Rules

variable {pre mid post : TypeTable → Prop}

lemma Coincide.mono {pre' post' : TypeTable → Prop} {x y : ReadM α} (h : Coincide pre post x y)
    (hpre : ∀ t, pre' t → pre t) (hpost : ∀ t, post t → post' t) : Coincide pre' post' x y :=
  fun t ht => ⟨(h t (hpre t ht)).1, fun a t' hrun => hpost t' ((h t (hpre t ht)).2 a t' hrun)⟩

lemma coincide_throw (e : ContractError) : Coincide pre post (throw e : ReadM α) (throw e) :=
  fun _ _ => ⟨rfl, fun _ _ hrun => nomatch hrun⟩

lemma coincide_pure (a : α) : Coincide pre pre (pure a : ReadM α) (pure a) := by
  refine fun t ht => ⟨rfl, fun b t' hrun => ?_⟩
  obtain ⟨-, rfl⟩ := ok_of_run_pure hrun
  exact ht

lemma coincide_lift (x : Except ContractError α) : Coincide pre pre (liftM x : ReadM α) (liftM x) := by
  cases x with
  | error e => exact coincide_throw e
  | ok a => exact coincide_pure a

lemma coincide_shown (text : Option String) :
    Coincide pre pre (Contract.shown text) (Contract.shown text) := by
  cases text with
  | none => exact coincide_throw _
  | some text => exact coincide_pure text

lemma coincide_modify {f : TypeTable → TypeTable} (h : ∀ t, pre t → post (f t)) :
    Coincide pre post (modify f : ReadM PUnit) (modify f) := by
  refine fun t ht => ⟨rfl, fun b t' hrun => ?_⟩
  obtain rfl := ok_of_run_modify hrun
  exact h t ht

lemma Coincide.bind {x y : ReadM α} {f g : α → ReadM β} (h : Coincide pre mid x y)
    (hfg : ∀ a, Coincide mid post (f a) (g a)) : Coincide pre post (x >>= f) (y >>= g) := by
  intro t ht
  obtain ⟨hxy, hmid⟩ := h t ht
  rw [StateT.run_bind, StateT.run_bind, ← hxy]
  cases hrun : x.run t with
  | error e => exact ⟨rfl, fun _ _ hrun => nomatch hrun⟩
  | ok out => exact hfg out.1 out.2 (hmid out.1 out.2 hrun)

lemma coincide_get {f g : TypeTable → ReadM α}
    (h : ∀ t, pre t → Coincide (fun s => pre s ∧ s = t) post (f t) (g t)) :
    Coincide pre post (get >>= f) (get >>= g) :=
  fun t ht => h t ht t ⟨ht, rfl⟩

lemma coincide_mapM {f g : α → ReadM β} {l : List α} (h : ∀ a ∈ l, Coincide pre pre (f a) (g a)) :
    Coincide pre pre (l.mapM f) (l.mapM g) := by
  induction l with
  | nil => exact coincide_pure []
  | cons a l ih =>
    rw [List.mapM_cons, List.mapM_cons]
    refine (h a List.mem_cons_self).bind fun b => ?_
    exact (ih fun c hc => h c (List.mem_cons_of_mem a hc)).bind fun bs => coincide_pure _

end Rules

section Missing

/-- Whether a key names a definition that has not entered the table. -/
def isMissing (t : TypeTable) : Document.Scalar → Bool
  | .text name => (t.known.lookup name).isNone
  | _ => false

/-- How many of the definitions have not entered the table. -/
def missing (types : Section) (t : TypeTable) : Nat :=
  types.countP fun e => isMissing t e.1

variable {types : Section}

lemma missing_le_length (t : TypeTable) : missing types t ≤ types.length :=
  List.countP_le_length

lemma isMissing_of_cons {t t' : TypeTable} {name : String} {d : Descriptor}
    (hknown : t'.known = (name, d) :: t.known) {key : Document.Scalar}
    (h : isMissing t' key = true) : isMissing t key = true := by
  cases key with
  | text other =>
    rw [isMissing, hknown] at h
    by_cases hname : other = name
    · rw [hname, List.lookup_cons_self] at h
      cases h
    · rwa [lookup_cons_ne hname] at h
  | _ => cases h

lemma missing_cons_le {t t' : TypeTable} {name : String} {d : Descriptor}
    (hknown : t'.known = (name, d) :: t.known) : missing types t' ≤ missing types t :=
  List.countP_mono_left fun _ _ => isMissing_of_cons hknown

/-- A definition that is met for the first time is no longer missing. -/
lemma missing_cons_lt {t t' : TypeTable} {name : String} {d : Descriptor}
    (hknown : t'.known = (name, d) :: t.known) (hnew : t.known.lookup name = none)
    (hdefined : (Document.findKey types name).isSome = true) :
    missing types t' < missing types t := by
  obtain ⟨id, hid⟩ := Option.isSome_iff_exists.mp hdefined
  obtain ⟨l, l', rfl⟩ := List.append_of_mem (mem_of_findKey hid)
  have hl : missing l t' ≤ missing l t := missing_cons_le hknown
  have hl' : missing l' t' ≤ missing l' t := missing_cons_le hknown
  have hentered : isMissing t' (.text name) = false := by
    rw [isMissing, hknown, List.lookup_cons_self]
    rfl
  have hmissing : isMissing t (.text name) = true := by simp [isMissing, hnew]
  simp only [missing, List.countP_append, List.countP_cons, hentered, hmissing,
    Bool.false_eq_true, if_false, if_true] at hl hl' ⊢
  omega

end Missing

section Bounds

variable {doc : Document} {types : Section} {m : Nat}

/-- Two steps do the same as long as at most `m` definitions are missing. -/
abbrev CoincideWithin (types : Section) (m : Nat) (x y : ReadM α) : Prop :=
  Coincide (fun t => missing types t ≤ m) (fun t => missing types t ≤ m) x y

lemma coincide_remember {name : String} (hdefined : (Document.findKey types name).isSome = true)
    (d : Descriptor) : Coincide (fun t => missing types t ≤ m + 1 ∧ t.known.lookup name = none)
      (fun t => missing types t ≤ m) (Contract.remember name d) (Contract.remember name d) := by
  refine coincide_modify fun t ht => ?_
  have hlt : missing types { t with known := (name, d) :: t.known } < missing types t :=
    missing_cons_lt rfl ht.2 hdefined
  omega

/-- What enters the classes does not change which definitions are missing. -/
lemma coincide_classes (pre : List (String × Descriptor) → Prop) (f : ClassTable → ClassTable) :
    Coincide (fun t => pre t.known) (fun t => pre t.known)
      (modify fun t => { t with classes := f t.classes } : ReadM PUnit)
      (modify fun t => { t with classes := f t.classes }) :=
  coincide_modify fun _ ht => ht

/-- A definition that is missing leaves one fewer for its properties. -/
lemma coincide_readDefinition {property property' : ValueId → String → ReadM Descriptor}
    (h : ∀ id place, CoincideWithin types m (property id place) (property' id place)) {name : String}
    (hdefined : (Document.findKey types name).isSome = true) :
    Coincide (fun t => missing types t ≤ m + 1 ∧ t.known.lookup name = none)
      (fun t => missing types t ≤ m + 1) (Contract.readDefinition doc types property name)
      (Contract.readDefinition doc types property' name) := by
  have hless : ∀ t, missing types t ≤ m → missing types t ≤ m + 1 := fun t ht => by omega
  unfold Contract.readDefinition
  refine (coincide_lift _).bind fun definition => (coincide_shown _).bind fun kind => ?_
  split
  · refine (coincide_lift _).bind fun members => ?_
    exact ((coincide_remember hdefined _).bind fun _ => coincide_pure _).mono (fun _ h => h) hless
  split
  · refine coincide_get fun t _ => ?_
    have hopen := coincide_classes
      (fun known => missing types ⟨#[], known⟩ ≤ m + 1 ∧ known.lookup name = none)
      (·.push ⟨name, [], kind = "interface"⟩)
    refine (hopen.mono (fun s hs => hs.1) fun _ h => h).bind fun _ => ?_
    refine ((coincide_remember hdefined _).bind fun _ => ?_).mono (fun _ h => h) hless
    refine (coincide_lift _).bind fun entries => ?_
    refine Coincide.bind (coincide_mapM fun entry _ => ?_) fun properties => ?_
    · exact (coincide_shown _).bind fun key => (h _ _).bind fun d => coincide_pure _
    · exact Coincide.bind (coincide_modify fun s hs => hs) fun _ => coincide_pure _
  · exact coincide_throw _

/-- A name that is not in the table is that of a missing definition. -/
lemma coincide_readName {property : ValueId → String → ReadM Descriptor} {name : String}
    (hdefined : (Document.findKey types name).isSome = true) {x : ReadM Descriptor}
    (hx : ∀ k, m = k + 1 → Coincide (fun t => missing types t ≤ k + 1 ∧ t.known.lookup name = none)
      (fun t => missing types t ≤ k + 1) (Contract.readDefinition doc types property name) x) :
    CoincideWithin types m (readName doc types property name) (do
      match (← get).known.lookup name with
      | some d => return d
      | none => x) := by
  refine coincide_get fun t ht => ?_
  cases hlookup : t.known.lookup name with
  | some d => exact (coincide_pure d).mono (fun s hs => hs.1) fun _ h => h
  | none =>
    have hpos : missing types (withEnum t name []) < missing types t :=
      missing_cons_lt rfl hlookup hdefined
    obtain ⟨k, rfl⟩ := Nat.exists_eq_add_one_of_ne_zero (n := m) (by omega)
    refine (hx k rfl).mono (fun s hs => ⟨hs.1, ?_⟩) fun _ h => h
    rw [hs.2, hlookup]

variable {inner : Document.Value → String → ReadM Descriptor}

/-- One call does what the reader of expressions does, if what it calls does. -/
lemma coincide_readOnce {named : String → ReadM Descriptor} {place : String} {cs : List Char} {bound : Nat}
    (hinside : ∀ part ∈ inside (Outer.ofTrimmed (Text.trimChars cs)), CoincideWithin types m
      (inner (.scalar (.text (String.ofList part))) place)
      (Contract.readExpression named (fun name => (Document.findKey types name).isSome) place bound part))
    (hnamed : ∀ name, (Document.findKey types name).isSome = true → CoincideWithin types m
      (readName doc types (fun id place => inner (doc.value id) place) name) (named name)) :
    CoincideWithin types m (readOnce doc types inner (.scalar (.text (String.ofList cs))) place)
      (Contract.readExpression named (fun name => (Document.findKey types name).isSome) place
        (bound + 1) cs) := by
  unfold readOnce Contract.readExpression
  dsimp only
  rw [String.toList_ofList]
  split
  · exact coincide_throw _
  cases houter : Outer.ofTrimmed (Text.trimChars cs) with
  | array element =>
    rw [houter] at hinside
    exact (hinside element (by simp [inside])).bind fun d => coincide_pure _
  | nullable element =>
    rw [houter] at hinside
    exact (hinside element (by simp [inside])).bind fun d => coincide_pure _
  | generic base arguments =>
    rw [houter] at hinside
    exact (coincide_mapM fun part hpart => hinside part hpart).bind fun ds => coincide_pure _
  | name text =>
    dsimp only
    cases primitive? (String.ofList text) with
    | some d => exact coincide_pure d
    | none =>
      by_cases hdefined : (Document.findKey types (String.ofList text)).isSome = true
      · rw [if_pos hdefined, if_pos hdefined]
        exact hnamed _ hdefined
      · rw [if_neg hdefined, if_neg hdefined]
        exact coincide_throw _

/-- The calls inside an expression end at a depth that its length bounds, if those for the properties
of a name in it do at the depth `k`. -/
lemma coincide_readExpression {named : String → ReadM Descriptor} {place : String} {k : Nat}
    (hnamed : ∀ name, (Document.findKey types name).isSome = true → ∀ n ≥ k,
      CoincideWithin types m
        (readName doc types (fun id place => (readOnce doc types)^[n] inner (doc.value id) place) name)
        (named name)) (bound : Nat) :
    ∀ cs n, cs.length < bound → k + cs.length < n →
      CoincideWithin types m ((readOnce doc types)^[n] inner (.scalar (.text (String.ofList cs))) place)
        (Contract.readExpression named (fun name => (Document.findKey types name).isSome) place bound
          cs) := by
  induction bound with
  | zero => exact fun cs n hb _ => absurd hb (Nat.not_lt_zero _)
  | succ bound ih =>
    intro cs n hb hn
    obtain ⟨n, rfl⟩ := Nat.exists_eq_add_one_of_ne_zero (n := n) (by omega)
    rw [Function.iterate_succ_apply']
    refine coincide_readOnce (fun part hpart => ?_) fun name hdefined => hnamed name hdefined n (by omega)
    have hlength := (length_lt_of_mem_inside hpart).trans_le (length_trimChars_le cs)
    exact ih part n (by omega) (by omega)

/-- With at most `m` definitions missing, the calls end at a depth of which every definition and every
expression takes its share. -/
lemma coincide_readType (m : Nat) : ∀ depth n, m ≤ depth → (m + 1) * (longestText doc + 1) ≤ n →
    ∀ id place, CoincideWithin types m ((readOnce doc types)^[n] inner (doc.value id) place)
      (Contract.readType doc types depth id place) := by
  induction m using Nat.strong_induction_on with
  | h m ih =>
  intro depth n hdepth hn id place
  rw [Nat.succ_mul] at hn
  unfold Contract.readType
  split
  · next text hvalue =>
    have hlength : text.toList.length ≤ longestText doc := by
      simpa [hvalue, textLength] using textLength_le_longestText doc id
    have hcs : doc.value id = .scalar (.text (String.ofList text.toList)) := by
      rw [String.ofList_toList, hvalue]
    rw [hcs]
    refine coincide_readExpression (fun name hdefined n hn => ?_) _ _ n (Nat.lt_succ_self _)
      (by omega : m * (longestText doc + 1) + text.toList.length < n)
    refine coincide_readName hdefined fun k hk => ?_
    cases depth with
    | zero => omega
    | succ depth =>
      rw [hk] at hn
      exact coincide_readDefinition (ih k (by omega) depth n (by omega) hn) hdefined
  · next hother =>
    obtain ⟨n, rfl⟩ := Nat.exists_eq_add_one_of_ne_zero (n := n) (by omega)
    rw [Function.iterate_succ_apply']
    unfold readOnce
    cases hvalue : doc.value id with
    | scalar s =>
      cases s with
      | text text => exact absurd hvalue (hother text)
      | _ => exact coincide_throw _
    | _ => exact coincide_throw _

/-- Reading a type ends: what the calls at the depth bound would do does not matter, since none is made
there. -/
theorem readOnce_iterate (doc : Document) (types : Section) {n : Nat} (hn : callDepth doc types ≤ n)
    (inner : Document.Value → String → ReadM Descriptor) (id : ValueId) (place : String) :
    (readOnce doc types)^[n] inner (doc.value id) place =
      Contract.readType doc types types.length id place := by
  funext t
  exact (coincide_readType types.length types.length n le_rfl hn id place t (missing_le_length t)).1

/-- The bound on the definitions does not matter, as long as it covers those that are missing. -/
lemma coincide_readType_depths {depth depth' : Nat} (hdepth : m ≤ depth) (hdepth' : m ≤ depth')
    (id : ValueId) (place : String) : CoincideWithin types m
      (Contract.readType doc types depth id place) (Contract.readType doc types depth' id place) := by
  intro t ht
  have hread : ∀ depth, m ≤ depth → CoincideWithin types m
      ((readOnce doc types)^[(m + 1) * (longestText doc + 1)] (fun _ _ => throw .numberTooLong)
        (doc.value id) place) (Contract.readType doc types depth id place) :=
    fun depth hdepth => coincide_readType m depth _ hdepth le_rfl id place
  obtain ⟨hrun, hpost⟩ := hread depth hdepth t ht
  rw [← hrun]
  exact ⟨(hread depth' hdepth' t ht).1, hpost⟩

end Bounds

end HubProxy.Proofs
