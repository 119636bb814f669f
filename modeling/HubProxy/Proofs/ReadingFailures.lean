import HubProxy.Proofs.BuildSuccess
import HubProxy.Proofs.ContractReading

/-!
# Why a document is not read as a contract

Every step of reading fails with a cause that lies in the contract, except over a number that the
document holds and that is too long to be shown. What a step fails with is composed from what its
parts fail with, whatever the table of types.
-/

namespace HubProxy.Proofs

open Contract (ReadM TypeTable)
open Document (Scalar ValueId)

/-- A scalar stands in a document: as a value, as a key or as a member of a set. -/
inductive Holds (doc : Document) : Scalar → Prop
  | value {id : ValueId} {s : Scalar} (h : doc.value id = .scalar s) : Holds doc s
  | key {id : ValueId} {entries : Section} {entry : Scalar × ValueId}
      (h : doc.value id = .mapping entries) (he : entry ∈ entries) : Holds doc entry.1
  | member {id : ValueId} {members : List Scalar} {s : Scalar}
      (h : doc.value id = .set members) (hs : s ∈ members) : Holds doc s

/-- A document holds a whole number that is too long to be shown. -/
def HoldsLongNumber (doc : Document) : Prop :=
  ∃ n, Holds doc (.int n) ∧ Decimal.wholeText? n = none

section Texts

variable {doc : Document}

lemma Holds.exists_inner {s : Scalar} (h : Holds doc s) (hdoc : ¬HoldsLongNumber doc) :
    ∃ text, s.inner? = some text := by
  cases s with
  | int n => exact Option.ne_none_iff_exists'.mp fun hn => hdoc ⟨n, h, hn⟩
  | _ => exact ⟨_, rfl⟩

lemma Holds.exists_outer {s : Scalar} (h : Holds doc s) (hdoc : ¬HoldsLongNumber doc) :
    ∃ text, s.outer? = some text := by
  obtain ⟨text, hs⟩ := h.exists_inner hdoc
  cases s with
  | text | date | time => exact ⟨_, rfl⟩
  | _ => exact ⟨text, hs⟩

/-- A collection has a text if its items do, whether they are shown or not. -/
lemma exists_collectionText {isHidden : Bool} {hidden : String} {shown : List String → String}
    {items : Option (List String)} (h : ∃ texts, items = some texts) :
    ∃ text, (if isHidden then pure hidden else items >>= fun texts => pure (shown texts)) =
      some text := by
  obtain ⟨texts, rfl⟩ := h
  cases isHidden <;> exact ⟨_, rfl⟩

/-- Without such a number every value of a document has a text. -/
lemma exists_innerText (hdoc : ¬HoldsLongNumber doc) (depth : Nat) (around : List ValueId)
    (id : ValueId) : ∃ text, doc.innerText? depth around id = some text := by
  induction depth generalizing around id with
  | zero => exact ⟨_, rfl⟩
  | succ depth ih =>
    have hmember := ih (id :: around)
    unfold Document.innerText?
    dsimp only
    cases hv : doc.value id with
    | scalar s => exact (Holds.value hv).exists_inner hdoc
    | sequence items =>
      exact exists_collectionText (exists_mapM_eq_some fun item _ => hmember item)
    | mapping entries =>
      have hentry : ∀ e ∈ entries, ∃ text, (do
          return (← e.1.inner?) ++ ": " ++ (← doc.innerText? depth (id :: around) e.2)) =
            some text := by
        intro e he
        obtain ⟨key, hkey⟩ := (Holds.key hv he).exists_inner hdoc
        obtain ⟨value, hvalue⟩ := hmember e.2
        exact ⟨_, by rw [hkey, hvalue]; rfl⟩
      exact exists_collectionText (exists_mapM_eq_some hentry)
    | set members =>
      exact exists_collectionText (exists_mapM_eq_some fun s hs =>
        (Holds.member hv hs).exists_inner hdoc)
    | pairs items =>
      have hpair : ∀ p ∈ items, ∃ text, (do
          return "(" ++ (← doc.innerText? depth (id :: around) p.1) ++ ", " ++
            (← doc.innerText? depth (id :: around) p.2) ++ ")") = some text := by
        intro p _
        obtain ⟨first, hfirst⟩ := hmember p.1
        obtain ⟨second, hsecond⟩ := hmember p.2
        exact ⟨_, by rw [hfirst, hsecond]; rfl⟩
      exact exists_collectionText (exists_mapM_eq_some hpair)

lemma exists_text (hdoc : ¬HoldsLongNumber doc) (id : ValueId) :
    ∃ text, doc.text? id = some text := by
  unfold Document.text?
  cases hv : doc.value id with
  | scalar s => exact (Holds.value hv).exists_outer hdoc
  | _ => exact exists_innerText hdoc _ _ _

lemma holds_of_asMapping {value : Option ValueId} {place : String} {entries : Section}
    (h : Contract.asMapping doc value place = .ok entries) : ∀ e ∈ entries, Holds doc e.1 := by
  intro e he
  unfold Contract.asMapping at h
  split at h
  · obtain rfl := Except.ok.inj h
    exact absurd he List.not_mem_nil
  · obtain rfl := Except.ok.inj h
    exact absurd he List.not_mem_nil
  · next hv =>
    obtain rfl := Except.ok.inj h
    obtain ⟨id, -, hid⟩ := Option.map_eq_some_iff.mp hv
    exact .key hid he
  · cases h

end Texts

/-- A step of reading fails, if at all, with a cause of a certain kind. -/
def FailsOnly (P : ContractError → Prop) (x : ReadM α) : Prop :=
  ∀ t e, x.run t = .error e → P e

section Rules

variable {P : ContractError → Prop}

lemma failsOnly_pure (a : α) : FailsOnly P (pure a) := by
  intro t e hrun
  cases hrun

lemma failsOnly_throw {e : ContractError} (h : P e) : FailsOnly P (throw e : ReadM α) := by
  intro t e' hrun
  obtain rfl := Except.error.inj hrun
  exact h

lemma failsOnly_get : FailsOnly P get := by
  intro t e hrun
  cases hrun

lemma failsOnly_modify (f : TypeTable → TypeTable) : FailsOnly P (modify f : ReadM PUnit) := by
  intro t e hrun
  cases hrun

lemma failsOnly_bind {x : ReadM α} {f : α → ReadM β} (hx : FailsOnly P x)
    (hf : ∀ a, FailsOnly P (f a)) : FailsOnly P (x >>= f) := by
  intro t e hrun
  rw [StateT.run_bind] at hrun
  cases hxt : x.run t with
  | error e' =>
    rw [hxt] at hrun
    obtain rfl := Except.error.inj hrun
    exact hx t e' hxt
  | ok out =>
    rw [hxt] at hrun
    exact hf out.1 out.2 e hrun

/-- What is done with the value of a pure step may rely on how the value came about. -/
lemma failsOnly_lift_bind {x : Except ContractError α} {f : α → ReadM β}
    (hx : ∀ e, x = .error e → P e) (hf : ∀ a, x = .ok a → FailsOnly P (f a)) :
    FailsOnly P (liftM x >>= f) := by
  cases x with
  | error e =>
    intro t e' hrun
    obtain rfl := Except.error.inj hrun
    exact hx e rfl
  | ok a => exact fun t e hrun => hf a rfl t e hrun

lemma failsOnly_mapM {f : α → ReadM β} {l : List α} (h : ∀ x ∈ l, FailsOnly P (f x)) :
    FailsOnly P (l.mapM f) := by
  induction l with
  | nil => exact failsOnly_pure []
  | cons x l ih =>
    rw [List.mapM_cons]
    refine failsOnly_bind (h x List.mem_cons_self) fun y => ?_
    refine failsOnly_bind (ih fun z hz => h z (List.mem_cons_of_mem x hz)) fun ys => ?_
    exact failsOnly_pure _

end Rules

/-- A cause for which a document is not read: it lies in the contract, or a number is too long. -/
def ReadingFault (doc : Document) (e : ContractError) : Prop :=
  e.isReported = true ∨ (e = .numberTooLong ∧ HoldsLongNumber doc)

section Reading

variable {doc : Document} {types : Section}

/-- A step of reading a document fails for a cause of a document only. -/
abbrev Faulty (doc : Document) (x : ReadM α) : Prop :=
  FailsOnly (ReadingFault doc) x

lemma faulty_throw {e : ContractError} (h : e.isReported = true) :
    Faulty doc (throw e : ReadM α) :=
  failsOnly_throw (.inl h)

lemma faulty_shown {text : Option String} (h : ¬HoldsLongNumber doc → ∃ s, text = some s) :
    Faulty doc (Contract.shown text) := by
  cases text with
  | some text => exact failsOnly_pure text
  | none =>
    refine failsOnly_throw (.inr ⟨rfl, ?_⟩)
    by_contra hdoc
    obtain ⟨s, hs⟩ := h hdoc
    cases hs

lemma faulty_textOr (value : Option ValueId) (missing : String) :
    Faulty doc (Contract.textOr doc value missing) := by
  refine faulty_shown fun hdoc => ?_
  cases value with
  | none => exact ⟨missing, rfl⟩
  | some id => exact exists_text hdoc id

lemma reported_of_asMapping {value : Option ValueId} {place : String} {e : ContractError}
    (h : Contract.asMapping doc value place = .error e) : ReadingFault doc e := by
  unfold Contract.asMapping at h
  split at h
  · cases h
  · cases h
  · cases h
  · obtain rfl := Except.error.inj h
    exact .inl rfl

lemma reported_of_readMembers {name : String} {definition : Section} {e : ContractError}
    (h : Contract.readMembers doc name definition = .error e) : ReadingFault doc e := by
  unfold Contract.readMembers at h
  split at h
  · cases h
  split at h
  · cases h
  split at h
  · obtain ⟨id, -, hmember⟩ := error_of_mapM h
    split at hmember
    · cases hmember
    · obtain rfl := Except.error.inj hmember
      exact .inl rfl
  · obtain rfl := Except.error.inj h
    exact .inl rfl

lemma faulty_readDefinition {property : ValueId → String → ReadM Descriptor}
    (hp : ∀ value place, Faulty doc (property value place)) (name : String) :
    Faulty doc (Contract.readDefinition doc types property name) := by
  unfold Contract.readDefinition
  refine failsOnly_lift_bind (fun _ => reported_of_asMapping) fun definition _ => ?_
  refine failsOnly_bind (faulty_textOr _ _) fun kind => ?_
  split
  · refine failsOnly_lift_bind (fun _ => reported_of_readMembers) fun members _ => ?_
    exact failsOnly_bind (failsOnly_modify _) fun _ => failsOnly_pure _
  split
  · refine failsOnly_bind failsOnly_get fun before => ?_
    refine failsOnly_bind (failsOnly_modify _) fun _ => failsOnly_bind (failsOnly_modify _) fun _ => ?_
    refine failsOnly_lift_bind (fun _ => reported_of_asMapping) fun entries hentries => ?_
    refine failsOnly_bind (failsOnly_mapM fun entry hentry => ?_) fun properties => ?_
    · refine failsOnly_bind (faulty_shown ?_) fun key => ?_
      · exact (holds_of_asMapping hentries entry hentry).exists_outer
      · exact failsOnly_bind (hp _ _) fun d => failsOnly_pure _
    · exact failsOnly_bind (failsOnly_modify _) fun _ => failsOnly_pure _
  · exact faulty_throw rfl

lemma faulty_readExpression {named : String → ReadM Descriptor} (isDefined : String → Bool)
    (place : String) (hn : ∀ name, Faulty doc (named name)) (bound : Nat) (cs : List Char) :
    Faulty doc (Contract.readExpression named isDefined place bound cs) := by
  induction bound generalizing cs with
  | zero => exact faulty_throw rfl
  | succ bound ih =>
    unfold Contract.readExpression
    dsimp only
    split
    · exact faulty_throw rfl
    split
    · exact failsOnly_bind (ih _) fun d => failsOnly_pure _
    · exact failsOnly_bind (ih _) fun d => failsOnly_pure _
    · exact failsOnly_bind (failsOnly_mapM fun x _ => ih x) fun ds => failsOnly_pure _
    · split
      · exact failsOnly_pure _
      split
      · exact hn _
      · exact faulty_throw rfl

lemma faulty_readType (depth : Nat) (value : ValueId) (place : String) :
    Faulty doc (Contract.readType doc types depth value place) := by
  induction depth generalizing value place with
  | zero =>
    unfold Contract.readType
    split
    · refine faulty_readExpression _ _ (fun name => failsOnly_bind failsOnly_get fun t => ?_) _ _
      split
      · exact failsOnly_pure _
      · exact faulty_throw rfl
    · exact faulty_throw rfl
  | succ depth ih =>
    unfold Contract.readType
    split
    · refine faulty_readExpression _ _ (fun name => failsOnly_bind failsOnly_get fun t => ?_) _ _
      split
      · exact failsOnly_pure _
      · exact faulty_readDefinition ih name
    · exact faulty_throw rfl

lemma faulty_readOperation (direction : Direction) (place : String) (value : ValueId) :
    Faulty doc (Contract.readOperation doc types direction place value) := by
  have hparameters : ∀ entry, Faulty doc (Contract.readParameters doc types entry place) := by
    intro entry
    refine failsOnly_lift_bind (fun _ => reported_of_asMapping) fun entries hentries => ?_
    refine failsOnly_mapM fun e he => failsOnly_bind (faulty_shown ?_) fun key => ?_
    · exact (holds_of_asMapping hentries e he).exists_outer
    · exact failsOnly_bind (faulty_readType _ _ _) fun d => failsOnly_pure _
  have hrest : ∀ name entry, Faulty doc (do
      let parameters ← Contract.readParameters doc types entry place
      let returns ← Contract.textOr doc (Document.findKey entry "returns") "Task"
      return { name, direction, parameters, asyncVoid := returns ∈ Contract.asyncVoidResults
               returns := some returns : Operation }) := by
    intro name entry
    refine failsOnly_bind (hparameters entry) fun parameters => ?_
    exact failsOnly_bind (faulty_textOr _ _) fun returns => failsOnly_pure _
  unfold Contract.readOperation
  refine failsOnly_lift_bind (fun _ => reported_of_asMapping) fun entry _ => ?_
  split
  · split
    · exact failsOnly_bind (faulty_throw rfl) fun _ => hrest _ entry
    · exact hrest _ entry
  · exact faulty_throw rfl

lemma faulty_readSection (root : Section) (part : String) (role : Role) (direction : Direction) :
    Faulty doc (Contract.readSection doc types root part role direction) := by
  have hname : ∀ data, Faulty doc (Contract.sectionName doc part data) := by
    intro data
    unfold Contract.sectionName
    split
    · split
      · exact faulty_shown fun hdoc => exists_text hdoc _
      · exact failsOnly_pure part
    · exact failsOnly_pure part
  have hoperations : ∀ data, Faulty doc (Contract.readOperations doc types direction part data) := by
    intro data
    unfold Contract.readOperations
    split
    · exact failsOnly_pure []
    split
    · exact failsOnly_pure []
    split
    · exact failsOnly_mapM fun item _ => faulty_readOperation direction _ _
    · exact faulty_throw rfl
    · exact faulty_throw rfl
  unfold Contract.readSection
  split
  · exact failsOnly_pure []
  split
  · exact failsOnly_pure []
  · refine failsOnly_lift_bind (fun _ => reported_of_asMapping) fun data _ => ?_
    refine failsOnly_bind (hname data) fun name => ?_
    exact failsOnly_bind (hoperations data) fun operations => failsOnly_pure _

/-- A document that is not read as a contract is at fault itself, or holds a number that is too long
to be shown. -/
theorem fault_of_ofDocument {source : String} {e : ContractError}
    (h : Contract.ofDocument doc source = .error e) : ReadingFault doc e := by
  have hsections : ∀ types root : Section, Faulty doc (do
      let hub ← Contract.readSection doc types root "hub" .hub .serverReceived
      let api ← Contract.readSection doc types root "client_api" .clientApi .clientInvoked
      return hub ++ api) := by
    intro types root
    refine failsOnly_bind (faulty_readSection _ _ _ _) fun hub => ?_
    exact failsOnly_bind (faulty_readSection _ _ _ _) fun api => failsOnly_pure _
  unfold Contract.ofDocument at h
  split at h
  case h_1 | h_2 =>
    rcases error_of_bind h with hroot | ⟨root, -, h⟩
    · cases hroot
    rcases error_of_bind h with htypes | ⟨types, -, h⟩
    · exact reported_of_asMapping htypes
    rcases error_of_bind h with hread | ⟨out, -, h⟩
    · exact hsections types _ _ e hread
    · cases h
  · obtain rfl := Except.error.inj h
    exact .inl rfl

end Reading

end HubProxy.Proofs
