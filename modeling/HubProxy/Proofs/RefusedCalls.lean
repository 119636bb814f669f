import HubProxy.Proofs.RepeatedResolution

/-!
# Refused calls

A direct call is refused over a name that is taken, or that is held for a type of another shape. A refused
call leaves the registry as it was, so that no later call can tell whether it was made. The exception is
a declaration that is refused over its shape: the reservation that it was compared with is gone, and the
same declaration is accepted when it is made again.
-/

namespace HubProxy.Proofs

variable {classes : ClassTable} {r r' : Registry} {d : Descriptor} {name : String}
  {declaration : Option TypeDeclaration} {call : Call} {cause : BuildError}

/-- A call that is no resolution. -/
def Call.IsDirect : Call → Prop
  | .resolve .. => False
  | _ => True

/-- A call that declares a type. -/
def Call.IsDeclaration : Call → Prop
  | .declare .. => True
  | _ => False

/-- A call fails because of a name. -/
def IsRefusal (name : String) (cause : BuildError) : Prop :=
  cause = .duplicateDeclaration name ∨ cause = .typeConflict name

/-- What calls come to, each made whether or not the ones before it failed. -/
def outcomes (classes : ClassTable) : List Call → Registry → List (Except BuildError Unit)
  | [], _ => []
  | call :: calls, r =>
    (runOn r (call.run classes)).1 :: outcomes classes calls (afterCall classes r call)

/-- Two registries show the same. -/
structure ShowsSame (r r' : Registry) : Prop where
  contains_eq : ∀ n, r'.contains n = r.contains n
  size_eq : r'.size = r.size
  existing_eq : r'.existing = r.existing
  declaredTypes_eq : r'.declaredTypes = r.declaredTypes
  declarations_eq : r'.declarations = r.declarations
  imports_eq : r'.imports = r.imports

/-- Two registries show the same now, and after the same further calls, which come to the same. -/
structure Indistinct (classes : ClassTable) (r r' : Registry) : Prop where
  now : ShowsSame r r'
  outcomes_eq : ∀ calls, outcomes classes calls r' = outcomes classes calls r
  later : ∀ calls, ShowsSame (after classes calls r) (after classes calls r')

/-- A declaration has taken away the reservation of a name, and nothing else. -/
structure Drops (classes : ClassTable) (name : String) (call : Call) (r r' : Registry) : Prop where
  reserved : r.isReserved name = true
  gone : r'.contains name = false
  others : ∀ n, n ≠ name → r'.contains n = r.contains n
  size_eq : r.size = r'.size + 1
  existing_eq : r'.existing = r.existing
  declaredTypes_eq : r'.declaredTypes = r.declaredTypes
  declarations_eq : r'.declarations = r.declarations
  imports_eq : r'.imports = r.imports
  accepted : (runOn r' (call.run classes)).1 = .ok ()

/-! ## Registries that show the same -/

lemma ShowsSame.refl (r : Registry) : ShowsSame r r :=
  ⟨fun _ => rfl, rfl, rfl, rfl, rfl, rfl⟩

lemma Indistinct.refl (classes : ClassTable) (r : Registry) : Indistinct classes r r :=
  ⟨.refl r, fun _ => rfl, fun _ => .refl _⟩

/-! ## What a refused call leaves -/

lemma not_isRefusal_nameless : ¬IsRefusal name .nameless := by
  rintro (h | h) <;> cases h

lemma agree_error {a b : Descriptor} (h : agree classes a b = .error cause) : cause = .nameless := by
  unfold agree at h
  split at h <;> cases h
  rfl

/-- A declaration is refused over a name that is taken, or over the shape that a name is held for. -/
lemma declare_refused (hcause : IsRefusal name cause)
    (h : (runOn r (declare classes d declaration)).1 = .error cause) :
    (cause = .duplicateDeclaration name ∧ (runOn r (declare classes d declaration)).2 = r) ∨
    (cause = .typeConflict name ∧ d.name? classes = some name ∧
      r.existing.contains name = false ∧ r.isDeclared name = false ∧ r.isReserved name = true ∧
      (runOn r (declare classes d declaration)).2 = releasing r name) := by
  cases hd : d.name? classes with
  | none =>
    rw [declare, runOn_bind, runOn_named, hd] at h
    cases h
    exact absurd hcause not_isRefusal_nameless
  | some own =>
    by_cases hr : (r.existing.contains own || r.isDeclared own) = true
    · rw [runOn_declare_again hd declaration r hr] at h ⊢
      obtain rfl := Except.error.inj h
      rcases hcause with hcause | hcause <;> cases hcause
      exact .inl ⟨rfl, rfl⟩
    rw [Bool.not_eq_true, Bool.or_eq_false_iff] at hr
    rw [runOn_declare hd declaration r hr.1 hr.2] at h ⊢
    cases hk : r.reserved.lookup own with
    | none =>
      rw [hk] at h
      cases h
    | some known =>
      simp only [hk] at h ⊢
      rcases ha : agree classes known d with e | _ | _
      · rw [ha] at h
        cases h
        rw [agree_error ha] at hcause
        exact absurd hcause not_isRefusal_nameless
      · rw [ha] at h
        obtain rfl := Except.error.inj h
        rcases hcause with hcause | hcause <;> cases hcause
        exact .inr ⟨rfl, rfl, hr.1, hr.2, by simp [Registry.isReserved, hk], rfl⟩
      · rw [ha] at h
        cases h

lemma reserve_refused (h : (runOn r (reserve classes d)).1 = .error cause) :
    (runOn r (reserve classes d)).2 = r := by
  cases hd : d.name? classes with
  | none => rw [reserve, runOn_bind, runOn_named, hd]
  | some own =>
    cases hr : r.contains own with
    | false =>
      rw [runOn_reserve hd r hr] at h
      cases h
    | true =>
      simp only [reserve, runOn_bind, runOn_named, hd, runOn_get, hr, ite_true]
      rfl

/-- A refused call leaves the registry as it was, unless it declares a type whose name is held for
another shape. -/
lemma afterCall_of_refused (hdirect : call.IsDirect) (hcause : IsRefusal name cause)
    (h : (runOn r (call.run classes)).1 = .error cause)
    (hother : ¬(call.IsDeclaration ∧ cause = .typeConflict name)) : afterCall classes r call = r := by
  cases call with
  | reserve d => exact reserve_refused h
  | declare d declaration =>
    rcases declare_refused hcause h with ⟨-, hsame⟩ | ⟨hconflict, -⟩
    · exact hsame
    · exact absurd ⟨trivial, hconflict⟩ hother
  | checkConsistent d => exact runOn_checkConsistent_snd classes d r
  | requireImport ns =>
    rw [Call.run, runOn_requireImport] at h
    cases h
  | resolve visibility d => exact hdirect.elim

/-! ## Reservations that are dropped -/

lemma inOrder_after (classes : ClassTable) (existing : List String) (calls : List Call) :
    InOrder classes existing (after classes calls (.ofExisting existing)) := by
  have hchanges : Changes classes (.ofExisting existing)
      (after classes calls (.ofExisting existing)) := changes_after calls _
  have himports : (after classes calls (.ofExisting existing)).imports.Nodup := by
    rw [imports_after]
    exact nodup_addAll List.nodup_nil _
  exact (hchanges.kept (kept_ofExisting existing)).inOrder hchanges.grows.existing_eq himports

/-- A registry that contains all names of another one but one is smaller by one. -/
lemma InOrder.size_eq_succ {existing : List String} (h : InOrder classes existing r)
    (h' : InOrder classes existing r') (hname : r.contains name = true)
    (hgone : r'.contains name = false) (hothers : ∀ n, n ≠ name → r'.contains n = r.contains n) :
    r.size = r'.size + 1 := by
  obtain ⟨names, hnodup, hmem, hsize⟩ := h.size_eq
  obtain ⟨names', hnodup', hmem', hsize'⟩ := h'.size_eq
  have hnew : name ∉ names' := fun hn => by
    rw [hmem', hgone] at hn
    cases hn
  have hperm : names.Perm (name :: names') := by
    rw [List.perm_ext_iff_of_nodup hnodup (List.nodup_cons.mpr ⟨hnew, hnodup'⟩)]
    intro n
    rw [List.mem_cons, hmem, hmem']
    by_cases hn : n = name
    · simp [hn, hname]
    · simp [hn, hothers n hn]
  rw [hsize, hsize', hperm.length_eq, List.length_cons]

lemma contains_releasing (hex : r.existing.contains name = false)
    (hdecl : r.isDeclared name = false) (n : String) :
    (releasing r name).contains n = if n = name then false else r.contains n := by
  by_cases hn : n = name
  · subst n
    have hlookup : r.declared.lookup name = none := by simpa [Registry.isDeclared] using hdecl
    have hfree : name ∉ r.existing := by simpa using hex
    rw [if_pos rfl, not_contains_iff]
    exact ⟨hfree, by simp [known?, releasing, lookup_filter_ne, hlookup]⟩
  · simp [Registry.contains, Registry.isReserved, Registry.isDeclared, releasing, lookup_filter_ne, hn]

lemma declare_releasing (hd : d.name? classes = some name) (hex : r.existing.contains name = false)
    (hdecl : r.isDeclared name = false) :
    (runOn (releasing r name) (declare classes d declaration)).1 = .ok () := by
  have hfree : (releasing r name).reserved.lookup name = none := by
    simp [releasing, lookup_filter_ne]
  rw [runOn_declare hd declaration (releasing r name) hex hdecl, hfree]

lemma drops_of_conflict {existing : List String} (h : InOrder classes existing r)
    (h' : InOrder classes existing (afterCall classes r call)) (hdeclares : call.IsDeclaration)
    (hfail : (runOn r (call.run classes)).1 = .error (.typeConflict name)) :
    Drops classes name call r (afterCall classes r call) := by
  cases call with
  | declare d declaration =>
    rcases declare_refused (.inr rfl) hfail with ⟨hcause, -⟩ | ⟨-, hd, hex, hdecl, hres, hafter⟩
    · cases hcause
    have hleft : afterCall classes r (.declare d declaration) = releasing r name := hafter
    rw [hleft] at h' ⊢
    have hcontains := contains_releasing hex hdecl
    have hgone : (releasing r name).contains name = false := by rw [hcontains, if_pos rfl]
    have hothers : ∀ n, n ≠ name → (releasing r name).contains n = r.contains n :=
      fun n hn => by rw [hcontains, if_neg hn]
    have hheld : r.contains name = true := (h.contains_iff name).mpr (.inr (.inl hres))
    exact {
      reserved := hres
      gone := hgone
      others := hothers
      size_eq := h.size_eq_succ h' hheld hgone hothers
      existing_eq := rfl
      declaredTypes_eq := rfl
      declarations_eq := rfl
      imports_eq := rfl
      accepted := declare_releasing hd hex hdecl }
  | reserve | checkConsistent | requireImport | resolve => exact hdeclares.elim

lemma after_concat (calls : List Call) (call : Call) (r : Registry) :
    after classes (calls ++ [call]) r = afterCall classes (after classes calls r) call := by
  simp [after, List.foldl_append]

/-- Whatever has been called before, a refused call goes unnoticed exactly if it is not a declaration that
is refused over its shape. Such a declaration drops the reservation of its name. -/
theorem refused_call_unnoticed_iff {existing : List String} {calls : List Call}
    (hdirect : call.IsDirect) (hcause : IsRefusal name cause)
    (h : (runOn (after classes calls (.ofExisting existing)) (call.run classes)).1 = .error cause) :
    (Indistinct classes (after classes calls (.ofExisting existing))
        (after classes (calls ++ [call]) (.ofExisting existing)) ↔
      ¬(call.IsDeclaration ∧ cause = .typeConflict name)) ∧
    (call.IsDeclaration → cause = .typeConflict name →
      Drops classes name call (after classes calls (.ofExisting existing))
        (after classes (calls ++ [call]) (.ofExisting existing))) := by
  have hdrops : call.IsDeclaration → cause = .typeConflict name →
      Drops classes name call (after classes calls (.ofExisting existing))
        (after classes (calls ++ [call]) (.ofExisting existing)) := by
    rintro hdeclares rfl
    have horder := inOrder_after classes existing (calls ++ [call])
    rw [after_concat] at horder ⊢
    exact drops_of_conflict (inOrder_after classes existing calls) horder hdeclares h
  refine ⟨⟨?_, fun hother => ?_⟩, hdrops⟩
  · rintro hsame ⟨hdeclares, hconflict⟩
    have hdropped := hdrops hdeclares hconflict
    have hsize := hsame.now.size_eq
    rw [hdropped.size_eq] at hsize
    omega
  · rw [after_concat, afterCall_of_refused hdirect hcause h hother]
    exact .refl classes _

/-- Two classes of one name. -/
def twinPoints : ClassTable :=
  #[⟨"Point", [("x", .primitive "int" none)], false⟩,
    ⟨"Point", [("latitude", .primitive "double" none)], false⟩]

theorem refused_call_twinPoints :
    (runOn (after twinPoints [.reserve (.cls 0)] (.ofExisting ["Color"]))
      ((Call.checkConsistent (.cls 1)).run twinPoints)).1 = .error (.typeConflict "Point") ∧
    Indistinct twinPoints (after twinPoints [.reserve (.cls 0)] (.ofExisting ["Color"]))
      (after twinPoints [.reserve (.cls 0), .checkConsistent (.cls 1)] (.ofExisting ["Color"])) ∧
    (runOn (after twinPoints [.reserve (.cls 0)] (.ofExisting ["Color"]))
      ((Call.declare (.cls 1) none).run twinPoints)).1 = .error (.typeConflict "Point") ∧
    Drops twinPoints "Point" (.declare (.cls 1) none)
      (after twinPoints [.reserve (.cls 0)] (.ofExisting ["Color"]))
      (after twinPoints [.reserve (.cls 0), .declare (.cls 1) none] (.ofExisting ["Color"])) := by
  have hcheck : (runOn (after twinPoints [.reserve (.cls 0)] (.ofExisting ["Color"]))
      ((Call.checkConsistent (.cls 1)).run twinPoints)).1 = .error (.typeConflict "Point") := rfl
  have hdeclare : (runOn (after twinPoints [.reserve (.cls 0)] (.ofExisting ["Color"]))
      ((Call.declare (.cls 1) none).run twinPoints)).1 = .error (.typeConflict "Point") := rfl
  have hdirect : (Call.checkConsistent (.cls 1)).IsDirect ∧ (Call.declare (.cls 1) none).IsDirect :=
    ⟨trivial, trivial⟩
  have hsame := (refused_call_unnoticed_iff hdirect.1 (.inr rfl) hcheck).1.mpr fun h => h.1
  have hdropped := (refused_call_unnoticed_iff hdirect.2 (.inr rfl) hdeclare).2 trivial rfl
  exact ⟨hcheck, hsame, hdeclare, hdropped⟩

/-- A declaration that is refused once is accepted when it is made again. -/
theorem refused_declaration_accepted_again :
    (runOn (after twinPoints [.reserve (.cls 0)] (.ofExisting []))
      ((Call.declare (.cls 1) none).run twinPoints)).1 = .error (.typeConflict "Point") ∧
    (after twinPoints [.reserve (.cls 0)] (.ofExisting [])).contains "Point" = true ∧
    (after twinPoints [.reserve (.cls 0), .declare (.cls 1) none] (.ofExisting [])).contains "Point" =
      false ∧
    (runOn (after twinPoints [.reserve (.cls 0), .declare (.cls 1) none] (.ofExisting []))
      ((Call.declare (.cls 1) none).run twinPoints)).1 = .ok () :=
  ⟨rfl, rfl, rfl, rfl⟩

end HubProxy.Proofs
