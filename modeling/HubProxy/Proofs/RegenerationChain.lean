import HubProxy.Proofs.Regeneration

/-!
# Generating again and again

Each source of a contract is generated over the one before. From the second on every other source is
the proxy alone, and those between are all the same: the chain has settled if the third source
declares nothing, and else it goes back and forth between the two.
-/

namespace HubProxy.Proofs

open CSharp

/-- The sources of a contract, each generated over the one before. -/
def regenerated (contract ns className : String) : Nat → Option String
  | 0 => some ""
  | n + 1 => do
    let source ← regenerated contract ns className n
    let g ← (generateFromText contract ns className (some source)).1.toOption
    return g.text

/-- What is generated over the source of that number declares nothing. -/
def DeclaresNothingOver (contract ns className : String) (n : Nat) : Prop :=
  ∃ source g, regenerated contract ns className n = some source ∧
    (generateFromText contract ns className (some source)).1 = .ok g ∧ g.model.declarations = []

/-- The build that the source of that number comes from. -/
structure Stage (contract ns className : String) (m : Metadata) (operations : List Operation)
    (n : Nat) (existing : List String) (r : Registry) : Prop where
  ended : Ended {} m existing operations r
  source : regenerated contract ns className n = some (generatedOf m ns className operations r).text

section Chain

variable {contract ns className : String} {m : Metadata} {operations : List Operation}
  {n n' : Nat} {existing existing' : List String} {r r' r₀ : Registry}

lemma regenerated_add {i j : Nat}
    (h : regenerated contract ns className i = regenerated contract ns className j) (k : Nat) :
    regenerated contract ns className (i + k) = regenerated contract ns className (j + k) := by
  induction k with
  | zero => exact h
  | succ k ih => rw [← Nat.add_assoc, ← Nat.add_assoc, regenerated, regenerated, ih]

lemma DeclaresNothingOver.congr {i j : Nat} (hi : DeclaresNothingOver contract ns className i)
    (h : regenerated contract ns className i = regenerated contract ns className j) :
    DeclaresNothingOver contract ns className j := by
  obtain ⟨source, g, hsource, hg⟩ := hi
  exact ⟨source, g, h ▸ hsource, hg⟩

lemma regenerated_succ {source : String} {g : Generated}
    (hsource : regenerated contract ns className n = some source)
    (hg : (generateFromText contract ns className (some source)).1 = .ok g) :
    regenerated contract ns className (n + 1) = some g.text := by
  simp [regenerated, hsource, hg, Except.toOption]

lemma existingIn_empty (ns : String) : existingIn (some "") ns = [] := by
  simp [existingIn, declaredTypes, stripFrom, tokens, regionsFrom, sortNames]

lemma exists_stage_one (hread : Contract.ofText contract unnamedSource = .ok m)
    (hfirst : (regenerated contract ns className 1).isSome) :
    ∃ operations r, Stage contract ns className m operations 1 [] r := by
  cases hg : (generateFromText contract ns className (some "")).1 with
  | error cause => simp [regenerated, hg, Except.toOption] at hfirst
  | ok g =>
    obtain ⟨operations, r, h, rfl⟩ := ended_of_generateFromText hread hg
    rw [existingIn_empty] at h
    exact ⟨operations, r, h, regenerated_succ rfl hg⟩

lemma Stage.exists_next (h : Stage contract ns className m operations n existing r)
    (hread : Contract.ofText contract unnamedSource = .ok m) (h₀ : Ended {} m [] operations r₀) :
    ∃ r', Stage contract ns className m operations (n + 1) (foundIn m ns className operations r) r' ∧
      (DeclaresNothingOver contract ns className n ↔ r'.declarations = []) := by
  obtain ⟨r', h', hg⟩ :=
    h₀.generates hread ns className (some (generatedOf m ns className operations r).text)
  rw [existingIn_generatedOf] at h'
  refine ⟨r', ⟨h', regenerated_succ h.source hg⟩, fun ⟨source, g, hsource, hg', hnone⟩ => ?_,
    fun hnone => ⟨_, _, h.source, hg, hnone⟩⟩
  obtain rfl := Option.some.inj (hsource.symm.trans h.source)
  obtain rfl := Except.ok.inj (hg'.symm.trans hg)
  exact hnone

lemma Stage.source_eq (h : Stage contract ns className m operations n existing r)
    (h' : Stage contract ns className m operations n' existing' r') (hnone : r.declarations = [])
    (hnone' : r'.declarations = []) :
    regenerated contract ns className n = regenerated contract ns className n' := by
  have htext : (generatedOf m ns className operations r).text =
      (generatedOf m ns className operations r').text := by
    simp only [generatedOf_text]
    exact h.ended.emit_eq_of_declarations_nil h'.ended hnone hnone'
  rw [h.source, h'.source, htext]

lemma Stage.declarations_nil (h : Stage contract ns className m operations n existing r)
    (h' : Stage contract ns className m operations n' (foundIn m ns className operations r) r')
    (hs : Scannable m ns className)
    (heq : regenerated contract ns className n' = regenerated contract ns className n) :
    r'.declarations = [] := by
  have htext := Option.some.inj (h'.source.symm.trans (heq.trans h.source))
  have hfound : foundIn m ns className operations r' = foundIn m ns className operations r := by
    rw [← existingIn_generatedOf, htext, existingIn_generatedOf]
  exact h'.ended.declarations_nil_of_foundIn_subset hs fun n hn => hfound ▸ hn

/-- How a chain of sources begins: the fourth source is the second. -/
structure Opening (contract ns className : String) (m : Metadata) (operations : List Operation)
    (second third : Registry) : Prop where
  exists_all : ∀ n, (regenerated contract ns className n).isSome
  returns : regenerated contract ns className 4 = regenerated contract ns className 2
  second_none : second.declarations = []
  first_over : DeclaresNothingOver contract ns className 1
  third_over : DeclaresNothingOver contract ns className 3
  stage_two : ∃ existing, Stage contract ns className m operations 2 existing second
  stage_three : Stage contract ns className m operations 3
    (foundIn m ns className operations second) third
  second_over : DeclaresNothingOver contract ns className 2 ↔ third.declarations = []

lemma exists_opening (hread : Contract.ofText contract unnamedSource = .ok m)
    (hs : Scannable m ns className) (hfirst : (regenerated contract ns className 1).isSome) :
    ∃ operations second third, Opening contract ns className m operations second third := by
  obtain ⟨operations, r₁, h₁⟩ := exists_stage_one hread hfirst
  obtain ⟨r₂, h₂, hover₁⟩ := h₁.exists_next hread h₁.ended
  obtain ⟨r₃, h₃, hover₂⟩ := h₂.exists_next hread h₁.ended
  obtain ⟨r₄, h₄, hover₃⟩ := h₃.exists_next hread h₁.ended
  have hnone₂ := (h₁.ended.settles hs (List.nil_subset _) h₂.ended).2
  -- The third source shows all that the second shows, so the fourth needs nothing else.
  have hsub := h₂.ended.foundIn_subset h₃.ended hs hnone₂
  have hnone₄ := (h₃.ended.settles hs hsub h₄.ended).2
  have hall : ∀ k, ∃ existing r, Stage contract ns className m operations (k + 1) existing r := by
    intro k
    induction k with
    | zero => exact ⟨[], r₁, h₁⟩
    | succ k ih =>
      obtain ⟨existing, r, h⟩ := ih
      obtain ⟨r', h', -⟩ := h.exists_next hread h₁.ended
      exact ⟨_, r', h'⟩
  refine ⟨operations, r₂, r₃, fun n => ?_, h₄.source_eq h₂ hnone₄ hnone₂, hnone₂, hover₁.mpr hnone₂,
    hover₃.mpr hnone₄, ⟨_, h₂⟩, h₃, hover₂⟩
  cases n with
  | zero => rfl
  | succ k =>
    obtain ⟨existing, r, h⟩ := hall k
    exact Option.isSome_iff_exists.mpr ⟨_, h.source⟩

variable {second third : Registry}

lemma Opening.period (h : Opening contract ns className m operations second third) (hn : 2 ≤ n) :
    regenerated contract ns className (n + 2) = regenerated contract ns className n := by
  obtain ⟨k, rfl⟩ := Nat.exists_eq_add_of_le hn
  have hstep := regenerated_add h.returns k
  have heq : 2 + k + 2 = 4 + k := by omega
  rw [heq, hstep]

lemma Opening.odd_over (h : Opening contract ns className m operations second third) (k : Nat) :
    DeclaresNothingOver contract ns className (2 * k + 1) := by
  induction k with
  | zero => exact h.first_over
  | succ k ih =>
    cases k with
    | zero => exact h.third_over
    | succ k => exact ih.congr (h.period (by omega)).symm

lemma Opening.settles_iff (h : Opening contract ns className m operations second third)
    (hs : Scannable m ns className) :
    (∀ n, 2 ≤ n → regenerated contract ns className (n + 1) = regenerated contract ns className n) ↔
      third.declarations = [] := by
  obtain ⟨existing, htwo⟩ := h.stage_two
  constructor
  · intro hall
    exact htwo.declarations_nil h.stage_three hs (hall 2 le_rfl)
  · intro hnone n hn
    obtain ⟨k, rfl⟩ := Nat.exists_eq_add_of_le hn
    have hstep := regenerated_add (h.stage_three.source_eq htwo hnone h.second_none) k
    have heq : 2 + k + 1 = 3 + k := by omega
    rw [heq, hstep]

end Chain

section UserTypes

variable {m : Metadata} {ns className : String} {existing existing' : List String}
  {operations : List Operation} {r : Registry}

/-- The type that arrays lead to. -/
def elementOf : Descriptor → Descriptor
  | .array element => elementOf element
  | d => d

/-- No operation takes a class or an enumeration, nor an array of one. -/
def TakesNoUserType (m : Metadata) : Prop :=
  ∀ operations, builtOperations? m = some operations → ∀ o ∈ operations,
    ∀ p ∈ callerParameters o.parameters, ¬UserType (elementOf p.2)

lemma elementOf_of_userType {d : Descriptor} (h : UserType d) : elementOf d = d := by
  cases d with
  | array => exact h.elim
  | _ => rfl

lemma Needed.elementOf {d : Descriptor} (h : Needed m existing d) :
    Needed m existing (elementOf d) := by
  induction d using elementOf.induct with
  | case1 element ih => exact ih h.element
  | case2 d hleaf =>
    cases d with
    | array element => exact absurd rfl (hleaf element)
    | _ => exact h

lemma TakesNoUserType.needed (ht : TakesNoUserType m) {d : Descriptor}
    (hd : Needed m existing d) : ¬UserType (elementOf d) := by
  induction hd with
  | parameter hm ho hp => exact ht _ hm _ ho _ hp
  | element _ ih => exact ih
  | member _ _ _ _ ih => exact absurd trivial ih

lemma TakesNoUserType.declarations (ht : TakesNoUserType m)
    (h : Ended {} m existing operations r) : r.declarations = [] := by
  rw [h.ordered.sound.declarations_eq, List.filterMap_eq_nil_iff]
  intro p hp
  obtain ⟨hneeded, -⟩ := h.of_mem_declared hp
  have hno := ht.needed hneeded
  rw [Option.eq_none_iff_forall_ne_some]
  intro declaration hd
  have huser := userType_of_declarationOf? hd
  rw [elementOf_of_userType huser] at hno
  exact hno huser

lemma WellNamed.mono (hsub : existing ⊆ existing') (h : WellNamed m existing) :
    WellNamed m existing' := by
  refine ⟨h.operations, fun name members hd => ?_, fun id c hd hc => ?_⟩
  · obtain ⟨hname, hmembers⟩ := h.enums name members (hd.mono hsub)
    exact ⟨hname, fun hfresh => hmembers fun hmem => hfresh (hsub hmem)⟩
  · obtain ⟨hname, hproperties⟩ := h.classes id c (hd.mono hsub) hc
    exact ⟨hname, fun hfresh => hproperties fun hmem => hfresh (hsub hmem)⟩

lemma not_isIdentifier_arrayName (base : String) {rank : Nat} (hrank : 1 ≤ rank) :
    ¬IsIdentifier (arrayName base rank) := by
  obtain ⟨k, rfl⟩ := Nat.exists_eq_add_of_le' hrank
  intro h
  have hword := h.2 ']' (by simp [arrayName])
  exact absurd hword (by decide)

/-- In a proxy alone the scanner finds its name and arrays. -/
lemma Ended.not_mem_foundIn (h : Ended {} m existing operations r) (hs : Scannable m ns className)
    (hwell : WellNamed m existing) (hclass : IsTypeName className) (hnone : r.declarations = [])
    {n : String} (hn : IsIdentifier n) (hne : n ≠ className) :
    n ∉ foundIn m ns className operations r := by
  obtain ⟨first, words, hns, hfirst, hwords⟩ := hs.dotted
  have hdotted : (modelOf {} m ns className operations r).ns = first ++ dotText words :=
    hns.trans (intercalate_dots first words)
  have hreadable := h.readableModel hs.known hwell (by decide) (by decide) (by decide) hclass ns
  intro hmem
  rcases (mem_declaredTypes_emit hreadable hdotted hfirst hwords n).mp hmem with
    heq | ⟨d, hd, -⟩ | harray
  · exact hne heq
  · rw [modelOf, hnone] at hd
    exact absurd hd List.not_mem_nil
  · obtain ⟨type, htype, hn'⟩ := (h.mem_arrays n ns className).mp harray
    obtain ⟨base, rank, k, -, hpos, -, rfl⟩ := ((hreadable.parameterType htype).mem_arraysOf n).mp hn'
    exact not_isIdentifier_arrayName base hpos hn

end UserTypes

section Settling

variable {contract ns className : String} {m : Metadata} {operations : List Operation}
  {second third : Registry}

/-- The class of the proxy has the name of no type that the contract mentions. -/
def NamesNoType (m : Metadata) (className : String) : Prop :=
  ∀ d name, Mentioned m d → UserType d → d.name? m.classes = some name → name ≠ className

/-- The third source declares the classes and enumerations that the operations take. -/
lemma Opening.third_nil_iff (h : Opening contract ns className m operations second third)
    (hs : Scannable m ns className) (hwell : WellNamed m []) (hclass : IsTypeName className)
    (hother : NamesNoType m className) : third.declarations = [] ↔ TakesNoUserType m := by
  refine ⟨fun hnone operations' hm o ho p hp huser => ?_,
    fun ht => ht.declarations h.stage_three.ended⟩
  obtain ⟨existing, htwo⟩ := h.stage_two
  have hneeded : Needed m (foundIn m ns className operations second) (elementOf p.2) :=
    (Needed.parameter hm ho hp).elementOf
  obtain ⟨name, hname⟩ := (h.stage_three.ended.handled_of_ownNames hs.own hneeded).named
  have hidentifier := hs.names.isIdentifier hneeded.mentioned huser hname
  have hfresh := htwo.ended.not_mem_foundIn hs (hwell.mono (List.nil_subset _)) hclass h.second_none
    hidentifier (hother _ _ hneeded.mentioned huser hname)
  exact (h.stage_three.ended.declares hs.own hneeded huser hname hfresh).2 hnone

lemma regenerated_floorText :
    (regenerated (floorText "Floor") "Games.Net" "Proxy" 1).isSome := by
  have hmem : "Floor" ∈ ["Floor", "Étage"] := by decide
  obtain ⟨_, hended⟩ := exists_ended_floor hmem
  obtain ⟨r, h, hg⟩ := hended.generates (ofText_floorText hmem) "Games.Net" "Proxy" (some "")
  exact Option.isSome_iff_exists.mpr ⟨_, regenerated_succ rfl hg⟩

lemma wellNamed_floorContract : WellNamed (floorContract "Floor") [] where
  operations operations hm o ho := by
    obtain ⟨t, ht, hot⟩ := types_of_builtOperations? hm ho
    have hall : ∀ t ∈ (floorContract "Floor").types, ∀ o ∈ t.operations, IsIdentifier o.name ∧
        ∀ p ∈ callerParameters o.parameters, IsIdentifier p.1 := by decide
    exact hall t ht o hot
  enums name members hd := absurd (mem_floorContract hd.mentioned) (by simp)
  classes id c hd hc := by
    obtain rfl : id = 0 := by simpa using mem_floorContract hd.mentioned
    obtain rfl := Option.some.inj hc
    exact ⟨by decide, fun _ => by decide⟩

lemma namesNoType_floorContract : NamesNoType (floorContract "Floor") "Proxy" := by
  intro d name hd huser hname
  have hmem := mem_floorContract hd
  simp only [List.mem_cons, List.not_mem_nil, or_false] at hmem
  rcases hmem with rfl | rfl | rfl
  · obtain rfl : "Floor" = name := Option.some.inj hname
    decide
  · exact huser.elim
  · exact huser.elim

lemma not_takesNoUserType_floorContract : ¬TakesNoUserType (floorContract "Floor") :=
  fun h => h floorOperations rfl _ List.mem_cons_self ("tür", .cls 0) List.mem_cons_self trivial

end Settling

end HubProxy.Proofs
