import HubProxy.Generation.Generate
import HubProxy.Proofs.BuiltSegments
import HubProxy.Proofs.ContractNames
import HubProxy.Proofs.StableImports
import Mathlib.Data.Option.Basic

/-!
# Generating over earlier output

A generation that is given its own output declares nothing again, so the second output is the proxy
alone. What the scanner finds in that need not be all that the proxy needs: the third output declares
the rest once more, the fourth is the second one again, and so on.
-/

namespace HubProxy.Proofs

open CSharp

/-- The name of a namespace as the scanner reads it. -/
def DottedName (ns : String) : Prop :=
  ∃ first words, ns = ".".intercalate (first :: words) ∧ IsIdentifier first ∧ ∀ w ∈ words, IsWord w

section Builds

/-- A contract, a namespace and a class name such that the scanner finds the types of a build. -/
structure Scannable (m : Metadata) (ns className : String) : Prop where
  known : KnownContract m
  own : OwnNames m
  names : WordNamed m
  dotted : DottedName ns
  calm : CalmText className

lemma scannable_of_ofText {text source ns className : String} {m : Metadata}
    (hread : Contract.ofText text source = .ok m) (hnames : WordNamed m) (hns : DottedName ns)
    (hclass : CalmText className) : Scannable m ns className :=
  ⟨knownContract_of_ofText hread, ownNames_of_ofText hread, hnames, hns, hclass⟩

lemma calmOptions_default : CalmOptions {} := by
  have hconnection : IsIdentifier "HubConnection" := by decide
  have hwords : CalmText "protected" ∧ CalmText "On" := by decide
  exact ⟨hconnection.looseName, hwords.1, hwords.2⟩

variable {m : Metadata} {ns className : String} {existing existing' : List String}
  {operations : List Operation} {r r' : Registry}

/-- What the scanner finds in the source of a build. -/
def foundIn (m : Metadata) (ns className : String) (operations : List Operation) (r : Registry) :
    List String :=
  declaredTypes (emit (modelOf {} m ns className operations r)) ns

lemma Ended.mem_foundIn (h : Ended {} m existing operations r) (hs : Scannable m ns className)
    (n : String) : n ∈ foundIn m ns className operations r ↔
      ∃ block ∈ .cls (modelOf {} m ns className operations r).proxy :: r.declarations,
        n ∈ namesOf block := by
  obtain ⟨first, words, hns, hfirst, hwords⟩ := hs.dotted
  have hdotted : (modelOf {} m ns className operations r).ns = first ++ dotText words :=
    hns.trans (intercalate_dots first words)
  refine mem_declaredTypes_blocks (h.importable hs.known) ?_ rfl hdotted hfirst hwords n
  intro block hblock
  rcases List.mem_cons.mp hblock with rfl | hblock
  · exact h.wordProxy hs.known hs.names calmOptions_default hs.calm ns
  · exact h.wordDeclaration hs.known hs.names hblock

lemma Ended.declares_nothing (h : Ended {} m existing operations r)
    (hall : ∀ d name, Needed m existing d → Declarable d → d.name? m.classes = some name →
      name ∈ existing) : r.declared = [] ∧ r.declarations = [] := by
  have hnone : r.declared = [] := by
    rw [List.eq_nil_iff_forall_not_mem]
    intro p hp
    obtain ⟨hneeded, hdecl, hname, hfresh⟩ := h.of_mem_declared hp
    exact hfresh (hall p.2 p.1 hneeded hdecl hname)
  refine ⟨hnone, ?_⟩
  rw [h.ordered.sound.declarations_eq, hnone]
  rfl

/-- Over its own output a build declares nothing, provided that the output shows what existed. -/
theorem Ended.settles (h : Ended {} m existing operations r) (hs : Scannable m ns className)
    (hsub : existing ⊆ foundIn m ns className operations r)
    (h' : Ended {} m (foundIn m ns className operations r) operations r') :
    r'.declared = [] ∧ r'.declarations = [] := by
  refine h'.declares_nothing fun d name hd hdecl hname => ?_
  rcases h.exists_block hs.known hs.own hs.names calmOptions_default hs.calm ns (hd.mono hsub) hdecl
    hname with hex | hblock
  · exact hsub hex
  · exact (h.mem_foundIn hs name).mpr hblock

/-- The proxy is in every output, and nothing else in one without declarations. -/
lemma Ended.foundIn_subset (h : Ended {} m existing operations r)
    (h' : Ended {} m existing' operations r') (hs : Scannable m ns className)
    (hnone : r.declarations = []) :
    foundIn m ns className operations r ⊆ foundIn m ns className operations r' := by
  intro n hn
  rw [h.mem_foundIn hs, hnone] at hn
  obtain ⟨block, hblock, hn⟩ := hn
  obtain rfl := List.mem_singleton.mp hblock
  exact (h'.mem_foundIn hs n).mpr ⟨_, List.mem_cons_self, hn⟩

lemma Ended.emit_eq_of_declarations_nil (h : Ended {} m existing operations r)
    (h' : Ended {} m existing' operations r') (hnone : r.declarations = [])
    (hnone' : r'.declarations = []) :
    emit (modelOf {} m ns className operations r) = emit (modelOf {} m ns className operations r') := by
  have himports : r.imports = r'.imports := by rw [h.imports_eq hnone, h'.imports_eq hnone']
  simp only [emit, fileLines, contentLines, modelOf, himports, hnone, hnone']

lemma Ended.declarations_nil_of_foundIn_subset (h : Ended {} m existing operations r)
    (hs : Scannable m ns className) (hsub : foundIn m ns className operations r ⊆ existing) :
    r.declarations = [] := by
  rw [List.eq_nil_iff_forall_not_mem]
  intro declaration hd
  rw [h.ordered.sound.declarations_eq] at hd
  obtain ⟨⟨name, d⟩, hp, hdecl⟩ := List.mem_filterMap.mp hd
  have huser : UserType d := userType_of_declarationOf? hdecl
  obtain ⟨declaration', hmem, -, rfl, opener, hopener, hheader⟩ := h.exists_declaration hp huser
  obtain ⟨hneeded, -, hname, hfresh⟩ := h.of_mem_declared hp
  have hidentifier := hs.names.isIdentifier hneeded.mentioned huser hname
  have hword := h.wordDeclaration hs.known hs.names hmem
  have hfound : declaration'.name ∈ foundIn m ns className operations r :=
    (h.mem_foundIn hs _).mpr
      ⟨declaration', List.mem_cons_of_mem _ hmem, hword.name_mem hopener hheader hidentifier⟩
  exact hfresh (hsub hfound)

lemma Ended.declares (h : Ended {} m existing operations r) (hu : OwnNames m) {d : Descriptor}
    {name : String} (hd : Needed m existing d) (huser : UserType d)
    (hname : d.name? m.classes = some name) (hfresh : name ∉ existing) :
    r.declared ≠ [] ∧ r.declarations ≠ [] := by
  have howns := hu d name hd.mentioned huser hname
  have hmem := h.mem_declared_of_owns hu hd huser.declarable hname howns hfresh
  obtain ⟨declaration, hdeclaration, -⟩ := h.exists_declaration hmem huser
  exact ⟨List.ne_nil_of_mem hmem, List.ne_nil_of_mem hdeclaration⟩

lemma Ended.exists_ended (h : Ended {} m [] operations r) (hu : OwnNames m)
    (ns className : String) (existing : List String) :
    ∃ r', Ended {} m existing operations r' ∧
      (build {} m ns className existing).1 = .ok (modelOf {} m ns className operations r') := by
  obtain ⟨hub, api, hb⟩ := h.buildable hu
  obtain ⟨model, hmodel⟩ :=
    (hb.mono (List.nil_subset existing)).build_succeeds hu ns className
  obtain ⟨operations', r', h', rfl⟩ := ended_of_build hmodel
  obtain rfl := Option.some.inj (h.built.symm.trans h'.built)
  exact ⟨r', h', hmodel⟩

end Builds

section Names

lemma isName_append {w : String} (h : isName w = true) (s : String) : isName (w ++ s) = true := by
  unfold isName at h ⊢
  cases hw : w.toList with
  | nil =>
    rw [hw] at h
    cases h
  | cons c cs =>
    rw [hw] at h
    rw [String.toList_append, hw, List.cons_append]
    exact h

lemma isName_arrayName {w : String} (h : isName w = true) (rank : Nat) :
    isName (arrayName w rank) = true := by
  induction rank with
  | zero => exact h
  | succ rank ih => exact isName_append ih "[]"

lemma isName_of_name? {ts after : List Token} {n : String} (h : name? ts = some (n, after)) :
    isName n = true := by
  unfold name? at h
  split at h
  · next w rest =>
    split at h
    · next hw =>
      obtain ⟨rfl, -⟩ := Prod.mk.inj (Option.some.inj h)
      exact hw
    · cases h
  · next w rest =>
    split at h
    · next hw =>
      obtain ⟨rfl, -⟩ := Prod.mk.inj (Option.some.inj h)
      exact hw
    · cases h
  · cases h

lemma isName_of_declaration? {ts after : List Token} {n : String}
    (h : declaration? ts = some (n, after)) : isName n = true := by
  unfold declaration? at h
  split at h
  · split at h
    · split at h
      · split at h
        · rcases (Option.orElse_eq_some _ _ _).mp h with h | ⟨-, h⟩
          · exact isName_of_name? h
          · exact isName_of_name? h
        · exact isName_of_name? h
      · exact isName_of_name? h
    · cases h
  · cases h

lemma isName_of_mem_declarationsFrom {skip : Nat} {ts : List Token} {n : String}
    (h : n ∈ declarationsFrom skip ts) : isName n = true := by
  induction skip, ts using declarationsFrom.induct with
  | case1 => simp [declarationsFrom] at h
  | case2 skip t rest ih => exact ih h
  | case3 t rest name after hd ih =>
    rw [declarationsFrom, hd] at h
    rcases List.mem_cons.mp h with rfl | h
    · exact isName_of_declaration? hd
    · exact ih h
  | case4 t rest hd ih =>
    rw [declarationsFrom, hd] at h
    exact ih h

lemma isName_of_mem_arraysFrom {ts : List Token} {n : String} (h : n ∈ arraysFrom ts) :
    isName n = true := by
  induction ts using arraysFrom.induct with
  | case1 => cases h
  | case2 w rest ih =>
    rw [arraysFrom, List.mem_append] at h
    rcases h with h | h
    · by_cases hw : isName w = true
      · rw [if_pos hw] at h
        obtain ⟨rank, -, rfl⟩ := List.mem_map.mp h
        exact isName_arrayName hw (rank + 1)
      · simp [hw] at h
    · exact ih h
  | case3 t rest hne ih =>
    rw [arraysFrom] at h
    · exact ih h
    · exact hne

theorem isName_of_mem_declaredTypes {source ns n : String} (h : n ∈ declaredTypes source ns) :
    isName n = true := by
  have hfound : ∃ r : Region, n ∈ namesIn r.body := by
    simp only [declaredTypes, sortNames, List.mem_mergeSort, List.mem_eraseDups, List.mem_flatMap] at h
    exact h.imp fun _ hr => hr.2
  obtain ⟨r, hr⟩ := hfound
  rcases List.mem_append.mp hr with hr | hr
  · exact isName_of_mem_declarationsFrom hr
  · exact isName_of_mem_arraysFrom hr

end Names

section Generations

variable {contract ns className : String} {prior : Option String} {m : Metadata}
  {operations : List Operation} {r : Registry}

/-- What a generation yields at the end of its build. -/
def generatedOf (m : Metadata) (ns className : String) (operations : List Operation)
    (r : Registry) : Generated :=
  let model := modelOf {} m ns className operations r
  ⟨m.classes, model, emit model⟩

@[simp] lemma generatedOf_text (m : Metadata) (ns className : String) (operations : List Operation)
    (r : Registry) : (generatedOf m ns className operations r).text =
      emit (modelOf {} m ns className operations r) := by
  simp only [generatedOf]

lemma existingIn_generatedOf (m : Metadata) (ns className : String) (operations : List Operation)
    (r : Registry) : existingIn (some (generatedOf m ns className operations r).text) ns =
      foundIn m ns className operations r := by
  simp only [existingIn, Option.elim, generatedOf_text, foundIn]

lemma generateFromText_eq_build (hread : Contract.ofText contract unnamedSource = .ok m) :
    (generateFromText contract ns className prior).1 =
      ((build {} m ns className (existingIn prior ns)).1.map fun model =>
        (⟨m.classes, model, emit model⟩ : Generated)).mapError .build := by
  simp only [generateFromText, hread, generate]

lemma ended_of_generateFromText (hread : Contract.ofText contract unnamedSource = .ok m)
    {g : Generated} (h : (generateFromText contract ns className prior).1 = .ok g) :
    ∃ operations r, Ended {} m (existingIn prior ns) operations r ∧
      g = generatedOf m ns className operations r := by
  rw [generateFromText_eq_build hread] at h
  cases hb : (build {} m ns className (existingIn prior ns)).1 with
  | error cause =>
    rw [hb] at h
    cases h
  | ok model =>
    rw [hb] at h
    obtain ⟨operations, r, hended, rfl⟩ := ended_of_build hb
    exact ⟨operations, r, hended, (Except.ok.inj h).symm⟩

/-- A contract that can be generated can be generated over whatever came before. -/
lemma Ended.generates (h : Ended {} m [] operations r)
    (hread : Contract.ofText contract unnamedSource = .ok m) (ns className : String)
    (prior : Option String) : ∃ r', Ended {} m (existingIn prior ns) operations r' ∧
      (generateFromText contract ns className prior).1 =
        .ok (generatedOf m ns className operations r') := by
  obtain ⟨r', h', hbuild⟩ :=
    h.exists_ended (ownNames_of_ofText hread) ns className (existingIn prior ns)
  refine ⟨r', h', ?_⟩
  rw [generateFromText_eq_build hread, hbuild]
  rfl

/-- Generating over its own output a contract declares nothing again. -/
theorem generateFromText_own_output (hread : Contract.ofText contract unnamedSource = .ok m)
    (hnames : WordNamed m) (hns : DottedName ns) (hclass : CalmText className) {g : Generated}
    (hfirst : (generateFromText contract ns className none).1 = .ok g) :
    ∃ g', (generateFromText contract ns className (some g.text)).1 = .ok g' ∧
      g'.model.declaredTypes = [] ∧ g'.model.declarations = [] := by
  have hs := scannable_of_ofText hread hnames hns hclass
  obtain ⟨operations, r, h, rfl⟩ := ended_of_generateFromText hread hfirst
  obtain ⟨r', h', hg⟩ := h.generates hread ns className
    (some (generatedOf m ns className operations r).text)
  rw [existingIn_generatedOf] at h'
  obtain ⟨hdeclared, hdeclarations⟩ := h.settles hs (List.nil_subset _) h'
  refine ⟨_, hg, ?_, hdeclarations⟩
  simp [generatedOf, modelOf, Registry.declaredTypes, hdeclared]

/-- A contract whose one class is named as given. -/
def floorText (name : String) : String :=
  "\x7bhub: \x7boperations: [\x7bname: höre, parameters: \x7btür: " ++ name ++ "\x7d\x7d]\x7d, " ++
    "client_api: \x7b\x7d, types: \x7b" ++ name ++ ": \x7bproperties: \x7bhöhe: int, unten: '" ++
    name ++ "[]'\x7d\x7d\x7d\x7d"

def floorContract (name : String) : Metadata where
  source := unnamedSource
  types := [
    ⟨"hub", .hub, [⟨"höre", .serverReceived, [("tür", .cls 0)], true, some "Task"⟩]⟩,
    ⟨"client_api", .clientApi, []⟩]
  classes := #[⟨name, [("höhe", .primitive "int" none), ("unten", .array (.cls 0))], false⟩]

lemma ofText_floorText {name : String} (hname : name ∈ ["Floor", "Étage"]) :
    Contract.ofText (floorText name) unnamedSource = .ok (floorContract name) := by
  have hread : ∀ name ∈ ["Floor", "Étage"],
      (Contract.ofText (floorText name) unnamedSource).toOption = some (floorContract name) := by
    decide +kernel
  exact eq_ok_of_toOption (hread name hname)

lemma mem_floorContract {d : Descriptor} (hd : Mentioned (floorContract "Floor") d) :
    d ∈ [.cls 0, .primitive "int" none, Descriptor.array (.cls 0)] :=
  hd.mem (by decide) (by decide)

lemma wordNamed_floorContract : WordNamed (floorContract "Floor") where
  operations := by decide
  enums name members hd := absurd (mem_floorContract hd) (by simp)
  classes := by decide

lemma dottedName_games : DottedName "Games.Net" :=
  ⟨"Games", ["Net"], by decide, by decide, by decide⟩

def floorOperations : List Operation :=
  [⟨"höre", .serverReceived, [("tür", .cls 0)], true, some "Task"⟩]

lemma needed_floor (name : String) (existing : List String) :
    Needed (floorContract name) existing (.cls 0) := by
  have hbuilt : builtOperations? (floorContract name) = some floorOperations := rfl
  exact .parameter hbuilt List.mem_cons_self (p := ("tür", .cls 0)) List.mem_cons_self

lemma exists_ended_floor {name : String} (hname : name ∈ ["Floor", "Étage"]) :
    ∃ r, Ended {} (floorContract name) [] floorOperations r := by
  have hbuild : ∀ name ∈ ["Floor", "Étage"],
      (build {} (floorContract name) "Games.Net" "Proxy" []).1.toOption.isSome := by decide +kernel
  obtain ⟨model, hmodel⟩ := Option.isSome_iff_exists.mp (hbuild name hname)
  obtain ⟨operations, r, h, -⟩ := ended_of_build (eq_ok_of_toOption hmodel)
  obtain rfl := Option.some.inj (h.built.symm.trans (rfl : _ = some floorOperations))
  exact ⟨r, h⟩

theorem generateFromText_own_output_floorContract :
    ∃ g g', (generateFromText (floorText "Floor") "Games.Net" "Proxy" none).1 = .ok g ∧
      g.model.declarations ≠ [] ∧
      (generateFromText (floorText "Floor") "Games.Net" "Proxy" (some g.text)).1 = .ok g' ∧
      g'.model.declaredTypes = [] ∧ g'.model.declarations = [] := by
  have hmem : "Floor" ∈ ["Floor", "Étage"] := by decide
  have hread := ofText_floorText hmem
  obtain ⟨_, hended⟩ := exists_ended_floor hmem
  obtain ⟨r, h, hg⟩ := hended.generates hread "Games.Net" "Proxy" none
  have hdeclares := h.declares (ownNames_of_ofText hread) (needed_floor "Floor" _) trivial rfl
    List.not_mem_nil
  have hclass : CalmText "Proxy" := by decide
  obtain ⟨g', hg', hnone⟩ :=
    generateFromText_own_output hread wordNamed_floorContract dottedName_games hclass hg
  exact ⟨_, g', hg, hdeclares.2, hg', hnone⟩

/-- The scanner takes no letter beyond ASCII for the first of a name, so a class that is named with
one is declared once more. -/
theorem generateFromText_own_output_repeats :
    ∃ g g', (generateFromText (floorText "Étage") "Games.Net" "Proxy" none).1 = .ok g ∧
      (generateFromText (floorText "Étage") "Games.Net" "Proxy" (some g.text)).1 = .ok g' ∧
      g'.model.declaredTypes ≠ [] ∧ g'.model.declarations ≠ [] := by
  have hmem : "Étage" ∈ ["Floor", "Étage"] := by decide
  have hread := ofText_floorText hmem
  obtain ⟨_, hended⟩ := exists_ended_floor hmem
  obtain ⟨r, h, hg⟩ := hended.generates hread "Games.Net" "Proxy" none
  let g := generatedOf (floorContract "Étage") "Games.Net" "Proxy" floorOperations r
  obtain ⟨r', h', hg'⟩ := h.generates hread "Games.Net" "Proxy" (some g.text)
  have hfresh : "Étage" ∉ existingIn (some g.text) "Games.Net" := by
    intro hfound
    have hname : isName "Étage" = true := isName_of_mem_declaredTypes hfound
    exact absurd hname (by decide)
  obtain ⟨hdeclared, hdeclarations⟩ :=
    h'.declares (ownNames_of_ofText hread) (needed_floor "Étage" _) trivial rfl hfresh
  refine ⟨g, _, hg, hg', ?_, hdeclarations⟩
  simpa [generatedOf, modelOf, Registry.declaredTypes] using hdeclared

end Generations

end HubProxy.Proofs
