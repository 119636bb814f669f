import HubProxy.CSharp.Emit
import HubProxy.Proofs.GroundedReferences

/-!
# Names of emitted types

The namespace of a generated file holds the proxy and the declared types, each under a header with
its name. The registry keeps the declared types apart. The proxy does not pass through it: its name
is that of another emitted type exactly when the contract declares a class or an enumeration with
the name that was chosen for the proxy.
-/

namespace HubProxy.Proofs

/-- The types that are written into the namespace, in order. -/
def emittedTypes (m : ApiModel) : List TypeDeclaration :=
  .cls m.proxy :: m.declarations

/-- The names under which they are written. -/
def emittedNames (m : ApiModel) : List String :=
  (emittedTypes m).map (·.name)

/-- The lines of a type: a block whose header ends with the name. -/
def Headed (name : String) (lines : List CSharp.Line) : Prop :=
  ∃ modifiers body, lines = CSharp.braced (modifiers ++ " " ++ name) body

/-- What is written into the namespace of a model: the imports, then a block for each of the names. -/
def WritesTypes (m : ApiModel) (names : List String) : Prop :=
  ∃ blocks, List.Forall₂ Headed names blocks ∧
    CSharp.contentLines m = CSharp.importLines m.imports ++ CSharp.separate blocks

lemma headed_declarationLines (d : TypeDeclaration) : Headed d.name (CSharp.declarationLines d) := by
  cases d with
  | cls c =>
    exact ⟨c.visibility ++ (if c.isPartial then " partial " else " ") ++
      (if c.isInterface then "interface" else "class"), _, rfl⟩
  | enum e =>
    refine ⟨e.visibility ++ " enum", CSharp.memberLines e.members, ?_⟩
    simp [CSharp.declarationLines, CSharp.enumLines, TypeDeclaration.name, String.append_assoc]

lemma writesTypes_emittedNames (m : ApiModel) : WritesTypes m (emittedNames m) := by
  refine ⟨(emittedTypes m).map CSharp.declarationLines, ?_, rfl⟩
  rw [emittedNames, List.forall₂_map_left_iff, List.forall₂_map_right_iff]
  exact List.forall₂_same.mpr fun d _ => headed_declarationLines d

variable {options : BuildOptions} {m : Metadata} {existing : List String}
  {operations : List Operation} {r : Registry}

lemma names_filterMap_sublist {classes : ClassTable} {visibility : String}
    {l : List (String × Descriptor)} (hnamed : ∀ p ∈ l, p.2.name? classes = some p.1) :
    ((l.filterMap fun p => declarationOf? classes visibility p.2).map (·.name)).Sublist
      (l.map (·.1)) := by
  induction l with
  | nil => exact List.nil_sublist _
  | cons p l ih =>
    have htail := ih fun q hq => hnamed q (List.mem_cons_of_mem p hq)
    cases hd : declarationOf? classes visibility p.2 with
    | none =>
      rw [List.filterMap_cons, hd]
      exact htail.cons p.1
    | some declaration =>
      have hname : p.1 = declaration.name := Option.some.inj
        ((hnamed p List.mem_cons_self).symm.trans (name_of_declarationOf? hd))
      rw [List.filterMap_cons, hd, List.map_cons, List.map_cons, hname]
      exact htail.cons_cons declaration.name

lemma Ended.nodup_declarations (h : Ended options m existing operations r) :
    (r.declarations.map (·.name)).Nodup := by
  have hdistinct : (r.declared.map (·.1)).Nodup := h.ordered.entries_eq ▸ h.ordered.sound.distinct
  rw [h.ordered.sound.declarations_eq]
  exact hdistinct.sublist (names_filterMap_sublist h.ordered.sound.named)

lemma Ended.mem_declarations_iff (h : Ended options m existing operations r) {name : String} :
    name ∈ r.declarations.map (·.name) ↔
      ∃ d ∈ r.declaredTypes, UserType d ∧ d.name? m.classes = some name := by
  rw [h.ordered.sound.declarations_eq, Registry.declaredTypes]
  constructor
  · intro hname
    obtain ⟨declaration, hmem, rfl⟩ := List.mem_map.mp hname
    obtain ⟨p, hp, hd⟩ := List.mem_filterMap.mp hmem
    exact ⟨p.2, List.mem_map_of_mem hp, userType_of_declarationOf? hd, name_of_declarationOf? hd⟩
  · rintro ⟨d, hmem, huser, hn⟩
    obtain ⟨p, hp, rfl⟩ := List.mem_map.mp hmem
    have hkind : (kindOf? m.classes p.2).isSome = true := by
      cases hd : p.2 with
      | enum => rfl
      | cls id =>
        obtain ⟨c, hc, -⟩ := Option.map_eq_some_iff.mp (hd ▸ hn)
        simp [kindOf?, hc]
      | _ => exact (hd ▸ huser).elim
    obtain ⟨kind, hkind⟩ := Option.isSome_iff_exists.mp hkind
    obtain ⟨declaration, hd, rfl, -⟩ := declarationOf?_of_kindOf? "public" hkind hn
    exact List.mem_map_of_mem (List.mem_filterMap.mpr ⟨p, hp, hd⟩)

/-- The proxy and the declared types are written under their names, and those of the declared types
are different. The name of the proxy is not among them if and only if no declared class or
enumeration has it; where classes and enumerations have their names for themselves, this says that
the name exists already or that no needed class or enumeration has it. -/
theorem emittedNames_of_build {ns className : String} {model : ApiModel}
    (h : (build options m ns className existing).1 = .ok model) :
    WritesTypes model (emittedNames model) ∧
      emittedNames model = className :: model.declarations.map (·.name) ∧
      (model.declarations.map (·.name)).Nodup ∧
      ((emittedNames model).Nodup ↔
        ∀ d ∈ model.declaredTypes, UserType d → d.name? m.classes ≠ some className) ∧
      (OwnNames m → ((emittedNames model).Nodup ↔ className ∈ existing ∨
        ∀ d, Needed m existing d → UserType d → d.name? m.classes ≠ some className)) := by
  obtain ⟨operations, r, hend, rfl⟩ := ended_of_build h
  have hnames : emittedNames (modelOf options m ns className operations r) =
      className :: r.declarations.map (·.name) := rfl
  have hnodup : (emittedNames (modelOf options m ns className operations r)).Nodup ↔
      ∀ d ∈ r.declaredTypes, UserType d → d.name? m.classes ≠ some className := by
    rw [hnames, List.nodup_cons, and_iff_left hend.nodup_declarations, hend.mem_declarations_iff]
    simp only [not_exists, not_and]
  refine ⟨writesTypes_emittedNames _, hnames, hend.nodup_declarations, hnodup,
    fun hu => hnodup.trans ⟨fun hfree => ?_, ?_⟩⟩
  · by_cases hex : className ∈ existing
    · exact .inl hex
    refine .inr fun d hd huser hn => ?_
    have hmem := hend.mem_declared_of_owns hu hd huser.declarable hn
      (hu d className hd.mentioned huser hn) hex
    exact hfree d (List.mem_map_of_mem (f := (·.2)) hmem) huser hn
  · intro hfree d hmem huser hn
    obtain ⟨⟨name, d⟩, hp, rfl⟩ := List.mem_map.mp hmem
    obtain ⟨hneeded, -, hname, hfresh⟩ := hend.of_mem_declared hp
    obtain rfl := Option.some.inj (hname.symm.trans hn)
    exact hfree.elim hfresh fun hfree => hfree d hneeded huser hn

/-- A proxy that takes the name of a needed class does not meet it if the class exists already. -/
theorem emittedNames_loopedContract : OwnNames loopedContract ∧ ∃ model,
    (build {} loopedContract "Games" "Seen" ["Seen"]).1 = .ok model ∧
      emittedNames model = ["Seen", "Color", "Node"] ∧ (emittedNames model).Nodup := by
  have hbuild : ∃ model, (build {} loopedContract "Games" "Seen" ["Seen"]).1 = .ok model ∧
      model.declarations.map (·.name) = ["Color", "Node"] := ⟨_, rfl, rfl⟩
  obtain ⟨model, hmodel, hdeclared⟩ := hbuild
  have hu := singleNames_loopedContract.ownNames
  obtain ⟨-, hnames, -, -, hnodup⟩ := emittedNames_of_build hmodel
  refine ⟨hu, model, hmodel, by rw [hnames, hdeclared], (hnodup hu).mpr (.inl ?_)⟩
  exact List.mem_singleton_self "Seen"

/-- A contract with a class that has the name of the proxy. -/
def namesakeContract : Metadata where
  source := "tests"
  types := [
    ⟨"Hub", .hub, [⟨"move", .serverReceived, [("to", .cls 0)], true, some "Task"⟩]⟩,
    ⟨"Api", .clientApi, []⟩]
  classes := #[⟨"Proxy", [("x", .primitive "int" none)], false⟩]

/-- Two types are emitted under the name of the proxy. -/
theorem emittedNames_namesakeContract : ∃ model,
    (build {} namesakeContract "Games.Net" "Proxy" []).1 = .ok model ∧
      emittedNames model = ["Proxy", "Proxy"] ∧ ¬(emittedNames model).Nodup :=
  ⟨_, rfl, rfl, by decide⟩

end HubProxy.Proofs
