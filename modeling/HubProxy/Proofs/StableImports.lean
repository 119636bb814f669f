import HubProxy.Proofs.NeededTypes
import HubProxy.Proofs.RegistryRuns

/-!
# Imports of a proxy without declarations

A build that declares nothing enters no class, so its imports are those that its first tasks ask for,
whatever exists already.
-/

namespace HubProxy.Proofs

/-- The namespaces that a type needs, what a class holds apart. -/
def importsOf : Descriptor → List String
  | .primitive _ ns => (ns.filter (· ≠ "")).toList
  | .array element => importsOf element
  | _ => []

def taskImports : Task → List String
  | .visit d => importsOf d
  | .require ns => ((some ns).filter (· ≠ "")).toList
  | _ => []

lemma imports_importing (r : Registry) (ns : Option String) :
    (importing r ns).imports = addAll r.imports (ns.filter (· ≠ "")).toList := by
  rcases ns with _ | ns
  · rfl
  · by_cases hns : ns = ""
    · simp [importing, hns, addAll, Option.filter]
    · by_cases hmem : ns ∈ r.imports
      · simp [importing, hns, hmem, addAll, Option.filter]
      · simp [importing, hns, hmem, addAll, Option.filter]

variable {classes : ClassTable} {visibility : String}

/-- A class is being declared, or something has been, or the imports are those of the start. -/
def SteadyImports (asked : List String) (agenda : List Task) (r : Registry) : Prop :=
  (∃ id, .close id ∈ agenda) ∨ r.declarations ≠ [] ∨
    addAll r.imports (agenda.flatMap taskImports) = asked

lemma Effect.declarations_ne_nil {t : Task} {more : List Task} {r r' : Registry}
    (he : Effect classes visibility t r more r') (hr : r.declarations ≠ []) :
    r'.declarations ≠ [] := by
  cases he with
  | primitive name ns => rwa [(importing_fields r ns).2.2.2]
  | require ns => rwa [(importing_fields r (some ns)).2.2.2]
  | newEnum | newArray | close => simp [entering, hr]
  | _ => exact hr

theorem SteadyImports.step {asked : List String} {t : Task} {rest more : List Task}
    {r r' : Registry} (h : SteadyImports asked (t :: rest) r)
    (he : Effect classes visibility t r more r') : SteadyImports asked (more ++ rest) r' := by
  rcases h with ⟨id, hid⟩ | hdecl | himports
  · rcases List.mem_cons.mp hid with rfl | hid
    · cases he with
      | close hc =>
        refine .inr (.inl ?_)
        simp [entering, declarationOf?, hc]
    · exact .inl ⟨id, List.mem_append_right _ hid⟩
  · exact .inr (.inl (he.declarations_ne_nil hdecl))
  · cases he with
    | @newEnum name members =>
      refine .inr (.inl ?_)
      simp [entering, declarationOf?]
    | @newClass id c => exact .inl ⟨id, List.mem_append_left _ (mem_classTasks.mpr (.inr rfl))⟩
    | primitive name ns =>
      refine .inr (.inr ?_)
      rw [imports_importing, ← himports, List.flatMap_cons, addAll_append]
      rfl
    | require ns =>
      refine .inr (.inr ?_)
      rw [imports_importing, ← himports, List.flatMap_cons, addAll_append]
      rfl
    | array element =>
      refine .inr (.inr ?_)
      rw [← himports]
      rfl
    | _ => exact .inr (.inr himports)

variable {options : BuildOptions} {m : Metadata} {existing : List String}
  {operations : List Operation} {r : Registry}

/-- Where nothing is declared the imports depend on the operations alone. -/
theorem Ended.imports_eq (h : Ended options m existing operations r) (hnone : r.declarations = []) :
    r.imports = addAll [] ((buildTasks options operations).flatMap taskImports) := by
  have hstart : SteadyImports (addAll [] ((buildTasks options operations).flatMap taskImports))
      (buildTasks options operations) (.ofExisting existing) := .inr (.inr rfl)
  rcases h.steps.preserve (fun he hi => hi.step he) hstart with ⟨id, hid⟩ | hdecl | himports
  · exact absurd hid List.not_mem_nil
  · exact absurd hnone hdecl
  · exact himports

end HubProxy.Proofs
