import HubProxy.Generation.Generate
import HubProxy.Proofs.BuildSuccess
import HubProxy.Proofs.ContractNames

/-!
# No conflicts within a contract

A run in which classes and enumerations have their names for themselves may fail, but never over a
name: a name is declared once, and whoever meets it again meets the same type.
-/

namespace HubProxy.Proofs

/-- A failure over a name. -/
inductive Clash : BuildError → Prop
  | conflict (name : String) : Clash (.typeConflict name)
  | duplicate (name : String) : Clash (.duplicateDeclaration name)

/-- The conditions of an agenda fail over other things than names. -/
def Peaceful (agenda : List Task) : Prop :=
  ∀ holds cause, .demand holds cause ∈ agenda → ¬Clash cause

variable {m : Metadata} {existing : List String} {agenda : List Task} {r r' : Registry}
  {cause : BuildError}

lemma Peaceful.step {classes : ClassTable} {visibility : String} {t : Task} {more : List Task}
    (h : Peaceful (t :: agenda)) (he : Effect classes visibility t r more r') :
    Peaceful (more ++ agenda) := by
  intro holds cause hd
  rcases List.mem_append.mp hd with hd | hd
  · cases he with
    | newClass hc hr =>
      rcases mem_classTasks.mp hd with ⟨p, hp, heq | heq⟩ | heq
      · cases heq
      · obtain ⟨-, rfl⟩ := Task.demand.inj heq
        rintro ⟨⟩
      · cases heq
    | array element => simp at hd
    | _ => exact absurd hd List.not_mem_nil
  · exact h holds cause (List.mem_cons_of_mem _ hd)

lemma peaceful_buildTasks (options : BuildOptions) (operations : List Operation) :
    Peaceful (buildTasks options operations) := by
  intro holds cause hd
  cases starting_of_mem hd with
  | _ => rintro ⟨⟩

lemma visit_clash_free (hu : OwnNames m) {d : Descriptor}
    (h : Ordered m.classes "public" existing (Met m existing) (.visit d :: agenda) r)
    (hfail : runOn r (perform m.classes "public" (.visit d)) = (.error cause, r')) :
    ¬Clash cause := by
  rcases visit_outcome hu h with ⟨more, r'', hok⟩ | ⟨-, cause', hfault, herror⟩
  · cases hfail.symm.trans hok
  · cases hfail.symm.trans herror
    cases hfault <;> rintro ⟨⟩

lemma wrap_clash_free {element : Descriptor}
    (hfail : runOn r (perform m.classes "public" (.wrap element)) = (.error cause, r')) :
    ¬Clash cause := by
  rcases wrap_outcome m.classes "public" element r with ⟨r'', hok⟩ | ⟨-, -, herror⟩
  · cases hfail.symm.trans hok
  · cases hfail.symm.trans herror
    rintro ⟨⟩

/-- A class that is closed was reserved for itself, and no shape differs from itself. -/
lemma close_clash_free {id : ClassId}
    (h : Ordered m.classes "public" existing (Met m existing) (.close id :: agenda) r)
    (hfail : runOn r (perform m.classes "public" (.close id)) = (.error cause, r')) :
    ¬Clash cause := by
  cases hc : m.classes[id]? with
  | none =>
    simp only [perform, declare, runOn_bind, runOn_named, Descriptor.name?, hc, Option.map_none,
      Prod.mk.injEq, Except.error.injEq] at hfail
    obtain ⟨rfl, -⟩ := hfail
    rintro ⟨⟩
  | some c =>
    rw [runOn_close h hc, agree] at hfail
    cases hs : (Descriptor.cls id).shape? m.classes with
    | none =>
      simp only [hs, Prod.mk.injEq, Except.error.injEq] at hfail
      obtain ⟨rfl, -⟩ := hfail
      rintro ⟨⟩
    | some s => simp [hs] at hfail

/-- No task of a run fails over a name. -/
theorem perform_clash_free (hu : OwnNames m) {t : Task}
    (h : Ordered m.classes "public" existing (Met m existing) (t :: agenda) r)
    (hp : Peaceful (t :: agenda))
    (hfail : runOn r (perform m.classes "public" t) = (.error cause, r')) : ¬Clash cause := by
  cases t with
  | visit d => exact visit_clash_free hu h hfail
  | wrap element => exact wrap_clash_free hfail
  | close id => exact close_clash_free h hfail
  | demand holds own =>
    obtain ⟨-, rfl⟩ := demand_error hfail
    exact hp holds own List.mem_cons_self
  | require ns => cases (runOn_require m.classes "public" ns r).symm.trans hfail

/-- A build in which classes and enumerations have their names for themselves never fails over a
name. -/
theorem build_clash_free (options : BuildOptions) (ns className : String) (hu : OwnNames m)
    (h : (build options m ns className existing).1 = .error cause) : ¬Clash cause := by
  refine failure_of_build (I := fun agenda r =>
    Ordered m.classes "public" existing (Met m existing) agenda r ∧ Peaceful agenda)
    (fun _ cause hunpaired => ?_) (fun operations hm => ?_) (fun he hi => ?_)
    (fun hi hfail => perform_clash_free hu hi.1 hi.2 hfail) h
  · cases hunpaired <;> rintro ⟨⟩
  · exact ⟨ordered_build options existing hm, peaceful_buildTasks options operations⟩
  · exact ⟨hi.1.step (closed_met m existing) he, hi.2.step he⟩

/-- Whatever a contract text describes and whatever exists already, generation never fails because
a name stands for two types or is declared twice. -/
theorem generateFromText_clash_free (contract ns className : String) (prior : Option String)
    (name : String) :
    (generateFromText contract ns className prior).1 ≠ .error (.build (.typeConflict name)) ∧
      (generateFromText contract ns className prior).1 ≠
        .error (.build (.duplicateDeclaration name)) := by
  have hfree : ∀ cause,
      (generateFromText contract ns className prior).1 = .error (.build cause) → ¬Clash cause := by
    intro cause hfail
    unfold generateFromText at hfail
    cases hm : Contract.ofText contract unnamedSource with
    | error cause' =>
      rw [hm] at hfail
      cases hfail
    | ok m =>
      rw [hm] at hfail
      have hbuild : (build {} m ns className (existingIn prior ns)).1 = .error cause := by
        cases hb : (build {} m ns className (existingIn prior ns)).1 with
        | ok model => simp [generate, hb, Except.map, Except.mapError] at hfail
        | error cause' => simpa [generate, hb, Except.map, Except.mapError] using hfail
      exact build_clash_free {} ns className (ownNames_of_ofText hm) hbuild
  exact ⟨fun h => hfree _ h (.conflict name), fun h => hfree _ h (.duplicate name)⟩

end HubProxy.Proofs
