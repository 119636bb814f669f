import HubProxy.CSharp.Emit
import HubProxy.Proofs.ProxyMethods

/-!
# References carry names

A descriptor, the reference to it and the text of that reference each put the name of an array together
from the name of its element. The three agree at every rank, and no registry has a say in it. So the
registry looks an array up and keeps it under the very text by which the source mentions it.
-/

namespace HubProxy.Proofs

open CSharp

variable {classes : ClassTable} {visibility : String} {r r' : Registry} {d : Descriptor}
  {t : TypeReference}

lemma renderType_reference (d : Descriptor) :
    renderType (reference classes d) = (reference classes d).name := by
  induction d using reference.induct with
  | case1 element ih => simp only [reference, TypeReference.arrayOf, renderType, ih]
  | case2 d hleaf => simp only [reference, TypeReference.named, renderType]

/-- Only an array has an element, and that is the reference to its own element. -/
lemma element_reference (d : Descriptor) (u : TypeReference) :
    (reference classes d).element = some u ↔
      ∃ element, d = .array element ∧ u = reference classes element := by
  induction d using reference.induct with
  | case1 element ih => simp [reference, TypeReference.arrayOf, eq_comm]
  | case2 d hleaf =>
    have hnone : ¬∃ element, d = .array element ∧ u = reference classes element := by
      rintro ⟨element, hd, -⟩
      exact hleaf element hd
    simp [reference, TypeReference.named, hnone]

lemma ResolvesTo.name_eq (h : ResolvesTo classes d t) : d.name? classes = some t.name := by
  obtain ⟨visibility, r, r', hrun⟩ := id h
  obtain ⟨name, hname, -⟩ := label?_of_resolveWith hrun
  rw [hname, h.eq_reference, reference_name hname]

lemma ResolvesTo.renderType_eq (h : ResolvesTo classes d t) : renderType t = t.name := by
  rw [h.eq_reference, renderType_reference]

/-- Whatever resolves an array resolves its element first, on the same registry. -/
lemma element_of_resolve {element : Descriptor}
    (h : runOn r (resolve classes visibility (.array element)) = (.ok t, r')) :
    ∃ u mid, runOn r (resolve classes visibility element) = (.ok u, mid) ∧ t.element = some u := by
  have harray : ResolvesTo classes (.array element) t := ⟨visibility, r, r', h⟩
  rw [resolve_array] at h
  obtain ⟨u, mid, helement, -⟩ := ok_of_runOn_bind h
  have hu : ResolvesTo classes element u := ⟨visibility, r, mid, helement⟩
  refine ⟨u, mid, helement, ?_⟩
  rw [harray.eq_reference, element_reference]
  exact ⟨element, rfl, hu.eq_reference⟩

/-- A name under which a type has been declared is the text of the references to the type. -/
lemma ResolvesTo.declared_name (h : ResolvesTo classes d t) {existing : List String}
    {calls : List Call} {name : String}
    (hdeclared : (name, d) ∈ (after classes calls (.ofExisting existing)).declared) :
    name = renderType t := by
  have hkept : Kept classes (after classes calls (.ofExisting existing)) :=
    (changes_after calls _).kept (kept_ofExisting existing)
  have hname : d.name? classes = some name := hkept.named _ hdeclared
  rw [h.renderType_eq]
  exact Option.some.inj (hname.symm.trans h.name_eq)

/-- The reference to a type has the name of the type, is an array as the type is, over the reference to
the same element, is the same on every registry, and its name is its text. An array that is no
built-in type is known to the registry under this text, and is never declared under another name. -/
theorem reference_names_type (h : runOn r (resolve classes visibility d) = (.ok t, r')) :
    d.name? classes = some t.name ∧
    (t.isArray = true ↔ ∃ element, d = .array element) ∧
    (∀ element, d = .array element → ∃ u mid,
      runOn r (resolve classes visibility element) = (.ok u, mid) ∧ t.element = some u) ∧
    (∀ t', ResolvesTo classes d t' → t' = t) ∧
    renderType t = t.name ∧
    (∀ element, d = .array element →
      (element.isBuiltin = true ∨ r'.contains (renderType t) = true) ∧
      ∀ existing calls name,
        (name, d) ∈ (after classes calls (.ofExisting existing)).declared → name = renderType t) := by
  have hd : ResolvesTo classes d t := ⟨visibility, r, r', h⟩
  refine ⟨hd.name_eq, ?_, ?_, fun t' ht' => ht'.unique hd, hd.renderType_eq, ?_⟩
  · rw [hd.eq_reference, TypeReference.isArray, Option.isSome_iff_exists]
    simp only [element_reference]
    exact ⟨fun ⟨_, element, harray, _⟩ => ⟨element, harray⟩,
      fun ⟨element, harray⟩ => ⟨_, element, harray, rfl⟩⟩
  · rintro element rfl
    exact element_of_resolve h
  · rintro element rfl
    have hrest := (atRest_of_resolve h).2
    rw [← hd.eq_reference, ← hd.renderType_eq] at hrest
    exact ⟨hrest, fun existing calls name hdeclared => hd.declared_name hdeclared⟩

/-- A class that leads back to itself through a jagged array. -/
def gridClasses : ClassTable :=
  #[⟨"Cell", [("value", .primitive "int" none), ("rows", .array (.array (.cls 0)))], false⟩]

theorem reference_names_type_gridClasses : ∃ t r',
    runOn (.ofExisting ["Color"]) (resolve gridClasses "public" (.array (.array (.cls 0)))) =
      (.ok t, r') ∧
    renderType t = "Cell[][]" ∧ t.name = "Cell[][]" ∧ t.isArray = true ∧
    r'.contains "Cell[][]" = true ∧
    ∀ existing calls name, (name, .array (.array (.cls 0))) ∈
      (after gridClasses calls (.ofExisting existing)).declared → name = "Cell[][]" := by
  have hrun : ∃ t r', runOn (.ofExisting ["Color"])
      (resolve gridClasses "public" (.array (.array (.cls 0)))) = (.ok t, r') ∧
      t.name = "Cell[][]" := ⟨_, _, rfl, rfl⟩
  obtain ⟨t, r', h, hname⟩ := hrun
  obtain ⟨-, harray, -, -, htext, hwrapper⟩ := reference_names_type h
  obtain ⟨hknown, hdeclared⟩ := hwrapper _ rfl
  rw [htext, hname] at hknown hdeclared
  exact ⟨t, r', h, htext.trans hname, hname, harray.mpr ⟨_, rfl⟩,
    hknown.resolve_left (by decide), hdeclared⟩

end HubProxy.Proofs
