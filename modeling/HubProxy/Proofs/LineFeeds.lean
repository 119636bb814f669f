import HubProxy.Proofs.ImportLines
import HubProxy.Text.Lines

/-!
# Carriage returns

A text without carriage returns is read back as it was written. Emitted text has none unless a name
in the model has one.
-/

namespace HubProxy.Proofs

/-- No carriage return is in a text. -/
def BreakFree (text : String) : Prop :=
  '\r' ∉ text.toList

instance (text : String) : Decidable (BreakFree text) :=
  inferInstanceAs (Decidable ('\r' ∉ text.toList))

/-- Text without carriage returns is read as it is. -/
lemma unifyBreaks_eq_self {cs : List Char} (h : '\r' ∉ cs) : Text.unifyBreaks cs = cs := by
  induction cs with
  | nil => rfl
  | cons c cs ih =>
    obtain ⟨hc, hcs⟩ : '\r' ≠ c ∧ '\r' ∉ cs := by simpa using h
    unfold Text.unifyBreaks
    split
    · next heq => cases heq
    · next heq => exact absurd (List.cons.inj heq).1.symm hc
    · next heq => exact absurd (List.cons.inj heq).1.symm hc
    · next heq =>
      obtain ⟨rfl, rfl⟩ := List.cons.inj heq
      rw [ih hcs]

/-- Text is read part by part, unless it is parted within a line break. -/
lemma unifyBreaks_append {c : Char} (hc : c ≠ '\n') (cs ds : List Char) :
    Text.unifyBreaks (cs ++ c :: ds) = Text.unifyBreaks cs ++ Text.unifyBreaks (c :: ds) := by
  induction cs using Text.unifyBreaks.induct with
  | case1 => rfl
  | case2 rest ih => simp only [List.cons_append, Text.unifyBreaks, ih]
  | case3 rest hrest ih =>
    rw [Text.unifyBreaks.eq_3 rest hrest, List.cons_append, Text.unifyBreaks.eq_3 _ ?_, ih,
      List.cons_append]
    cases rest with
    | nil => exact fun _ heq => hc (List.cons.inj heq).1
    | cons b rest => exact fun _ heq => hrest rest (by rw [(List.cons.inj heq).1])
  | case4 b rest hcr hlone ih =>
    rw [Text.unifyBreaks.eq_4 b rest hcr hlone, List.cons_append,
      Text.unifyBreaks.eq_4 b _ ?_ hlone, ih, List.cons_append]
    exact fun _ hb _ => hlone hb

/-- No carriage return is read. -/
lemma not_mem_unifyBreaks (cs : List Char) : '\r' ∉ Text.unifyBreaks cs := by
  induction cs using Text.unifyBreaks.induct with
  | case1 => simp [Text.unifyBreaks]
  | case2 rest ih => simpa [Text.unifyBreaks] using ih
  | case3 rest hrest ih =>
    rw [Text.unifyBreaks.eq_3 rest hrest]
    simpa using ih
  | case4 c rest hcr hlone ih =>
    rw [Text.unifyBreaks.eq_4 c rest hcr hlone]
    exact fun hmem => (List.mem_cons.mp hmem).elim (fun h => hlone h.symm) ih

lemma BreakFree.append {s t : String} (hs : BreakFree s) (ht : BreakFree t) : BreakFree (s ++ t) := by
  simpa [BreakFree] using And.intro hs ht

lemma breakFree_join {l : List String} (h : ∀ s ∈ l, BreakFree s) : BreakFree (String.join l) := by
  induction l with
  | nil => simp [BreakFree, String.join]
  | cons s l ih =>
    rw [String.join_cons]
    exact (h s List.mem_cons_self).append (ih fun t ht => h t (List.mem_cons_of_mem s ht))

lemma breakFree_margin (n : Nat) : BreakFree (String.ofList (List.replicate n ' ')) := by
  simp [BreakFree]

lemma breakFree_deepen {line : CSharp.Line} (h : BreakFree line.render) :
    BreakFree line.deepen.render := by
  cases line with
  | gap => exact h
  | text depth content =>
    have hcontent : BreakFree content := by
      simpa [BreakFree, CSharp.Line.render] using h
    exact (breakFree_margin _).append hcontent

lemma breakFree_braced {header : String} {body : List CSharp.Line} (hheader : BreakFree header)
    (hbody : ∀ line ∈ body, BreakFree line.render) :
    ∀ line ∈ CSharp.braced header body, BreakFree line.render := by
  intro line hline
  simp only [CSharp.braced, List.mem_append, List.mem_cons, List.not_mem_nil, or_false,
    List.mem_map] at hline
  rcases hline with ((rfl | rfl) | ⟨inner, hinner, rfl⟩) | rfl
  · exact (breakFree_margin _).append hheader
  · decide +kernel
  · exact breakFree_deepen (hbody inner hinner)
  · decide +kernel

/-- The names and lines of a model have no carriage return. -/
structure BreakFreeModel (m : ApiModel) : Prop where
  ns : BreakFree m.ns
  imports : ∀ ns ∈ m.imports, BreakFree ns
  types : ∀ line ∈ CSharp.separate
    (CSharp.classLines m.proxy :: m.declarations.map CSharp.declarationLines), BreakFree line.render

instance (m : ApiModel) : Decidable (BreakFreeModel m) :=
  decidable_of_iff
    (BreakFree m.ns ∧ (∀ ns ∈ m.imports, BreakFree ns) ∧ ∀ line ∈ CSharp.separate
      (CSharp.classLines m.proxy :: m.declarations.map CSharp.declarationLines), BreakFree line.render)
    ⟨fun ⟨hns, himports, htypes⟩ => ⟨hns, himports, htypes⟩, fun h => ⟨h.ns, h.imports, h.types⟩⟩

lemma BreakFreeModel.contentLines {m : ApiModel} (h : BreakFreeModel m) :
    ∀ line ∈ CSharp.contentLines m, BreakFree line.render := by
  intro line hline
  rcases List.mem_append.mp hline with himport | htype
  · unfold CSharp.importLines at himport
    dsimp only at himport
    split at himport
    · cases himport
    rcases List.mem_append.mp himport with hmem | hgap
    · obtain ⟨space, hspace, rfl⟩ := List.mem_map.mp hmem
      have hname := h.imports space (mem_sortImports.mp hspace)
      exact (breakFree_margin _).append
        (((show BreakFree "using " by decide +kernel).append hname).append (by decide +kernel))
    · obtain rfl := List.mem_singleton.mp hgap
      decide +kernel
  · exact h.types line htype

theorem BreakFreeModel.emit {m : ApiModel} (h : BreakFreeModel m) : BreakFree (CSharp.emit m) := by
  have hlines : ∀ line ∈ CSharp.fileLines m, BreakFree line.render := by
    intro line hline
    simp only [CSharp.fileLines, List.mem_append, List.mem_map, List.mem_singleton] at hline
    rcases hline with (⟨content, hcontent, rfl⟩ | rfl) | hline
    · have hbanner : ∀ content ∈ CSharp.banner, BreakFree content := by decide +kernel
      exact (breakFree_margin _).append (hbanner content hcontent)
    · decide +kernel
    · split at hline
      · exact h.contentLines line hline
      · exact breakFree_braced ((show BreakFree "namespace " by decide +kernel).append h.ns)
          h.contentLines line hline
  refine breakFree_join fun text htext => ?_
  obtain ⟨line, hline, rfl⟩ := List.mem_map.mp htext
  exact (hlines line hline).append (by decide +kernel)

end HubProxy.Proofs
