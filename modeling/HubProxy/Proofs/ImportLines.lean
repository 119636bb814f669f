import Mathlib.Data.String.Basic
import Mathlib.Data.List.Nodup
import HubProxy.CSharp.Emit
import HubProxy.Proofs.RegistryRuns

/-!
# The import lines of a file

An emitted file has one import line for each namespace of its model, in order and all at one place.
No other line reads as an import where the file is indented as far as its imports are: a declaration
begins with its visibility, and everything inside it stands further in.
-/

namespace HubProxy.Proofs

open CSharp

/-- The order of the import lines: namespaces of `System` come first, each group by code points. -/
def ImportedBefore (a b : String) : Prop :=
  (isSystem a = true ∧ isSystem b = false) ∨ (isSystem a = isSystem b ∧ a < b)

lemma importBefore_trans (a b c : String) (hab : importBefore a b = true)
    (hbc : importBefore b c = true) : importBefore a c = true := by
  unfold importBefore at *
  cases ha : isSystem a <;> cases hb : isSystem b <;> cases hc : isSystem c <;>
    simp [ha, hb, hc] at hab hbc ⊢
  · exact String.le_trans hab hbc
  · exact String.le_trans hab hbc

lemma importBefore_total (a b : String) : (importBefore a b || importBefore b a) = true := by
  unfold importBefore
  cases ha : isSystem a <;> cases hb : isSystem b <;> simp
  · exact String.le_total a b
  · exact String.le_total a b

lemma importedBefore_of_importBefore {a b : String} (h : importBefore a b = true) (hne : a ≠ b) :
    ImportedBefore a b := by
  unfold importBefore at h
  split at h
  · next hsystem =>
    have hle : a ≤ b := of_decide_eq_true h
    exact .inr ⟨hsystem, lt_of_le_of_ne hle hne⟩
  · next hsystem =>
    have hb : isSystem b = false := by
      rw [h] at hsystem
      exact (Bool.eq_false_or_eq_true (isSystem b)).resolve_left fun hb => hsystem hb.symm
    exact .inl ⟨h, hb⟩

lemma mem_sortImports {imports : List String} {ns : String} :
    ns ∈ sortImports imports ↔ ns ∈ imports := by
  rw [sortImports, List.mem_mergeSort, List.mem_eraseDups]

lemma nodup_sortImports (imports : List String) : (sortImports imports).Nodup :=
  (List.mergeSort_perm _ importBefore).nodup_iff.mpr (nodup_eraseDups imports)

/-- The sorted imports are in order, none of them twice. -/
theorem pairwise_sortImports (imports : List String) :
    (sortImports imports).Pairwise ImportedBefore := by
  have hsorted : (sortImports imports).Pairwise fun a b => importBefore a b = true :=
    List.pairwise_mergeSort importBefore_trans importBefore_total _
  have hdistinct : (sortImports imports).Pairwise (· ≠ ·) := nodup_sortImports imports
  exact hsorted.imp₂ (fun _ _ hle hne => importedBefore_of_importBefore hle hne) hdistinct

/-- How far the imports of a file stand in. -/
def importDepth (m : ApiModel) : Nat :=
  if m.ns = "" then 0 else 1

/-- What an import line at a depth starts with. -/
def importStart (depth : Nat) : String :=
  String.ofList (List.replicate (4 * depth) ' ') ++ "using "

def importLine (depth : Nat) (ns : String) : String :=
  importStart depth ++ ns ++ ";"

/-- A line starts like an import at a depth. -/
def StartsImport (depth : Nat) (line : String) : Prop :=
  (importStart depth).toList <+: line.toList

/-- A line that does not start like an import, or stands further in. -/
def NoImport : Line → Prop
  | .text 0 content => ¬ "using ".toList <+: content.toList
  | _ => True

lemma iterate_deepen_text (n depth : Nat) (content : String) :
    Line.deepen^[n] (.text depth content) = .text (depth + n) content := by
  induction n with
  | zero => rfl
  | succ n ih => rw [Function.iterate_succ_apply', ih, Line.deepen, Nat.add_assoc]

lemma iterate_deepen_gap (n : Nat) : Line.deepen^[n] .gap = .gap :=
  Function.iterate_fixed rfl n

lemma not_startsImport_of_noImport {line : Line} (h : NoImport line) (depth : Nat) :
    ¬ StartsImport depth (Line.deepen^[depth] line).render := by
  intro hstart
  cases line with
  | gap =>
    rw [iterate_deepen_gap] at hstart
    have hlength := hstart.length_le
    simp [importStart, Line.render] at hlength
  | text further content =>
    have hspaces : 4 * (further + depth) = 4 * depth + 4 * further := by omega
    simp only [iterate_deepen_text, StartsImport, importStart, Line.render, hspaces,
      String.toList_append, String.toList_ofList, ← List.replicate_append_replicate,
      List.append_assoc, List.prefix_append_right_inj] at hstart
    cases further with
    | zero => exact h hstart
    | succ further =>
      have hhead : 'u' = ' ' := (List.cons_prefix_cons.mp hstart).1
      exact absurd hhead (by decide)

/-- The visibility with which a declaration begins. -/
def visibilityOf : TypeDeclaration → String
  | .cls c => c.visibility
  | .enum e => e.visibility

lemma noImport_deepen (line : Line) : NoImport line.deepen := by
  cases line <;> trivial

lemma noImport_of_head {content : String} (h : content.toList.head? ≠ some 'u') :
    NoImport (.text 0 content) := by
  rintro ⟨rest, hrest⟩
  exact h (hrest ▸ rfl)

lemma noImport_public (rest : String) : NoImport (.text 0 ("public" ++ rest)) := by
  apply noImport_of_head
  simp

lemma noImport_braced {header : String} (h : NoImport (.text 0 header)) (body : List Line) :
    ∀ line ∈ braced header body, NoImport line := by
  intro line hline
  simp only [braced, List.mem_append, List.mem_cons, List.mem_map, List.not_mem_nil,
    or_false] at hline
  rcases hline with ((rfl | rfl) | ⟨inner, -, rfl⟩) | rfl
  · exact h
  · exact noImport_of_head (by decide)
  · exact noImport_deepen inner
  · exact noImport_of_head (by decide)

lemma noImport_separate {groups : List (List Line)} (h : ∀ g ∈ groups, ∀ line ∈ g, NoImport line) :
    ∀ line ∈ separate groups, NoImport line := by
  induction groups with
  | nil => exact fun _ hline => absurd hline List.not_mem_nil
  | cons g groups ih =>
    cases groups with
    | nil => exact h g List.mem_cons_self
    | cons g' groups =>
      intro line hline
      rw [separate, List.mem_append, List.mem_cons] at hline
      rcases hline with hline | rfl | hline
      · exact h g List.mem_cons_self line hline
      · trivial
      · exact ih (fun g'' hg => h g'' (List.mem_cons_of_mem g hg)) line hline
      · exact List.cons_ne_nil g' groups

lemma noImport_classLines {c : ClassDeclaration} (h : c.visibility = "public") :
    ∀ line ∈ classLines c, NoImport line := by
  unfold classLines
  refine noImport_braced ?_ _
  simp only [h, String.append_assoc]
  exact noImport_public _

lemma noImport_declarationLines {d : TypeDeclaration} (h : visibilityOf d = "public") :
    ∀ line ∈ declarationLines d, NoImport line := by
  cases d with
  | cls c => exact noImport_classLines h
  | enum e =>
    refine noImport_braced ?_ _
    have hvisibility : e.visibility = "public" := h
    rw [hvisibility, String.append_assoc]
    exact noImport_public _

/-- The lines of a file before its imports. -/
def openingLines (m : ApiModel) : List Line :=
  banner.map (.text 0) ++ [.gap] ++
    if m.ns = "" then [] else [.text 0 ("namespace " ++ m.ns), .text 0 "\x7b"]

/-- The lines of a file after its imports. -/
def followingLines (m : ApiModel) : List Line :=
  ((if sortImports m.imports = [] then [] else [Line.gap]) ++
    separate (classLines m.proxy :: m.declarations.map declarationLines)).map
      Line.deepen^[importDepth m] ++
    if m.ns = "" then [] else [.text 0 "\x7d"]

lemma fileLines_eq (m : ApiModel) :
    fileLines m = openingLines m ++
      (sortImports m.imports).map (fun ns => .text (importDepth m) ("using " ++ ns ++ ";")) ++
      followingLines m := by
  have himports : importLines m.imports =
      (sortImports m.imports).map (fun ns => .text 0 ("using " ++ ns ++ ";")) ++
        if sortImports m.imports = [] then [] else [.gap] := by
    unfold importLines
    cases sortImports m.imports <;> simp
  have hlines : (sortImports m.imports).map (fun ns => Line.deepen^[importDepth m]
        (.text 0 ("using " ++ ns ++ ";"))) =
      (sortImports m.imports).map fun ns => .text (importDepth m) ("using " ++ ns ++ ";") := by
    simp [iterate_deepen_text]
  unfold fileLines openingLines followingLines contentLines
  rw [himports, ← hlines]
  by_cases hns : m.ns = ""
  · simp [hns, importDepth]
  · simp [hns, importDepth, braced, Function.comp_def]

lemma not_startsImport_of_head {line : String} (hu : line.toList.head? ≠ some 'u')
    (hspace : line.toList.head? ≠ some ' ') (depth : Nat) : ¬ StartsImport depth line := by
  rintro ⟨rest, hrest⟩
  cases depth with
  | zero => exact hu (hrest ▸ rfl)
  | succ depth =>
    apply hspace
    rw [← hrest, importStart, String.toList_append, String.toList_ofList, Nat.mul_succ,
      List.replicate_succ]
    rfl

lemma not_startsImport_openingLines {m : ApiModel} {line : Line} (h : line ∈ openingLines m)
    (depth : Nat) : ¬ StartsImport depth line.render := by
  have hhead : line.render.toList.head? ≠ some 'u' ∧ line.render.toList.head? ≠ some ' ' := by
    unfold openingLines at h
    simp only [List.mem_append, List.mem_singleton] at h
    rcases h with (hbanner | rfl) | hheader
    · exact (by decide : ∀ line ∈ banner.map (Line.text 0), line.render.toList.head? ≠ some 'u' ∧
        line.render.toList.head? ≠ some ' ') line hbanner
    · decide
    · split at hheader
      · exact absurd hheader List.not_mem_nil
      · simp only [List.mem_cons, List.not_mem_nil, or_false] at hheader
        rcases hheader with rfl | rfl
        · simp [Line.render]
        · decide
  exact not_startsImport_of_head hhead.1 hhead.2 depth

lemma not_startsImport_followingLines {m : ApiModel} (hproxy : m.proxy.visibility = "public")
    (hdeclarations : ∀ d ∈ m.declarations, visibilityOf d = "public") {line : Line}
    (h : line ∈ followingLines m) : ¬ StartsImport (importDepth m) line.render := by
  have hgroups : ∀ g ∈ classLines m.proxy :: m.declarations.map declarationLines,
      ∀ line ∈ g, NoImport line := by
    intro g hg
    rcases List.mem_cons.mp hg with rfl | hg
    · exact noImport_classLines hproxy
    · obtain ⟨d, hd, rfl⟩ := List.mem_map.mp hg
      exact noImport_declarationLines (hdeclarations d hd)
  rcases List.mem_append.mp h with h | h
  · obtain ⟨inner, hinner, rfl⟩ := List.mem_map.mp h
    refine not_startsImport_of_noImport ?_ (importDepth m)
    rcases List.mem_append.mp hinner with hgap | hinner
    · split at hgap
      · exact absurd hgap List.not_mem_nil
      · obtain rfl := List.mem_singleton.mp hgap
        trivial
    · exact noImport_separate hgroups inner hinner
  · split at h
    · exact absurd h List.not_mem_nil
    · obtain rfl := List.mem_singleton.mp h
      exact not_startsImport_of_head (by decide) (by decide) _

/-- A file has its import lines at one place, one for each namespace, and no other such line. -/
theorem emit_imports {m : ApiModel} (hproxy : m.proxy.visibility = "public")
    (hdeclarations : ∀ d ∈ m.declarations, visibilityOf d = "public") :
    ∃ before after : List String,
      emit m = String.join ((before ++ (sortImports m.imports).map (importLine (importDepth m)) ++
        after).map (· ++ "\n")) ∧
      ∀ line ∈ before ++ after, ¬ StartsImport (importDepth m) line := by
  refine ⟨(openingLines m).map Line.render, (followingLines m).map Line.render, ?_, ?_⟩
  · have hlines : (sortImports m.imports).map (importLine (importDepth m)) =
        ((sortImports m.imports).map fun ns =>
          Line.text (importDepth m) ("using " ++ ns ++ ";")).map Line.render := by
      simp [importLine, importStart, Line.render, Function.comp_def, String.append_assoc]
    rw [hlines, ← List.map_append, ← List.map_append, ← fileLines_eq, List.map_map]
    rfl
  · intro line hline
    rcases List.mem_append.mp hline with hline | hline
    · obtain ⟨l, hl, rfl⟩ := List.mem_map.mp hline
      exact not_startsImport_openingLines hl _
    · obtain ⟨l, hl, rfl⟩ := List.mem_map.mp hline
      exact not_startsImport_followingLines hproxy hdeclarations hl

end HubProxy.Proofs
