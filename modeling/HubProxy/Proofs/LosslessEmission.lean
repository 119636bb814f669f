import HubProxy.Proofs.ImportLines
import HubProxy.Proofs.PrintedTypes
import HubProxy.Proofs.Regeneration

/-!
# Emission loses nothing

The text of a build gives back everything that is written of its model. So two builds with one text
have one namespace, one proxy, the same imports and the same declarations, whatever their contracts and
whatever existed before: a changed interface never looks as if it were up to date.
-/

namespace HubProxy.Proofs

open CSharp

/-- Every name in a contract is a name of the language. -/
structure IdentifierNamed (m : Metadata) : Prop where
  operations : ∀ t ∈ m.types, ∀ o ∈ t.operations,
    IsIdentifier o.name ∧ ∀ p ∈ o.parameters, IsIdentifier p.1
  enums : ∀ name members, Mentioned m (.enum name members) →
    IsIdentifier name ∧ ∀ member ∈ members, IsIdentifier member
  classes : ∀ c ∈ m.classes, IsIdentifier c.name ∧ ∀ p ∈ c.properties, IsIdentifier p.1

lemma IdentifierNamed.wordNamed {m : Metadata} (h : IdentifierNamed m) : WordNamed m where
  operations t ht o ho :=
    ⟨(h.operations t ht o ho).1.isWord, fun p hp => ((h.operations t ht o ho).2 p hp).isWord⟩
  enums name members hd :=
    ⟨(h.enums name members hd).1, fun member hm => ((h.enums name members hd).2 member hm).isWord⟩
  classes c hc := ⟨(h.classes c hc).1, fun p hp => ((h.classes c hc).2 p hp).isWord⟩

section Files

variable {imports imports' : List String} {m m' : ApiModel} {rest rest' : List Line}

/-- What comes after the imports starts with the visibility of a type. -/
def Public (lines : List Line) : Prop :=
  ∃ s rest, lines = .text 0 ("public " ++ s) :: rest

lemma text_import_ne_public (space s : String) :
    Line.text 0 ("using " ++ space ++ ";") ≠ .text 0 ("public " ++ s) := by
  intro heq
  have hcontent := (Line.text.inj heq).2
  rw [String.append_assoc] at hcontent
  exact append_ne_append (by decide) (by decide) hcontent

lemma importLines_eq (imports : List String) :
    importLines imports = if (sortImports imports).isEmpty then []
      else ((sortImports imports).map fun space => .text 0 ("using " ++ space ++ ";")) ++ [.gap] := by
  simp [importLines]

/-- The imports are the lines before the first empty one, if the text starts with any. -/
lemma importLines_append_inj (hrest : Public rest) (hrest' : Public rest')
    (heq : importLines imports ++ rest = importLines imports' ++ rest') :
    sortImports imports = sortImports imports' ∧ rest = rest' := by
  rw [importLines_eq, importLines_eq] at heq
  obtain ⟨s, more, rfl⟩ := hrest
  obtain ⟨s', more', rfl⟩ := hrest'
  cases himports : sortImports imports with
  | nil =>
    cases himports' : sortImports imports' with
    | nil => simpa [himports, himports'] using heq
    | cons space spaces =>
      simp only [himports, himports', List.isEmpty_nil, List.isEmpty_cons, if_true, List.nil_append,
        Bool.false_eq_true, if_false, List.map_cons, List.cons_append] at heq
      exact absurd (List.cons.inj heq).1.symm (text_import_ne_public space s)
  | cons space spaces =>
    cases himports' : sortImports imports' with
    | nil =>
      simp only [himports, himports', List.isEmpty_nil, List.isEmpty_cons, if_true, List.nil_append,
        Bool.false_eq_true, if_false, List.map_cons, List.cons_append] at heq
      exact absurd (List.cons.inj heq).1 (text_import_ne_public space s')
    | cons space' spaces' =>
      rw [himports, himports'] at heq
      simp only [List.isEmpty_cons, Bool.false_eq_true, if_false, List.append_assoc,
        List.singleton_append] at heq
      obtain ⟨hlines, hrest⟩ := append_cons_inj (by simp) (by simp) heq
      refine ⟨eq_of_map_eq (fun a _ b _ hline => ?_) hlines, hrest⟩
      simpa using (Line.text.inj hline).2

lemma public_separate (s : String) (body : List Line) (groups : List (List Line)) :
    Public (separate (braced ("public " ++ s) body :: groups)) := by
  obtain ⟨rest, -, hsplit, -⟩ := separate_cons (braced ("public " ++ s) body) groups
  exact ⟨s, _, hsplit⟩

/-- The content of a file starts with an import or with a type. -/
lemma importLines_append_head (imports : List String) (hrest : Public rest) :
    ∃ s more, importLines imports ++ rest = .text 0 s :: more ∧
      ∃ t, s = "using " ++ t ∨ s = "public " ++ t := by
  obtain ⟨s, more, rfl⟩ := hrest
  rw [importLines_eq]
  cases sortImports imports with
  | nil => exact ⟨"public " ++ s, more, rfl, s, .inr rfl⟩
  | cons space spaces =>
    exact ⟨"using " ++ space ++ ";", _, rfl, space ++ ";", .inl (String.append_assoc ..)⟩

lemma ne_namespace {s t ns : String} (hs : s = "using " ++ t ∨ s = "public " ++ t) :
    s ≠ "namespace " ++ ns := by
  rcases hs with rfl | rfl
  · exact append_ne_append (by decide) (by decide)
  · exact append_ne_append (by decide) (by decide)

/-- A file tells its namespace, or that it has none, and its content. -/
lemma fileLines_inj (hhead : ∃ s more, contentLines m = .text 0 s :: more ∧
      ∃ t, s = "using " ++ t ∨ s = "public " ++ t)
    (hhead' : ∃ s more, contentLines m' = .text 0 s :: more ∧
      ∃ t, s = "using " ++ t ∨ s = "public " ++ t)
    (heq : fileLines m = fileLines m') : m.ns = m'.ns ∧ contentLines m = contentLines m' := by
  obtain ⟨s, more, hcontent, t, hs⟩ := hhead
  obtain ⟨s', more', hcontent', t', hs'⟩ := hhead'
  have hbody := List.append_cancel_left heq
  by_cases hns : m.ns = "" <;> by_cases hns' : m'.ns = ""
  · rw [if_pos hns, if_pos hns'] at hbody
    exact ⟨hns.trans hns'.symm, hbody⟩
  · rw [if_pos hns, if_neg hns', hcontent] at hbody
    exact absurd (Line.text.inj (List.cons.inj hbody).1).2 (ne_namespace hs)
  · rw [if_neg hns, if_pos hns', hcontent'] at hbody
    exact absurd (Line.text.inj (List.cons.inj hbody).1).2.symm (ne_namespace hs')
  · rw [if_neg hns, if_neg hns'] at hbody
    obtain ⟨hheader, hcontents⟩ := braced_inj hbody
    exact ⟨(String.append_right_inj _).mp hheader, hcontents⟩

end Files

section Proxies

variable {m m' : Metadata} {ns ns' className className' : String} {existing existing' : List String}
  {operations operations' : List Operation} {r r' : Registry}

lemma connectionOf_eq (classes classes' : ClassTable) (options : BuildOptions) :
    connectionOf classes options = connectionOf classes' options := by
  simp [connectionOf, memberDeclaration, connectionType, reference, Descriptor.name?]

def proxyMethods (m : Metadata) (operations : List Operation) : List MethodDeclaration :=
  operations.map (methodOf m.classes {} (connectionOf m.classes {}).name)

/-- The groups of lines in the proxy. -/
def proxyGroups (m : Metadata) (operations : List Operation) : List (List Line) :=
  let connection := connectionOf m.classes {}
  [.text 0 (fieldLine connection.field)] :: propertyLines connection ::
    (proxyMethods m operations).map methodLines

lemma classLines_proxy (ns className : String) :
    classLines (modelOf {} m ns className operations r).proxy =
      braced ("public " ++ ("partial class " ++ className)) (separate (proxyGroups m operations)) := by
  have hheader : "public" ++ " partial " ++ "class" ++ " " ++ className =
      "public " ++ ("partial class " ++ className) := by
    rw [← String.append_assoc]
    rfl
  rw [← hheader]
  rfl

lemma Ended.legibleOperation (h : Ended {} m existing operations r) (hk : KnownContract m)
    (hn : IdentifierNamed m) {o : Operation} (ho : o ∈ operations) : LegibleOperation m.classes o := by
  obtain ⟨t, ht, hot⟩ := types_of_builtOperations? h.built ho
  obtain ⟨hname, hparameters⟩ := hn.operations t ht o hot
  refine ⟨hname, fun q hq => ?_⟩
  obtain ⟨p, hp, rfl⟩ := List.mem_map.mp hq
  have hneeded : Needed m existing p.2 := .parameter h.built ho hp
  exact ⟨wordReference_reference hk hn.wordNamed hneeded (h.handled_parameter ho hp),
    (hparameters p (List.mem_filter.mp hp).1).isWord⟩

lemma Ended.legibleDeclaration (h : Ended {} m existing operations r) (hk : KnownContract m)
    (hn : IdentifierNamed m) {d : TypeDeclaration} (hd : d ∈ r.declarations) :
    LegibleDeclaration d := by
  rcases h.declaration_cases hd with ⟨name, members, hneeded, -, rfl⟩ |
    ⟨id, c, hneeded, hc, hfresh, rfl, hhandled⟩
  · obtain ⟨hname, hmembers⟩ := hn.enums name members hneeded.mentioned
    exact .enum hname hmembers
  · obtain ⟨hname, hproperties⟩ := hn.classes c (Array.mem_of_getElem? hc)
    exact .cls hname fun p hp => ⟨hproperties p hp,
      wordReference_reference hk hn.wordNamed (hneeded.member hc hfresh hp) (hhandled p hp)⟩

lemma legibleMember_connection (classes : ClassTable) :
    LegibleMember classes (({} : BuildOptions).connectionProperty, connectionType) := by
  have hname : IsIdentifier "HubConnection" := by decide
  exact ⟨hname, wordReference_named hname⟩

lemma isWord_connection (classes : ClassTable) : IsWord (connectionOf classes {}).name :=
  (legibleMember_connection classes).name.firstUpper.isWord

lemma gapless_proxyGroups : ∀ group ∈ proxyGroups m operations, Gapless group := by
  intro group hgroup
  rcases List.mem_cons.mp hgroup with rfl | hgroup
  · simp [Gapless]
  rcases List.mem_cons.mp hgroup with rfl | hgroup
  · exact gapless_propertyLines
  · obtain ⟨method, -, rfl⟩ := List.mem_map.mp hgroup
    exact gapless_methodLines method

lemma proxyMethods_inj (h : ∀ o ∈ operations, LegibleOperation m.classes o)
    (h' : ∀ o ∈ operations', LegibleOperation m'.classes o)
    (heq : proxyGroups m operations = proxyGroups m' operations') :
    proxyMethods m operations = proxyMethods m' operations' := by
  have hlines := (List.cons.inj (List.cons.inj heq).2).2
  rw [proxyMethods, proxyMethods, connectionOf_eq m'.classes m.classes] at hlines ⊢
  rw [List.map_map, List.map_map] at hlines
  exact map_eq_map (fun o ho o' ho' hmethod =>
    methodLines_inj (isWord_connection _) (h o ho) (h' o' ho') hmethod) hlines

lemma contentLines_modelOf (ns className : String) :
    contentLines (modelOf {} m ns className operations r) = importLines r.imports ++
      separate (braced ("public " ++ ("partial class " ++ className))
        (separate (proxyGroups m operations)) :: r.declarations.map declarationLines) := by
  rw [← classLines_proxy (r := r) ns className]
  rfl

lemma isBlock_declarationLines (d : TypeDeclaration) : IsBlock (declarationLines d) := by
  cases d <;> exact ⟨_, _, rfl⟩

/-- The content of a file gives the imports, the name and the methods of the proxy, and the
declarations. -/
theorem contentLines_inj (h : ∀ o ∈ operations, LegibleOperation m.classes o)
    (h' : ∀ o ∈ operations', LegibleOperation m'.classes o)
    (hd : ∀ d ∈ r.declarations, LegibleDeclaration d)
    (hd' : ∀ d ∈ r'.declarations, LegibleDeclaration d)
    (heq : contentLines (modelOf {} m ns className operations r) =
      contentLines (modelOf {} m' ns' className' operations' r')) :
    sortImports r.imports = sortImports r'.imports ∧ className = className' ∧
      proxyMethods m operations = proxyMethods m' operations' ∧ r.declarations = r'.declarations := by
  rw [contentLines_modelOf, contentLines_modelOf] at heq
  obtain ⟨himports, htypes⟩ := importLines_append_inj (public_separate _ _ _) (public_separate _ _ _) heq
  have hblocks : ∀ (s : String) (body : List Line) (l : List TypeDeclaration),
      ∀ group ∈ braced s body :: l.map declarationLines, IsBlock group := by
    intro s body l group hgroup
    rcases List.mem_cons.mp hgroup with rfl | hgroup
    · exact ⟨s, body, rfl⟩
    · obtain ⟨d, -, rfl⟩ := List.mem_map.mp hgroup
      exact isBlock_declarationLines d
  have hgroups := separate_inj separable_isBlock (hblocks _ _ _) (hblocks _ _ _) htypes
  obtain ⟨hproxy, hdeclarations⟩ := List.cons.inj hgroups
  obtain ⟨hheader, hbody⟩ := braced_inj hproxy
  have hmethods := separate_inj separable_gapless gapless_proxyGroups gapless_proxyGroups hbody
  refine ⟨himports, ?_, proxyMethods_inj h h' hmethods, ?_⟩
  · rwa [String.append_right_inj, String.append_right_inj] at hheader
  · exact eq_of_map_eq (fun d hm d' hm' hlines => declarationLines_inj (hd d hm) (hd' d' hm') hlines)
      hdeclarations

end Proxies

section Sharpness

variable {m : Metadata} {ns className : String} {existing : List String} {operations : List Operation}
  {r : Registry}

/-- No namespace, or one that is named with dots. -/
def EmptyOrDotted (ns : String) : Prop :=
  ns = "" ∨ DottedName ns

lemma feed_not_mem_dotText {words : List String} (h : ∀ w ∈ words, IsWord w) :
    '\n' ∉ (dotText words).toList := by
  induction words with
  | nil => simp [dotText]
  | cons w words ih =>
    have hw := (dense_of_isWord (h w List.mem_cons_self).2).not_mem (c := '\n') (by decide)
    rw [dotText_cons]
    exact List.not_mem_cons_of_ne_of_not_mem (by decide)
      (not_mem_append hw (ih fun v hv => h v (List.mem_cons_of_mem w hv)))

lemma feed_not_mem_namespace (h : EmptyOrDotted ns) : '\n' ∉ ns.toList := by
  rcases h with rfl | ⟨first, words, rfl, hfirst, hwords⟩
  · decide
  · rw [intercalate_dots]
    exact not_mem_append ((dense_of_isWord hfirst.2).not_mem (by decide)) (feed_not_mem_dotText hwords)

lemma Ended.feed_not_mem_imports (h : Ended {} m existing operations r) (hk : KnownContract m) :
    ∀ space ∈ r.imports, '\n' ∉ space.toList := by
  have hall : ∀ space ∈ knownSpaces, '\n' ∉ space.toList := by decide
  exact fun space hspace => hall space (h.mem_knownSpaces hk space hspace)

lemma sharpLines_importLines {imports : List String} (h : ∀ space ∈ imports, '\n' ∉ space.toList) :
    ∀ line ∈ importLines imports, SharpLine line := by
  intro line hline
  rw [importLines_eq] at hline
  split at hline
  · exact absurd hline List.not_mem_nil
  rcases List.mem_append.mp hline with hline | hline
  · obtain ⟨space, hspace, rfl⟩ := List.mem_map.mp hline
    exact ((by decide : Sharp "using ").append (h space (mem_sortImports.mp hspace))).append (by decide)
  · obtain rfl := List.mem_singleton.mp hline
    trivial

lemma sharpLines_proxyGroups (h : ∀ o ∈ operations, LegibleOperation m.classes o) :
    ∀ group ∈ proxyGroups m operations, ∀ line ∈ group, SharpLine line := by
  have hvisibility : Sharp ({} : BuildOptions).visibility := by decide
  have hconnection := legibleMember_connection m.classes
  intro group hgroup
  rcases List.mem_cons.mp hgroup with rfl | hgroup
  · exact List.forall_mem_singleton.mpr (sharp_fieldLine hconnection)
  rcases List.mem_cons.mp hgroup with rfl | hgroup
  · exact sharpLines_propertyLines hvisibility hconnection
  · rw [proxyMethods, List.map_map] at hgroup
    obtain ⟨o, ho, rfl⟩ := List.mem_map.mp hgroup
    exact sharpLines_methodLines (by decide) (by decide) (isWord_connection m.classes) (h o ho)

lemma Ended.sharpLines_contentLines (h : Ended {} m existing operations r) (hk : KnownContract m)
    (hn : IdentifierNamed m) (hclass : IsIdentifier className) :
    ∀ line ∈ contentLines (modelOf {} m ns className operations r), SharpLine line := by
  have hname := (dense_of_isWord hclass.2).not_mem (c := '\n') (by decide)
  have hheader : Sharp ("public " ++ ("partial class " ++ className)) :=
    (by decide : Sharp "public ").append (not_mem_append (by decide) hname)
  have hproxy := sharpLines_braced hheader
    (sharpLines_separate (sharpLines_proxyGroups fun o ho => h.legibleOperation hk hn ho))
  intro line hline
  rw [contentLines_modelOf] at hline
  rcases List.mem_append.mp hline with hline | hline
  · exact sharpLines_importLines (h.feed_not_mem_imports hk) line hline
  · refine sharpLines_separate (List.forall_mem_cons.mpr ⟨hproxy, fun group hgroup => ?_⟩) line hline
    obtain ⟨d, hd, rfl⟩ := List.mem_map.mp hgroup
    exact (h.legibleDeclaration hk hn hd).sharpLines

lemma Ended.sharpLines_fileLines (h : Ended {} m existing operations r) (hk : KnownContract m)
    (hn : IdentifierNamed m) (hns : EmptyOrDotted ns) (hclass : IsIdentifier className) :
    ∀ line ∈ fileLines (modelOf {} m ns className operations r), SharpLine line := by
  have hcontent : ∀ line ∈ contentLines (modelOf {} m ns className operations r), SharpLine line :=
    h.sharpLines_contentLines hk hn hclass
  intro line hline
  simp only [fileLines, List.mem_append, List.mem_map, List.mem_singleton] at hline
  rcases hline with (⟨content, hbanner, rfl⟩ | rfl) | hline
  · have hall : ∀ content ∈ banner, Sharp content := by decide +kernel
    exact hall content hbanner
  · trivial
  · split at hline
    · exact hcontent line hline
    · exact sharpLines_braced
        ((by decide : Sharp "namespace ").append (feed_not_mem_namespace hns)) hcontent line hline

end Sharpness

/-- Two builds with the same text agree in everything but what is written nowhere. -/
theorem emit_loses_nothing {text text' source source' : String} {m m' : Metadata}
    {ns ns' className className' : String} {existing existing' : List String} {model model' : ApiModel}
    (hread : Contract.ofText text source = .ok m) (hread' : Contract.ofText text' source' = .ok m')
    (hn : IdentifierNamed m) (hn' : IdentifierNamed m') (hns : EmptyOrDotted ns)
    (hns' : EmptyOrDotted ns') (hclass : IsIdentifier className) (hclass' : IsIdentifier className')
    (hbuild : (build {} m ns className existing).1 = .ok model)
    (hbuild' : (build {} m' ns' className' existing').1 = .ok model')
    (heq : emit model = emit model') :
    model.ns = model'.ns ∧ model.className = model'.className ∧
      (∀ space, space ∈ model.imports ↔ space ∈ model'.imports) ∧
      model.connectionProperty = model'.connectionProperty ∧ model.proxy = model'.proxy ∧
      model.declarations = model'.declarations := by
  obtain ⟨operations, r, h, rfl⟩ := ended_of_build hbuild
  obtain ⟨operations', r', h', rfl⟩ := ended_of_build hbuild'
  have hk := knownContract_of_ofText hread
  have hk' := knownContract_of_ofText hread'
  have hlines := join_render_inj (h.sharpLines_fileLines hk hn hns hclass)
    (h'.sharpLines_fileLines hk' hn' hns' hclass') heq
  have hhead : ∀ m ns className operations r, ∃ s more,
      contentLines (modelOf {} m ns className operations r) = .text 0 s :: more ∧
        ∃ t, s = "using " ++ t ∨ s = "public " ++ t := by
    intro m ns className operations r
    rw [contentLines_modelOf]
    exact importLines_append_head _ (public_separate _ _ _)
  obtain ⟨hspace, hcontent⟩ := fileLines_inj (hhead ..) (hhead ..) hlines
  obtain ⟨himports, hname, hmethods, hdeclarations⟩ := contentLines_inj
    (fun o ho => h.legibleOperation hk hn ho) (fun o ho => h'.legibleOperation hk' hn' ho)
    (fun d hd => h.legibleDeclaration hk hn hd) (fun d hd => h'.legibleDeclaration hk' hn' hd) hcontent
  have hconnection := connectionOf_eq m.classes m'.classes {}
  refine ⟨hspace, hname, fun space => ?_, congrArg (·.name) hconnection, ?_, hdeclarations⟩
  · have hmem : space ∈ sortImports r.imports ↔ space ∈ sortImports r'.imports := by rw [himports]
    rwa [mem_sortImports, mem_sortImports] at hmem
  · have hproxy : (⟨className, [connectionOf m.classes {}], proxyMethods m operations, true, false,
        "public"⟩ : ClassDeclaration) = ⟨className', [connectionOf m'.classes {}],
          proxyMethods m' operations', true, false, "public"⟩ := by
      rw [hname, hconnection, hmethods]
    exact hproxy

/-- A contract with one class, whose one property is named as given. -/
def pointText (property : String) : String :=
  "\x7bhub: \x7boperations: [\x7bname: move, parameters: \x7bto: 'Point[]'\x7d\x7d]\x7d, " ++
    "client_api: \x7b\x7d, types: \x7bPoint: \x7bproperties: \x7b" ++ property ++ ": int\x7d\x7d\x7d\x7d"

def pointContract (property : String) : Metadata where
  source := unnamedSource
  types := [
    ⟨"hub", .hub, [⟨"move", .serverReceived, [("to", .array (.cls 0))], true, some "Task"⟩]⟩,
    ⟨"client_api", .clientApi, []⟩]
  classes := #[⟨"Point", [(property, .primitive "int" none)], false⟩]

lemma ofText_pointText {property : String} (h : property ∈ ["x", "X"]) :
    Contract.ofText (pointText property) unnamedSource = .ok (pointContract property) := by
  have hread : ∀ property ∈ ["x", "X"],
      (Contract.ofText (pointText property) unnamedSource).toOption = some (pointContract property) := by
    decide +kernel
  exact eq_ok_of_toOption (hread property h)

lemma mem_pointContract {property : String} {d : Descriptor}
    (hd : Mentioned (pointContract property) d) :
    d ∈ [.array (.cls 0), .cls 0, Descriptor.primitive "int" none] :=
  hd.mem (by simp [pointContract]) (by simp [pointContract, parts])

lemma identifierNamed_pointContract {property : String} (h : IsIdentifier property) :
    IdentifierNamed (pointContract property) where
  operations t ht := by
    have hall : ∀ t ∈ (pointContract "x").types, ∀ o ∈ t.operations,
        IsIdentifier o.name ∧ ∀ p ∈ o.parameters, IsIdentifier p.1 := by decide
    exact hall t ht
  enums name members hd := absurd (mem_pointContract hd) (by simp)
  classes c hc := by
    have hclass : IsIdentifier "Point" := by decide
    obtain rfl : c = ⟨"Point", [(property, .primitive "int" none)], false⟩ := by
      simpa [pointContract] using hc
    exact ⟨hclass, List.forall_mem_singleton.mpr h⟩

/-- Two contracts that differ in the case of a letter, and in what existed before, have one text and so
one proxy and the same declarations. -/
theorem emit_loses_nothing_pointContract : pointContract "x" ≠ pointContract "X" ∧
    ∃ model model', (build {} (pointContract "x") "Games.Net" "Proxy" []).1 = .ok model ∧
      (build {} (pointContract "X") "Games.Net" "Proxy" ["Game"]).1 = .ok model' ∧
      emit model = emit model' ∧ model.proxy = model'.proxy ∧
      model.declarations = model'.declarations := by
  have hbuild : ∃ model model', (build {} (pointContract "x") "Games.Net" "Proxy" []).1 = .ok model ∧
      (build {} (pointContract "X") "Games.Net" "Proxy" ["Game"]).1 = .ok model' ∧
      (model.ns = model'.ns ∧ model.imports = model'.imports) ∧
      (classLines model.proxy :: model.declarations.map declarationLines) =
        classLines model'.proxy :: model'.declarations.map declarationLines :=
    ⟨_, _, rfl, rfl, by decide +kernel, by decide +kernel⟩
  obtain ⟨model, model', hmodel, hmodel', ⟨hspace, himports⟩, hlines⟩ := hbuild
  have htext : emit model = emit model' := by
    rw [emit, emit, fileLines, fileLines, contentLines, contentLines, hspace, himports, hlines]
  obtain ⟨-, -, -, -, hproxy, hdeclarations⟩ := emit_loses_nothing
    (ofText_pointText (by simp)) (ofText_pointText (by simp))
    (identifierNamed_pointContract (by decide)) (identifierNamed_pointContract (by decide))
    (.inr dottedName_games) (.inr dottedName_games) (by decide) (by decide) hmodel hmodel' htext
  exact ⟨by decide, model, model', hmodel, hmodel', htext, hproxy, hdeclarations⟩

end HubProxy.Proofs
