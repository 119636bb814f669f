import HubProxy.Proofs.MovedDisks
import HubProxy.Proofs.PathTexts

/-!
# Where a contract is

The settings take a contract source for a path by how it ends and by its slashes, and put such a path
where the root says. Reading a contract takes a source for a file by its suffix. Apart from suffixes of
documents in large letters the two agree on files: one that is read is at an absolute path, and a source
that is read as the name of a module either stands as it was given or is a path that names no module.
-/

namespace HubProxy.Proofs

open Run

/-- A path that means the same everywhere. -/
structure IsPlace (p : Path) : Prop where
  absolute : p.isAbsolute = true
  written : IsWritten p

/-- The path that a path in the settings stands for: itself if it is absolute, one below a home
directory if it starts there, and else one below the root. -/
inductive SeenFrom (homes : Path.Homes) (root : Path) : Path → Path → Prop
  | absolute {p : Path} (h : p.isAbsolute = true) : SeenFrom homes root p p
  | home {account : String} {rest : List String} {home : Path} (h : homes account = some home) :
      SeenFrom homes root ⟨.here, ("~" ++ account) :: rest⟩ ⟨home.start, home.parts ++ rest⟩
  | below {parts : List String} (h : ∀ account rest, parts ≠ ("~" ++ account) :: rest) :
      SeenFrom homes root ⟨.here, parts⟩ ⟨root.start, root.parts ++ parts⟩

/-- The contract source that settings were given. -/
def givenSource (entries : List (String × SettingValue)) : String :=
  (Settings.valueOf entries "contract_source").given

/-- Whether a path ends like that of a document, in letters of either case. -/
def endsAsDocument (p : Path) : Bool :=
  documentSuffixes.contains (String.ofList (p.suffix.toList.map Char.toLower))

/-- A document by its suffix that the settings do not take for a path, as the suffix is not in small
letters and nothing else tells. -/
def IsMissed (value : String) : Prop :=
  Settings.namesFile value = false ∧ endsAsDocument (Path.ofText value) = true

variable {homes : Path.Homes} {root p q : Path} {value source : String}

/-! ## Paths in settings -/

lemma expandHome?_of_absolute (h : p.isAbsolute = true) : p.expandHome? homes = some p := by
  obtain ⟨start, parts⟩ := p
  cases start with
  | here => cases h
  | root | network => cases parts <;> rfl

lemma expandHome?_cases (h : p.expandHome? homes = some q) :
    (∃ account rest home, p = ⟨.here, ("~" ++ account) :: rest⟩ ∧ homes account = some home ∧
      q = home.join ⟨.here, rest⟩) ∨
    (q = p ∧ (p.isAbsolute = true ∨ ∀ account rest, p.parts ≠ ("~" ++ account) :: rest)) := by
  obtain ⟨start, parts⟩ := p
  cases start with
  | root | network =>
    rw [expandHome?_of_absolute rfl] at h
    exact .inr ⟨(Option.some.inj h).symm, .inl rfl⟩
  | here =>
    cases parts with
    | nil => exact .inr ⟨(Option.some.inj h).symm, .inr fun _ _ heq => by cases heq⟩
    | cons first rest =>
      unfold Path.expandHome? at h
      dsimp only at h
      split at h
      · next account hfirst =>
        obtain ⟨home, hhome, rfl⟩ := Option.map_eq_some_iff.mp h
        have hname : first = "~" ++ String.ofList account := by
          rw [← String.toList_inj, hfirst]
          simp
        exact .inl ⟨_, rest, home, by rw [hname], hhome, rfl⟩
      · next hother =>
        refine .inr ⟨(Option.some.inj h).symm, .inr fun account rest' heq => ?_⟩
        rw [(List.cons.inj heq).1, String.toList_append] at hother
        exact hother account.toList rfl

lemma seenFrom_of_resolvePath (hhomes : ∀ account home, homes account = some home → IsPlace home)
    (h : Settings.resolvePath homes root value = .ok q) :
    SeenFrom homes root (Path.ofText value) q := by
  rw [Settings.resolvePath] at h
  split at h
  · cases h
  next expanded hexpanded =>
  obtain rfl := Except.ok.inj h
  rcases expandHome?_cases hexpanded with ⟨account, rest, home, hvalue, hhome, rfl⟩ | ⟨rfl, hplain⟩
  · have hplace := (hhomes account home hhome).absolute
    have hjoined : root.join (home.join ⟨.here, rest⟩) = ⟨home.start, home.parts ++ rest⟩ :=
      if_pos hplace
    rw [hvalue, hjoined]
    exact .home hhome
  · generalize Path.ofText value = p at hplain ⊢
    obtain ⟨start, parts⟩ := p
    cases start with
    | here => exact .below (hplain.resolve_left Bool.false_ne_true)
    | root | network => exact .absolute rfl

lemma SeenFrom.isPlace (hroot : IsPlace root)
    (hhomes : ∀ account home, homes account = some home → IsPlace home) (hp : IsWritten p)
    (h : SeenFrom homes root p q) : IsPlace q := by
  cases h with
  | absolute h => exact ⟨h, hp⟩
  | @home account rest home hhome =>
    obtain ⟨habsolute, hwritten⟩ := hhomes account home hhome
    refine ⟨habsolute, fun part hpart => ?_⟩
    exact (List.mem_append.mp hpart).elim (hwritten part)
      fun hrest => hp part (List.mem_cons_of_mem _ hrest)
  | below => exact ⟨hroot.absolute, fun part hpart =>
      (List.mem_append.mp hpart).elim (hroot.written part) (hp part)⟩

/-- What passes a check goes on as if there were none. -/
lemma ok_of_guard {α : Type} {refused : Prop} [Decidable refused] {e : SettingsError}
    {next : PUnit → Except SettingsError α} {a : α}
    (h : (if refused then throw e >>= next else next ⟨⟩) = .ok a) : next ⟨⟩ = .ok a := by
  split at h
  · cases h
  · exact h

lemma resolveSource_of_ofEntries {entries : List (String × SettingValue)} {s : Settings}
    (h : Settings.ofEntries homes root entries = .ok s) :
    Settings.resolveSource homes root (givenSource entries) = .ok s.contractSource := by
  unfold Settings.ofEntries at h
  obtain ⟨missing, -, h⟩ := ok_of_bind h
  obtain ⟨visibility, -, h⟩ := ok_of_bind (ok_of_guard h)
  obtain ⟨types?, -, h⟩ := ok_of_bind (ok_of_guard h)
  obtain ⟨target, -, h⟩ := ok_of_bind h
  obtain ⟨contractSource, hsource, h⟩ := ok_of_bind h
  obtain ⟨typeSource, -, h⟩ := ok_of_bind h
  obtain ⟨connection, -, h⟩ := ok_of_bind h
  obtain ⟨suffix, -, h⟩ := ok_of_bind h
  cases h
  exact hsource

/-! ## Suffixes -/

lemma cutName_suffix (name : String) : (Path.cutName name).2.toList <:+ name.toList := by
  unfold Path.cutName
  dsimp only
  split
  · next head hdrop =>
    split
    · exact List.nil_suffix
    · refine ⟨head.reverse, ?_⟩
      have htail := List.prefix_iff_eq_take.mp
        (List.takeWhile_prefix (· != '.') (l := name.toList.reverse))
      have hname := List.take_append_drop
        (name.toList.reverse.takeWhile (· != '.')).length name.toList.reverse
      rw [← htail, hdrop] at hname
      have hwhole := congrArg List.reverse hname
      rw [List.reverse_reverse] at hwhole
      refine Eq.trans ?_ hwhole
      simp
  · exact List.nil_suffix

/-- A text without slashes is read as a path of at most one name. -/
lemma ofText_of_not_mem (h : '/' ∉ value.toList) :
    Path.ofText value = ⟨.here, [value]⟩ ∨ Path.ofText value = ⟨.here, []⟩ := by
  have hstart : value.toList.head? ≠ some '/' := fun hhead => h (List.mem_of_mem_head? hhead)
  have hparts : Path.partsOf value.toList = [value].filter fun part => part != "" && part != "." := by
    rw [Path.partsOf, splitSlashes_of_not_mem h, List.map_singleton, String.ofList_toList]
  rw [Path.ofText, (startOf_of_head? hstart).1, hparts, List.filter_cons]
  split
  · exact .inl rfl
  · exact .inr rfl

lemma suffix_ofText (h : '/' ∉ value.toList) :
    (Path.ofText value).suffix.toList <:+ value.toList := by
  rcases ofText_of_not_mem h with hpath | hpath <;> rw [hpath]
  · exact cutName_suffix value
  · exact List.nil_suffix

lemma not_mem_of_namesFile (h : Settings.namesFile value = false) : '/' ∉ value.toList := by
  obtain ⟨-, hslash⟩ := Bool.or_eq_false_iff.mp h
  intro hmem
  exact List.any_eq_false.mp hslash '/' hmem rfl

lemma suffix_ne_of_namesFile (h : Settings.namesFile value = false) :
    (Path.ofText value).suffix ≠ moduleSuffix := by
  obtain ⟨hending, -⟩ := Bool.or_eq_false_iff.mp h
  intro hsuffix
  have hends := suffix_ofText (not_mem_of_namesFile h)
  rw [hsuffix] at hends
  exact List.any_eq_false.mp hending ".py" List.mem_cons_self (List.isSuffixOf_iff_suffix.mpr hends)

/-! ## Reading a contract -/

/-- A path that has been written down is read as nothing but itself. -/
lemma contractSource_text (homes : Path.Homes) (h : IsPlace p) :
    ContractSource.ofText homes p.text = .ok (.document p) ∨
    ContractSource.ofText homes p.text = .ok (.moduleFile p) ∨
    ContractSource.ofText homes p.text = .ok (.namedModule p.text) := by
  unfold ContractSource.ofText
  rw [ofText_text h.written]
  dsimp only
  rw [expandHome?_of_absolute h.absolute]
  split
  · exact .inl rfl
  · dsimp only
    split
    · exact .inr (.inl rfl)
    · exact .inr (.inr rfl)

/-- How a source is read that the settings do not take for a path. -/
lemma contractSource_of_name (hname : Settings.namesFile value = false) (hmissed : ¬IsMissed value)
    {place : ContractSource} (hread : ContractSource.ofText homes value = .ok place) :
    (∃ path, place = .moduleFile path ∧ (Path.ofText value).expandHome? homes = some path ∧
      path.suffix = moduleSuffix) ∨ place = .namedModule value := by
  have hdocument : ¬endsAsDocument (Path.ofText value) = true := fun hends => hmissed ⟨hname, hends⟩
  unfold endsAsDocument at hdocument
  unfold ContractSource.ofText at hread
  dsimp only at hread
  rw [if_neg hdocument] at hread
  split at hread
  · cases hread
  next path hpath =>
  split at hread
  · next hsuffix => exact .inl ⟨path, (Except.ok.inj hread).symm, hpath, hsuffix⟩
  · exact .inr (Except.ok.inj hread).symm

lemma splitDots_cons {c : Char} (hc : c ≠ '.') (cs : List Char) :
    ∃ piece more, splitDots (c :: cs) = (c :: piece) :: more := by
  rw [splitDots]
  split
  · exact ⟨[], [], rfl⟩
  · next piece more _ => exact ⟨piece, more, if_neg hc⟩

/-- No module has a path for its name. -/
lemma namedModule_text (h : p.isAbsolute = true) : ∃ reason,
    namedModule p.text = .error (.moduleNotImported p.text reason) := by
  have hstart : p.start ≠ .here := by simpa [Path.isAbsolute] using h
  obtain ⟨cs, hcs⟩ : ∃ cs, p.text.toList = '/' :: cs := by
    rw [toList_text p.start (.inl hstart)]
    cases hp : p.start with
    | here => exact absurd hp hstart
    | root => exact ⟨_, rfl⟩
    | network => exact ⟨_, rfl⟩
  have hempty : p.text ≠ "" := by
    intro hempty
    rw [hempty] at hcs
    cases hcs
  have hdot : ¬".".toList.isPrefixOf ('/' :: cs) = true := Bool.false_ne_true
  -- The slash stays in the first piece, and no known module has one in its name.
  obtain ⟨piece, more, hpieces⟩ := splitDots_cons (c := '/') (by decide) cs
  have hunknown : knownModules.lookup (String.ofList ('/' :: piece)) = none := by
    have hother : ∀ name : String, name.toList.head? ≠ some '/' →
        String.ofList ('/' :: piece) ≠ name := by
      rintro name hname rfl
      rw [String.toList_ofList] at hname
      exact hname rfl
    rw [knownModules, lookup_cons_ne (hother _ (by decide)), lookup_cons_ne (hother _ (by decide))]
    rfl
  rw [namedModule, if_neg hempty, hcs, if_neg hdot, hpieces, List.map_cons, missingModule?, if_pos rfl]
  dsimp only
  rw [hunknown]
  exact ⟨_, rfl⟩

/-! ## Where settings put a contract -/

/-- A contract source is where the settings say, for what it was given as: a file is opened at the path
that stands for it, and a module is imported by the name that was given. A path that opens no file
names no module either. -/
structure IsLocated (homes : Path.Homes) (root : Path) (given source : String) : Prop where
  opened : ∀ path, Opens homes source path → path.isAbsolute = true ∧
    SeenFrom homes root (Path.ofText given) path ∧
    (source = path.text ∨
      source = given ∧ ∃ account, given = "~" ++ account ∧ homes account = some path)
  imported : ∀ name, ContractSource.ofText homes source = .ok (.namedModule name) → name = source ∧
    (Settings.namesFile given = false ∧ source = given ∨
      Settings.namesFile given = true ∧ ∃ path reason, path.isAbsolute = true ∧
        SeenFrom homes root (Path.ofText given) path ∧ source = path.text ∧
        namedModule source = .error (.moduleNotImported source reason))

lemma isLocated_of_path (hpath : IsPlace p) (hfile : Settings.namesFile value = true)
    (hseen : SeenFrom homes root (Path.ofText value) p) : IsLocated homes root value p.text where
  opened path hopens := by
    obtain rfl : path = p := by
      rcases contractSource_text homes hpath with hread | hread | hread <;> grind [Opens]
    exact ⟨hpath.absolute, hseen, .inl rfl⟩
  imported name hname := by
    obtain rfl : name = p.text := by
      rcases contractSource_text homes hpath with hread | hread | hread <;> grind
    obtain ⟨reason, hreason⟩ := namedModule_text hpath.absolute
    exact ⟨rfl, .inr ⟨hfile, p, reason, hpath.absolute, hseen, rfl, hreason⟩⟩

/-- A name without slashes opens a file only if it is that of an account whose home is one. -/
lemma home_of_opens (hname : Settings.namesFile value = false) (hmissed : ¬IsMissed value)
    (hopens : Opens homes value p) : ∃ account,
      Path.ofText value = ⟨.here, ["~" ++ account]⟩ ∧ value = "~" ++ account ∧
      homes account = some p := by
  obtain ⟨hexpanded, hsuffix⟩ : (Path.ofText value).expandHome? homes = some p ∧
      p.suffix = moduleSuffix := by
    rcases hopens with hopens | hopens <;>
      rcases contractSource_of_name hname hmissed hopens with ⟨path, hplace, hfile⟩ | hplace <;>
      cases hplace
    exact hfile
  rcases expandHome?_cases hexpanded with ⟨account, rest, home, hvalue, hhome, rfl⟩ | ⟨rfl, -⟩
  · -- The value is the one name on its path, so nothing follows the account.
    rcases ofText_of_not_mem (not_mem_of_namesFile hname) with hpath | hpath
    · rw [hpath] at hvalue ⊢
      cases hvalue
      have hjoined : home.join ⟨.here, []⟩ = home := by
        obtain ⟨start, parts⟩ := home
        exact congrArg (Path.mk start) (List.append_nil parts)
      exact ⟨account, rfl, rfl, hhome.trans (congrArg some hjoined.symm)⟩
    · rw [hpath] at hvalue
      cases hvalue
  · exact absurd hsuffix (suffix_ne_of_namesFile hname)

lemma isLocated_of_name (hhomes : ∀ account home, homes account = some home → IsPlace home)
    (hname : Settings.namesFile value = false) (hmissed : ¬IsMissed value) :
    IsLocated homes root value value where
  opened path hopens := by
    obtain ⟨account, hpath, hvalue, hhome⟩ := home_of_opens hname hmissed hopens
    have hseen : SeenFrom homes root (Path.ofText value) ⟨path.start, path.parts ++ []⟩ := by
      rw [hpath]
      exact .home hhome
    rw [List.append_nil] at hseen
    exact ⟨(hhomes account path hhome).absolute, hseen, .inr ⟨rfl, account, hvalue, hhome⟩⟩
  imported name hread := by
    rcases contractSource_of_name hname hmissed hread with ⟨path, hplace, -⟩ | hplace <;>
      cases hplace
    exact ⟨rfl, .inl ⟨hname, rfl⟩⟩

/-- The only account with a home is the current one. -/
def oracleHomes : Path.Homes := fun account =>
  if account = "" then some ⟨.root, ["home", "oracle"]⟩ else none

/-- The settings of a game, with the contract that they are for. -/
def gameEntries (source : String) : List (String × SettingValue) :=
  [("target_namespace", .text "Game"), ("target_class_name", .text "GameClient"),
    ("target_file_path", .text "out/Game.cs"), ("contract_source", .text source)]

lemma isPlace_of_oracleHomes {account : String} {home : Path} (h : oracleHomes account = some home) :
    IsPlace home := by
  unfold oracleHomes at h
  split at h
  · obtain rfl := Option.some.inj h
    exact ⟨rfl, by decide⟩
  · cases h

end HubProxy.Proofs
