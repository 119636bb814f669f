import HubProxy.Proofs.LineFeeds
import HubProxy.Proofs.WrittenFiles
import HubProxy.Run.Generate

/-!
# Repeated runs

A run reads the contract, the declared names and the target, and then changes at most the target and
its copy. A second run therefore comes to the same text, finds it in the target and leaves the disk
alone.
-/

namespace HubProxy.Proofs

open Run

def leadsToFile (d : Disk) (path : Path) : Except FileError Bool :=
  (d.kind? path).map (· == some .file)

/-- What is found at a path on one disk is found there on another one. -/
structure SameFile (path : Path) (d d' : Disk) : Prop where
  isFile : leadsToFile d' path = leadsToFile d path
  content : ∀ content, d.read path = .ok content → d'.read path = .ok content

section Reading

variable {d d' : Disk} {path : Path}

lemma SameFile.refl (path : Path) (d : Disk) : SameFile path d d := ⟨rfl, fun _ h => h⟩

lemma SameFile.trans {d'' : Disk} (h : SameFile path d d') (h' : SameFile path d' d'') :
    SameFile path d d'' :=
  ⟨h'.isFile.trans h.isFile, fun content hread => h'.content content (h.content content hread)⟩

lemma leadsToFile_eq_true_iff :
    leadsToFile d path = .ok true ↔ ∃ content, d.read path = .ok content := by
  rw [← kind?_eq_file_iff, leadsToFile]
  cases d.kind? path <;> simp [Except.map]

lemma ChangesFiles.sameFile {places : List Place} (h : ChangesFiles places d d')
    (hpath : placeOf d path ∉ places) : SameFile path d d' where
  isFile := by rw [leadsToFile, h.kind?_eq hpath, leadsToFile]
  content _ hread := h.read_ok hpath hread

/-- A file is there also when directories have been made. -/
lemma MakesDirectories.sameFile (h : MakesDirectories d d') {content : ByteArray}
    (hread : d.read path = .ok content) : SameFile path d d' where
  isFile := by
    rw [leadsToFile_eq_true_iff.mpr ⟨content, hread⟩,
      leadsToFile_eq_true_iff.mpr ⟨content, h.read_ok hread⟩]
  content _ hread := h.read_ok hread

lemma comesTo_isFile (path : Path) (d : Disk) :
    ComesTo (Run.isFile path) d ((leadsToFile d path).mapError .file) := by
  intro records
  refine ⟨records, ?_⟩
  rw [Run.isFile, exec_bind, exec_kind?, leadsToFile]
  cases d.kind? path <;> rfl

lemma ComesTo.file {b : Bool} (h : ComesTo (Run.isFile path) d (.ok b)) : leadsToFile d path = .ok b := by
  have heq := (comesTo_isFile path d).unique h
  cases hfile : leadsToFile d path with
  | error e =>
    rw [hfile] at heq
    cases heq
  | ok b' =>
    rw [hfile] at heq
    exact congrArg Except.ok (Except.ok.inj heq)

lemma SameFile.alike_isFile (h : SameFile path d d') : Alike (Run.isFile path) d d' :=
  .of_eq (comesTo_isFile path d) (comesTo_isFile path d') (by rw [h.isFile])

lemma SameFile.alike_readText (h : SameFile path d d') (hfile : leadsToFile d path = .ok true) :
    Alike (readText path) d d' := by
  obtain ⟨content, hread⟩ := leadsToFile_eq_true_iff.mp hfile
  refine .of_eq (.readText path) (.readText path) ?_
  rw [textOf, textOf, hread, h.content content hread]

lemma alike_resolve (hdirectory : d'.directory = d.directory) (path : Path) :
    Alike (Run.resolve path) d d' :=
  .of_eq (fun records => ⟨records, exec_resolve records d path⟩)
    (fun records => ⟨records, exec_resolve records d' path⟩) (by rw [hdirectory])

end Reading

section Building

variable {d d' : Disk} {s : Settings} {contract : Path}

/-- Two disks are the same to the part of a run that comes before the target is read. -/
structure SameInput (s : Settings) (contract : Path) (d d' : Disk) : Prop where
  log : d.log = none
  setup : SameSetup d d'
  contract : SameFile contract d d'
  source : ∀ source ∈ s.typeSource, SameFile source d d'

lemma SameInput.note (h : SameInput s contract d d') (r : LogRecord) : Alike (Run.note r) d d' :=
  .note h.log (h.setup.log.trans h.log) r

lemma SameInput.loadDocument (h : SameInput s contract d d') :
    Alike (Run.loadDocument contract) d d' := by
  refine h.contract.alike_isFile.bind fun found hfound => ?_
  cases found with
  | false => exact (Alike.throw _).bind fun _ hcomes => nomatch (ComesTo.throw _).unique hcomes
  | true =>
    refine (h.contract.alike_readText hfound.file).bind fun text _ => ?_
    exact .lift _

lemma SameInput.loadContract (h : SameInput s contract d d')
    (hcontract : ContractSource.ofText d.homes s.contractSource = .ok (.document contract)) :
    Alike (Run.loadContract s.contractSource) d d' := by
  have hhomes : Alike Run.homes d d' := .of_eq .homes .homes (by rw [h.setup.homes])
  refine hhomes.bind fun homes hcomes => ?_
  obtain rfl := Except.ok.inj (ComesTo.homes.unique hcomes)
  rw [hcontract]
  refine (Alike.lift (.ok (ContractSource.document contract))).bind fun source hsource => ?_
  obtain rfl := Except.ok.inj ((ComesTo.lift (.ok (ContractSource.document contract))).unique hsource)
  exact h.loadDocument

lemma SameInput.scanFile (h : SameInput s contract d d') {source : Path}
    (hsource : source ∈ s.typeSource) (ns : String) : Alike (Run.scanFile source ns) d d' := by
  have hsame := h.source source hsource
  refine hsame.alike_isFile.bind fun found hfound => ?_
  cases found with
  | true => exact (hsame.alike_readText hfound.file).bind fun text _ => .pure _
  | false => exact (h.note _).bind fun _ _ => .pure _

lemma SameInput.declaredBefore (h : SameInput s contract d d') :
    Alike (Run.declaredBefore s) d d' := by
  unfold Run.declaredBefore
  cases hsource : s.typeSource with
  | none => exact .pure _
  | some source =>
    have hnames : Alike (do
        let names ← Run.scanFile source s.ns
        runNote .debug ("Found " ++ toString names.length ++ " prior declarations")
        return names) d d' :=
      (h.scanFile hsource s.ns).bind fun names _ => (h.note _).bind fun _ _ => .pure _
    refine (alike_resolve h.setup.directory source).bind fun here _ => ?_
    refine (alike_resolve h.setup.directory s.target).bind fun there _ => ?_
    dsimp only
    split
    · exact (h.note _).bind fun _ _ => hnames
    · exact hnames

lemma SameInput.logged (h : SameInput s contract d d') (outcome : Except RunError α × List LogRecord) :
    Alike (Run.logged outcome) d d' :=
  (Alike.forM fun r _ => h.note r).bind fun _ _ => .lift _

/-- The source that a run builds depends on what it reads only. -/
theorem SameInput.buildSource (h : SameInput s contract d d')
    (hcontract : ContractSource.ofText d.homes s.contractSource = .ok (.document contract)) :
    Alike (Run.buildSource s) d d' := by
  refine (h.note _).bind fun _ _ => ?_
  refine (h.loadContract hcontract).bind fun metadata _ => ?_
  refine (h.note _).bind fun _ _ => ?_
  refine h.declaredBefore.bind fun existing _ => ?_
  refine (h.logged _).bind fun generated _ => ?_
  exact (h.note _).bind fun _ _ => .pure _

end Building

section Target

variable {d d' : Disk} {path : Path} {text : String}

lemma fromUTF8?_toUTF8 (text : String) : String.fromUTF8? text.toUTF8 = some text := by
  rw [String.fromUTF8?, String.toUTF8_eq_toByteArray, dif_pos text.isValidUTF8]
  rfl

lemma textOf_eq_ok (hread : d.read path = .ok text.toUTF8) (htext : BreakFree text) :
    textOf d path = .ok text := by
  rw [textOf, hread]
  dsimp only
  rw [fromUTF8?_toUTF8]
  dsimp only
  rw [unifyBreaks_eq_self htext, String.ofList_toList]

lemma SameFile.alike_previousText (h : SameFile path d d') : Alike (Run.previousText path) d d' := by
  refine h.alike_isFile.bind fun found hfound => ?_
  cases found with
  | true => exact (h.alike_readText hfound.file).bind fun text _ => .pure _
  | false => exact .pure _

lemma comesTo_previousText {content : ByteArray} (hread : d.read path = .ok content)
    (htext : textOf d path = .ok text) : ComesTo (Run.previousText path) d (.ok (some text)) := by
  have hfile := leadsToFile_eq_true_iff.mpr ⟨_, hread⟩
  have hfound := comesTo_isFile path d
  rw [hfile] at hfound
  have htext' := ComesTo.readText (d := d) path
  rw [htext] at htext'
  exact hfound.bind (htext'.bind (.pure (some text)))

end Target

section Runs

variable {d d' : Disk} {s : Settings} {generated : Generated}

/-- A run that finds its text in the target does nothing. -/
lemma ComesTo.upToDate (hlog : d.log = none) (hbuild : ComesTo (Run.buildSource s) d (.ok generated))
    (hprevious : ComesTo (Run.previousText s.target) d (.ok (some generated.text))) (dryRun : Bool) :
    ComesTo (Run.generate s dryRun) d (.ok ⟨s.target, generated.text, "", generated, false⟩) := by
  refine hbuild.bind (hprevious.bind ?_)
  rw [if_pos rfl]
  exact (ComesTo.note hlog _).bind (.pure _)

/-- The stages of a run that ends well. -/
lemma Ends.stages_of_generate {dryRun : Bool} {outcome : Outcome}
    (h : Ends (Run.generate s dryRun) d outcome d') :
    ∃ generated previous built found, Ends (Run.buildSource s) d generated built ∧
      Ends (Run.previousText s.target) built previous found ∧
      outcome.path = s.target ∧ outcome.text = generated.text ∧ outcome.generated = generated ∧
      ((previous = some generated.text ∧ ∃ r, Ends (Run.note r) found ⟨⟩ d') ∨
        (dryRun = true ∧ d' = found) ∨
        ∃ written r, Ends (write s.target generated.text) found ⟨⟩ written ∧
          Ends (Run.note r) written ⟨⟩ d') := by
  obtain ⟨generated, built, hbuild, hrest⟩ := h.of_bind
  obtain ⟨previous, found, hprevious, hchoice⟩ := hrest.of_bind
  refine ⟨generated, previous, built, found, hbuild, hprevious, ?_⟩
  split at hchoice
  · next hsame =>
    obtain ⟨u, noted, hnote, hpure⟩ := hchoice.of_bind
    obtain ⟨rfl, rfl⟩ := hpure.of_pure
    exact ⟨rfl, rfl, rfl, .inl ⟨hsame, _, hnote⟩⟩
  cases dryRun with
  | true =>
    obtain ⟨rfl, rfl⟩ := Ends.of_pure hchoice
    exact ⟨rfl, rfl, rfl, .inr (.inl ⟨rfl, rfl⟩)⟩
  | false =>
    obtain ⟨u, written, hwrite, hrest⟩ := Ends.of_bind hchoice
    obtain ⟨v, noted, hnote, hpure⟩ := hrest.of_bind
    obtain ⟨rfl, rfl⟩ := hpure.of_pure
    exact ⟨rfl, rfl, rfl, .inr (.inr ⟨written, _, hwrite, hnote⟩)⟩

/-- The stages of a run up to its source. The last that it logs is what it has built. -/
lemma Ends.stages_of_buildSource (h : Ends (Run.buildSource s) d generated d') :
    ∃ opening noted metadata loaded existing before front,
      Ends (Run.note opening) d ⟨⟩ noted ∧
      Ends (Run.loadContract s.contractSource) noted metadata loaded ∧
      (HubProxy.generate s.options metadata s.ns s.className existing).1 = .ok generated ∧
      d' = Disk.record before ⟨.info, "generator", front ++ " new declarations"⟩ := by
  obtain ⟨_, noted, hopening, hload⟩ := h.of_bind
  obtain ⟨metadata, loaded, hcontract, hrest⟩ := hload.of_bind
  obtain ⟨_, _, -, hscan⟩ := hrest.of_bind
  obtain ⟨existing, _, -, hlogged⟩ := hscan.of_bind
  obtain ⟨result, before, hresult, hnote⟩ := hlogged.of_bind
  obtain ⟨_, _, hrecord, hpure⟩ := hnote.of_bind
  obtain ⟨rfl, rfl⟩ := hpure.of_pure
  obtain ⟨_, _, -, hlift⟩ := hresult.of_bind
  exact ⟨_, noted, metadata, loaded, existing, before, _, hopening, hcontract,
    eq_ok_of_mapError hlift.of_lift.1, hrecord.eq_record⟩

/-- The text that a run builds is that of its model. -/
lemma Ends.text_of_buildSource (h : Ends (Run.buildSource s) d generated d') :
    generated.text = CSharp.emit generated.model := by
  obtain ⟨_, _, metadata, _, existing, _, _, -, -, hgenerate, -⟩ := h.stages_of_buildSource
  have hmap : (HubProxy.build s.options metadata s.ns s.className existing).1.map
      (fun model => Generated.mk metadata.classes model (CSharp.emit model)) = .ok generated :=
    hgenerate
  generalize (HubProxy.build s.options metadata s.ns s.className existing).1 = result at hmap
  cases result with
  | error e => cases hmap
  | ok model =>
    have hgenerated : Generated.mk metadata.classes model (CSharp.emit model) = generated :=
      Except.ok.inj hmap
    rw [← hgenerated]

lemma breakFree_of_ends {dryRun : Bool} {outcome : Outcome}
    (h : Ends (Run.generate s dryRun) d outcome d') (hmodel : BreakFreeModel outcome.generated.model) :
    BreakFree outcome.text := by
  obtain ⟨generated, _, _, _, hbuild, -, -, htext, rfl, -⟩ := h.stages_of_generate
  rw [htext, hbuild.text_of_buildSource]
  exact hmodel.emit

/-- The contract of a run that builds a source is there. -/
lemma read_contract_of_ends {contract : Path}
    (hcontract : ContractSource.ofText d.homes s.contractSource = .ok (.document contract))
    (hlog : d.log = none) (h : Ends (Run.buildSource s) d generated d') :
    ∃ content, d.read contract = .ok content := by
  obtain ⟨_, noted, metadata, loaded, _, _, _, hnote, hload, -⟩ := h.stages_of_buildSource
  obtain rfl := hnote.of_note hlog
  obtain ⟨homes, mid, hhomes, hsource⟩ := hload.of_bind
  obtain ⟨hhomes, rfl⟩ := ComesTo.homes.eq_of_ends hhomes
  obtain rfl := Except.ok.inj hhomes
  rw [hcontract] at hsource
  obtain ⟨found, lifted, hlift, hdocument⟩ := hsource.of_bind
  obtain ⟨hfound, rfl⟩ := hlift.of_lift
  obtain rfl := Except.ok.inj hfound
  obtain ⟨isFile, asked, hisFile, hread⟩ := hdocument.of_bind
  obtain ⟨hcomes, rfl⟩ := (comesTo_isFile contract lifted).eq_of_ends hisFile
  cases isFile with
  | true =>
    have hfile := comesTo_isFile contract asked
    rw [hcomes] at hfile
    exact leadsToFile_eq_true_iff.mp hfile.file
  | false =>
    obtain ⟨_, _, hthrow, -⟩ := hread.of_bind
    exact absurd hthrow not_ends_throw

/-- The target of a run and its copy are apart from each other and from what the run reads. -/
structure WritesApart (d : Disk) (s : Settings) (contract : Path) : Prop where
  contract_ne : placeOf d contract ≠ placeOf d s.target
  source_ne : ∀ source ∈ s.typeSource, placeOf d source ≠ placeOf d s.target
  backup_ne : ∀ backup, backupPath s.target = .ok backup → placeOf d backup ≠ placeOf d s.target ∧
    placeOf d contract ≠ placeOf d backup ∧
    ∀ source ∈ s.typeSource, placeOf d source ≠ placeOf d backup

/-- Whether the type source is a file does not hang on the directories above the target. -/
def SteadySource (d : Disk) (s : Settings) : Prop :=
  ∀ source ∈ s.typeSource, ∀ made, Ends (makeDirectories s.target.parent) d ⟨⟩ made →
    leadsToFile made source = leadsToFile d source

/-- What a run reads is the same after its write, and the target can be read. -/
lemma sameInput_of_write {contract : Path} {content : ByteArray} {text : String}
    (hlog : d.log = none) (happart : WritesApart d s contract) (hsource : SteadySource d s)
    (hread : d.read contract = .ok content) (h : Ends (write s.target text) d ⟨⟩ d') :
    SameInput s contract d d' ∧ d'.read s.target = .ok text.toUTF8 := by
  obtain ⟨made, backup, hdirectories, hmade, hbackup, htarget, htouches, htext⟩ := h.of_write
  obtain ⟨places, hplaces, hchanges⟩ := htouches.changesFiles (hmade.setup.log.trans hlog)
  obtain ⟨hheld, -⟩ := htext (logHeld_of_log_eq_none hlog)
  obtain ⟨-, hcontract, hsources⟩ := happart.backup_ne backup hbackup
  have hkept : ∀ path, placeOf d path ≠ placeOf d s.target → placeOf d path ≠ placeOf d backup →
      SameFile path made d' := by
    intro path hpath hpath'
    refine hchanges.sameFile fun hmem => ?_
    rw [hmade.setup.placeOf_eq] at hmem
    rcases hplaces _ hmem with heq | heq
    · exact hpath heq
    · exact hpath' heq
  refine ⟨⟨hlog, hmade.setup.trans hchanges.setup, ?_, ?_⟩, ?_⟩
  · exact (hmade.sameFile hread).trans (hkept contract happart.contract_ne hcontract)
  · intro source hmem
    have hsame : SameFile source d made :=
      ⟨hsource source hmem made hdirectories, fun _ hread => hmade.read_ok hread⟩
    exact hsame.trans (hkept source (happart.source_ne source hmem) (hsources source hmem))
  · exact read_eq_ok_iff.mpr ⟨_, hchanges.locate_ok htarget, hheld⟩

/-- A run that ends well has read what it reads, and changes the disk at most by its write. -/
lemma Ends.of_generate {contract : Path} {dryRun : Bool} {outcome : Outcome} (hlog : d.log = none)
    (hcontract : ContractSource.ofText d.homes s.contractSource = .ok (.document contract))
    (h : Ends (Run.generate s dryRun) d outcome d') :
    outcome.path = s.target ∧ outcome.text = outcome.generated.text ∧
      ComesTo (Run.buildSource s) d (.ok outcome.generated) ∧
      (∃ content, d.read contract = .ok content) ∧
      ((ComesTo (Run.previousText s.target) d (.ok (some outcome.text)) ∧ d' = d) ∨
        (dryRun = true ∧ d' = d) ∨
        ∃ written r, Ends (write s.target outcome.text) d ⟨⟩ written ∧
          Ends (Run.note r) written ⟨⟩ d') := by
  obtain ⟨generated, previous, built, found, hbuild, hprevious, hpath, htext, rfl, hend⟩ :=
    h.stages_of_generate
  have hinput : SameInput s contract d d := ⟨hlog, .refl d, .refl contract d, fun _ _ => .refl _ d⟩
  obtain ⟨r, hbuilt, -⟩ := hinput.buildSource hcontract
  obtain ⟨rfl, rfl⟩ := hbuilt.eq_of_ends hbuild
  obtain ⟨r, hfound, -⟩ := (SameFile.refl s.target built).alike_previousText
  obtain ⟨rfl, rfl⟩ := hfound.eq_of_ends hprevious
  refine ⟨hpath, htext, hbuilt, read_contract_of_ends hcontract hlog hbuild, ?_⟩
  rw [htext]
  rcases hend with ⟨rfl, r, hnote⟩ | ⟨hdry, hsame⟩ | hwrite
  · exact .inl ⟨hfound, hnote.of_note hlog⟩
  · exact .inr (.inl ⟨hdry, hsame⟩)
  · exact .inr (.inr hwrite)

lemma sameSetup_of_ends {contract : Path} {dryRun : Bool} {outcome : Outcome} (hlog : d.log = none)
    (hcontract : ContractSource.ofText d.homes s.contractSource = .ok (.document contract))
    (h : Ends (Run.generate s dryRun) d outcome d') : SameSetup d d' := by
  obtain ⟨-, -, -, -, hend⟩ := h.of_generate hlog hcontract
  rcases hend with ⟨-, rfl⟩ | ⟨-, rfl⟩ | ⟨written, r, hwrite, hnote⟩
  · exact .refl d'
  · exact .refl d'
  · obtain ⟨made, _, -, hmade, -, -, htouches, -⟩ := hwrite.of_write
    obtain ⟨_, -, hchanges⟩ := htouches.changesFiles (hmade.setup.log.trans hlog)
    have hsetup := hmade.setup.trans hchanges.setup
    obtain rfl := hnote.of_note (hsetup.log.trans hlog)
    exact hsetup

/-- A second run comes to the same text and leaves the disk alone. -/
theorem second_run_upToDate {contract : Path} {first : Outcome} {records records' : List LogRecord}
    (hlog : d.log = none)
    (hcontract : ContractSource.ofText d.homes s.contractSource = .ok (.document contract))
    (happart : WritesApart d s contract) (hsource : SteadySource d s)
    (hfirst : exec (Run.generate s false) records d = ((.ok first, records'), d'))
    (htext : BreakFree first.text) (dryRun : Bool) (later : List LogRecord) :
    ∃ later', exec (Run.generate s dryRun) later d' =
      ((.ok { first with diff := "", written := false }, later'), d') := by
  obtain ⟨hpath, hemitted, hbuilt, ⟨content, hread⟩, hend⟩ :=
    Ends.of_generate hlog hcontract ⟨records, records', hfirst⟩
  rw [hpath, hemitted]
  rw [hemitted] at htext hend
  rcases hend with ⟨hfound, rfl⟩ | ⟨hdry, -⟩ | ⟨written, r, hwrite, hnote⟩
  · exact hbuilt.upToDate hlog hfound dryRun later
  · cases hdry
  · obtain ⟨hsame, htarget⟩ := sameInput_of_write hlog happart hsource hread hwrite
    have hlog' := hsame.setup.log.trans hlog
    obtain rfl := hnote.of_note hlog'
    obtain ⟨r, hthen, hnow⟩ := hsame.buildSource hcontract
    obtain rfl := hthen.unique hbuilt
    -- what has been written is read back
    have hback := comesTo_previousText htarget (textOf_eq_ok htarget htext)
    exact hnow.upToDate hlog' hback dryRun later

/-- A contract with one class. -/
def nodeText : String :=
  "hub: \x7boperations: [\x7bname: go, parameters: \x7bto: Node\x7d\x7d]\x7d\nclient_api: \x7b\x7d\n" ++
    "types: \x7bNode: \x7b\x7d\x7d\n"

/-- A disk with this contract and a source that declares the class. -/
def nodeDisk : Disk where
  entries := [
    (["contract.yml"], .file nodeText.toUTF8),
    (["types.cs"], .file "namespace Games \x7b class Node \x7b\x7d \x7d\n".toUTF8)]
  directory := []
  homes := fun _ => none
  strikes := fun _ => none
  time := ""
  log := none

def nodeContract : Path := ⟨.root, ["contract.yml"]⟩

/-- A target in a directory that is missing. -/
def nodeTarget : Path := ⟨.root, ["out", "Proxy.cs"]⟩

def nodeTypes : Path := ⟨.root, ["types.cs"]⟩

/-- A path to the same types that leads there only when the target has its directory. -/
def nodeDetour : Path := ⟨.root, ["out", "..", "types.cs"]⟩

def nodeSettings (typeSource : Path) : Settings where
  root := ⟨.root, []⟩
  ns := "Games"
  className := "Proxy"
  target := nodeTarget
  contractSource := "/contract.yml"
  typeSource := some typeSource
  options := {}

lemma ofText_nodeContract :
    ContractSource.ofText nodeDisk.homes "/contract.yml" = .ok (.document nodeContract) := by
  decide +kernel

lemma writesApart_nodeSettings {typeSource : Path} (h : placeOf nodeDisk typeSource = ["types.cs"]) :
    WritesApart nodeDisk (nodeSettings typeSource) nodeContract where
  contract_ne := by
    change placeOf nodeDisk nodeContract ≠ placeOf nodeDisk nodeTarget
    decide
  source_ne source hsource := by
    obtain rfl := Option.some.inj hsource
    rw [h]
    change ["types.cs"] ≠ placeOf nodeDisk nodeTarget
    decide
  backup_ne backup hbackup := by
    obtain rfl : ⟨.root, ["out", "Proxy.cs.bak"]⟩ = backup := Except.ok.inj hbackup
    refine ⟨?_, by decide, fun source hsource => ?_⟩
    · change _ ≠ placeOf nodeDisk nodeTarget
      decide
    · obtain rfl := Option.some.inj hsource
      rw [h]
      decide

lemma steadySource_nodeTypes : SteadySource nodeDisk (nodeSettings nodeTypes) := by
  intro source hsource made hmade
  obtain rfl := Option.some.inj hsource
  have hread : nodeDisk.read nodeTypes =
      .ok "namespace Games \x7b class Node \x7b\x7d \x7d\n".toUTF8 := rfl
  exact (hmade.of_makeDirectories.sameFile hread).isFile

lemma nodeTypes_run_ends : ∃ first records after,
    exec (Run.generate (nodeSettings nodeTypes) false) [] nodeDisk = ((.ok first, records), after) ∧
    BreakFreeModel first.generated.model := by
  have hend : ((exec (Run.generate (nodeSettings nodeTypes) false) [] nodeDisk).1.1.toOption.any
      fun first => decide (BreakFreeModel first.generated.model)) = true := by
    decide +kernel
  rcases hrun : exec (Run.generate (nodeSettings nodeTypes) false) [] nodeDisk with
    ⟨⟨e | first, records⟩, after⟩
  · rw [hrun] at hend
    cases hend
  · rw [hrun] at hend
    exact ⟨first, records, after, rfl, of_decide_eq_true hend⟩

/-- The first run declares the class that it does not find, and makes the directory on the way. -/
lemma nodeDetour_run_ends : ∃ first records after,
    exec (Run.generate (nodeSettings nodeDetour) false) [] nodeDisk = ((.ok first, records), after) ∧
    BreakFreeModel first.generated.model ∧ first.generated.model.declarations.length = 1 ∧
    ((exec (Run.buildSource (nodeSettings nodeDetour)) [] after).1.1.toOption.any
      (·.model.declarations.isEmpty)) = true := by
  have hend : ((exec (Run.generate (nodeSettings nodeDetour) false) [] nodeDisk).1.1.toOption.any
      fun first => decide (BreakFreeModel first.generated.model ∧
        first.generated.model.declarations.length = 1 ∧
        ((exec (Run.buildSource (nodeSettings nodeDetour)) []
          (exec (Run.generate (nodeSettings nodeDetour) false) [] nodeDisk).2).1.1.toOption.any
            (·.model.declarations.isEmpty)) = true)) = true := by
    decide +kernel
  rcases hrun : exec (Run.generate (nodeSettings nodeDetour) false) [] nodeDisk with
    ⟨⟨e | first, records⟩, after⟩
  · rw [hrun] at hend
    cases hend
  · rw [hrun] at hend
    exact ⟨first, records, after, rfl, of_decide_eq_true hend⟩

theorem second_run_upToDate_nodeTypes : ∃ first records after,
    exec (Run.generate (nodeSettings nodeTypes) false) [] nodeDisk = ((.ok first, records), after) ∧
    BreakFree first.text ∧
    ∀ dryRun later, ∃ later', exec (Run.generate (nodeSettings nodeTypes) dryRun) later after =
      ((.ok { first with diff := "", written := false }, later'), after) := by
  obtain ⟨first, records, after, hrun, hmodel⟩ := nodeTypes_run_ends
  have htext := breakFree_of_ends ⟨[], records, hrun⟩ hmodel
  exact ⟨first, records, after, hrun, htext, second_run_upToDate rfl ofText_nodeContract
    (writesApart_nodeSettings rfl) steadySource_nodeTypes hrun htext⟩

/-- A first run can make the directory on the way to its type source, and then the second run finds
types that the first one did not. -/
theorem second_run_rewrites_nodeDetour : ∃ first records after,
    nodeDisk.log = none ∧
    ContractSource.ofText nodeDisk.homes (nodeSettings nodeDetour).contractSource =
      .ok (.document nodeContract) ∧
    WritesApart nodeDisk (nodeSettings nodeDetour) nodeContract ∧
    exec (Run.generate (nodeSettings nodeDetour) false) [] nodeDisk = ((.ok first, records), after) ∧
    BreakFree first.text ∧
    ¬∃ later', exec (Run.generate (nodeSettings nodeDetour) false) [] after =
      ((.ok { first with diff := "", written := false }, later'), after) := by
  obtain ⟨first, records, after, hrun, hmodel, hone, hnone⟩ := nodeDetour_run_ends
  have hends : Ends (Run.generate (nodeSettings nodeDetour) false) nodeDisk first after :=
    ⟨[], records, hrun⟩
  have hcontract : ContractSource.ofText nodeDisk.homes (nodeSettings nodeDetour).contractSource =
      .ok (.document nodeContract) := ofText_nodeContract
  have happart : WritesApart nodeDisk (nodeSettings nodeDetour) nodeContract :=
    writesApart_nodeSettings rfl
  refine ⟨first, records, after, rfl, hcontract, happart, hrun, breakFree_of_ends hends hmodel, ?_⟩
  rintro ⟨later, hagain⟩
  have hsetup := sameSetup_of_ends rfl hcontract hends
  rw [← hsetup.homes] at hcontract
  obtain ⟨-, -, hbuilt, -⟩ :=
    Ends.of_generate (hsetup.log.trans rfl) hcontract ⟨[], later, hagain⟩
  obtain ⟨_, hbuild⟩ := hbuilt []
  rw [hbuild] at hnone
  have hempty : first.generated.model.declarations = [] := List.isEmpty_iff.mp hnone
  rw [hempty] at hone
  cases hone

end Runs

end HubProxy.Proofs
