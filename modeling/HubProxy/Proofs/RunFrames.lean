import HubProxy.Proofs.DiffScripts
import HubProxy.Proofs.ReadingRuns
import HubProxy.Proofs.RepeatedRuns

/-!
# What a run touches

A run reads first and writes last. Whenever it ends before it writes, it leaves every file as it
was, and when it writes, every file but the target and its copy. A dry run stops where a run would
write and tells what it would have written. An open log file gets lines in either case.
-/

namespace HubProxy.Proofs

open Run

/-- The part of a run that reads: it comes to the source and to the text that the target has. -/
def readings (s : Settings) : RunM DiskM (Generated × Option String) := do
  let generated ← Run.buildSource s
  let previous ← Run.previousText s.target
  return (generated, previous)

def conclusion (s : Settings) (dryRun : Bool) (read : Generated × Option String) :
    RunM DiskM Outcome := do
  if read.2 = some read.1.text then
    runNote .info (s.target.text ++ " already up to date")
    return ⟨s.target, read.1.text, "", read.1, false⟩
  let diff := Diff.unified s.target.name (read.2.getD "") read.1.text
  if dryRun then return ⟨s.target, read.1.text, diff, read.1, false⟩
  Run.write s.target read.1.text
  runNote .info ("Wrote " ++ s.target.text)
  return ⟨s.target, read.1.text, diff, read.1, true⟩

/-- No file but those at the given places differs, comes or goes. A log file gets lines at most. -/
structure KeepsFiles (places : List Place) (d d' : Disk) : Prop where
  same : ∀ q ∉ places, logPlace d ≠ some q → ∀ content,
    d'.get? q = some (.file content) ↔ d.get? q = some (.file content)
  log : ∀ q ∉ places, logPlace d = some q → ∀ content, d.get? q = some (.file content) →
    ∃ more, d'.get? q = some (.file (content ++ more))

variable {s : Settings} {d d' : Disk} {records records' : List LogRecord}

lemma generate_eq (s : Settings) (dryRun : Bool) :
    Run.generate s dryRun = readings s >>= conclusion s dryRun := by
  simp only [Run.generate, readings, bind_assoc, pure_bind, conclusion]

lemma readsOnly_readings (s : Settings) : ReadsOnly (readings s) :=
  (readsOnly_buildSource s).bind fun _ => (readsOnly_previousText _).bind fun _ => .pure _

lemma readsOnly_dryRun (s : Settings) : ReadsOnly (Run.generate s true) := by
  rw [generate_eq]
  refine (readsOnly_readings s).bind fun read => ?_
  unfold conclusion
  split
  · exact (ReadsOnly.note _).bind fun _ => .pure _
  · exact .pure _

lemma emit_ne_empty (m : ApiModel) : CSharp.emit m ≠ "" := by
  intro hempty
  have hlength := congrArg String.length hempty
  simp [CSharp.emit, CSharp.fileLines, CSharp.banner] at hlength

/-! ## Outcomes -/

/-- What a run returns that has come to a source and to the text in the target. -/
def outcomeOf (s : Settings) (read : Generated × Option String) (written : Bool) : Outcome where
  path := s.target
  text := read.1.text
  diff := if read.2 = some read.1.text then ""
    else Diff.unified s.target.name (read.2.getD "") read.1.text
  generated := read.1
  written := written

/-- Only a target that does not hold the text is written, and only by a run that is not dry. Else
all that may follow is a record. -/
lemma Ends.of_conclusion {dryRun : Bool} {read : Generated × Option String} {outcome : Outcome}
    (h : Ends (conclusion s dryRun read) d outcome d') :
    outcome = outcomeOf s read (!dryRun && decide (read.2 ≠ some read.1.text)) ∧
      (outcome.written = false → d' = d ∨ ∃ r : LogRecord, r.level = .info ∧ d' = d.record r) ∧
      (outcome.written = true → ∃ written r, Ends (Run.write s.target read.1.text) d ⟨⟩ written ∧
        d' = written.record r) := by
  unfold conclusion at h
  by_cases hsame : read.2 = some read.1.text
  · rw [if_pos hsame] at h
    obtain ⟨u, noted, hnote, hpure⟩ := h.of_bind
    obtain ⟨rfl, rfl⟩ := hpure.of_pure
    exact ⟨by simp [outcomeOf, hsame], fun _ => .inr ⟨_, rfl, hnote.eq_record⟩, nofun⟩
  · rw [if_neg hsame] at h
    cases dryRun with
    | true =>
      obtain ⟨rfl, rfl⟩ := Ends.of_pure h
      exact ⟨by simp [outcomeOf, hsame], fun _ => .inl rfl, nofun⟩
    | false =>
      obtain ⟨u, written, hwrite, hrest⟩ := Ends.of_bind h
      obtain ⟨v, noted, hnote, hpure⟩ := hrest.of_bind
      obtain ⟨rfl, rfl⟩ := hpure.of_pure
      exact ⟨by simp [outcomeOf, hsame], nofun, fun _ => ⟨written, _, hwrite, hnote.eq_record⟩⟩

lemma diff_outcomeOf_eq_empty_iff {read : Generated × Option String} {written : Bool}
    (htext : read.1.text ≠ "") : (outcomeOf s read written).diff = "" ↔
      read.2 = some read.1.text := by
  unfold outcomeOf
  dsimp only
  split
  · next hsame => exact ⟨fun _ => hsame, fun _ => rfl⟩
  · next hother =>
    refine ⟨fun hempty => absurd hempty (unified_ne_empty _ ?_), fun hsame => absurd hsame hother⟩
    cases hprevious : read.2 with
    | none => exact htext.symm
    | some previous => exact fun heq => hother (hprevious.trans (congrArg some heq))

/-! ## Files -/

/-- When directories are made after reading, and files are touched after that, only these files come,
go or differ. -/
lemma keepsFiles_of_touches {mid made : Disk} {places : List Place} {P : Place → Prop}
    (hread : OnlyLogs d mid) (hmade : MakesDirectories mid made) (htouches : Touches P made d')
    (hP : ∀ q ∉ places, ¬P q) : KeepsFiles places d d' := by
  have hplace : logPlace made = logPlace d := by
    rw [← hread.logPlace_eq, logPlace, hmade.setup.log, logPlace]
  refine ⟨fun q hq hlog content => ?_, fun q hq hlog content hget => ?_⟩
  -- directories are made, but no file is there that was not there before
  · rw [htouches.get?_eq (hP q hq) (hplace ▸ hlog), ← hread.same q hlog]
    rcases hmade.made q with heq | ⟨hnone, hdirectory⟩
    · rw [heq]
    · simp [hnone, hdirectory]
  · obtain ⟨more, hmid⟩ := (hread.appended q hlog).file hget
    obtain ⟨more', hwritten⟩ := (htouches.appended q (hP q hq)).file (hmade.get?_some hmid)
    exact ⟨more ++ more', by rw [hwritten, ByteArray.append_assoc]⟩

/-- A write that follows reading keeps all files but the target, its copy and the log file. -/
lemma keepsFiles_of_write {mid written : Disk} {path : Path} {text : String} {r : LogRecord}
    (hread : OnlyLogs d mid) (hwrite : Ends (Run.write path text) mid ⟨⟩ written) :
    ∃ backup, backupPath path = .ok backup ∧
      KeepsFiles [placeOf d path, placeOf d backup] d (written.record r) := by
  obtain ⟨made, backup, -, hmade, hbackup, -, htouches, -⟩ := hwrite.of_write
  have hdone := htouches.trans (touches_record written r)
  refine ⟨backup, hbackup, keepsFiles_of_touches hread hmade hdone fun q hq => ?_⟩
  rw [hread.setup.placeOf_eq, hread.setup.placeOf_eq]
  simpa using hq

lemma Ends.text_of_readings {read : Generated × Option String} (h : Ends (readings s) d read d') :
    read.1.text ≠ "" := by
  obtain ⟨generated, built, hbuild, hrest⟩ := h.of_bind
  obtain ⟨previous, found, -, hpure⟩ := hrest.of_bind
  obtain ⟨rfl, -⟩ := hpure.of_pure
  rw [hbuild.text_of_buildSource]
  exact emit_ne_empty _

lemma Ends.of_generate_reading {dryRun : Bool} {outcome : Outcome} {read : Generated × Option String}
    {mid : Disk} {more : List LogRecord}
    (hread : ∀ records, exec (readings s) records d = ((.ok read, records ++ more), mid))
    (h : Ends (Run.generate s dryRun) d outcome d') :
    Ends (conclusion s dryRun read) mid outcome d' := by
  obtain ⟨records, records', h⟩ := h
  rw [generate_eq, exec_bind, hread] at h
  exact ⟨_, _, h⟩

lemma ends_of_result {x : RunM DiskM α} {a : α} (h : (exec x records d).1.1 = .ok a) :
    Ends x d a (exec x records d).2 :=
  ⟨records, (exec x records d).1.2, Prod.ext (Prod.ext h rfl) rfl⟩

/-- A run leaves every file alone when it is dry, when it fails before it writes, and when it reports
that nothing was written; when it reports a write, it leaves all files alone but the target and its
copy. It reports a write if and only if it tells a difference, and a dry run tells the same. An open
log file is the one exception, which gets lines. -/
theorem generate_frame (s : Settings) (d : Disk) (records : List LogRecord) :
    OnlyLogs d (exec (Run.generate s true) records d).2 ∧
      (∀ dryRun cause, (exec (readings s) records d).1.1 = .error cause →
        (exec (Run.generate s dryRun) records d).1.1 = .error cause ∧
          OnlyLogs d (exec (Run.generate s dryRun) records d).2) ∧
      ∀ outcome, (exec (Run.generate s false) records d).1.1 = .ok outcome →
        (outcome.written = true ↔ outcome.diff ≠ "") ∧
        (outcome.written = false → OnlyLogs d (exec (Run.generate s false) records d).2) ∧
        (outcome.written = true → ∃ backup, backupPath s.target = .ok backup ∧
          KeepsFiles [placeOf d s.target, placeOf d backup] d
            (exec (Run.generate s false) records d).2) ∧
        ∀ later dry, (exec (Run.generate s true) later d).1.1 = .ok dry →
          dry = { outcome with written := false } := by
  refine ⟨?_, fun dryRun cause hfail => ?_, fun outcome hend => ?_⟩
  · obtain ⟨result, more, d', hlogs, hrun⟩ := readsOnly_dryRun s d
    rw [hrun]
    exact hlogs
  · obtain ⟨result, more, d', hlogs, hrun⟩ := readsOnly_readings s d
    rw [hrun] at hfail
    obtain rfl : result = .error cause := hfail
    rw [generate_eq, exec_bind, hrun]
    exact ⟨rfl, hlogs⟩
  · have hreal := ends_of_result hend
    obtain ⟨cause | read, more, mid, hlogs, hrun⟩ := readsOnly_readings s d
    · rw [generate_eq, exec_bind, hrun] at hend
      cases hend
    have htext : read.1.text ≠ "" := Ends.text_of_readings ⟨[], [] ++ more, hrun []⟩
    obtain ⟨houtcome, hkept, hwritten⟩ := (hreal.of_generate_reading hrun).of_conclusion
    refine ⟨?_, fun hskip => ?_, fun hwrite => ?_, fun later dry hdry => ?_⟩
    · have hdiff : outcome.diff ≠ "" ↔ read.2 ≠ some read.1.text := by
        rw [houtcome]
        exact not_congr (diff_outcomeOf_eq_empty_iff htext)
      rw [hdiff, houtcome]
      simp [outcomeOf]
    · rcases hkept hskip with heq | ⟨r, -, heq⟩
      · rwa [heq]
      · rw [heq]
        exact hlogs.trans (onlyLogs_record mid r)
    · obtain ⟨written, r, hwrite, heq⟩ := hwritten hwrite
      rw [heq]
      exact keepsFiles_of_write hlogs hwrite
    · obtain ⟨hdry, -⟩ := ((ends_of_result hdry).of_generate_reading hrun).of_conclusion
      rw [hdry, houtcome]
      rfl

/-- The disk of a contract with an open log file. -/
def loggedDisk : Disk :=
  { nodeDisk with
    entries := (["run.log"], .file .empty) :: nodeDisk.entries
    log := some ⟨some ["run.log"], .info⟩ }

lemma loggedDisk_run_writes : ((exec (Run.generate (nodeSettings nodeTypes) false) []
    loggedDisk).1.1.toOption.any (·.written)) = true := by
  decide +kernel

/-- A run on this disk makes the target, for which a dry run tells all that there will be. -/
theorem generate_frame_loggedDisk : ∃ outcome,
    (exec (Run.generate (nodeSettings nodeTypes) false) [] loggedDisk).1.1 = .ok outcome ∧
    outcome.diff ≠ "" ∧
    KeepsFiles [["out", "Proxy.cs"], ["out", "Proxy.cs.bak"]] loggedDisk
      (exec (Run.generate (nodeSettings nodeTypes) false) [] loggedDisk).2 ∧
    OnlyLogs loggedDisk (exec (Run.generate (nodeSettings nodeTypes) true) [] loggedDisk).2 ∧
    ∀ later dry, (exec (Run.generate (nodeSettings nodeTypes) true) later loggedDisk).1.1 = .ok dry →
      dry = { outcome with written := false } := by
  have hends := loggedDisk_run_writes
  obtain ⟨hdry, -, hreal⟩ := generate_frame (nodeSettings nodeTypes) loggedDisk []
  rcases hrun : (exec (Run.generate (nodeSettings nodeTypes) false) [] loggedDisk).1.1 with
    cause | outcome
  · rw [hrun] at hends
    cases hends
  · rw [hrun] at hends
    obtain ⟨hwritten, -, hkept, hsame⟩ := hreal outcome hrun
    obtain ⟨backup, hbackup, hkept⟩ := hkept hends
    obtain rfl : ⟨.root, ["out", "Proxy.cs.bak"]⟩ = backup := Except.ok.inj hbackup
    exact ⟨outcome, rfl, hwritten.mp hends, hkept, hdry, hsame⟩

end HubProxy.Proofs
