import HubProxy.Proofs.RunFrames

/-!
# What the target holds

A run that writes leaves the bytes of its text in the target. A run that finds its text there has
read it with one kind of line break, so that the target holds these bytes only if no carriage return
is in it. That the run says so in the log changes nothing, even if the target is open as the log: a
log ends with a line that no source ends with.
-/

namespace HubProxy.Proofs

open Run

/-! ## Encoded text -/

lemma utf8EncodeChar_inj {c c' : Char} (h : String.utf8EncodeChar c = String.utf8EncodeChar c') :
    c = c' := by
  have hbytes : (String.ofList [c]).toByteArray = (String.ofList [c']).toByteArray := by
    simp only [String.toByteArray_ofList, List.utf8Encode, List.flatMap_singleton, h]
  simpa using String.ofList_injective (String.toByteArray_inj.mp hbytes)

/-- No character is encoded within another one. -/
lemma eq_of_utf8EncodeChar_append {c c' : Char} {bytes : List UInt8}
    (h : String.utf8EncodeChar c = bytes ++ String.utf8EncodeChar c') : c = c' ∧ bytes = [] := by
  have hlength : bytes.length < (String.utf8EncodeChar c).length := by
    have hpos := List.length_pos_iff.mpr (String.utf8EncodeChar_ne_nil (c := c'))
    rw [h, List.length_append]
    omega
  have hfirst : (String.utf8EncodeChar c)[bytes.length].IsUTF8FirstByte := by
    simp only [h, List.getElem_append_right (Nat.le_refl _), Nat.sub_self]
    exact UInt8.isUTF8FirstByte_getElem_zero_utf8EncodeChar
  obtain rfl : bytes = [] := List.length_eq_zero_iff.mp
    (UInt8.isUTF8FirstByte_getElem_utf8EncodeChar.mp hfirst)
  exact ⟨utf8EncodeChar_inj h, rfl⟩

lemma exists_append_of_flatMap_utf8EncodeChar {u w : List Char} {bytes : List UInt8}
    (h : u.flatMap String.utf8EncodeChar = bytes ++ w.flatMap String.utf8EncodeChar) :
    ∃ v, u = v ++ w := by
  -- from the end, for that is where the two texts are known to agree
  induction w using List.reverseRecOn generalizing u with
  | nil => exact ⟨u, (List.append_nil u).symm⟩
  | append_singleton w c ih =>
    rw [List.flatMap_append, List.flatMap_singleton, ← List.append_assoc] at h
    rcases List.eq_nil_or_concat u with rfl | ⟨u, c', rfl⟩
    · simp at h
    rw [List.concat_eq_append, List.flatMap_append, List.flatMap_singleton] at h
    obtain ⟨rfl, heq⟩ : c' = c ∧
        u.flatMap String.utf8EncodeChar = bytes ++ w.flatMap String.utf8EncodeChar := by
      rcases List.append_eq_append_iff.mp h with ⟨rest, hleft, hright⟩ | ⟨rest, hleft, hright⟩
      · obtain ⟨rfl, rfl⟩ := eq_of_utf8EncodeChar_append hright
        exact ⟨rfl, by rw [hleft, List.append_nil]⟩
      · obtain ⟨rfl, rfl⟩ := eq_of_utf8EncodeChar_append hright
        exact ⟨rfl, by rw [hleft, List.append_nil]⟩
    obtain ⟨v, rfl⟩ := ih heq
    exact ⟨v, by rw [List.concat_eq_append, List.append_assoc]⟩

/-- A text whose bytes end with those of another text ends with that text. -/
lemma exists_append_of_toUTF8 {text tail : String} {bytes : ByteArray}
    (h : text.toUTF8 = bytes ++ tail.toUTF8) : ∃ head, text = head ++ tail := by
  have hbytes : text.toList.flatMap String.utf8EncodeChar =
      bytes.data.toList ++ tail.toList.flatMap String.utf8EncodeChar := by
    have hdata := congrArg (·.data.toList) h
    simpa [String.toUTF8_eq_toByteArray, ← String.utf8Encode_toList, List.utf8Encode] using hdata
  obtain ⟨v, hv⟩ := exists_append_of_flatMap_utf8EncodeChar hbytes
  exact ⟨String.ofList v, String.toList_injective (by simpa using hv)⟩

lemma toUTF8_of_fromUTF8? {bytes : ByteArray} {text : String}
    (h : String.fromUTF8? bytes = some text) : text.toUTF8 = bytes := by
  unfold String.fromUTF8? at h
  split at h
  · obtain rfl := Option.some.inj h
    rfl
  · cases h

/-! ## Source and log -/

/-- Lines that end with a closing brace. -/
def EndsWithBrace (lines : List CSharp.Line) : Prop :=
  ∃ front, lines = front ++ [.text 0 "\x7d"]

lemma EndsWithBrace.append {lines : List CSharp.Line} (h : EndsWithBrace lines)
    (before : List CSharp.Line) : EndsWithBrace (before ++ lines) := by
  obtain ⟨front, rfl⟩ := h
  exact ⟨before ++ front, (List.append_assoc ..).symm⟩

lemma endsWithBrace_braced (header : String) (body : List CSharp.Line) :
    EndsWithBrace (CSharp.braced header body) :=
  ⟨_, rfl⟩

lemma endsWithBrace_separate {groups : List (List CSharp.Line)} (hne : groups ≠ [])
    (h : ∀ lines ∈ groups, EndsWithBrace lines) : EndsWithBrace (CSharp.separate groups) := by
  induction groups with
  | nil => exact absurd rfl hne
  | cons lines rest ih =>
    cases rest with
    | nil => exact h lines List.mem_cons_self
    | cons next rest =>
      have hrest := ih (List.cons_ne_nil _ _) fun group hmem => h group (List.mem_cons_of_mem _ hmem)
      exact (hrest.append [.gap]).append lines

lemma endsWithBrace_declarationLines (t : TypeDeclaration) :
    EndsWithBrace (CSharp.declarationLines t) := by
  cases t with
  | cls c => exact endsWithBrace_braced _ _
  | enum e => exact endsWithBrace_braced _ _

lemma endsWithBrace_contentLines (m : ApiModel) : EndsWithBrace (CSharp.contentLines m) := by
  refine EndsWithBrace.append (endsWithBrace_separate (List.cons_ne_nil _ _) fun lines hlines => ?_) _
  rcases List.mem_cons.mp hlines with rfl | hmem
  · exact endsWithBrace_braced _ _
  · obtain ⟨t, -, rfl⟩ := List.mem_map.mp hmem
    exact endsWithBrace_declarationLines t

/-- Emitted source ends with a brace on the last line. -/
lemma exists_emit_eq (m : ApiModel) : ∃ front, CSharp.emit m = front ++ "\x7d\n" := by
  have hends : EndsWithBrace (CSharp.fileLines m) := by
    refine EndsWithBrace.append ?_ _
    split
    · exact endsWithBrace_contentLines m
    · exact endsWithBrace_braced _ _
  obtain ⟨front, hfront⟩ := hends
  refine ⟨String.join (front.map fun line => line.render ++ "\n"), ?_⟩
  rw [CSharp.emit, hfront, List.map_append, String.join_append]
  rfl

lemma exists_timedLine_eq (level : LogLevel) (channel front time : String) :
    ∃ start, LogRecord.timedLine ⟨level, channel, front ++ " new declarations"⟩ time =
      start ++ "s\n" := by
  refine ⟨time ++ " " ++ (level.name ++ " " ++ ("hubgen." ++ channel) ++ ": " ++
    (front ++ " new declaration")), ?_⟩
  have hplural : " new declarations" = " new declaration" ++ "s" := rfl
  have hend : "s\n" = "s" ++ "\n" := rfl
  rw [LogRecord.timedLine, LogRecord.fileLine, LogRecord.logger, hplural, hend]
  simp only [String.append_assoc]

/-- What is read from a log file is no emitted source. -/
lemma read_log_ne_emit {before : ByteArray} {front held : String}
    (h : String.fromUTF8? (before ++ (front ++ "s\n").toUTF8) = some held) (m : ApiModel) :
    String.ofList (Text.unifyBreaks held.toList) ≠ CSharp.emit m := by
  have hbytes : held.toUTF8 = (before ++ front.toUTF8) ++ "s\n".toUTF8 := by
    rw [toUTF8_of_fromUTF8? h, ByteArray.append_assoc]
    exact congrArg (before ++ ·) String.toByteArray_append
  obtain ⟨head, rfl⟩ := exists_append_of_toUTF8 hbytes
  obtain ⟨source, hsource⟩ := exists_emit_eq m
  intro heq
  rw [hsource, String.toList_append] at heq
  have hchars := congrArg String.toList heq
  rw [String.toList_ofList, String.toList_append] at hchars
  have hread : Text.unifyBreaks (head.toList ++ "s\n".toList) =
      Text.unifyBreaks head.toList ++ ['s', '\n'] :=
    unifyBreaks_append (by decide) head.toList ['\n']
  rw [hread] at hchars
  exact absurd (List.append_inj_right' hchars rfl) (by decide)

/-! ## The target -/

variable {s : Settings} {d d' : Disk} {path : Path}

lemma textOf_eq_ok_iff {text : String} : textOf d path = .ok text ↔
    ∃ content held, d.read path = .ok content ∧ String.fromUTF8? content = some held ∧
      String.ofList (Text.unifyBreaks held.toList) = text := by
  unfold textOf
  cases d.read path with
  | error e => simp
  | ok content => cases hheld : String.fromUTF8? content <;> simp [hheld]

lemma eq_toUTF8_iff_breakFree {content : ByteArray} {held text : String}
    (hheld : String.fromUTF8? content = some held)
    (htext : String.ofList (Text.unifyBreaks held.toList) = text) :
    content = text.toUTF8 ↔ BreakFree held := by
  constructor
  · rintro rfl
    obtain rfl : text = held := Option.some.inj ((fromUTF8?_toUTF8 text).symm.trans hheld)
    rw [BreakFree, ← htext, String.toList_ofList]
    exact not_mem_unifyBreaks _
  · intro hfree
    rw [unifyBreaks_eq_self hfree, String.ofList_toList] at htext
    rw [← htext, toUTF8_of_fromUTF8? hheld]

lemma Ends.of_previousText {text : String} (h : Ends (Run.previousText path) d (some text) d') :
    textOf d path = .ok text ∧ d' = d := by
  obtain ⟨found, asked, hfound, hrest⟩ := h.of_bind
  obtain ⟨-, rfl⟩ := (comesTo_isFile path d).eq_of_ends hfound
  cases found with
  | false => cases hrest.of_pure.1
  | true =>
    obtain ⟨held, read, hread, hpure⟩ := Ends.of_bind hrest
    obtain ⟨heq, rfl⟩ := hpure.of_pure
    obtain ⟨hheld, rfl⟩ := (ComesTo.readText path).eq_of_ends hread
    obtain rfl := Option.some.inj heq
    exact ⟨hheld, rfl⟩

lemma Ends.of_readings_found {read : Generated × Option String} (h : Ends (readings s) d read d')
    (hfound : read.2 = some read.1.text) :
    Ends (Run.buildSource s) d read.1 d' ∧ textOf d' s.target = .ok read.1.text := by
  obtain ⟨generated, built, hbuild, hrest⟩ := h.of_bind
  obtain ⟨previous, found, hprevious, hpure⟩ := hrest.of_bind
  obtain ⟨rfl, rfl⟩ := hpure.of_pure
  obtain rfl : previous = some generated.text := hfound
  obtain ⟨htext, rfl⟩ := hprevious.of_previousText
  exact ⟨hbuild, htext⟩

/-- A record after that leaves the target alone, though it may be the log. -/
lemma read_record_of_readings {read : Generated × Option String} {r : LogRecord}
    (h : Ends (readings s) d read d') (hfound : read.2 = some read.1.text) (hlevel : r.level = .info) :
    (d'.record r).read s.target = d'.read s.target := by
  obtain ⟨hbuild, htext⟩ := h.of_readings_found hfound
  obtain ⟨content, held, hcontent, hheld, hread⟩ := textOf_eq_ok_iff.mp htext
  obtain ⟨place, hplace, hget⟩ := read_eq_ok_iff.mp hcontent
  rw [hcontent]
  refine read_eq_ok_iff.mpr ⟨place, (touches_record (P := fun _ => False) _ r).locate_ok hplace, ?_⟩
  by_cases hlog : logPlace d' = some place
  · obtain ⟨_, _, _, _, _, before, front, -, -, -, rfl⟩ := hbuild.stages_of_buildSource
    rw [(onlyLogs_record before _).logPlace_eq] at hlog
    -- the log holds the record of what has been built, or it takes no record of this level
    rcases ends_with_record hlog hget with ⟨older, rfl⟩ | hskip
    · obtain ⟨start, hline⟩ := exists_timedLine_eq .info "generator" front before.time
      rw [hline] at hheld
      rw [hbuild.text_of_buildSource] at hread
      exact absurd hread (read_log_ne_emit hheld _)
    · rw [hskip r hlevel, hget]
  · rw [(onlyLogs_record d' r).same place hlog, hget]

/-- The target of a run that returns holds the bytes of the text if the run wrote it. If not, it
holds a text that is read as this one, and the bytes are the same if and only if no carriage return
is in it. -/
theorem read_target_of_generate {records records' : List LogRecord} {outcome : Outcome}
    (hheld : LogHeld d)
    (h : exec (Run.generate s false) records d = ((.ok outcome, records'), d')) :
    ∃ content, d'.read s.target = .ok content ∧
      (outcome.written = true → content = outcome.text.toUTF8) ∧
      (outcome.written = false → ∃ held, String.fromUTF8? content = some held ∧
        String.ofList (Text.unifyBreaks held.toList) = outcome.text ∧
        (content = outcome.text.toUTF8 ↔ BreakFree held)) := by
  have hends : Ends (Run.generate s false) d outcome d' := ⟨records, records', h⟩
  obtain ⟨cause | read, more, mid, hlogs, hrun⟩ := readsOnly_readings s d
  · rw [generate_eq, exec_bind, hrun] at h
    cases h
  have hreadings : Ends (readings s) d read mid := ⟨[], _, hrun []⟩
  obtain ⟨houtcome, hkept, hwritten⟩ := (hends.of_generate_reading hrun).of_conclusion
  have htext : outcome.text = read.1.text := by rw [houtcome, outcomeOf]
  cases hcase : outcome.written with
  | true =>
    obtain ⟨written, r, hwrite, rfl⟩ := hwritten hcase
    -- the record that follows goes elsewhere, for the log is not in the target after a write
    obtain ⟨made, _, -, -, -, hplace, htouches, hholds⟩ := hwrite.of_write
    obtain ⟨hget, hlog⟩ := hholds (hheld.of_onlyLogs hlogs)
    refine ⟨read.1.text.toUTF8, read_eq_ok_iff.mpr ⟨placeOf mid s.target, ?_, ?_⟩,
      fun _ => by rw [htext], by simp⟩
    · exact (htouches.trans (touches_record written r)).locate_ok hplace
    · rw [(onlyLogs_record written r).same _ hlog, hget]
  | false =>
    have hfound : read.2 = some read.1.text := by
      rw [houtcome] at hcase
      simpa [outcomeOf] using hcase
    have hread : d'.read s.target = mid.read s.target := by
      rcases hkept hcase with rfl | ⟨r, hlevel, rfl⟩
      · rfl
      · exact read_record_of_readings hreadings hfound hlevel
    obtain ⟨content, held, hcontent, hdecoded, hsame⟩ :=
      textOf_eq_ok_iff.mp (hreadings.of_readings_found hfound).2
    rw [← htext] at hsame
    exact ⟨content, hread.trans hcontent, (by simp), fun _ =>
      ⟨held, hdecoded, hsame, eq_toUTF8_iff_breakFree hdecoded hsame⟩⟩

theorem read_target_of_generate_loggedDisk : LogHeld loggedDisk ∧ ∃ outcome records after,
    exec (Run.generate (nodeSettings nodeTypes) false) [] loggedDisk =
      ((.ok outcome, records), after) ∧
    outcome.written = true ∧ after.read nodeTarget = .ok outcome.text.toUTF8 := by
  have hheld : LogHeld loggedDisk := by
    intro q hq
    obtain rfl := Option.some.inj hq
    exact ⟨.empty, rfl⟩
  have hends := loggedDisk_run_writes
  rcases hrun : exec (Run.generate (nodeSettings nodeTypes) false) [] loggedDisk with
    ⟨⟨cause | outcome, records⟩, after⟩
  · rw [hrun] at hends
    cases hends
  · rw [hrun] at hends
    obtain ⟨content, hread, hwritten, -⟩ := read_target_of_generate hheld hrun
    rw [hwritten hends] at hread
    exact ⟨hheld, outcome, records, after, rfl, hends, hread⟩

/-! ## A target with carriage returns -/

/-- A text with a carriage return before each line feed. -/
def withReturns (text : String) : String :=
  String.ofList (text.toList.flatMap fun c => if c = '\n' then ['\r', '\n'] else [c])

lemma unifyBreaks_withReturns {text : String} (h : BreakFree text) :
    String.ofList (Text.unifyBreaks (withReturns text).toList) = text := by
  have hread : ∀ cs : List Char, '\r' ∉ cs →
      Text.unifyBreaks (cs.flatMap fun c => if c = '\n' then ['\r', '\n'] else [c]) = cs := by
    intro cs hcs
    induction cs with
    | nil => rfl
    | cons c cs ih =>
      obtain ⟨hc, hcs⟩ : '\r' ≠ c ∧ '\r' ∉ cs := by simpa using hcs
      rw [List.flatMap_cons]
      split
      · next heq => rw [heq, List.cons_append, List.cons_append, List.nil_append,
          Text.unifyBreaks, ih hcs]
      · rw [List.singleton_append, Text.unifyBreaks.eq_4 _ _ (fun _ hcr => absurd hcr.symm hc)
          (fun hcr => hc hcr.symm), ih hcs]
  rw [withReturns, String.toList_ofList, hread _ h, String.ofList_toList]

lemma not_breakFree_withReturns {text : String} (h : '\n' ∈ text.toList) :
    ¬BreakFree (withReturns text) := by
  rw [BreakFree, withReturns, String.toList_ofList, not_not]
  exact List.mem_flatMap.mpr ⟨'\n', h, by simp⟩

lemma ComesTo.upToDate_withReturns {generated : Generated} (hlog : d.log = none)
    (hbuild : ComesTo (Run.buildSource s) d (.ok generated))
    (hread : d.read s.target = .ok (withReturns generated.text).toUTF8)
    (hfree : BreakFree generated.text) (dryRun : Bool) :
    ComesTo (Run.generate s dryRun) d (.ok ⟨s.target, generated.text, "", generated, false⟩) := by
  have htext : textOf d s.target = .ok generated.text :=
    textOf_eq_ok_iff.mpr ⟨_, _, hread, fromUTF8?_toUTF8 _, unifyBreaks_withReturns hfree⟩
  exact hbuild.upToDate hlog (comesTo_previousText hread htext) dryRun

/-- A disk with a contract that has no operations, and with a text in the target. -/
def quietDisk (text : String) : Disk :=
  { nodeDisk with
    entries := [(["Proxy.cs"], .file text.toUTF8),
      (["contract.yml"], .file "hub: \x7b\x7d\nclient_api: \x7b\x7d\n".toUTF8)] }

def quietSettings : Settings where
  root := ⟨.root, []⟩
  ns := "Games"
  className := "Proxy"
  target := ⟨.root, ["Proxy.cs"]⟩
  contractSource := "/contract.yml"
  typeSource := none
  options := {}

/-- The text that these settings ask for. -/
def quietText : String :=
  ((exec (Run.buildSource quietSettings) [] (quietDisk "")).1.1.toOption.map (·.text)).getD ""

lemma comesTo_buildSource_quietDisk (text : String) : ∃ generated,
    ComesTo (Run.buildSource quietSettings) (quietDisk text) (.ok generated) ∧
      generated.text = quietText ∧ BreakFree quietText ∧ '\n' ∈ quietText.toList := by
  have hends : ((exec (Run.buildSource quietSettings) [] (quietDisk "")).1.1.toOption.any
      fun generated => decide (BreakFreeModel generated.model)) = true := by
    decide +kernel
  have hfile : (quietDisk "").get? ["Proxy.cs"] = some (.file "".toUTF8) := rfl
  have hchanges : ChangesFiles [["Proxy.cs"]] (quietDisk "") (quietDisk text) :=
    changesFiles_put (by simp [hfile]) text.toUTF8
  have hinput : SameInput quietSettings nodeContract (quietDisk "") (quietDisk text) :=
    ⟨rfl, hchanges.setup, hchanges.sameFile (by decide), nofun⟩
  obtain ⟨r, hthen, hnow⟩ := hinput.buildSource ofText_nodeContract
  cases hrun : (exec (Run.buildSource quietSettings) [] (quietDisk "")).1.1 with
  | error cause =>
    rw [hrun] at hends
    cases hends
  | ok generated =>
    rw [hrun] at hends
    have hbuild := ends_of_result hrun
    obtain ⟨rfl, -⟩ := hthen.eq_of_ends hbuild
    have htext : quietText = CSharp.emit generated.model := by
      rw [quietText, hrun, ← hbuild.text_of_buildSource]
      rfl
    obtain ⟨front, hfront⟩ := exists_emit_eq generated.model
    refine ⟨generated, hnow, hbuild.text_of_buildSource.trans htext.symm, ?_, ?_⟩
    · rw [htext]
      exact BreakFreeModel.emit (of_decide_eq_true hends)
    · rw [htext, hfront, String.toList_append]
      exact List.mem_append_right _ (by decide)

/-- A target with carriage returns is up to date, and so it keeps them. -/
theorem target_differs_quietDisk : ∃ outcome records content,
    exec (Run.generate quietSettings false) [] (quietDisk (withReturns quietText)) =
      ((.ok outcome, records), quietDisk (withReturns quietText)) ∧
    outcome.written = false ∧
    (quietDisk (withReturns quietText)).read quietSettings.target = .ok content ∧
    content ≠ outcome.text.toUTF8 := by
  obtain ⟨generated, hbuild, htext, hfree, hfeed⟩ :=
    comesTo_buildSource_quietDisk (withReturns quietText)
  have hread : (quietDisk (withReturns quietText)).read quietSettings.target =
      .ok (withReturns generated.text).toUTF8 := by
    rw [htext]
    rfl
  rw [← htext] at hfree hfeed
  obtain ⟨records, hrun⟩ := hbuild.upToDate_withReturns rfl hread hfree false []
  refine ⟨_, records, _, hrun, rfl, hread, fun hsame => ?_⟩
  have hiff := eq_toUTF8_iff_breakFree (fromUTF8?_toUTF8 _) (unifyBreaks_withReturns hfree)
  exact not_breakFree_withReturns hfeed (hiff.mp hsame)

end HubProxy.Proofs
