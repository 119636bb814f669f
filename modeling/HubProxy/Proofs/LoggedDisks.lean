import HubProxy.Proofs.DiskFrames

/-!
# Disks with an open log file

Lines are added to an open log file while other files are changed, and the log goes with its file
when that is moved. A disk is therefore compared with a later one without regard to the log, and
apart from that it is told where the log can be. An open log that has a place always has a file
there.
-/

namespace HubProxy.Proofs

/-- The place of the log file, if one is open and has not lost its place. -/
def logPlace (d : Disk) : Option Place :=
  d.log.bind (·.place)

/-- The disk as it would be without an open log. -/
def unlogged (d : Disk) : Disk :=
  { d with log := none }

/-- An open log has its file at its place. -/
def LogHeld (d : Disk) : Prop :=
  ∀ q, logPlace d = some q → ∃ content, d.get? q = some (.file content)

/-- What is at a place is the same, or a file that has got more at its end. -/
def Appended (node node' : Option Node) : Prop :=
  node' = node ∨ ∃ content more, node = some (.file content) ∧ node' = some (.file (content ++ more))

/-- Nothing but lines in the log file is new. -/
structure OnlyLogs (d d' : Disk) : Prop where
  setup : SameSetup d d'
  same : ∀ q, logPlace d ≠ some q → d'.get? q = d.get? q
  appended : ∀ q, logPlace d = some q → Appended (d.get? q) (d'.get? q)

/-- Only files of some kind may change, and only to places of that kind the log file may go. A log
file of another kind gets lines at most. -/
structure Touches (P : Place → Prop) (d d' : Disk) : Prop where
  changes : ∃ places, (∀ q ∈ places, P q ∨ logPlace d = some q) ∧
    ChangesFiles places (unlogged d) (unlogged d')
  appended : ∀ q, ¬P q → Appended (d.get? q) (d'.get? q)
  log : ∀ q, logPlace d' = some q → P q ∨ logPlace d = some q
  closed : d.log = none → d'.log = none

variable {d d' d'' : Disk} {P Q : Place → Prop} {q : Place}

lemma unlogged_eq (hlog : d.log = none) : unlogged d = d := by
  cases d
  cases hlog
  rfl

lemma logPlace_eq_none (hlog : d.log = none) : logPlace d = none := by
  rw [logPlace, hlog]
  rfl

lemma logHeld_of_log_eq_none (hlog : d.log = none) : LogHeld d := by
  intro q hq
  rw [logPlace_eq_none hlog] at hq
  cases hq

lemma follow_unlogged (d : Disk) (path : Path) (place : Place) (names : List String) :
    (unlogged d).follow path place names = d.follow path place names := by
  induction names generalizing place with
  | nil => rfl
  | cons name names ih =>
    have hget : (unlogged d).get? place = d.get? place := rfl
    unfold Disk.follow
    rw [hget, ih, ih]

lemma locate_unlogged (d : Disk) (path : Path) : (unlogged d).locate path = d.locate path := by
  have hdirectory : (unlogged d).directory = d.directory := rfl
  unfold Disk.locate
  rw [hdirectory, follow_unlogged]

lemma logPlace_moveLog (source : Place) (target : Option Place) :
    logPlace (d.moveLog source target) =
      if logPlace d = some source then target else logPlace d := by
  rcases hlog : d.log with - | ⟨place, threshold⟩
  · simp [logPlace, Disk.moveLog, hlog]
  · by_cases hplace : place = some source <;> simp [logPlace, Disk.moveLog, hlog, hplace]

lemma log_moveLog_eq_none (hlog : d.log = none) (source : Place) (target : Option Place) :
    (d.moveLog source target).log = none := by
  rw [Disk.moveLog, hlog]
  rfl

/-- A record goes into the log file, if one is there. -/
lemma record_eq (d : Disk) (r : LogRecord) : d.record r = d ∨
    ∃ place content, logPlace d = some place ∧ d.get? place = some (.file content) ∧
      d.record r = d.put place (.file (content ++ (r.timedLine d.time).toUTF8)) := by
  unfold Disk.record
  split
  · next place threshold hlog =>
    split
    · next content _ hget => exact .inr ⟨place, content, by simp [logPlace, hlog], hget, rfl⟩
    · exact .inl rfl
  · exact .inl rfl

/-- A log file ends with the last record, unless no record of that level goes into it. -/
lemma ends_with_record {r : LogRecord} {content : ByteArray} (hplace : logPlace d = some q)
    (hget : (d.record r).get? q = some (.file content)) :
    (∃ before, content = before ++ (r.timedLine d.time).toUTF8) ∨
      ∀ r' : LogRecord, r'.level = r.level → (d.record r).record r' = d.record r := by
  obtain ⟨⟨place, threshold⟩, hlog, hopen⟩ := Option.bind_eq_some_iff.mp hplace
  obtain rfl : place = some q := hopen
  cases hpasses : r.passes threshold with
  | true =>
    left
    unfold Disk.record at hget
    rw [hlog] at hget
    dsimp only at hget
    rw [hpasses] at hget
    split at hget
    · next before _ hbefore =>
      have hfile : d.get? q ≠ some .directory := by simp [hbefore]
      rw [get?_put (ne_nil_of_get? hfile), if_pos rfl] at hget
      exact ⟨before, (Node.file.inj (Option.some.inj hget)).symm⟩
    · next hother => exact absurd hget (hother content rfl)
  | false =>
    have hskip : ∀ r' : LogRecord, r'.level = r.level → d.record r' = d := by
      intro r' hlevel
      have hskips : r'.passes threshold = false := by rwa [LogRecord.passes, hlevel]
      rw [Disk.record, hlog]
      dsimp only
      rw [hskips]
    rw [hskip r rfl]
    exact .inr hskip

/-! ## Added lines -/

/-- A file keeps what it held. -/
lemma Appended.file {a b : Option Node} {content : ByteArray} (h : Appended a b)
    (ha : a = some (.file content)) : ∃ more, b = some (.file (content ++ more)) := by
  rcases h with rfl | ⟨content', more, hbefore, hafter⟩
  · exact ⟨.empty, by rw [ha, ByteArray.append_empty]⟩
  · obtain rfl := Node.file.inj (Option.some.inj (hbefore.symm.trans ha))
    exact ⟨more, hafter⟩

lemma Appended.trans {a b c : Option Node} (h : Appended a b) (h' : Appended b c) :
    Appended a c := by
  rcases h with rfl | ⟨content, more, rfl, rfl⟩
  · exact h'
  · obtain ⟨more', hmore⟩ := h'.file rfl
    exact .inr ⟨content, more ++ more', rfl, by rw [hmore, ByteArray.append_assoc]⟩

lemma OnlyLogs.refl (d : Disk) : OnlyLogs d d := ⟨.refl d, fun _ _ => rfl, fun _ _ => .inl rfl⟩

lemma OnlyLogs.logPlace_eq (h : OnlyLogs d d') : logPlace d' = logPlace d := by
  rw [logPlace, logPlace, h.setup.log]

lemma OnlyLogs.trans (h : OnlyLogs d d') (h' : OnlyLogs d' d'') : OnlyLogs d d'' where
  setup := h.setup.trans h'.setup
  same q hq := by rw [h'.same q (by rwa [h.logPlace_eq]), h.same q hq]
  appended q hq := (h.appended q hq).trans (h'.appended q (by rwa [h.logPlace_eq]))

lemma onlyLogs_record (d : Disk) (r : LogRecord) : OnlyLogs d (d.record r) := by
  rcases record_eq d r with heq | ⟨place, content, hplace, hget, heq⟩
  · rw [heq]
    exact .refl d
  · have hfile : d.get? place ≠ some .directory := by simp [hget]
    rw [heq]
    refine ⟨⟨rfl, rfl, rfl, rfl⟩, fun q hq => ?_, fun q hq => ?_⟩
    · rw [get?_put (ne_nil_of_get? hfile), if_neg (by rintro rfl; exact hq hplace)]
    · obtain rfl := Option.some.inj (hplace.symm.trans hq)
      rw [get?_put (ne_nil_of_get? hfile), if_pos rfl]
      exact .inr ⟨content, _, hget, rfl⟩

/-! ## The log keeps its file -/

lemma LogHeld.of_onlyLogs (hheld : LogHeld d) (h : OnlyLogs d d') : LogHeld d' := by
  intro q hq
  rw [h.logPlace_eq] at hq
  obtain ⟨content, hget⟩ := hheld q hq
  obtain ⟨more, hmore⟩ := (h.appended q hq).file hget
  exact ⟨_, hmore⟩

lemma LogHeld.put_file (h : LogHeld d) (hq : d.get? q ≠ some .directory) (content : ByteArray) :
    LogHeld (d.put q (.file content)) := by
  intro p hp
  rw [get?_put (ne_nil_of_get? hq)]
  split
  · exact ⟨content, rfl⟩
  · exact h p hp

lemma LogHeld.put_vacant (h : LogHeld d) (hq : d.get? q = none) (node : Node) :
    LogHeld (d.put q node) := by
  intro p hp
  obtain ⟨content, hget⟩ := h p hp
  have hfile : d.get? q ≠ some .directory := by simp [hq]
  have hne : p ≠ q := by
    rintro rfl
    cases hq.symm.trans hget
  exact ⟨content, by rw [get?_put (ne_nil_of_get? hfile), if_neg hne, hget]⟩

lemma LogHeld.make {path : Path} {node : Node} (h : LogHeld d) (hmake : d.make path node = .ok d') :
    LogHeld d' := by
  obtain ⟨q, -, hq, rfl⟩ := make_eq_ok hmake
  exact h.put_vacant hq node

lemma LogHeld.write {path : Path} {content : ByteArray} (h : LogHeld d)
    (hwrite : d.write path content = .ok d') : LogHeld d' := by
  obtain ⟨q, -, hq, rfl⟩ := write_eq_ok hwrite
  exact h.put_file hq content

lemma LogHeld.erase (h : LogHeld d) (hq : d.get? q ≠ some .directory) :
    LogHeld ((d.erase q).moveLog q none) := by
  intro p hp
  rw [logPlace_moveLog] at hp
  split at hp
  · cases hp
  · next hother =>
    have hne : p ≠ q := by
      rintro rfl
      exact hother hp
    obtain ⟨content, hget⟩ := h p hp
    exact ⟨content, by rw [← hget]; exact (get?_erase (ne_nil_of_get? hq) p).trans (if_neg hne)⟩

/-- The log goes where its file goes, unless another file takes its place. -/
lemma logPlace_replace {here there : Place} (hne : here ≠ there) :
    logPlace ((d.moveLog there none).moveLog here (some there)) =
      if logPlace d = some here then some there
      else if logPlace d = some there then none else logPlace d := by
  rw [logPlace_moveLog, logPlace_moveLog]
  by_cases hthere : logPlace d = some there
  · simp [hthere, hne.symm]
  · simp [hthere]

lemma LogHeld.replace {source target : Path} (h : LogHeld d)
    (hreplace : d.replace source target = .ok d') : LogHeld d' := by
  obtain ⟨here, there, content, -, hhere, -, hthere, ⟨-, rfl⟩ | ⟨hne, rfl⟩⟩ := replace_eq_ok hreplace
  · exact h
  · have hfile : d.get? here ≠ some .directory := by simp [hhere]
    intro p hp
    have hp' := (logPlace_replace hne).symm.trans hp
    rw [get?_put (ne_nil_of_get? hthere)]
    split
    · exact ⟨content, rfl⟩
    · next hp'' =>
      split at hp'
      · exact absurd (Option.some.inj hp').symm hp''
      split at hp'
      · cases hp'
      · next hhere' _ =>
        obtain ⟨held, hget⟩ := h p hp'
        have hother : p ≠ here := by
          rintro rfl
          exact hhere' hp'
        exact ⟨held, ((get?_erase (ne_nil_of_get? hfile) p).trans (if_neg hother)).trans hget⟩

lemma LogHeld.apply {c : FileChange} (h : LogHeld d) (hc : d.apply c = .ok d') : LogHeld d' := by
  cases c with
  | makeDirectory path | create path => exact h.make hc
  | write path content => exact h.write hc
  | copy source target =>
    obtain ⟨content, -, hwrite⟩ := ok_of_bind hc
    exact h.write hwrite
  | replace source target => exact h.replace hc
  | remove path =>
    obtain ⟨q, content, -, hget, rfl⟩ := remove_eq_ok hc
    exact h.erase (by simp [hget])

lemma LogHeld.part (h : LogHeld d) (bytes : Nat) (c : FileChange) :
    LogHeld (d.applyPart bytes c) := by
  have hwrite : ∀ path content, LogHeld ((d.write path content).toOption.getD d) := by
    intro path content
    cases hd : d.write path content with
    | error e => exact h
    | ok d' => exact h.write hd
  cases c with
  | write path content => exact hwrite path _
  | copy source target =>
    unfold Disk.applyPart
    dsimp only
    split
    · exact h
    · exact hwrite target _
  | makeDirectory | create | replace | remove => exact h

/-- Whatever is changed, as a whole or in part, an open log that has a place keeps its file there. -/
theorem LogHeld.step (h : LogHeld d) (c : FileChange) : LogHeld (d.step c).2 := by
  unfold Disk.step
  split
  · exact h.part _ c
  · split
    · next hc => exact h.apply hc
    · exact h

theorem LogHeld.record (h : LogHeld d) (r : LogRecord) : LogHeld (d.record r) :=
  h.of_onlyLogs (onlyLogs_record d r)

theorem logHeld_openLog {path : Path} {threshold : LogLevel}
    (h : d.openLog path threshold = .ok d') : LogHeld d' := by
  obtain ⟨place, -, h⟩ := ok_of_bind h
  intro q hq
  dsimp only at h
  split at h
  · cases h
  · next content hget =>
    obtain rfl := Except.ok.inj h
    obtain rfl := Option.some.inj hq
    exact ⟨content, hget⟩
  · next hget =>
    obtain rfl := Except.ok.inj h
    obtain rfl := Option.some.inj hq
    have hvacant : d.get? place ≠ some .directory := by simp [hget]
    exact ⟨.empty, (get?_put (ne_nil_of_get? hvacant) _ _).trans (if_pos rfl)⟩

/-! ## What a write touches -/

lemma Touches.refl (d : Disk) : Touches P d d where
  changes := ⟨[], by simp, .refl _⟩
  appended _ _ := .inl rfl
  log _ hq := .inr hq
  closed h := h

lemma Touches.trans (h : Touches P d d') (h' : Touches P d' d'') : Touches P d d'' where
  changes := by
    obtain ⟨places, hplaces, hchanges⟩ := h.changes
    obtain ⟨places', hplaces', hchanges'⟩ := h'.changes
    refine ⟨places ++ places', fun q hq => ?_, hchanges.trans hchanges'⟩
    rcases List.mem_append.mp hq with hq | hq
    · exact hplaces q hq
    · exact (hplaces' q hq).elim .inl (h.log q)
  appended q hq := (h.appended q hq).trans (h'.appended q hq)
  log q hq := (h'.log q hq).elim .inl (h.log q)
  closed hlog := h'.closed (h.closed hlog)

lemma Touches.mono (h : Touches P d d') (hPQ : ∀ q, P q → Q q) : Touches Q d d' where
  changes := by
    obtain ⟨places, hplaces, hchanges⟩ := h.changes
    exact ⟨places, fun q hq => (hplaces q hq).imp_left (hPQ q), hchanges⟩
  appended q hq := h.appended q fun hP => hq (hPQ q hP)
  log q hq := (h.log q hq).imp_left (hPQ q)
  closed := h.closed

/-- A place that is in the end as it was at first need not be counted. -/
lemma Touches.restrict (h : Touches (fun p => p = q ∨ P p) d d') (hsame : d'.get? q = d.get? q)
    (hlog : logPlace d' ≠ some q) : Touches P d d' where
  changes := by
    obtain ⟨places, hplaces, hchanges⟩ := h.changes
    refine ⟨places.filter (· ≠ q), fun p hp => ?_, ?_⟩
    · obtain ⟨hp, hother⟩ := List.mem_filter.mp hp
      exact (hplaces p hp).imp_left fun hP => hP.resolve_left (by simpa using hother)
    · refine hchanges.restrict (fun p hp hskip => ?_) (List.filter_subset_self _)
      obtain rfl : p = q := by simpa [List.mem_filter, hp] using hskip
      exact hsame
  appended p hp := by
    by_cases hpq : p = q
    · rw [hpq, hsame]
      exact .inl rfl
    · exact h.appended p (not_or.mpr ⟨hpq, hp⟩)
  log p hp := by
    rcases h.log p hp with (rfl | hP) | hp'
    · exact absurd hp hlog
    · exact .inl hP
    · exact .inr hp'
  closed := h.closed

lemma Touches.placeOf_eq (h : Touches P d d') (path : Path) : placeOf d' path = placeOf d path := by
  obtain ⟨places, -, hchanges⟩ := h.changes
  exact hchanges.setup.placeOf_eq path

lemma Touches.locate_ok (h : Touches P d d') {path : Path} (hq : d.locate path = .ok q) :
    d'.locate path = .ok q := by
  obtain ⟨places, -, hchanges⟩ := h.changes
  rw [← locate_unlogged] at hq ⊢
  exact hchanges.locate_ok hq

lemma Touches.locate_ok_before (h : Touches P d d') {path : Path} (hq : d'.locate path = .ok q) :
    d.locate path = .ok q := by
  obtain ⟨places, -, hchanges⟩ := h.changes
  rw [← locate_unlogged] at hq ⊢
  exact hchanges.symm.locate_ok hq

lemma Touches.get?_eq (h : Touches P d d') (hP : ¬P q) (hlog : logPlace d ≠ some q) :
    d'.get? q = d.get? q := by
  obtain ⟨places, hplaces, hchanges⟩ := h.changes
  exact hchanges.same q fun hq => (hplaces q hq).elim hP hlog

lemma Touches.vacant_before (h : Touches P d d') (hP : ¬P q) (hnone : d'.get? q = none) :
    d.get? q = none := by
  rcases h.appended q hP with heq | ⟨content, more, -, hfile⟩
  · exact heq.symm.trans hnone
  · cases hnone.symm.trans hfile

lemma Touches.changesFiles (h : Touches P d d') (hlog : d.log = none) :
    ∃ places, (∀ q ∈ places, P q) ∧ ChangesFiles places d d' := by
  obtain ⟨places, hplaces, hchanges⟩ := h.changes
  rw [unlogged_eq hlog, unlogged_eq (h.closed hlog)] at hchanges
  refine ⟨places, fun q hq => (hplaces q hq).resolve_right ?_, hchanges⟩
  rw [logPlace_eq_none hlog]
  exact nofun

lemma touches_put (hq : P q) (hfile : d.get? q ≠ some .directory) (content : ByteArray) :
    Touches P d (d.put q (.file content)) where
  changes := ⟨[q], by simpa using Or.inl hq, changesFiles_put (d := unlogged d) hfile content⟩
  appended p hp := .inl (by
    rw [get?_put (ne_nil_of_get? hfile), if_neg (by rintro rfl; exact hp hq)])
  log _ hp := .inr hp
  closed h := h

lemma touches_record (d : Disk) (r : LogRecord) : Touches P d (d.record r) := by
  rcases record_eq d r with heq | ⟨place, content, hplace, hget, heq⟩
  · rw [heq]
    exact .refl d
  · have hfile : d.get? place ≠ some .directory := by simp [hget]
    rw [heq]
    refine ⟨⟨[place], by simpa using Or.inr hplace, changesFiles_put (d := unlogged d) hfile _⟩,
      fun q _ => ?_, fun _ hp => .inr hp, fun h => h⟩
    rw [get?_put (ne_nil_of_get? hfile)]
    split
    · next heq => exact .inr ⟨content, _, heq ▸ hget, rfl⟩
    · exact .inl rfl

lemma touches_remove (hq : P q) (hfile : d.get? q ≠ some .directory) :
    Touches P d ((d.erase q).moveLog q none) where
  changes := ⟨[q], by simpa using Or.inl hq, changesFiles_erase (d := unlogged d) hfile⟩
  appended p hp := .inl ((get?_erase (ne_nil_of_get? hfile) p).trans
    (if_neg (by rintro rfl; exact hp hq)))
  log p hp := by
    rw [logPlace_moveLog] at hp
    split at hp
    · cases hp
    · exact .inr hp
  closed hlog := log_moveLog_eq_none hlog q none

/-- A file may take the place of another one if both places are of the kind. -/
lemma touches_replace {here there : Place} (hhere : P here) (hthere : P there) (hne : here ≠ there)
    (hfile : d.get? here ≠ some .directory) (hfile' : d.get? there ≠ some .directory)
    (content : ByteArray) :
    Touches P d ((((d.moveLog there none).moveLog here (some there)).erase here).put there
      (.file content)) where
  changes := by
    have herase := changesFiles_erase (d := unlogged d) hfile
    have hvacant : ((unlogged d).erase here).get? there ≠ some .directory := by
      rw [herase.same there (by simpa using hne.symm)]
      exact hfile'
    exact ⟨[here] ++ [there], by simp [hhere, hthere],
      herase.trans (changesFiles_put hvacant content)⟩
  appended p hp := .inl (by
    rw [get?_put (ne_nil_of_get? hfile'), if_neg (by rintro rfl; exact hp hthere),
      get?_erase (ne_nil_of_get? hfile), if_neg (by rintro rfl; exact hp hhere)]
    rfl)
  log p hp := by
    have hp' := (logPlace_replace hne).symm.trans hp
    split at hp'
    · exact .inl (Option.some.inj hp' ▸ hthere)
    split at hp'
    · cases hp'
    · exact .inr hp'
  closed hlog := log_moveLog_eq_none (log_moveLog_eq_none hlog there none) here (some there)

end HubProxy.Proofs
