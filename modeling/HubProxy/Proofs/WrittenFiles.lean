import HubProxy.Proofs.DiskRuns
import HubProxy.Proofs.LoggedDisks
import HubProxy.Run.Write

/-!
# Written files

What a write that ends well does to a disk. The disk at the end is compared with the one that has
the directories above the target: only the target and its copy may differ, and the target holds the
text.
-/

namespace HubProxy.Proofs

open Run

variable {d d' : Disk} {path : Path} {u : Unit}

/-- A change that is made as a whole or not at all leaves the disk alone when it fails. -/
lemma eq_of_step_error {c : FileChange} {e : FileError} (hpart : ∀ bytes, d.applyPart bytes c = d)
    (h : d.step c = (.error e, d')) : d' = d := by
  unfold Disk.step at h
  split at h
  · rw [hpart] at h
    exact (Prod.mk.inj h).2.symm
  · split at h
    · cases h
    · exact (Prod.mk.inj h).2.symm

lemma Ends.of_isDirectory {b : Bool} (h : Ends (isDirectory path) d b d') : d' = d := by
  obtain ⟨k, mid, hkind, hpure⟩ := h.of_bind
  obtain ⟨-, rfl⟩ := hpure.of_pure
  exact hkind.of_kind?.2

lemma Ends.of_unless_isDirectory {e : RunError}
    (h : Ends (do unless ← isDirectory path do throw e) d u d') : d' = d := by
  obtain ⟨b, mid, hdir, hrest⟩ := h.of_bind
  obtain rfl := hdir.of_isDirectory
  cases b with
  | true => exact hrest.of_pure.2
  | false => exact absurd hrest not_ends_throw

lemma makesDirectories_of_step {r : Except FileError Unit}
    (h : d.step (.makeDirectory path) = (r, d')) : MakesDirectories d d' := by
  cases r with
  | error e =>
    obtain rfl := eq_of_step_error (fun _ => rfl) h
    exact .refl d'
  | ok v =>
    obtain ⟨q, -, hq, rfl⟩ := make_eq_ok (apply_of_step h)
    exact makesDirectories_put hq

lemma Ends.of_ensure (h : Ends (makeDirectoriesFrom.ensure path) d u d') :
    MakesDirectories d d' := by
  obtain ⟨r, mid, hattempt, hrest⟩ := h.of_bind
  have hmade := makesDirectories_of_step hattempt.of_attempt
  cases r with
  | ok v =>
    obtain ⟨-, rfl⟩ := hrest.of_pure
    exact hmade
  | error e =>
    obtain rfl := hrest.of_unless_isDirectory
    exact hmade

lemma Ends.of_makeDirectoriesFrom {above : Nat} (h : Ends (makeDirectoriesFrom above path) d u d') :
    MakesDirectories d d' := by
  induction above generalizing path d d' u with
  | zero => exact h.of_ensure
  | succ above ih =>
    obtain ⟨r, mid, hattempt, hrest⟩ := h.of_bind
    have hmade := makesDirectories_of_step hattempt.of_attempt
    split at hrest
    · obtain ⟨-, rfl⟩ := hrest.of_pure
      exact hmade
    · obtain ⟨v, parents, hparents, hensure⟩ := hrest.of_bind
      exact hmade.trans ((ih hparents).trans hensure.of_ensure)
    · obtain rfl := hrest.of_unless_isDirectory
      exact hmade

lemma Ends.of_makeDirectories (h : Ends (makeDirectories path) d u d') : MakesDirectories d d' :=
  h.of_makeDirectoriesFrom

lemma Ends.of_removeIfPresent (h : Ends (removeIfPresent path) d u d') :
    d' = d ∨ ∃ q content, d.locate path = .ok q ∧ d.get? q = some (.file content) ∧
      d' = (d.erase q).moveLog q none := by
  obtain ⟨r, mid, hattempt, hrest⟩ := h.of_bind
  have hstep := hattempt.of_attempt
  split at hrest
  · obtain ⟨-, rfl⟩ := hrest.of_pure
    exact .inr (remove_eq_ok (apply_of_step hstep))
  · obtain ⟨-, rfl⟩ := hrest.of_pure
    exact .inl (eq_of_step_error (fun _ => rfl) hstep)
  · exact absurd hrest not_ends_throw

lemma Ends.touches_removal (h : Ends (removeIfPresent path) d u d') :
    Touches (· = placeOf d path) d d' ∧ (LogHeld d → LogHeld d') := by
  rcases h.of_removeIfPresent with rfl | ⟨q, content, hq, hget, rfl⟩
  · exact ⟨.refl d', id⟩
  · have hfile : d.get? q ≠ some .directory := by simp [hget]
    exact ⟨touches_remove (placeOf_of_locate hq).symm hfile, fun hheld => hheld.erase hfile⟩

lemma Ends.touches_backUp {backup : Path} (h : Ends (backUp path backup) d u d') :
    Touches (· = placeOf d backup) d d' ∧ (LogHeld d → LogHeld d') := by
  obtain ⟨v, noted, hnote, hrest⟩ := h.of_bind
  obtain ⟨w, cleared, hclear, hcopy⟩ := hrest.of_bind
  obtain ⟨content, -, hwrite⟩ := ok_of_bind hcopy.of_change
  obtain ⟨q, hq, hfile, rfl⟩ := write_eq_ok hwrite
  obtain ⟨hcleared, hheld⟩ := hclear.touches_removal
  have hnoted : Touches (· = placeOf d backup) d noted := hnote.eq_record ▸ touches_record d _
  rw [hnoted.placeOf_eq] at hcleared
  have hbefore := hnoted.trans hcleared
  have hplace : q = placeOf d backup := by rw [← hbefore.placeOf_eq, placeOf_of_locate hq]
  have hput : Touches (· = placeOf d backup) cleared (cleared.put q (.file content)) :=
    touches_put (P := (· = placeOf d backup)) hplace hfile content
  refine ⟨hbefore.trans hput, fun hlog => ?_⟩
  exact (hheld (hnote.eq_record ▸ hlog.record _)).put_file hfile content

/-- The temporary file is made where nothing was. -/
lemma Ends.of_createTemporary {temporary : Path} {tries token : Nat}
    (h : Ends (createTemporary path tries token) d temporary d') :
    ∃ q, d.locate temporary = .ok q ∧ d.get? q = none ∧ d' = d.put q (.file .empty) := by
  induction tries generalizing token d with
  | zero => exact absurd h not_ends_throw
  | succ tries ih =>
    obtain ⟨r, mid, hattempt, hrest⟩ := h.of_bind
    have hstep := hattempt.of_attempt
    split at hrest
    · obtain ⟨rfl, rfl⟩ := hrest.of_pure
      exact make_eq_ok (apply_of_step hstep)
    · obtain rfl := eq_of_step_error (fun _ => rfl) hstep
      exact ih hrest
    · exact absurd hrest not_ends_throw

/-- The content ends up in the target, and the temporary file is gone. The log comes to the target
only if it was in the temporary file. -/
lemma Ends.of_fillAndReplace {temporary : Path} {text : String}
    (h : Ends (fillAndReplace temporary path text) d u d') :
    ∃ here there, d.locate temporary = .ok here ∧ d.locate path = .ok there ∧
      Touches (fun q => q = here ∨ q = there) d d' ∧
      (here ≠ there → d'.get? here = none ∧ logPlace d' ≠ some here) ∧
      (logPlace d ≠ some here →
        d'.get? there = some (.file text.toUTF8) ∧ logPlace d' ≠ some there) := by
  obtain ⟨v, filled, hfill, hrest⟩ := h.of_bind
  obtain ⟨w, noted, hnote, hreplace⟩ := hrest.of_bind
  obtain ⟨here, hhere, hfile, rfl⟩ := write_eq_ok hfill.of_change
  have hput : Touches (· = here) d (d.put here (.file text.toUTF8)) :=
    touches_put (P := (· = here)) rfl hfile _
  have hnoted : Touches (· = here) d noted := hput.trans (hnote.eq_record ▸ touches_record _ _)
  obtain ⟨here', there, content, hhere', hcontent, hthere, hthereFile, hend⟩ :=
    replace_eq_ok hreplace.of_change
  obtain rfl := Except.ok.inj ((hnoted.locate_ok hhere).symm.trans hhere')
  have hlogs := hnote.eq_record ▸ onlyLogs_record (d.put here (.file text.toUTF8)) _
  have hheld : logPlace d ≠ some here → content = text.toUTF8 := by
    intro hlog
    have hget := hlogs.same here hlog
    rw [hcontent, get?_put (ne_nil_of_get? hfile), if_pos rfl] at hget
    exact Node.file.inj (Option.some.inj hget)
  have hplace : logPlace noted = logPlace d := hlogs.logPlace_eq
  refine ⟨here, there, hhere, hnoted.locate_ok_before hthere, ?_⟩
  rcases hend with ⟨rfl, rfl⟩ | ⟨hother, rfl⟩
  · refine ⟨hnoted.mono fun q hq => .inl hq, fun hne => absurd rfl hne, fun hlog => ⟨?_, ?_⟩⟩
    · rw [hcontent, hheld hlog]
    · rwa [hplace]
  · have hhereFile : noted.get? here ≠ some .directory := by simp [hcontent]
    have hmoved : logPlace ((((noted.moveLog there none).moveLog here (some there)).erase here).put
        there (.file content)) = _ := logPlace_replace hother
    refine ⟨?_, fun _ => ⟨?_, ?_⟩, fun hlog => ⟨?_, ?_⟩⟩
    · exact (hnoted.mono fun q hq => .inl hq).trans
        (touches_replace (.inl rfl) (.inr rfl) hother hhereFile hthereFile content)
    · rw [get?_put (ne_nil_of_get? hthereFile), if_neg hother,
        get?_erase (ne_nil_of_get? hhereFile), if_pos rfl]
    · rw [hmoved]
      split_ifs with hhere'
      · exact fun heq => hother (Option.some.inj heq).symm
      · exact nofun
      · exact hhere'
    · rw [get?_put (ne_nil_of_get? hthereFile), if_pos rfl, hheld hlog]
    · rw [hmoved, hplace, if_neg hlog]
      split_ifs with hthere'
      · exact nofun
      · exact hthere'

lemma Ends.of_optional {x : RunM DiskM Unit} {wanted : Bool}
    (h : Ends (if wanted then x else pure ⟨⟩) d u d') : d' = d ∨ Ends x d u d' := by
  cases wanted with
  | false => exact .inl h.of_pure.2
  | true => exact .inr h

/-- The stages of a write that succeeds. -/
lemma Ends.stages_of_write {text : String} (h : Ends (write path text) d u d') :
    ∃ made backup copied temporary emptied filled, ∃ existed : Bool,
      Ends (makeDirectories path.parent) d ⟨⟩ made ∧ backupPath path = .ok backup ∧
      Ends (if existed then backUp path backup else pure ⟨⟩) made ⟨⟩ copied ∧
      Ends (createTemporary path maxTokens 0) copied temporary emptied ∧
      Ends (fillAndReplace temporary path text) emptied ⟨⟩ filled ∧
      Ends (if existed then removeIfPresent backup else pure ⟨⟩) filled ⟨⟩ d' := by
  obtain ⟨v, made, hdirs, hrest⟩ := h.of_bind
  obtain ⟨backup, mid, hlift, hcopying⟩ := hrest.of_bind
  obtain ⟨hbackup, rfl⟩ := hlift.of_lift
  obtain ⟨k, mid', hkind, hchoice⟩ := hcopying.of_bind
  obtain ⟨-, rfl⟩ := hkind.of_kind?
  have hcopied : ∃ copied, Ends (if k.isSome then backUp path backup else pure ⟨⟩) mid' ⟨⟩ copied ∧
      Ends (do
        let temporary ← createTemporary path maxTokens 0
        tryCatch (fillAndReplace temporary path text) fun failure => do
          restore temporary path backup k.isSome
          throw failure
        if k.isSome then removeIfPresent backup else pure ⟨⟩) copied u d' := by
    cases hexisted : k.isSome with
    | true =>
      rw [hexisted] at hchoice
      obtain ⟨w, copied, hcopy, hfilling⟩ := hchoice.of_bind
      exact ⟨copied, hcopy, hfilling⟩
    | false =>
      rw [hexisted] at hchoice
      exact ⟨mid', ⟨[], [], rfl⟩, hchoice⟩
  obtain ⟨copied, hcopy, hfilling⟩ := hcopied
  obtain ⟨temporary, emptied, htemporary, htrying⟩ := hfilling.of_bind
  obtain ⟨w, filled, htry, hremoval⟩ := htrying.of_bind
  have hfill := htry.of_tryCatch fun e mid hfails => by
    obtain ⟨_, restored, -, hthrow⟩ := hfails.of_bind
    exact not_ends_throw hthrow
  exact ⟨mid', backup, copied, temporary, emptied, filled, k.isSome, hdirs,
    eq_ok_of_mapError hbackup, hcopy, htemporary, hfill, hremoval⟩

lemma length_append_backupSuffix (name : String) :
    (name ++ backupSuffix).length = name.length + 4 :=
  String.length_append name backupSuffix

lemma nextPlace_backupSuffix (place : Place) (name : String) :
    nextPlace place (name ++ backupSuffix) = place ++ [name ++ backupSuffix] := by
  refine if_neg fun heq => ?_
  have hlength := length_append_backupSuffix name
  have htwo : (name ++ backupSuffix).length = 2 := heq ▸ rfl
  omega

lemma nextPlace_backupSuffix_ne (place : Place) (name : String) :
    nextPlace place (name ++ backupSuffix) ≠ nextPlace place name := by
  have hlonger : name ++ backupSuffix ≠ name := by
    intro heq
    have hlength := length_append_backupSuffix name
    rw [heq] at hlength
    omega
  intro heq
  rw [nextPlace_backupSuffix, nextPlace] at heq
  split at heq
  · have hplace := congrArg List.length heq
    simp only [List.length_append, List.length_singleton, List.length_dropLast] at hplace
    omega
  · exact hlonger (by simpa using heq)

/-- The target and its copy are at the names that follow the place of the parent. -/
lemma placeOf_of_backupPath {backup : Path} (h : backupPath path = .ok backup) (d : Disk) :
    placeOf d path = nextPlace (placeOf d path.parent) path.name ∧
      placeOf d backup = nextPlace (placeOf d path.parent) (path.name ++ backupSuffix) := by
  unfold backupPath Path.withName? at h
  split at h
  · next hname =>
    obtain rfl := Except.ok.inj h
    split at hname
    · cases hname
    · next hparts =>
      obtain rfl := Option.some.inj hname
      have hlast : path.parts = path.parts.dropLast ++ [path.name] := by
        rw [Path.name, List.getLastD_eq_getLast?, List.getLast?_eq_some_getLast hparts,
          Option.getD_some, List.dropLast_append_getLast hparts]
      refine ⟨?_, by rw [placeOf, List.foldl_append]; rfl⟩
      rw [placeOf, hlast, List.foldl_append]
      rfl
  · cases h

/-- The copy of a file is another file. -/
lemma placeOf_backup_ne {backup : Path} (h : backupPath path = .ok backup) (d : Disk) :
    placeOf d backup ≠ placeOf d path := by
  obtain ⟨hpath, hbackup⟩ := placeOf_of_backupPath h d
  rw [hpath, hbackup]
  exact nextPlace_backupSuffix_ne _ _

lemma MakesDirectories.logHeld {d d' : Disk} (h : MakesDirectories d d') (hheld : LogHeld d) :
    LogHeld d' := by
  intro q hq
  obtain ⟨content, hget⟩ := hheld q (by rwa [logPlace, ← h.setup.log])
  exact ⟨content, h.get?_some hget⟩

/-- After a write the target holds the text, and next to it only the copy and the log file may have
changed. -/
theorem Ends.of_write {text : String} (h : Ends (write path text) d u d') :
    ∃ made backup, Ends (makeDirectories path.parent) d ⟨⟩ made ∧ MakesDirectories d made ∧
      backupPath path = .ok backup ∧ made.locate path = .ok (placeOf d path) ∧
      Touches (fun q => q = placeOf d path ∨ q = placeOf d backup) made d' ∧
      (LogHeld d → d'.get? (placeOf d path) = some (.file text.toUTF8) ∧
        logPlace d' ≠ some (placeOf d path)) := by
  obtain ⟨made, backup, copied, temporary, emptied, filled, existed, hdirs, hbackup, hcopy,
    htemporary, hfill, hremoval⟩ := h.stages_of_write
  have hmade := hdirs.of_makeDirectories
  have hplaceOf := hmade.setup.placeOf_eq
  have hcopied : Touches (· = placeOf d backup) made copied ∧ (LogHeld made → LogHeld copied) := by
    rcases hcopy.of_optional with rfl | hcopy
    · exact ⟨.refl copied, id⟩
    · rw [← hplaceOf]
      exact hcopy.touches_backUp
  obtain ⟨beside, hbeside, hvacant, rfl⟩ := htemporary.of_createTemporary
  have hemptied : Touches (· = beside) copied (copied.put beside (.file .empty)) :=
    touches_put (P := (· = beside)) rfl (by simp [hvacant]) .empty
  obtain ⟨here, there, hhere, hthere, hfilled, hgone, htext⟩ := hfill.of_fillAndReplace
  obtain rfl := Except.ok.inj ((hemptied.locate_ok hbeside).symm.trans hhere)
  have hpath := hcopied.1.locate_ok_before (hemptied.locate_ok_before hthere)
  obtain rfl : there = placeOf d path := by rw [← hplaceOf, placeOf_of_locate hpath]
  have hremoved : Touches (· = placeOf d backup) filled d' := by
    rcases hremoval.of_optional with rfl | hremoval
    · exact .refl d'
    · have hbackup' : placeOf filled backup = placeOf d backup := by
        rw [hfilled.placeOf_eq, hemptied.placeOf_eq, hcopied.1.placeOf_eq, hplaceOf]
      rw [← hbackup']
      exact hremoval.touches_removal.1
  have hall : Touches (fun q => q = beside ∨ q = placeOf d path ∨ q = placeOf d backup) made d' :=
    (hcopied.1.mono fun q hq => .inr (.inr hq)).trans <| (hemptied.mono fun q hq => .inl hq).trans <|
      (hfilled.mono fun q hq => hq.imp_right .inl).trans <| hremoved.mono fun q hq => .inr (.inr hq)
  refine ⟨made, backup, hdirs, hmade, hbackup, hpath, ?_, fun hheld => ?_⟩
  · by_cases hcounted : beside = placeOf d path ∨ beside = placeOf d backup
    · exact hall.mono fun q hq => hq.elim (fun heq => heq ▸ hcounted) id
    · -- the temporary file was not there at first and is gone in the end
      obtain ⟨hpath', hbackup'⟩ := not_or.mp hcounted
      obtain ⟨hnone, hlog⟩ := hgone hpath'
      refine hall.restrict ?_ fun heq => ?_
      · rw [hremoved.get?_eq hbackup' hlog, hnone, hcopied.1.vacant_before hbackup' hvacant]
      · exact (hremoved.log beside heq).elim hbackup' hlog
  · have hlog : logPlace copied ≠ some beside := by
      intro heq
      obtain ⟨content, hget⟩ := hcopied.2 (hmade.logHeld hheld) beside heq
      cases hvacant.symm.trans hget
    obtain ⟨hheldText, hlog'⟩ := htext hlog
    have hother := (placeOf_backup_ne hbackup d).symm
    exact ⟨(hremoved.get?_eq hother hlog').trans hheldText,
      fun heq => (hremoved.log _ heq).elim hother hlog'⟩

end HubProxy.Proofs
