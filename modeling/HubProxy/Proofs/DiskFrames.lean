import HubProxy.Files.Disk
import HubProxy.Proofs.Basic

/-!
# What a change leaves as it was

A disk is compared with a later one place by place. Changes of files leave it open where a path
leads, since only directories are passed through; new directories leave every path that leads
somewhere leading there.
-/

namespace HubProxy.Proofs

/-- The place one name further on. -/
def nextPlace (place : Place) (name : String) : Place :=
  if name = ".." then place.dropLast else place ++ [name]

/-- The place that a path means if every name on the way is that of a directory. -/
def placeOf (d : Disk) (path : Path) : Place :=
  path.parts.foldl nextPlace (if path.start = .here then d.directory else [])

lemma place_of_follow {d : Disk} {path : Path} {place q : Place} {names : List String}
    (h : d.follow path place names = .ok q) : names.foldl nextPlace place = q := by
  induction names generalizing place with
  | nil => exact Except.ok.inj h
  | cons name names ih =>
    unfold Disk.follow at h
    split at h
    · cases h
    · cases h
    split at h
    · cases h
    split at h
    · next hname =>
      rw [List.foldl_cons, nextPlace, if_pos hname]
      exact ih h
    · next hname =>
      rw [List.foldl_cons, nextPlace, if_neg hname]
      exact ih h

lemma placeOf_of_locate {d : Disk} {path : Path} {q : Place} (h : d.locate path = .ok q) :
    placeOf d path = q := by
  unfold Disk.locate at h
  split at h
  · cases h
  split at h
  · cases h
  · exact place_of_follow h

/-- What can be read is a file where the path leads. -/
lemma read_eq_ok_iff {d : Disk} {path : Path} {content : ByteArray} :
    d.read path = .ok content ↔
      ∃ q, d.locate path = .ok q ∧ d.get? q = some (.file content) := by
  unfold Disk.read
  cases hq : d.locate path with
  | error e => simp [bind, Except.bind]
  | ok q =>
    cases hget : d.get? q with
    | none => simp [bind, Except.bind, hget, throw, throwThe, MonadExceptOf.throw]
    | some node =>
      cases node with
      | directory => simp [bind, Except.bind, hget, throw, throwThe, MonadExceptOf.throw]
      | file bytes => simp [bind, Except.bind, hget, pure, Except.pure]

lemma kind?_eq_file_iff {d : Disk} {path : Path} :
    d.kind? path = .ok (some .file) ↔ ∃ content, d.read path = .ok content := by
  constructor
  · intro h
    unfold Disk.kind? at h
    split at h
    · next q hq =>
      obtain ⟨node, hget, hnode⟩ := Option.map_eq_some_iff.mp (Except.ok.inj h)
      cases node with
      | directory => cases hnode
      | file content => exact ⟨content, read_eq_ok_iff.mpr ⟨q, hq, hget⟩⟩
    · cases h
    · cases h
  · rintro ⟨content, h⟩
    obtain ⟨q, hq, hget⟩ := read_eq_ok_iff.mp h
    simp [Disk.kind?, hq, hget, Node.kind]

/-- Two disks are apart in their entries only. -/
structure SameSetup (d d' : Disk) : Prop where
  directory : d'.directory = d.directory
  homes : d'.homes = d.homes
  strikes : d'.strikes = d.strikes
  log : d'.log = d.log

lemma SameSetup.refl (d : Disk) : SameSetup d d := ⟨rfl, rfl, rfl, rfl⟩

lemma SameSetup.trans {d d' d'' : Disk} (h : SameSetup d d') (h' : SameSetup d' d'') :
    SameSetup d d'' :=
  ⟨h'.directory.trans h.directory, h'.homes.trans h.homes, h'.strikes.trans h.strikes,
    h'.log.trans h.log⟩

lemma SameSetup.placeOf_eq {d d' : Disk} (h : SameSetup d d') (path : Path) :
    placeOf d' path = placeOf d path := by
  rw [placeOf, placeOf, h.directory]

/-- Only at the given places something changes, and no directory comes or goes. -/
structure ChangesFiles (places : List Place) (d d' : Disk) : Prop where
  setup : SameSetup d d'
  same : ∀ q ∉ places, d'.get? q = d.get? q
  before : ∀ q ∈ places, d.get? q ≠ some .directory
  after : ∀ q ∈ places, d'.get? q ≠ some .directory

/-- Nothing changes but that directories are made. -/
structure MakesDirectories (d d' : Disk) : Prop where
  setup : SameSetup d d'
  made : ∀ q, d'.get? q = d.get? q ∨ (d.get? q = none ∧ d'.get? q = some .directory)

section Files

variable {places more : List Place} {d d' d'' : Disk}

lemma ChangesFiles.refl (d : Disk) : ChangesFiles [] d d :=
  ⟨.refl d, fun _ _ => rfl, fun _ h => absurd h List.not_mem_nil, fun _ h => absurd h List.not_mem_nil⟩

lemma ChangesFiles.symm (h : ChangesFiles places d d') : ChangesFiles places d' d :=
  ⟨⟨h.setup.directory.symm, h.setup.homes.symm, h.setup.strikes.symm, h.setup.log.symm⟩,
    fun q hq => (h.same q hq).symm, h.after, h.before⟩

lemma ChangesFiles.trans (h : ChangesFiles places d d') (h' : ChangesFiles more d' d'') :
    ChangesFiles (places ++ more) d d'' where
  setup := h.setup.trans h'.setup
  same q hq := by
    rw [List.mem_append, not_or] at hq
    rw [h'.same q hq.2, h.same q hq.1]
  before q hq := by
    by_cases hfirst : q ∈ places
    · exact h.before q hfirst
    · rw [← h.same q hfirst]
      exact h'.before q ((List.mem_append.mp hq).resolve_left hfirst)
  after q hq := by
    by_cases hsecond : q ∈ more
    · exact h'.after q hsecond
    · rw [h'.same q hsecond]
      exact h.after q ((List.mem_append.mp hq).resolve_right hsecond)

/-- A place that is in the end as it was at first need not be counted. -/
lemma ChangesFiles.restrict (h : ChangesFiles places d d')
    (hsame : ∀ q ∈ places, q ∉ more → d'.get? q = d.get? q) (hsub : more ⊆ places) :
    ChangesFiles more d d' where
  setup := h.setup
  same q hq := by
    by_cases hp : q ∈ places
    · exact hsame q hp hq
    · exact h.same q hp
  before q hq := h.before q (hsub hq)
  after q hq := h.after q (hsub hq)

/-- A path cannot be followed, since a name on the way is not that of a directory. -/
def Blocked (path : Path) (r : Except FileError Place) : Prop :=
  r = .error (.notFound path) ∨ r = .error (.notDirectory path)

lemma blocked_of_get? {path : Path} {place : Place} {name : String} {names : List String}
    (h : d.get? place ≠ some .directory) : Blocked path (d.follow path place (name :: names)) := by
  unfold Disk.follow
  cases hp : d.get? place with
  | none => exact .inl rfl
  | some node =>
    cases node with
    | directory => exact absurd hp h
    | file content => exact .inr rfl

lemma ChangesFiles.follow (h : ChangesFiles places d d') (path : Path) (place : Place)
    (names : List String) : d'.follow path place names = d.follow path place names ∨
      (Blocked path (d.follow path place names) ∧ Blocked path (d'.follow path place names)) := by
  induction names generalizing place with
  | nil => exact .inl rfl
  | cons name names ih =>
    by_cases hp : place ∈ places
    · exact .inr ⟨blocked_of_get? (h.before place hp), blocked_of_get? (h.after place hp)⟩
    · unfold Disk.follow
      rw [h.same place hp]
      cases d.get? place with
      | none => exact .inl rfl
      | some node =>
        cases node with
        | file content => exact .inl rfl
        | directory =>
          dsimp only
          split
          · exact .inl rfl
          split
          · exact ih _
          · exact ih _

lemma ChangesFiles.locate (h : ChangesFiles places d d') (path : Path) :
    d'.locate path = d.locate path ∨
      (Blocked path (d.locate path) ∧ Blocked path (d'.locate path)) := by
  unfold Disk.locate
  rw [h.setup.directory]
  split
  · exact .inl rfl
  split
  · exact .inl rfl
  · exact h.follow path _ _

lemma ChangesFiles.locate_ok (h : ChangesFiles places d d') {path : Path} {q : Place}
    (hq : d.locate path = .ok q) : d'.locate path = .ok q := by
  rcases h.locate path with heq | ⟨hblocked, -⟩
  · exact heq.trans hq
  · rw [hq] at hblocked
    rcases hblocked with hb | hb <;> cases hb

lemma kind?_of_blocked {path : Path} (h : Blocked path (d.locate path)) :
    d.kind? path = .ok none := by
  unfold Disk.kind?
  rcases h with h | h <;> rw [h]

lemma ChangesFiles.kind?_eq (h : ChangesFiles places d d') {path : Path}
    (hpath : placeOf d path ∉ places) : d'.kind? path = d.kind? path := by
  rcases h.locate path with heq | ⟨hblocked, hblocked'⟩
  · unfold Disk.kind?
    rw [heq]
    cases hq : d.locate path with
    | error e => cases e <;> rfl
    | ok q =>
      rw [placeOf_of_locate hq] at hpath
      dsimp only
      rw [h.same q hpath]
  · rw [kind?_of_blocked hblocked, kind?_of_blocked hblocked']

lemma ChangesFiles.read_ok (h : ChangesFiles places d d') {path : Path} {content : ByteArray}
    (hpath : placeOf d path ∉ places) (hread : d.read path = .ok content) :
    d'.read path = .ok content := by
  obtain ⟨q, hq, hget⟩ := read_eq_ok_iff.mp hread
  rw [placeOf_of_locate hq] at hpath
  exact read_eq_ok_iff.mpr ⟨q, h.locate_ok hq, (h.same q hpath).trans hget⟩

end Files

section Directories

variable {d d' d'' : Disk}

lemma MakesDirectories.refl (d : Disk) : MakesDirectories d d :=
  ⟨.refl d, fun _ => .inl rfl⟩

lemma MakesDirectories.trans (h : MakesDirectories d d') (h' : MakesDirectories d' d'') :
    MakesDirectories d d'' where
  setup := h.setup.trans h'.setup
  made q := by
    rcases h.made q with heq | ⟨hnone, hmade⟩
    · rw [← heq]
      exact h'.made q
    · rcases h'.made q with heq' | ⟨hnone', -⟩
      · exact .inr ⟨hnone, heq'.trans hmade⟩
      · rw [hnone'] at hmade
        cases hmade

lemma MakesDirectories.get?_some (h : MakesDirectories d d') {q : Place} {node : Node}
    (hq : d.get? q = some node) : d'.get? q = some node := by
  rcases h.made q with heq | ⟨hnone, -⟩
  · exact heq.trans hq
  · rw [hnone] at hq
    cases hq

lemma MakesDirectories.follow_ok (h : MakesDirectories d d') {path : Path} {place q : Place}
    {names : List String} (hq : d.follow path place names = .ok q) :
    d'.follow path place names = .ok q := by
  induction names generalizing place with
  | nil => exact hq
  | cons name names ih =>
    unfold Disk.follow at hq ⊢
    cases hp : d.get? place with
    | none =>
      rw [hp] at hq
      cases hq
    | some node =>
      rw [h.get?_some hp]
      rw [hp] at hq
      cases node with
      | file content => cases hq
      | directory =>
        dsimp only at hq ⊢
        split
        · next hlong =>
          rw [if_pos hlong] at hq
          cases hq
        · next hshort =>
          rw [if_neg hshort] at hq
          split
          · next hup =>
            rw [if_pos hup] at hq
            exact ih hq
          · next hup =>
            rw [if_neg hup] at hq
            exact ih hq

lemma MakesDirectories.locate_ok (h : MakesDirectories d d') {path : Path} {q : Place}
    (hq : d.locate path = .ok q) : d'.locate path = .ok q := by
  unfold Disk.locate at hq ⊢
  rw [h.setup.directory]
  split
  · next hnull =>
    rw [if_pos hnull] at hq
    cases hq
  · next hnull =>
    rw [if_neg hnull] at hq
    split
    · next hlong =>
      rw [if_pos hlong] at hq
      cases hq
    · next hlong =>
      rw [if_neg hlong] at hq
      exact h.follow_ok hq

lemma MakesDirectories.read_ok (h : MakesDirectories d d') {path : Path} {content : ByteArray}
    (hread : d.read path = .ok content) : d'.read path = .ok content := by
  obtain ⟨q, hq, hget⟩ := read_eq_ok_iff.mp hread
  exact read_eq_ok_iff.mpr ⟨q, h.locate_ok hq, h.get?_some hget⟩

end Directories

section Changes

variable {d d' : Disk} {path : Path} {q : Place}

@[simp] lemma get?_nil (d : Disk) : d.get? [] = some .directory := if_pos rfl

lemma get?_put (hq : q ≠ []) (node : Node) (place : Place) :
    (d.put q node).get? place = if place = q then some node else d.get? place := by
  by_cases hplace : place = q
  · subst hplace
    simp [Disk.get?, Disk.put, hq]
  · simp [Disk.get?, Disk.put, hplace, lookup_cons_ne hplace, lookup_filter_ne]

lemma get?_erase (hq : q ≠ []) (place : Place) :
    (d.erase q).get? place = if place = q then none else d.get? place := by
  by_cases hplace : place = q
  · subst hplace
    simp [Disk.get?, Disk.erase, hq, lookup_filter_ne]
  · simp [Disk.get?, Disk.erase, hplace, lookup_filter_ne]

lemma ne_nil_of_get? (h : d.get? q ≠ some .directory) : q ≠ [] := by
  rintro rfl
  exact h (get?_nil d)

/-- Whatever file is put at a place, or taken from it, only this place changes. -/
lemma changesFiles_put (h : d.get? q ≠ some .directory) (content : ByteArray) :
    ChangesFiles [q] d (d.put q (.file content)) where
  setup := ⟨rfl, rfl, rfl, rfl⟩
  same place hplace := by
    rw [get?_put (ne_nil_of_get? h), if_neg (by simpa using hplace)]
  before place hplace := by
    obtain rfl := List.mem_singleton.mp hplace
    exact h
  after place hplace := by
    obtain rfl := List.mem_singleton.mp hplace
    rw [get?_put (ne_nil_of_get? h), if_pos rfl]
    simp

lemma changesFiles_erase (h : d.get? q ≠ some .directory) : ChangesFiles [q] d (d.erase q) where
  setup := ⟨rfl, rfl, rfl, rfl⟩
  same place hplace := by
    rw [get?_erase (ne_nil_of_get? h), if_neg (by simpa using hplace)]
  before place hplace := by
    obtain rfl := List.mem_singleton.mp hplace
    exact h
  after place hplace := by
    obtain rfl := List.mem_singleton.mp hplace
    rw [get?_erase (ne_nil_of_get? h), if_pos rfl]
    simp

lemma makesDirectories_put (h : d.get? q = none) : MakesDirectories d (d.put q .directory) where
  setup := ⟨rfl, rfl, rfl, rfl⟩
  made place := by
    have hfile : d.get? q ≠ some .directory := by simp [h]
    have hq : q ≠ [] := ne_nil_of_get? hfile
    rw [get?_put hq]
    by_cases hplace : place = q
    · rw [if_pos hplace, hplace]
      exact .inr ⟨h, rfl⟩
    · rw [if_neg hplace]
      exact .inl rfl

lemma make_eq_ok {node : Node} (h : d.make path node = .ok d') :
    ∃ q, d.locate path = .ok q ∧ d.get? q = none ∧ d' = d.put q node := by
  unfold Disk.make at h
  obtain ⟨q, hq, h⟩ := ok_of_bind h
  refine ⟨q, hq, ?_⟩
  cases hget : d.get? q with
  | some node' =>
    rw [hget] at h
    cases h
  | none =>
    rw [hget] at h
    exact ⟨rfl, (Except.ok.inj h).symm⟩

lemma write_eq_ok {content : ByteArray} (h : d.write path content = .ok d') :
    ∃ q, d.locate path = .ok q ∧ d.get? q ≠ some .directory ∧ d' = d.put q (.file content) := by
  unfold Disk.write at h
  obtain ⟨q, hq, h⟩ := ok_of_bind h
  refine ⟨q, hq, ?_⟩
  cases hget : d.get? q with
  | none =>
    rw [hget] at h
    exact ⟨by simp, (Except.ok.inj h).symm⟩
  | some node =>
    rw [hget] at h
    cases node with
    | directory => cases h
    | file old => exact ⟨by simp, (Except.ok.inj h).symm⟩

lemma remove_eq_ok (h : d.remove path = .ok d') :
    ∃ q content, d.locate path = .ok q ∧ d.get? q = some (.file content) ∧
      d' = (d.erase q).moveLog q none := by
  unfold Disk.remove at h
  obtain ⟨q, hq, h⟩ := ok_of_bind h
  cases hget : d.get? q with
  | none =>
    rw [hget] at h
    cases h
  | some node =>
    rw [hget] at h
    cases node with
    | directory => cases h
    | file content => exact ⟨q, content, hq, hget, (Except.ok.inj h).symm⟩

/-- A file that takes the place of another one leaves its own, and so does an open log. -/
lemma replace_eq_ok {source target : Path} (h : d.replace source target = .ok d') :
    ∃ here there content, d.locate source = .ok here ∧ d.get? here = some (.file content) ∧
      d.locate target = .ok there ∧ d.get? there ≠ some .directory ∧
      ((here = there ∧ d' = d) ∨ (here ≠ there ∧
        d' = (((d.moveLog there none).moveLog here (some there)).erase here).put there
          (.file content))) := by
  unfold Disk.replace at h
  obtain ⟨content, hread, h⟩ := ok_of_bind h
  obtain ⟨here, hhere, h⟩ := ok_of_bind h
  obtain ⟨there, hthere, h⟩ := ok_of_bind h
  obtain ⟨here', hhere', hfile⟩ := read_eq_ok_iff.mp hread
  obtain rfl := Except.ok.inj (hhere'.symm.trans hhere)
  dsimp only at h
  split at h
  · cases h
  · next hkind =>
    have hthereFile : d.get? there ≠ some .directory := fun hdirectory => hkind (by rw [hdirectory]; rfl)
    refine ⟨here', there, content, hhere, hfile, hthere, hthereFile, ?_⟩
    split at h
    · next hsame => exact .inl ⟨hsame, (Except.ok.inj h).symm⟩
    · next hother => exact .inr ⟨hother, (Except.ok.inj h).symm⟩

end Changes

end HubProxy.Proofs
