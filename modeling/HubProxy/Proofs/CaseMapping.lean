import HubProxy.Proofs.Basic
import HubProxy.Text.Casing

/-!
# Letters in another case

A letter that changes its case lands where a run of the table moves it, or it becomes the characters
of an expansion. What it becomes stays clear of a range of code points if no run lands there and no
expansion holds one of them. The upper case of a letter starts with a character that is its own upper
case: no run lands on a letter that the table changes again.
-/

namespace HubProxy.Proofs

lemma inRanges_eq_false_iff {ranges : List (Nat × Nat)} {n : Nat} :
    Text.inRanges ranges n = false ↔ ∀ p ∈ ranges, n < p.1 ∨ p.2 < n := by
  simp only [Text.inRanges, List.any_eq_false, Bool.and_eq_true, decide_eq_true_eq, not_and_or,
    Nat.not_le]

lemma toNat_ofNat (n : Nat) : (Char.ofNat n).toNat = n ∨ Char.ofNat n = '\x00' := by
  by_cases hvalid : n.isValidChar
  · rw [Char.ofNat, dif_pos hvalid]
    exact .inl rfl
  · rw [Char.ofNat, dif_neg hvalid]
    exact .inr rfl

lemma forall_ascii {P : Char → Prop} (h : ∀ n < 128, P (Char.ofNat n)) {c : Char}
    (hc : c.toNat < 128) : P c := by
  have hn := h c.toNat hc
  rwa [Char.ofNat_toNat] at hn

lemma inRanges_ofNat {ranges : List (Nat × Nat)} (hzero : Text.inRanges ranges 0 = false) {n : Nat}
    (hn : Text.inRanges ranges n = false) : Text.inRanges ranges (Char.ofNat n).toNat = false := by
  rcases toNat_ofNat n with hcode | hcode
  · rwa [hcode]
  · rwa [hcode]

section Runs

variable {run : Text.CaseRun} {n : Nat}

lemma covers_iff : run.covers n = true ↔
    (run.first ≤ n ∧ n ≤ run.last) ∧ (n - run.first) % run.stride = 0 := by
  simp only [Text.CaseRun.covers, Bool.and_eq_true, decide_eq_true_eq, beq_iff_eq]

/-- The code point on which another one lands if a run moves it. -/
def landing (run : Text.CaseRun) (n : Nat) : Nat :=
  ((n : Int) + run.offset).toNat

lemma landing_bounds (hn : run.covers n = true) :
    landing run run.first ≤ landing run n ∧ landing run n ≤ landing run run.last := by
  obtain ⟨⟨hfirst, hlast⟩, -⟩ := covers_iff.mp hn
  unfold landing
  omega

/-- A run moves no letter into one of the ranges. -/
def LandsOutside (ranges : List (Nat × Nat)) (run : Text.CaseRun) : Prop :=
  ∀ p ∈ ranges, landing run run.last < p.1 ∨ p.2 < landing run run.first

instance (ranges : List (Nat × Nat)) : DecidablePred (LandsOutside ranges) :=
  fun _ => inferInstanceAs (Decidable (∀ p ∈ ranges, _ ∨ _))

lemma LandsOutside.inRanges_eq_false {ranges : List (Nat × Nat)} (h : LandsOutside ranges run)
    (hzero : Text.inRanges ranges 0 = false) (hn : run.covers n = true) :
    Text.inRanges ranges (Char.ofNat (landing run n)).toNat = false := by
  refine inRanges_ofNat hzero (inRanges_eq_false_iff.mpr fun p hp => ?_)
  have hbounds := landing_bounds hn
  have hout := h p hp
  omega

/-- The code points that a run covers. -/
def coveredCodes (run : Text.CaseRun) : List Nat :=
  List.range' run.first ((run.last - run.first) / run.stride + 1) run.stride

lemma mem_coveredCodes (hn : run.covers n = true) : n ∈ coveredCodes run := by
  obtain ⟨⟨hfirst, hlast⟩, hstep⟩ := covers_iff.mp hn
  refine List.mem_range'.mpr ⟨(n - run.first) / run.stride, ?_, ?_⟩
  · exact Nat.lt_succ_of_le (Nat.div_le_div_right (by omega))
  · rw [Nat.mul_div_cancel' (Nat.dvd_of_mod_eq_zero hstep)]
    omega

end Runs

section CodeSets

/-- The union of sets of code points, each given as a number with one bit for each code point. -/
def unionSets (sets : List Nat) : Nat :=
  sets.foldr (· ||| ·) 0

/-- The set of the code points in a list. -/
def codeSet (ns : List Nat) : Nat :=
  unionSets (ns.map (1 <<< ·))

lemma testBit_unionSets {sets : List Nat} {set n : Nat} (hset : set ∈ sets)
    (hn : set.testBit n = true) : (unionSets sets).testBit n = true := by
  induction sets with
  | nil => exact absurd hset List.not_mem_nil
  | cons first sets ih =>
    rw [unionSets, List.foldr_cons, Nat.testBit_or, Bool.or_eq_true]
    rcases List.mem_cons.mp hset with rfl | hset
    · exact .inl hn
    · exact .inr (ih hset)

lemma testBit_codeSet {ns : List Nat} {n : Nat} (hn : n ∈ ns) : (codeSet ns).testBit n = true := by
  have hbit : (1 <<< n).testBit n = true := by simp
  exact testBit_unionSets (List.mem_map_of_mem hn) hbit

end CodeSets

section Outcomes

variable {expansions : List (Nat × List Nat)} {rows : List Text.CaseRun} {c : Char}

/-- What may become of a character in another case. -/
inductive CaseOutcome (expansions : List (Nat × List Nat)) (rows : List Text.CaseRun) (c : Char) :
    List Char → Prop
  | expanded {e : Nat × List Nat} (he : e ∈ expansions) :
      CaseOutcome expansions rows c (e.2.map Char.ofNat)
  | moved {run : Text.CaseRun} (hrun : run ∈ rows) (hcovers : run.covers c.toNat = true) :
      CaseOutcome expansions rows c [Char.ofNat (landing run c.toNat)]
  | kept : CaseOutcome expansions rows c [c]

lemma CaseOutcome.cons {ds : List Char} (h : CaseOutcome expansions rows c ds)
    (run : Text.CaseRun) : CaseOutcome expansions (run :: rows) c ds := by
  cases h with
  | expanded he => exact .expanded he
  | moved hrun hcovers => exact .moved (List.mem_cons_of_mem run hrun) hcovers
  | kept => exact .kept

lemma CaseOutcome.forall_mem {P : Char → Prop} {ds : List Char}
    (h : CaseOutcome expansions rows c ds) (he : ∀ e ∈ expansions, ∀ n ∈ e.2, P (Char.ofNat n))
    (hr : ∀ run ∈ rows, ∀ n, run.covers n = true → P (Char.ofNat (landing run n)))
    (hc : P c) : ∀ d ∈ ds, P d := by
  cases h with
  | @expanded e hmem => exact List.forall_mem_map.mpr (he e hmem)
  | @moved run hrun hcovers => exact List.forall_mem_singleton.mpr (hr run hrun c.toNat hcovers)
  | kept => exact List.forall_mem_singleton.mpr hc

lemma caseOutcome_mapCase (expansions : List (Nat × List Nat)) (rows : List Text.CaseRun)
    (c : Char) : CaseOutcome expansions rows c (Text.mapCase expansions rows c) := by
  unfold Text.mapCase
  split
  · next codes hcodes =>
    obtain ⟨before, after, heq, -⟩ := List.lookup_eq_some_iff.mp hcodes
    exact .expanded (by rw [heq]; simp : (c.toNat, codes) ∈ expansions)
  · split
    · next run hrun =>
      have hcovers : run.covers c.toNat = true := by simpa using List.find?_some hrun
      exact .moved (List.mem_of_find?_eq_some hrun) hcovers
    · exact .kept

lemma mapCase_eq_self (he : ∀ e ∈ expansions, e.1 ≠ c.toNat)
    (hr : ∀ run ∈ rows, run.covers c.toNat = false) : Text.mapCase expansions rows c = [c] := by
  have hlookup : expansions.lookup c.toNat = none :=
    List.lookup_eq_none_iff.mpr fun e hmem => by simpa using (he e hmem).symm
  have hfind : rows.find? (·.covers c.toNat) = none :=
    List.find?_eq_none.mpr fun run hmem => by simp [hr run hmem]
  simp only [Text.mapCase, hlookup, hfind]

end Outcomes

section Ascii

variable {c : Char}

def smallLetters : Text.CaseRun :=
  ⟨'a'.toNat, 'z'.toNat, 1, -32⟩

def capitalLetters : Text.CaseRun :=
  ⟨'A'.toNat, 'Z'.toNat, 1, 32⟩

lemma toUpper_landing (hc : smallLetters.covers c.toNat = true) :
    c.toUpper = Char.ofNat (landing smallLetters c.toNat) := by
  have hall : ∀ n ∈ coveredCodes smallLetters,
      (Char.ofNat n).toUpper = Char.ofNat (landing smallLetters n) := by decide
  have hupper := hall c.toNat (mem_coveredCodes hc)
  rwa [Char.ofNat_toNat] at hupper

lemma toUpper_eq_self (hc : smallLetters.covers c.toNat = false) : c.toUpper = c := by
  refine dif_neg fun ⟨hfirst, hlast⟩ => ?_
  have hcovers : smallLetters.covers c.toNat = true :=
    covers_iff.mpr ⟨⟨hfirst, hlast⟩, Nat.mod_one _⟩
  exact Bool.false_ne_true (hc.symm.trans hcovers)

lemma toLower_landing (hc : capitalLetters.covers c.toNat = true) :
    c.toLower = Char.ofNat (landing capitalLetters c.toNat) := by
  have hall : ∀ n ∈ coveredCodes capitalLetters,
      (Char.ofNat n).toLower = Char.ofNat (landing capitalLetters n) := by decide
  have hlower := hall c.toNat (mem_coveredCodes hc)
  rwa [Char.ofNat_toNat] at hlower

lemma toLower_eq_self (hc : capitalLetters.covers c.toNat = false) : c.toLower = c := by
  refine dif_neg fun ⟨hfirst, hlast⟩ => ?_
  have hcovers : capitalLetters.covers c.toNat = true :=
    covers_iff.mpr ⟨⟨hfirst, hlast⟩, Nat.mod_one _⟩
  exact Bool.false_ne_true (hc.symm.trans hcovers)

/-- The runs of letters that have an upper case of one character. -/
def raisingRuns : List Text.CaseRun :=
  smallLetters :: Text.upperRows

/-- The runs of letters that have a lower case of one character. -/
def loweringRuns : List Text.CaseRun :=
  capitalLetters :: Text.lowerRows

lemma caseOutcome_upperChar (c : Char) :
    CaseOutcome Text.upperExpansions raisingRuns c (Text.upperChar c) := by
  unfold Text.upperChar
  split
  · cases hsmall : smallLetters.covers c.toNat with
    | true =>
      rw [toUpper_landing hsmall]
      exact .moved List.mem_cons_self hsmall
    | false =>
      rw [toUpper_eq_self hsmall]
      exact .kept
  · exact (caseOutcome_mapCase Text.upperExpansions Text.upperRows c).cons smallLetters

lemma caseOutcome_lowerChar (c : Char) :
    CaseOutcome Text.lowerExpansions loweringRuns c (Text.lowerChar c) := by
  unfold Text.lowerChar
  split
  · cases hcapital : capitalLetters.covers c.toNat with
    | true =>
      rw [toLower_landing hcapital]
      exact .moved List.mem_cons_self hcapital
    | false =>
      rw [toLower_eq_self hcapital]
      exact .kept
  · exact (caseOutcome_mapCase Text.lowerExpansions Text.lowerRows c).cons capitalLetters

end Ascii

section Separators

/-- The underscore, the hyphen and white space. -/
def separatorRanges : List (Nat × Nat) :=
  ('_'.toNat, '_'.toNat) :: ('-'.toNat, '-'.toNat) :: Text.blankRanges

lemma isWordSeparator_eq_inRanges (c : Char) :
    Text.isWordSeparator c = Text.inRanges separatorRanges c.toNat := by
  have hmark : ∀ d : Char, (c == d) = (decide (d.toNat ≤ c.toNat) && decide (c.toNat ≤ d.toNat)) := by
    intro d
    rw [Bool.eq_iff_iff]
    simp only [beq_iff_eq, Bool.and_eq_true, decide_eq_true_eq, ← Char.toNat_inj]
    omega
  simp only [Text.isWordSeparator, Text.isBlank, separatorRanges, Text.inRanges, List.any_cons,
    hmark, Bool.or_assoc]

lemma not_isWordSeparator_landing {rows : List Text.CaseRun}
    (hr : ∀ run ∈ rows, LandsOutside separatorRanges run) :
    ∀ run ∈ rows, ∀ n, run.covers n = true →
      Text.isWordSeparator (Char.ofNat (landing run n)) = false := by
  intro run hmem n hn
  rw [isWordSeparator_eq_inRanges]
  exact (hr run hmem).inRanges_eq_false (by decide) hn

lemma not_isWordSeparator_expanded {expansions : List (Nat × List Nat)}
    (he : ∀ e ∈ expansions, ∀ n ∈ e.2, Text.inRanges separatorRanges n = false) :
    ∀ e ∈ expansions, ∀ n ∈ e.2, Text.isWordSeparator (Char.ofNat n) = false := by
  intro e hmem n hn
  rw [isWordSeparator_eq_inRanges]
  exact inRanges_ofNat (by decide) (he e hmem n hn)

lemma not_isWordSeparator_upperChar {c : Char} (hc : Text.isWordSeparator c = false) :
    ∀ d ∈ Text.upperChar c, Text.isWordSeparator d = false :=
  (caseOutcome_upperChar c).forall_mem (not_isWordSeparator_expanded (by decide +kernel))
    (not_isWordSeparator_landing (by decide +kernel)) hc

lemma not_isWordSeparator_lowerChar {c : Char} (hc : Text.isWordSeparator c = false) :
    ∀ d ∈ Text.lowerChar c, Text.isWordSeparator d = false :=
  (caseOutcome_lowerChar c).forall_mem (not_isWordSeparator_expanded (by decide +kernel))
    (not_isWordSeparator_landing (by decide +kernel)) hc

end Separators

section UpperCase

/-- The letters whose upper case is another text, those that become several characters one by one. -/
def casedRuns : List Text.CaseRun :=
  raisingRuns ++ Text.upperExpansions.map fun e => ⟨e.1, e.1, 1, 0⟩

/-- The set of the letters whose upper case is another text. -/
def casedSet : Nat :=
  unionSets (casedRuns.map fun run => codeSet (coveredCodes run))

/-- The set of the letters on which another one lands. -/
def landedSet : Nat :=
  unionSets (raisingRuns.map fun run => codeSet ((coveredCodes run).map (landing run)))

lemma covers_eq_false {n : Nat} (hn : casedSet.testBit n = false) :
    ∀ run ∈ casedRuns, run.covers n = false := by
  intro run hmem
  refine Bool.eq_false_iff.mpr fun hcovers => Bool.eq_false_iff.mp hn ?_
  exact testBit_unionSets (List.mem_map_of_mem hmem) (testBit_codeSet (mem_coveredCodes hcovers))

lemma testBit_landedSet {run : Text.CaseRun} (hrun : run ∈ raisingRuns) {n : Nat}
    (hn : run.covers n = true) : landedSet.testBit (landing run n) = true :=
  testBit_unionSets (List.mem_map_of_mem hrun)
    (testBit_codeSet (List.mem_map_of_mem (mem_coveredCodes hn)))

/-- No letter lands on one whose upper case is another text. -/
lemma landedSet_and_casedSet : landedSet &&& casedSet = 0 := by
  -- As numbers the sets are compared in one step, and not each run with each other one.
  decide +kernel

lemma upperChar_eq_self {c : Char} (hc : ∀ run ∈ casedRuns, run.covers c.toNat = false) :
    Text.upperChar c = [c] := by
  obtain ⟨hraising, hexpansions⟩ := List.forall_mem_append.mp hc
  obtain ⟨hsmall, hrows⟩ := List.forall_mem_cons.mp hraising
  unfold Text.upperChar
  split
  · rw [toUpper_eq_self hsmall]
  · refine mapCase_eq_self (fun e hmem heq => ?_) hrows
    have hcovers := hexpansions _ (List.mem_map_of_mem hmem)
    simp [Text.CaseRun.covers, heq] at hcovers

lemma upperChar_ofNat {n : Nat} (hn : casedSet.testBit n = false) :
    Text.upperChar (Char.ofNat n) = [Char.ofNat n] := by
  rcases toNat_ofNat n with hcode | hcode
  · exact upperChar_eq_self (by rw [hcode]; exact covers_eq_false hn)
  · rw [hcode]
    rfl

lemma upperChar_landing {run : Text.CaseRun} (hrun : run ∈ raisingRuns) {n : Nat}
    (hn : run.covers n = true) :
    Text.upperChar (Char.ofNat (landing run n)) = [Char.ofNat (landing run n)] := by
  have hboth : (landedSet &&& casedSet).testBit (landing run n) = false := by
    rw [landedSet_and_casedSet, Nat.zero_testBit]
  rw [Nat.testBit_and, testBit_landedSet hrun hn, Bool.true_and] at hboth
  exact upperChar_ofNat hboth

lemma upperChar_expansion {e : Nat × List Nat} (he : e ∈ Text.upperExpansions) :
    ∃ n ns, e.2 = n :: ns ∧ Text.upperChar (Char.ofNat n) = [Char.ofNat n] := by
  have hne : ∀ e ∈ Text.upperExpansions, e.2 ≠ [] := by decide +kernel
  have hhead : ∀ e ∈ Text.upperExpansions, ∀ n ∈ e.2.head?, casedSet.testBit n = false := by
    decide +kernel
  obtain ⟨n, ns, heq⟩ := List.exists_cons_of_ne_nil (hne e he)
  exact ⟨n, ns, heq, upperChar_ofNat (hhead e he n (by simp [heq]))⟩

/-- The upper case of a character starts with one that is its own upper case. -/
lemma exists_upperChar_eq (c : Char) :
    ∃ d ds, Text.upperChar c = d :: ds ∧ Text.upperChar d = [d] := by
  have houtcome := caseOutcome_upperChar c
  generalize hupper : Text.upperChar c = ds at houtcome ⊢
  cases houtcome with
  | @expanded e he =>
    obtain ⟨n, ns, hcodes, hfirst⟩ := upperChar_expansion he
    exact ⟨Char.ofNat n, ns.map Char.ofNat, by rw [hcodes, List.map_cons], hfirst⟩
  | moved hrun hcovers => exact ⟨_, [], rfl, upperChar_landing hrun hcovers⟩
  | kept => exact ⟨c, [], rfl, hupper⟩

lemma upperChar_ne_nil (c : Char) : Text.upperChar c ≠ [] := by
  obtain ⟨d, ds, heq, -⟩ := exists_upperChar_eq c
  rw [heq]
  exact List.cons_ne_nil d ds

end UpperCase

end HubProxy.Proofs
