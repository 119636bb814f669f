import HubProxy.CSharp.Keyword
import HubProxy.CSharp.Scan
import HubProxy.Proofs.SourceTokens

/-!
# Reading pieces of source

The scanner looks a few tokens ahead, so what it finds in a piece of text depends on what follows.
`Reads S cs names arrays C` says of a piece that before anything that satisfies `C` the scanner finds
these names and arrays in it and no namespace, and that the tokens from it on satisfy `S`. Pieces are
composed by matching the conditions.
-/

namespace HubProxy.Proofs

open CSharp

/-- What may follow any word without being taken together with it. -/
def Stop : List Token → Prop
  | .mark c :: _ | .blank :: .mark c :: _ => c ≠ '[' ∧ c ≠ '@'
  | _ => False

/-- What may follow a word that opens nothing. -/
def Apart (ts : List Token) : Prop :=
  startsWord ts = false ∧ rankOf ts = 0

/-- What may follow white space. -/
def Solid : List Token → Prop
  | [] | .word _ :: _ => True
  | .mark c :: _ => c ≠ '['
  | .blank :: _ => False

/-- White space and what may follow it. -/
def Spaced : List Token → Prop
  | .blank :: ts => Solid ts
  | _ => False

/-- A mark that is neither part of an array nor of a verbatim name. -/
def Marked : List Token → Prop
  | .mark c :: _ => c ≠ '[' ∧ c ≠ '@'
  | _ => False

def Anything (_ : List Token) : Prop :=
  True

lemma Stop.apart {ts : List Token} (h : Stop ts) : Apart ts := by
  unfold Stop at h
  split at h
  · exact ⟨rfl, by rw [rankOf] <;> simp [h.1]⟩
  · exact ⟨rfl, by rw [rankOf] <;> simp [h.1]⟩
  · exact h.elim

lemma Spaced.apart {ts : List Token} (h : Spaced ts) : Apart ts := by
  unfold Spaced at h
  split at h
  · next ts =>
    unfold Solid at h
    split at h
    · exact ⟨rfl, rfl⟩
    · exact ⟨rfl, by rw [rankOf] <;> simp⟩
    · exact ⟨rfl, by rw [rankOf] <;> simp [h]⟩
    · exact h.elim
  · exact h.elim

lemma Solid.not_startsBlank {ts : List Token} (h : Solid ts) : startsBlank ts = false := by
  cases ts with
  | nil => rfl
  | cons t ts =>
    cases t with
    | blank => exact h.elim
    | _ => rfl

lemma Spaced.startsBlank {ts : List Token} (h : Spaced ts) : startsBlank ts = true := by
  unfold Spaced at h
  split at h
  · rfl
  · exact h.elim

lemma Marked.stop {ts : List Token} (h : Marked ts) : Stop ts := by
  unfold Marked at h
  split at h
  · exact h
  · exact h.elim

lemma Marked.apart {ts : List Token} (h : Marked ts) : Apart ts :=
  h.stop.apart

lemma Marked.solid {ts : List Token} (h : Marked ts) : Solid ts := by
  unfold Marked at h
  split at h
  · exact h.1
  · exact h.elim

/-- What the scanner finds in tokens before others that satisfy a condition. -/
structure Scans (ts : List Token) (names arrays : List String) (C : List Token → Prop) :
    Prop where
  declarations : ∀ after, C after →
    declarationsFrom 0 (ts ++ after) = names ++ declarationsFrom 0 after
  arrays : ∀ after, C after → arraysFrom (ts ++ after) = arrays ++ arraysFrom after
  regions : ∀ found after, C after → regionsFrom found (ts ++ after) = regionsFrom found after
  block : ∀ depth after, block depth (ts ++ after) = ts ++ block depth after

lemma scans_nil (C : List Token → Prop) : Scans [] [] [] C :=
  ⟨fun _ _ => rfl, fun _ _ => rfl, fun _ _ _ => rfl, fun _ _ => rfl⟩

lemma Scans.append {s t : List Token} {n n' a a' : List String} {M C : List Token → Prop}
    (hs : Scans s n a M) (ht : Scans t n' a' C) (hM : ∀ after, C after → M (t ++ after)) :
    Scans (s ++ t) (n ++ n') (a ++ a') C where
  declarations after h := by
    rw [List.append_assoc, hs.declarations _ (hM after h), ht.declarations after h,
      List.append_assoc]
  arrays after h := by
    rw [List.append_assoc, hs.arrays _ (hM after h), ht.arrays after h, List.append_assoc]
  regions found after h := by
    rw [List.append_assoc, hs.regions found _ (hM after h), ht.regions found after h]
  block depth after := by
    rw [List.append_assoc, hs.block, ht.block, List.append_assoc]

lemma declarationsFrom_cons {t : Token} {rest : List Token} (h : declaration? (t :: rest) = none) :
    declarationsFrom 0 (t :: rest) = declarationsFrom 0 rest := by
  rw [declarationsFrom, h]

lemma declarationsFrom_skip (front after : List Token) :
    declarationsFrom front.length (front ++ after) = declarationsFrom 0 after := by
  induction front with
  | nil => rfl
  | cons t front ih => exact ih

lemma declarationsFrom_declares {t : Token} {front after : List Token} {name : String}
    (h : declaration? (t :: (front ++ after)) = some (name, after)) :
    declarationsFrom 0 (t :: (front ++ after)) = name :: declarationsFrom 0 after := by
  rw [declarationsFrom, h]
  simp only [List.length_append, Nat.add_sub_cancel, declarationsFrom_skip]

lemma regionsFrom_cons {t : Token} {rest : List Token} (h : header? (t :: rest) = none)
    (found : List Region) : regionsFrom found (t :: rest) = regionsFrom found rest := by
  rw [regionsFrom, h]

lemma arraysFrom_word {w : String} {rest : List Token} (h : rankOf rest = 0) :
    arraysFrom (.word w :: rest) = arraysFrom rest := by
  rw [arraysFrom, h]
  simp

lemma arraysFrom_word_word (w v : String) (rest : List Token) :
    arraysFrom (.word w :: .blank :: .word v :: rest) = arraysFrom (.word v :: rest) :=
  arraysFrom_word (by rw [rankOf] <;> simp)

lemma regionsFrom_word_word {w : String} (hw : w ≠ "namespace") (found : List Region) (v : String)
    (rest : List Token) : regionsFrom found (.word w :: .blank :: .word v :: rest) =
      regionsFrom found (.word v :: rest) := by
  have hnone : header? (.word w :: .blank :: .word v :: rest) = none := by
    rw [header?]
    intro _ _ h
    exact hw (Token.word.inj (List.cons.inj h).1)
  exact (regionsFrom_cons hnone found).trans (regionsFrom_cons rfl found)

lemma block_word (depth : Nat) (w : String) (rest : List Token) :
    block depth (.word w :: rest) = .word w :: block depth rest := by
  cases depth <;> rfl

lemma block_blank (depth : Nat) (rest : List Token) :
    block depth (.blank :: rest) = .blank :: block depth rest := by
  cases depth <;> rfl

lemma block_mark (depth : Nat) {c : Char} (ho : c ≠ '\x7b') (hc : c ≠ '\x7d')
    (rest : List Token) : block depth (.mark c :: rest) = .mark c :: block depth rest := by
  cases depth <;> rw [block] <;> simp [ho, hc]

lemma scans_mark {c : Char} (ho : c ≠ '\x7b') (hc : c ≠ '\x7d') (C : List Token → Prop) :
    Scans [.mark c] [] [] C where
  declarations _ _ := declarationsFrom_cons rfl
  arrays _ _ := rfl
  regions found _ _ := regionsFrom_cons rfl found
  block depth after := block_mark depth ho hc after

lemma scans_blank (C : List Token → Prop) : Scans [.blank] [] [] C where
  declarations _ _ := declarationsFrom_cons rfl
  arrays _ _ := rfl
  regions found _ _ := regionsFrom_cons rfl found
  block depth after := block_blank depth after

/-- A word that opens neither a declaration nor a namespace. -/
def Plain (w : String) : Prop :=
  w ∉ declarationWords ∧ w ≠ "namespace"

instance : DecidablePred Plain :=
  fun w => inferInstanceAs (Decidable (w ∉ declarationWords ∧ w ≠ "namespace"))

lemma declaration?_plain {w : String} (hw : Plain w) (rest : List Token) :
    declaration? (.word w :: rest) = none := by
  cases rest with
  | nil => rfl
  | cons t rest =>
    cases t with
    | blank => simp [declaration?, hw.1]
    | _ => rfl

lemma header?_plain {w : String} (hw : Plain w) (rest : List Token) :
    header? (.word w :: rest) = none := by
  rw [header?]
  intro first after h
  exact absurd (Token.word.inj (List.cons.inj h).1) hw.2

lemma declaration?_stop (w : String) {rest : List Token} (h : Stop rest) :
    declaration? (.word w :: rest) = none := by
  unfold Stop at h
  split at h
  · rfl
  · simp [declaration?, name?, h.2]
  · exact h.elim

lemma header?_stop (w : String) {rest : List Token} (h : Stop rest) :
    header? (.word w :: rest) = none := by
  unfold Stop at h
  split at h
  · rw [header?]
    simp
  · rw [header?]
    simp
  · exact h.elim

lemma scans_plain {w : String} (hw : Plain w) : Scans [.word w] [] [] Apart where
  declarations after _ := declarationsFrom_cons (declaration?_plain hw after)
  arrays _ h := arraysFrom_word h.2
  regions found after _ := regionsFrom_cons (header?_plain hw after) found
  block depth after := block_word depth w after

lemma scans_word (w : String) : Scans [.word w] [] [] Stop where
  declarations _ h := declarationsFrom_cons (declaration?_stop w h)
  arrays _ h := arraysFrom_word h.apart.2
  regions found _ h := regionsFrom_cons (header?_stop w h) found
  block depth after := block_word depth w after

def bracketTokens : Nat → List Token
  | 0 => []
  | rank + 1 => .mark '[' :: .mark ']' :: bracketTokens rank

lemma rankOf_bracketTokens (rank : Nat) {after : List Token} (h : rankOf after = 0) :
    rankOf (bracketTokens rank ++ after) = rank := by
  induction rank with
  | zero => exact h
  | succ rank ih => rw [bracketTokens, List.cons_append, List.cons_append, rankOf, ih]

lemma scans_brackets (rank : Nat) (C : List Token → Prop) : Scans (bracketTokens rank) [] [] C := by
  induction rank with
  | zero => exact scans_nil C
  | succ rank ih =>
    have hopen : Scans [.mark '['] [] [] Anything := scans_mark (by decide) (by decide) _
    have hclose : Scans [.mark ']'] [] [] Anything := scans_mark (by decide) (by decide) _
    exact hopen.append (hclose.append ih fun _ _ => trivial) fun _ _ => trivial

/-- The names of the arrays over a base up to a rank. -/
def arrayNames (base : String) (rank : Nat) : List String :=
  (List.range rank).map fun k => arrayName base (k + 1)

lemma scans_array {w : String} (hw : Plain w) (hn : isName w = true) (rank : Nat) :
    Scans (.word w :: bracketTokens rank) [] (arrayNames w rank) Apart where
  declarations after h := by
    rw [List.cons_append, declarationsFrom_cons (declaration?_plain hw _)]
    exact (scans_brackets rank Apart).declarations after h
  arrays after h := by
    rw [List.cons_append, arraysFrom, rankOf_bracketTokens rank h.2, if_pos hn,
      (scans_brackets rank Apart).arrays after h]
    rfl
  regions found after h := by
    rw [List.cons_append, regionsFrom_cons (header?_plain hw _)]
    exact (scans_brackets rank Apart).regions found after h
  block depth after := by
    rw [List.cons_append, block_word, (scans_brackets rank Apart).block]
    rfl

lemma declaration?_declares {opener w : String} (ho : opener ∈ declarationWords) (hw : Plain w)
    (hn : isName w = true) (after : List Token) :
    declaration? (.word opener :: .blank :: .word w :: after) = some (w, after) := by
  have hname : name? (.word w :: after) = some (w, after) := by simp [name?, hn]
  have hsecond : ¬(w = "class" ∨ w = "struct") := by
    rintro (rfl | rfl) <;> exact hw.1 (by decide)
  cases after with
  | nil => simp [declaration?, ho, hname]
  | cons t after =>
    cases t with
    | blank => simp [declaration?, ho, hname, hsecond]
    | _ => simp [declaration?, ho, hname]

lemma scans_declaration {opener w : String} (ho : opener ∈ declarationWords) (hw : Plain w)
    (hn : isName w = true) : Scans [.word opener, .blank, .word w] [w] [] Apart where
  declarations after _ :=
    @declarationsFrom_declares (.word opener) [.blank, .word w] after w
      (declaration?_declares ho hw hn after)
  arrays after h := (arraysFrom_word_word opener w after).trans (arraysFrom_word h.2)
  regions found after _ := by
    have hopener : opener ≠ "namespace" := by
      rintro rfl
      revert ho
      decide
    exact (regionsFrom_word_word hopener found w after).trans
      (regionsFrom_cons (header?_plain hw after) found)
  block depth after := by
    simp only [List.cons_append, List.nil_append, block_word, block_blank]

/-- Reading a piece of source: before anything that satisfies `C` the scanner finds the names and
arrays in it and no namespace, and the tokens from the piece on satisfy `S`. -/
def Reads (S : List Token → Prop) (s : String) (names arrays : List String)
    (C : List Token → Prop) : Prop :=
  ∃ ts, (∀ rest, C (code rest) → code (s.toList ++ rest) = ts ++ code rest) ∧
    (∀ after, C after → S (ts ++ after)) ∧ Scans ts names arrays C

lemma reads_empty (C : List Token → Prop) : Reads C "" [] [] C :=
  ⟨[], fun _ _ => rfl, fun _ h => h, scans_nil C⟩

lemma Reads.append {S M M' C : List Token → Prop} {s t : String} {n n' a a' : List String}
    (hs : Reads S s n a M) (ht : Reads M' t n' a' C) (hM : ∀ {ts}, M' ts → M ts) :
    Reads S (s ++ t) (n ++ n') (a ++ a') C := by
  obtain ⟨ts, hts, hS, hscan⟩ := hs
  obtain ⟨us, hus, hM', hscan'⟩ := ht
  have hmid : ∀ after, C after → M (us ++ after) := fun after h => hM (hM' after h)
  refine ⟨ts ++ us, fun rest h => ?_, fun after h => ?_, hscan.append hscan' hmid⟩
  · have hcode := hus rest h
    have hM'' : M (code (t.toList ++ rest)) := by
      rw [hcode]
      exact hmid _ h
    rw [String.toList_append, List.append_assoc, hts _ hM'', hcode, List.append_assoc]
  · rw [List.append_assoc]
    exact hS _ (hmid after h)

lemma Scans.mono {ts : List Token} {n a : List String} {C C' : List Token → Prop}
    (h : Scans ts n a C) (hC : ∀ {ts}, C' ts → C ts) : Scans ts n a C' :=
  ⟨fun after h' => h.declarations after (hC h'), fun after h' => h.arrays after (hC h'),
    fun found after h' => h.regions found after (hC h'), h.block⟩

lemma Reads.mono {S S' C C' : List Token → Prop} {s : String} {n a : List String}
    (h : Reads S s n a C) (hS : ∀ {ts}, S ts → S' ts) (hC : ∀ {ts}, C' ts → C ts) :
    Reads S' s n a C' := by
  obtain ⟨ts, hts, hstarts, hscan⟩ := h
  exact ⟨ts, fun rest h' => hts rest (hC h'), fun after h' => hS (hstarts after (hC h')),
    hscan.mono hC⟩

lemma Reads.anywhere {S : List Token → Prop} {s : String} {n a : List String}
    (h : Reads S s n a Anything) (C : List Token → Prop) : Reads S s n a C :=
  h.mono id fun _ => trivial

/-- The marks that stand between the words of generated source. -/
def separators : List Char :=
  [';', ',', '(', ')', '.', '<', '>', '=']

lemma reads_separator (c : Char) (hc : c ∈ separators) :
    Reads Marked (String.singleton c) [] [] Anything := by
  have hclass : ∀ c ∈ separators, isMark c = true ∧ c ∉ opening ∧ c ≠ '\x7b' ∧ c ≠ '\x7d' ∧
      c ≠ '[' ∧ c ≠ '@' := by decide
  obtain ⟨hmark, hopen, hleft, hright, hmarked⟩ := hclass c hc
  refine ⟨[.mark c], fun rest _ => ?_, fun _ _ => hmarked, scans_mark hleft hright _⟩
  rw [String.toList_singleton]
  exact code_mark hmark hopen rest

lemma reads_spaces {s : String} (hne : s.toList ≠ []) (hs : ∀ c ∈ s.toList, IsSpace c) :
    Reads Spaced s [] [] Solid := by
  refine ⟨[.blank], fun rest h => ?_, fun _ h => h, scans_blank _⟩
  rw [code_spaces hne hs, consBlank_eq_cons h.not_startsBlank]
  rfl

lemma reads_spaces_marked {s : String} (hne : s.toList ≠ []) (hs : ∀ c ∈ s.toList, IsSpace c) :
    Reads (fun ts => Stop ts ∧ Spaced ts) s [] [] Marked := by
  refine ⟨[.blank], fun rest h => ?_, fun after h => ?_, scans_blank _⟩
  · rw [code_spaces hne hs, consBlank_eq_cons h.solid.not_startsBlank]
    rfl
  · refine ⟨?_, h.solid⟩
    unfold Marked at h
    split at h
    · exact h
    · exact h.elim

/-- A name of the target language: an ASCII letter or an underscore, then word characters. -/
def IsIdentifier (w : String) : Prop :=
  isName w = true ∧ ∀ c ∈ w.toList, Text.isWord c = true

instance : DecidablePred IsIdentifier :=
  fun w => inferInstanceAs (Decidable (isName w = true ∧ ∀ c ∈ w.toList, Text.isWord c = true))

lemma IsIdentifier.ne_nil {w : String} (h : IsIdentifier w) : w.toList ≠ [] := by
  intro hnil
  have hname := h.1
  rw [isName, hnil] at hname
  cases hname

def IsWord (w : String) : Prop :=
  w.toList ≠ [] ∧ ∀ c ∈ w.toList, Text.isWord c = true

instance : DecidablePred IsWord :=
  fun w => inferInstanceAs (Decidable (w.toList ≠ [] ∧ ∀ c ∈ w.toList, Text.isWord c = true))

lemma IsIdentifier.isWord {w : String} (h : IsIdentifier w) : IsWord w :=
  ⟨h.ne_nil, h.2⟩

lemma code_word_of_startsWord {w : String} (hne : w.toList ≠ [])
    (hw : ∀ c ∈ w.toList, Text.isWord c = true) {rest : List Char}
    (hrest : startsWord (code rest) = false) : code (w.toList ++ rest) = .word w :: code rest := by
  rw [code_word hne hw hrest, String.ofList_toList]

lemma reads_plain {w : String} (hw : IsIdentifier w ∧ Plain w) : Reads Solid w [] [] Apart :=
  ⟨[.word w], fun _ h => code_word_of_startsWord hw.1.ne_nil hw.1.2 h.1, fun _ _ => trivial,
    scans_plain hw.2⟩

lemma reads_word {w : String} (hne : w.toList ≠ []) (hw : ∀ c ∈ w.toList, Text.isWord c = true) :
    Reads Solid w [] [] Stop :=
  ⟨[.word w], fun _ h => code_word_of_startsWord hne hw h.apart.1, fun _ _ => trivial,
    scans_word w⟩

lemma reads_escapeIdentifier {w : String} (hne : w.toList ≠ [])
    (hw : ∀ c ∈ w.toList, Text.isWord c = true) :
    Reads Solid (escapeIdentifier w) [] [] Stop := by
  unfold escapeIdentifier
  split
  · have hat : Scans [.mark '@'] [] [] Anything := scans_mark (by decide) (by decide) _
    refine ⟨[.mark '@', .word w], fun rest h => ?_, fun _ _ => by simp [Solid],
      hat.append (scans_word w) fun _ _ => trivial⟩
    have hat : ("@" ++ w).toList = '@' :: w.toList := by simp
    rw [hat, List.cons_append, code_escaped hw rest hne,
      code_word_of_startsWord hne hw h.apart.1]
    rfl
  · exact reads_word hne hw

lemma reads_declaration {opener w : String} (ho : opener ∈ declarationWords) (hw : IsIdentifier w)
    (hplain : Plain w) : Reads Solid (opener ++ " " ++ w) [w] [] Apart := by
  have hopener : IsIdentifier opener := by
    have hall : ∀ opener ∈ declarationWords, isName opener = true ∧
        ∀ c ∈ opener.toList, Text.isWord c = true := by decide
    exact hall opener ho
  refine ⟨[.word opener, .blank, .word w], fun rest h => ?_, fun _ _ => trivial,
    scans_declaration ho hplain hw.1⟩
  have hlast := code_word_of_startsWord hw.ne_nil hw.2 h.1
  have hspace : code (" ".toList ++ (w.toList ++ rest)) = .blank :: .word w :: code rest := by
    rw [code_spaces (by decide) (by decide), hlast]
    rfl
  rw [String.toList_append, String.toList_append, List.append_assoc, List.append_assoc,
    code_word_of_startsWord hopener.ne_nil hopener.2 (by rw [hspace]; rfl), hspace]
  rfl

def brackets : Nat → String
  | 0 => ""
  | rank + 1 => "[]" ++ brackets rank

lemma brackets_toList_succ (rank : Nat) :
    (brackets (rank + 1)).toList = '[' :: ']' :: (brackets rank).toList := by
  simp [brackets]

lemma mem_brackets {rank : Nat} {c : Char} (h : c ∈ (brackets rank).toList) : c = '[' ∨ c = ']' := by
  induction rank with
  | zero => cases h
  | succ rank ih =>
    rw [brackets_toList_succ, List.mem_cons, List.mem_cons] at h
    rcases h with rfl | rfl | h
    · exact .inl rfl
    · exact .inr rfl
    · exact ih h

lemma tokens_brackets (rank : Nat) (rest : List Char) :
    tokens ((brackets rank).toList ++ rest) = bracketTokens rank ++ tokens rest := by
  induction rank with
  | zero => rfl
  | succ rank ih =>
    rw [brackets_toList_succ, List.cons_append, List.cons_append, tokens, if_neg (by decide),
      if_neg (by decide), tokens, if_neg (by decide), if_neg (by decide), ih]
    rfl

lemma code_brackets (rank : Nat) (rest : List Char) :
    code ((brackets rank).toList ++ rest) = bracketTokens rank ++ code rest := by
  have hopening : ∀ c ∈ (brackets rank).toList, c ∉ opening := by
    intro c hc
    rcases mem_brackets hc with rfl | rfl <;> decide
  rw [code, stripFrom_append hopening, tokens_brackets, code]

lemma reads_array {w : String} (hw : IsIdentifier w) (hplain : Plain w) (rank : Nat) :
    Reads Solid (w ++ brackets rank) [] (arrayNames w rank) Apart := by
  refine ⟨.word w :: bracketTokens rank, fun rest h => ?_, fun _ _ => trivial,
    scans_array hplain hw.1 rank⟩
  have hbrackets := code_brackets rank rest
  have hstart : startsWord (code ((brackets rank).toList ++ rest)) = false := by
    rw [hbrackets]
    cases rank with
    | zero => exact h.1
    | succ rank => rfl
  rw [String.toList_append, List.append_assoc, code_word_of_startsWord hw.ne_nil hw.2 hstart,
    hbrackets]
  rfl

lemma reads_literal {w : String} (hw : ∀ c ∈ w.toList, Text.isWord c = true) :
    Reads Anything ("\"" ++ w ++ "\"") [] [] Marked := by
  refine ⟨[.blank], fun rest h => ?_, fun _ _ => trivial, scans_blank _⟩
  have hcons : ("\"" ++ w ++ "\"").toList ++ rest = '"' :: (w.toList ++ '"' :: rest) := by simp
  rw [hcons, code_literal hw, consBlank_eq_cons h.solid.not_startsBlank]
  rfl

/-- A block whose inside can be read is read as a whole. -/
lemma reads_braces {S C : List Token → Prop} {s : String} {n a : List String}
    (h : Reads S s n a C) (hC : ∀ after, C (.mark '\x7d' :: after)) :
    Reads Marked ("\x7b" ++ s ++ "\x7d") n a Anything := by
  obtain ⟨ts, hts, -, hscan⟩ := h
  refine ⟨.mark '\x7b' :: (ts ++ [.mark '\x7d']), fun rest _ => ?_, fun _ _ => by simp [Marked], ?_⟩
  · have hclose : code ('\x7d' :: rest) = .mark '\x7d' :: code rest :=
      code_mark (by decide) (by decide) rest
    have hcons : ("\x7b" ++ s ++ "\x7d").toList ++ rest = '\x7b' :: (s.toList ++ '\x7d' :: rest) := by
      simp
    rw [hcons, code_mark (by decide) (by decide), hts _ (by rw [hclose]; exact hC _), hclose]
    simp
  · constructor
    · intro after _
      have hin := hscan.declarations (.mark '\x7d' :: after) (hC after)
      rw [declarationsFrom_cons rfl] at hin
      rw [List.cons_append, declarationsFrom_cons rfl, List.append_assoc]
      exact hin
    · intro after _
      have hin := hscan.arrays (.mark '\x7d' :: after) (hC after)
      rw [List.cons_append, List.append_assoc]
      exact hin
    · intro found after _
      have hin := hscan.regions found (.mark '\x7d' :: after) (hC after)
      rw [regionsFrom_cons rfl] at hin
      rw [List.cons_append, regionsFrom_cons rfl, List.append_assoc]
      exact hin
    · intro depth after
      have hin := hscan.block (depth + 1) (.mark '\x7d' :: after)
      have hopen : ∀ rest, block depth (.mark '\x7b' :: rest) =
          .mark '\x7b' :: block (depth + 1) rest := fun rest => by cases depth <;> rfl
      have hcons : .mark '\x7b' :: (ts ++ [.mark '\x7d']) ++ after =
          .mark '\x7b' :: (ts ++ .mark '\x7d' :: after) := by simp
      rw [hcons, hopen, hin, block]
      simp

end HubProxy.Proofs
