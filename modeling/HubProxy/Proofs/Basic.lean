import Mathlib.Data.List.Forall2

/-!
# Results and lists

Facts about results that may be errors and about lists of entries, and how a condition on the characters
of a text is decided.
-/

namespace HubProxy.Proofs

/-- A condition on all characters of a text is decided by going through the text. -/
instance (priority := high) decidableForallMem (cs : List Char) (P : Char → Prop)
    [DecidablePred P] : Decidable (∀ c ∈ cs, P c) :=
  List.decidableBAll P cs

lemma ok_bind (a : α) (f : α → Except ε β) : (Except.ok a >>= f) = f a := rfl

lemma ok_of_bind {x : Except ε α} {f : α → Except ε β} {b : β} (h : (x >>= f) = .ok b) :
    ∃ a, x = .ok a ∧ f a = .ok b := by
  cases x with
  | error e => cases h
  | ok a => exact ⟨a, rfl, h⟩

lemma error_of_bind {x : Except ε α} {f : α → Except ε β} {e : ε} (h : (x >>= f) = .error e) :
    x = .error e ∨ ∃ a, x = .ok a ∧ f a = .error e := by
  cases x with
  | error e' =>
    obtain rfl := Except.error.inj h
    exact .inl rfl
  | ok a => exact .inr ⟨a, rfl, h⟩

lemma error_of_mapM {f : α → Except ε β} {l : List α} {e : ε} (h : l.mapM f = .error e) :
    ∃ a ∈ l, f a = .error e := by
  induction l with
  | nil => cases h
  | cons a l ih =>
    rw [List.mapM_cons] at h
    rcases error_of_bind h with ha | ⟨b, -, h⟩
    · exact ⟨a, List.mem_cons_self, ha⟩
    rcases error_of_bind h with hl | ⟨bs, -, h⟩
    · obtain ⟨x, hx, hfail⟩ := ih hl
      exact ⟨x, List.mem_cons_of_mem a hx, hfail⟩
    · cases h

lemma mapM_eq_ok {f : α → Except ε β} {l : List α} {m : List β}
    (h : List.Forall₂ (fun a b => f a = .ok b) l m) : l.mapM f = .ok m := by
  induction h with
  | nil => rfl
  | cons ha _ ih =>
    rw [List.mapM_cons, ha, ih]
    rfl

lemma eq_ok_of_toOption {x : Except ε α} {a : α} (h : x.toOption = some a) : x = .ok a := by
  cases x with
  | error e => cases h
  | ok b => exact congrArg Except.ok (Option.some.inj h)

lemma lookup_cons_ne [BEq κ] [LawfulBEq κ] {n name : κ} (hn : n ≠ name) (a : α)
    (l : List (κ × α)) : ((name, a) :: l).lookup n = l.lookup n := by
  rw [List.lookup_cons, beq_false_of_ne hn]

lemma lookup_filter_ne [BEq κ] [LawfulBEq κ] [DecidableEq κ] (l : List (κ × α)) (name n : κ) :
    (l.filter (·.1 != name)).lookup n = if n = name then none else l.lookup n := by
  induction l with
  | nil => simp
  | cons p l ih =>
    obtain ⟨m, a⟩ := p
    by_cases hm : m = name
    · subst m
      by_cases hn : n = name
      · simpa [hn] using ih
      · simpa [hn, lookup_cons_ne hn] using ih
    · rw [List.filter_cons_of_pos (by simpa using hm)]
      by_cases hnm : n = m
      · subst n
        simp [hm]
      · rw [lookup_cons_ne hnm, lookup_cons_ne hnm, ih]

lemma lookup_of_mem [BEq κ] [LawfulBEq κ] {l : List (κ × α)} (hl : (l.map (·.1)).Nodup)
    {p : κ × α} (hp : p ∈ l) : l.lookup p.1 = some p.2 := by
  induction l with
  | nil => exact absurd hp List.not_mem_nil
  | cons q l ih =>
    rw [List.map_cons, List.nodup_cons] at hl
    rcases List.mem_cons.mp hp with rfl | hp
    · exact List.lookup_cons_self
    · rw [lookup_cons_ne (ne_of_mem_of_not_mem (List.mem_map_of_mem hp) hl.1), ih hl.2 hp]

lemma forall₂_mem_right {R : α → β → Prop} {l : List α} {m : List β} (h : List.Forall₂ R l m) :
    List.Forall₂ (fun a b => b ∈ m ∧ R a b) l m :=
  ((List.forall₂_and_left m l).mpr ⟨fun _ hb => hb, h.flip⟩).flip

lemma exists_of_forall₂ {R : α → β → Prop} {l : List α} {m : List β} (h : List.Forall₂ R l m) {b : β}
    (hb : b ∈ m) : ∃ a ∈ l, R a b := by
  induction h with
  | nil => exact absurd hb List.not_mem_nil
  | cons hab _ ih =>
    rcases List.mem_cons.mp hb with rfl | hb
    · exact ⟨_, List.mem_cons_self, hab⟩
    · obtain ⟨a, ha, hab⟩ := ih hb
      exact ⟨a, List.mem_cons_of_mem _ ha, hab⟩

end HubProxy.Proofs
