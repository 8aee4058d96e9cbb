/-!
# Amending a list

`amend p f new l` changes the first element of `l` that satisfies `p`, and appends `new` if there
is none. With a test for an identity it keeps a list in which every identity occurs once, in the
order in which identities were met.

* `amend_of_forall_not`: without a match the list grows at its end.
* `map_amend`: keys that `f` keeps change only by the appended one.
* `map_amend_eq`: amending in another form of the elements.
* `nodup_map_amend`: keys that the test tells apart stay distinct.
* `filter_amend`: what neither matches nor is new is as it was.
* `mem_of_mem_amend`, `eq_of_mem_amend`, `mem_or_eq_of_mem_amend`: where an element comes from.
* `amend_eq_map`: where a key occurs, its element changes and no other.
* `mem_map_foldl`: the keys after several steps that add one each.
* `map_amend_eraseDups`, `map_foldl_eraseDups`: in the order in which they were first met.
-/
namespace Forager

variable {α β : Type}

def amend (p : α → Bool) (f : α → α) (new : α) : List α → List α
  | [] => [new]
  | a :: l => if p a then f a :: l else a :: amend p f new l

theorem amend_of_forall_not {p : α → Bool} {f : α → α} {new : α} {l : List α}
    (h : ∀ a ∈ l, p a = false) : amend p f new l = l ++ [new] := by
  induction l with
  | nil => rfl
  | cons a l ih =>
    rw [List.forall_mem_cons] at h
    simp [amend, h.1, ih h.2]

theorem map_amend {p : α → Bool} {f : α → α} {new : α} {key : α → β}
    (hf : ∀ a, p a → key (f a) = key a) (l : List α) :
    (amend p f new l).map key = if l.any p then l.map key else l.map key ++ [key new] := by
  induction l with
  | nil => rfl
  | cons a l ih => by_cases h : p a <;> by_cases hl : l.any p <;> simp_all [amend]

/-! ## Elements -/

section Elements

variable {p : α → Bool} {f : α → α} {new : α} {l : List α}

/-- What neither matches nor is new is as it was. -/
theorem filter_amend {q : α → Bool} (apart : ∀ a, p a → q a = false ∧ q (f a) = false)
    (hn : q new = false) : (amend p f new l).filter q = l.filter q := by
  induction l with
  | nil => simp [amend, hn]
  | cons a l ih =>
    rw [amend]
    split
    · rename_i ha
      obtain ⟨old, changed⟩ := apart a ha
      simp [old, changed]
    · rw [List.filter_cons, List.filter_cons, ih]

/-- What takes the place of others is there. -/
theorem mem_amend_self : new ∈ amend p (fun _ => new) new l := by
  induction l with
  | nil => exact List.mem_singleton_self new
  | cons b l ih =>
    rw [amend]
    split
    · exact List.mem_cons_self
    · exact List.mem_cons_of_mem b ih

/-- Where one takes the place of another, no more than that one is new. -/
theorem mem_or_eq_of_mem_amend {a : α} (h : a ∈ amend p (fun _ => new) new l) :
    a ∈ l ∨ a = new := by
  induction l with
  | nil => exact .inr (List.mem_singleton.1 h)
  | cons b l ih =>
    rw [amend] at h
    split at h
    · rcases List.mem_cons.1 h with rfl | h
      · exact .inr rfl
      · exact .inl (List.mem_cons_of_mem b h)
    · rcases List.mem_cons.1 h with rfl | h
      · exact .inl List.mem_cons_self
      · exact (ih h).imp_left (List.mem_cons_of_mem b)

/-- Amending in another form of the elements. -/
theorem map_amend_eq {g : α → β} {q : β → Bool} {f' : β → β} (same : ∀ a, q (g a) = p a)
    (commutes : ∀ a, g (f a) = f' (g a)) (l : List α) :
    (amend p f new l).map g = amend q f' (g new) (l.map g) := by
  induction l with
  | nil => rfl
  | cons a l ih =>
    rw [List.map_cons, amend, amend, same]
    split
    · rw [List.map_cons, commutes]
    · rw [List.map_cons, ih]

/-- A new element that changes none is put behind the others unless one of its sort is there. -/
theorem amend_id : amend p id new l = if l.any p then l else l ++ [new] := by
  have ids : (amend p id new l).map id = if l.any p then l.map id else l.map id ++ [new] :=
    map_amend (fun _ _ => rfl) l
  rwa [List.map_id, List.map_id] at ids

end Elements

/-! ## Keys -/

section Keys

variable {p : α → Bool} {f : α → α} {new : α} {key : α → β} {l : List α}

theorem mem_map_amend (hp : ∀ a, p a ↔ key a = key new) (hf : ∀ a, p a → key (f a) = key a)
    {k : β} : k ∈ (amend p f new l).map key ↔ k ∈ l.map key ∨ k = key new := by
  rw [map_amend hf]
  split
  · rename_i known
    obtain ⟨a, ha, same⟩ := List.any_eq_true.1 known
    refine ⟨.inl, ?_⟩
    rintro (there | rfl)
    · exact there
    · rw [← (hp a).1 same]
      exact List.mem_map_of_mem ha
  · rw [List.mem_append, List.mem_singleton]

theorem nodup_map_amend (hp : ∀ a, p a ↔ key a = key new) (hf : ∀ a, p a → key (f a) = key a)
    (h : (l.map key).Nodup) : ((amend p f new l).map key).Nodup := by
  rw [map_amend hf]
  split
  · exact h
  · rename_i unknown
    refine List.nodup_append.2 ⟨h, List.nodup_cons.2 ⟨nofun, List.nodup_nil⟩, ?_⟩
    rintro k hk _ hn rfl
    obtain ⟨a, ha, rfl⟩ := List.mem_map.1 hk
    exact unknown (List.any_eq_true.2 ⟨a, ha, (hp a).2 (List.mem_singleton.1 hn)⟩)

/-- What does not match was there before. -/
theorem mem_of_mem_amend (hf : ∀ a, p a → p (f a)) (hn : p new) {a : α} (ha : a ∈ amend p f new l)
    (other : ¬p a) : a ∈ l := by
  induction l with
  | nil =>
    rw [amend, List.mem_singleton] at ha
    exact absurd (ha ▸ hn) other
  | cons b l ih =>
    rw [amend] at ha
    split at ha
    · rename_i hb
      rcases List.mem_cons.1 ha with rfl | ha
      · exact absurd (hf b hb) other
      · exact List.mem_cons_of_mem b ha
    · rcases List.mem_cons.1 ha with rfl | ha
      · exact List.mem_cons_self
      · exact List.mem_cons_of_mem b (ih ha)

/-- What matches, where at most one element did before, has been changed or is new. -/
theorem eq_of_mem_amend (hp : ∀ a, p a ↔ key a = key new) (once : (l.map key).Nodup) {a : α}
    (ha : a ∈ amend p f new l) (same : p a) : (∃ b ∈ l, a = f b) ∨ a = new := by
  induction l with
  | nil => exact .inr (List.mem_singleton.1 ha)
  | cons b l ih =>
    rw [List.map_cons, List.nodup_cons] at once
    rw [amend] at ha
    split at ha
    · rename_i hb
      rcases List.mem_cons.1 ha with rfl | ha
      · exact .inl ⟨b, List.mem_cons_self, rfl⟩
      · have twice : key b = key a := ((hp b).1 hb).trans ((hp a).1 same).symm
        exact absurd (twice ▸ List.mem_map_of_mem ha) once.1
    · rename_i hb
      rcases List.mem_cons.1 ha with rfl | ha
      · exact absurd same hb
      · rcases ih once.2 ha with ⟨c, hc, rfl⟩ | rfl
        · exact .inl ⟨c, List.mem_cons_of_mem b hc, rfl⟩
        · exact .inr rfl

/-- Where at most one element matches and one does, amending changes it in its place. -/
theorem amend_eq_map (hp : ∀ a, p a ↔ key a = key new) (once : (l.map key).Nodup)
    (known : key new ∈ l.map key) : amend p f new l = l.map fun a => if p a then f a else a := by
  induction l with
  | nil => cases known
  | cons b l ih =>
    rw [List.map_cons, List.nodup_cons] at once
    rw [List.map_cons, List.mem_cons] at known
    rw [amend, List.map_cons]
    split
    · rename_i hb
      have others : ∀ a ∈ l, (if p a then f a else a) = a := by
        intro a ha
        refine if_neg fun same => once.1 ?_
        rw [(hp b).1 hb, ← (hp a).1 same]
        exact List.mem_map_of_mem ha
      rw [List.map_congr_left others, List.map_id']
    · rename_i hb
      rw [ih once.2 (known.resolve_left fun same => hb ((hp b).2 same.symm))]

/-- Where each of several steps adds one key, all of them are there in the end. -/
theorem mem_map_foldl {γ : Type} {step : List α → γ → List α} {added : γ → β}
    (one : ∀ l c k, k ∈ (step l c).map key ↔ k ∈ l.map key ∨ k = added c) {k : β} (cs : List γ)
    (l : List α) : k ∈ (cs.foldl step l).map key ↔ k ∈ l.map key ∨ k ∈ cs.map added := by
  induction cs generalizing l with
  | nil => exact (or_iff_left List.not_mem_nil).symm
  | cons c cs ih => rw [List.foldl_cons, ih, one, List.map_cons, List.mem_cons, or_assoc]

/-- Where every key occurs once, in the order of first meetings, it still does after one more. -/
theorem map_amend_eraseDups [BEq β] [LawfulBEq β] (hp : ∀ a, p a ↔ key a = key new)
    (hf : ∀ a, p a → key (f a) = key a) {met : List β} (keys : l.map key = met.eraseDups) :
    (amend p f new l).map key = (met ++ [key new]).eraseDups := by
  have known : l.any p = true ↔ key new ∈ met := by
    rw [← List.mem_eraseDups, ← keys, List.mem_map, List.any_eq_true]
    simp only [hp]
  rw [map_amend hf, keys, List.eraseDups_append]
  split
  · rename_i there
    simp [List.removeAll, known.1 there]
  · rename_i new
    simp [List.removeAll, mt known.2 new, List.eraseDups_cons]

/-- Where each of several steps meets one key, every key occurs once in the end, too. -/
theorem map_foldl_eraseDups [BEq β] {γ : Type} {step : List α → γ → List α} {added : γ → β}
    (one : ∀ l (met : List β) c, l.map key = met.eraseDups →
      (step l c).map key = (met ++ [added c]).eraseDups) (cs : List γ) {met : List β}
    (keys : l.map key = met.eraseDups) :
    (cs.foldl step l).map key = (met ++ cs.map added).eraseDups := by
  induction cs generalizing l met with
  | nil => rwa [List.map_nil, List.append_nil]
  | cons c cs ih =>
    rw [List.foldl_cons, ih (one l met c keys), List.map_cons, List.append_assoc,
      List.singleton_append]

end Keys

end Forager
