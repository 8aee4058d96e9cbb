/-!
# Maps keyed by name

A `NameMap α` holds one value per name, kept strictly sorted by name (`sorted`), so two maps
with the same look-ups are equal (`ext_find?`). Names are ordered by code point.

* `find?_insert`: an insertion changes the look-up of its own name and no other.
* `mem_names_iff`: the names are exactly those with a value.
* `names_insert_of_contains`: overwriting keeps the list of names.
-/
namespace Forager

variable {α : Type}

/-- Values under names, in strictly increasing name order. -/
structure NameMap (α : Type) where
  entries : List (String × α)
  sorted : (entries.map Prod.fst).Pairwise (· < ·)

namespace NameMap

/-- The map without entries. -/
def empty : NameMap α := ⟨[], List.Pairwise.nil⟩

instance : EmptyCollection (NameMap α) := ⟨empty⟩

instance : Inhabited (NameMap α) := ⟨empty⟩

/-- The value under `name`, if there is one. -/
def find? (m : NameMap α) (name : String) : Option α := m.entries.lookup name

def contains (m : NameMap α) (name : String) : Bool := (m.find? name).isSome

/-- The names, in increasing order. -/
def names (m : NameMap α) : List String := m.entries.map Prod.fst

def size (m : NameMap α) : Nat := m.entries.length

/-! ## Insertion -/

/-- Writes `value` under `name` in a sorted list of entries, before the first greater name. -/
def insertEntry (name : String) (value : α) : List (String × α) → List (String × α)
  | [] => [(name, value)]
  | (k, v) :: rest =>
    if name < k then (name, value) :: (k, v) :: rest
    else if name = k then (name, value) :: rest
    else (k, v) :: insertEntry name value rest

theorem mem_insertEntry {name : String} {value : α} {l : List (String × α)} {e : String × α}
    (h : e ∈ insertEntry name value l) : e = (name, value) ∨ e ∈ l := by
  induction l with
  | nil => simpa [insertEntry] using h
  | cons x rest ih =>
    obtain ⟨k, v⟩ := x
    simp only [insertEntry] at h
    split at h
    · simpa using h
    · split at h
      · rcases List.mem_cons.1 h with h | h
        · exact .inl h
        · exact .inr (List.mem_cons_of_mem _ h)
      · rcases List.mem_cons.1 h with h | h
        · exact .inr (h ▸ List.mem_cons_self)
        · exact (ih h).imp_right (List.mem_cons_of_mem _)

theorem sorted_cons {k : String} {v : α} {rest : List (String × α)} :
    (((k, v) :: rest).map Prod.fst).Pairwise (· < ·) ↔
      (∀ e ∈ rest, k < e.1) ∧ (rest.map Prod.fst).Pairwise (· < ·) := by
  simp [List.pairwise_cons]

theorem lt_of_not_lt_of_ne {a b : String} (h : ¬a < b) (hne : a ≠ b) : b < a := by
  rcases String.le_total a b with h' | h'
  · exact absurd (String.le_antisymm h' (String.not_lt.1 h)) hne
  · exact Decidable.byContradiction fun hn =>
      hne (String.le_antisymm (String.not_lt.1 hn) h')

theorem sorted_insertEntry (name : String) (value : α) : ∀ {l : List (String × α)},
    (l.map Prod.fst).Pairwise (· < ·) → ((insertEntry name value l).map Prod.fst).Pairwise (· < ·)
  | [], _ => by simp [insertEntry]
  | (k, v) :: rest, h => by
    obtain ⟨hlt, hrest⟩ := sorted_cons.1 h
    simp only [insertEntry]
    split
    · rename_i hk
      refine sorted_cons.2 ⟨fun e he => ?_, h⟩
      rcases List.mem_cons.1 he with rfl | he
      · exact hk
      · exact String.lt_trans hk (hlt e he)
    · split
      · rename_i hk
        exact sorted_cons.2 ⟨fun e he => hk ▸ hlt e he, hrest⟩
      · rename_i hk hne
        refine sorted_cons.2 ⟨fun e he => ?_, sorted_insertEntry name value hrest⟩
        rcases mem_insertEntry he with rfl | he
        · exact lt_of_not_lt_of_ne hk hne
        · exact hlt e he

/-- Writes `value` under `name`, whether or not the name is there. -/
def insert (m : NameMap α) (name : String) (value : α) : NameMap α :=
  ⟨insertEntry name value m.entries, sorted_insertEntry name value m.sorted⟩

/-! ## Look-ups -/

@[simp] theorem find?_empty (name : String) : (empty : NameMap α).find? name = none := rfl

theorem lookup_insertEntry (name : String) (value : α) (q : String) (l : List (String × α)) :
    (insertEntry name value l).lookup q = if q = name then some value else l.lookup q := by
  induction l with
  | nil => simp [insertEntry, List.lookup_cons]; split <;> simp_all
  | cons x rest ih =>
    obtain ⟨k, v⟩ := x
    by_cases h : q = name <;> simp only [insertEntry] <;> split <;> try split
    all_goals simp_all [List.lookup_cons]
    all_goals grind

theorem find?_insert (m : NameMap α) (name : String) (value : α) (q : String) :
    (m.insert name value).find? q = if q = name then some value else m.find? q :=
  lookup_insertEntry name value q m.entries

@[simp] theorem find?_insert_self (m : NameMap α) (name : String) (value : α) :
    (m.insert name value).find? name = some value := by simp [find?_insert]

theorem contains_insert (m : NameMap α) (name : String) (value : α) (q : String) :
    (m.insert name value).contains q = (q == name || m.contains q) := by
  by_cases h : q = name <;> simp [contains, find?_insert, h]

theorem lookup_eq_none_iff_not_mem {q : String} {l : List (String × α)} :
    l.lookup q = none ↔ q ∉ l.map Prod.fst := by
  induction l with
  | nil => simp
  | cons x rest ih =>
    obtain ⟨k, v⟩ := x
    by_cases h : q = k
    · simp [h]
    · have h' : (q == k) = false := by simpa using h
      simp only [List.lookup_cons, h', ih, List.map_cons, List.mem_cons, h, false_or]

theorem mem_names_iff {m : NameMap α} {q : String} : q ∈ m.names ↔ m.contains q = true := by
  have h := lookup_eq_none_iff_not_mem (q := q) (l := m.entries)
  unfold names contains find?
  cases hl : m.entries.lookup q <;> simp_all

theorem names_sorted (m : NameMap α) : m.names.Pairwise (· < ·) := m.sorted

/-- A sorted list of entries finds exactly what it holds. -/
theorem mem_iff_lookup {l : List (String × α)} (h : (l.map Prod.fst).Pairwise (· < ·))
    {k : String} {v : α} : (k, v) ∈ l ↔ l.lookup k = some v := by
  induction l with
  | nil => simp
  | cons x rest ih =>
    obtain ⟨k', v'⟩ := x
    obtain ⟨hlt, hrest⟩ := sorted_cons.1 h
    by_cases hk : k = k'
    · subst hk
      have : (k, v) ∉ rest := fun hm => String.lt_irrefl k (hlt _ hm)
      simp [this, eq_comm]
    · have hk' : (k == k') = false := by simpa using hk
      simp [List.lookup_cons, hk', hk, ih hrest]

/-- Two sorted lists of entries with the same look-ups are equal. -/
theorem eq_of_lookup : ∀ {l₁ l₂ : List (String × α)}, (l₁.map Prod.fst).Pairwise (· < ·) →
    (l₂.map Prod.fst).Pairwise (· < ·) → (∀ q, l₁.lookup q = l₂.lookup q) → l₁ = l₂
  | [], [], _, _, _ => rfl
  | [], (k, v) :: _, _, _, h => by simpa using h k
  | (k, v) :: _, [], _, _, h => by simpa using h k
  | (k₁, v₁) :: r₁, (k₂, v₂) :: r₂, h₁, h₂, h => by
    obtain ⟨hlt₁, hr₁⟩ := sorted_cons.1 h₁
    obtain ⟨hlt₂, hr₂⟩ := sorted_cons.1 h₂
    have m₁ : (k₁, v₁) ∈ (k₂, v₂) :: r₂ := (mem_iff_lookup h₂).2 (by rw [← h]; simp)
    have m₂ : (k₂, v₂) ∈ (k₁, v₁) :: r₁ := (mem_iff_lookup h₁).2 (by rw [h]; simp)
    have hk : k₁ = k₂ := by
      rcases List.mem_cons.1 m₁ with e₁ | m₁
      · exact congrArg Prod.fst e₁
      · rcases List.mem_cons.1 m₂ with e₂ | m₂
        · exact (congrArg Prod.fst e₂).symm
        · exact absurd (String.lt_trans (hlt₂ _ m₁) (hlt₁ _ m₂)) (String.lt_irrefl _)
    subst hk
    have hv : v₁ = v₂ := by simpa using h k₁
    subst hv
    refine congrArg _ (eq_of_lookup hr₁ hr₂ fun q => ?_)
    by_cases hq : q = k₁
    · subst hq
      rw [lookup_eq_none_iff_not_mem.2, lookup_eq_none_iff_not_mem.2]
      · exact fun hm => by
          obtain ⟨e, he, rfl⟩ := List.mem_map.1 hm
          exact String.lt_irrefl _ (hlt₂ e he)
      · exact fun hm => by
          obtain ⟨e, he, rfl⟩ := List.mem_map.1 hm
          exact String.lt_irrefl _ (hlt₁ e he)
    · have hq' : (q == k₁) = false := by simpa using hq
      simpa [List.lookup_cons, hq'] using h q

/-- A map is determined by its look-ups. -/
theorem ext_find? {m₁ m₂ : NameMap α} (h : ∀ q, m₁.find? q = m₂.find? q) : m₁ = m₂ := by
  obtain ⟨l₁, s₁⟩ := m₁
  obtain ⟨l₂, s₂⟩ := m₂
  simp only [mk.injEq]
  exact eq_of_lookup s₁ s₂ h

theorem insertEntry_names_of_mem {name : String} {value : α} : ∀ {l : List (String × α)},
    (l.map Prod.fst).Pairwise (· < ·) → name ∈ l.map Prod.fst →
      (insertEntry name value l).map Prod.fst = l.map Prod.fst
  | [], _, h => by simp at h
  | (k, v) :: rest, hs, h => by
    obtain ⟨hlt, hrest⟩ := sorted_cons.1 hs
    simp only [insertEntry]
    split
    · rename_i hk
      rcases List.mem_cons.1 h with rfl | h
      · exact absurd hk (String.lt_irrefl _)
      · obtain ⟨e, he, rfl⟩ := List.mem_map.1 h
        exact absurd (String.lt_trans hk (hlt e he)) (String.lt_irrefl _)
    · split
      · rename_i hk; simp [hk]
      · rename_i hne
        rcases List.mem_cons.1 h with rfl | h
        · exact absurd rfl hne
        · simp [insertEntry_names_of_mem hrest h]

/-- Overwriting a value keeps the names. -/
theorem names_insert_of_contains {m : NameMap α} {name : String} (value : α)
    (h : m.contains name = true) : (m.insert name value).names = m.names :=
  insertEntry_names_of_mem m.sorted (mem_names_iff.2 h)

/-! ## Several insertions -/

/-- Inserts entries in order. -/
def insertAll (l : List (String × α)) (m : NameMap α) : NameMap α :=
  l.foldl (fun m e => m.insert e.1 e.2) m

theorem find?_insertAll_of_notMem {l : List (String × α)} {m : NameMap α} {q : String}
    (h : q ∉ l.map (·.1)) : (insertAll l m).find? q = m.find? q := by
  induction l generalizing m with
  | nil => rfl
  | cons e l ih =>
    simp only [List.map_cons, List.mem_cons, not_or] at h
    rw [insertAll, List.foldl_cons, ← insertAll, ih h.2, find?_insert, if_neg h.1]

theorem find?_insertAll_of_mem {l : List (String × α)} {m : NameMap α} {q : String} {a : α}
    (hl : (l.map (·.1)).Nodup) (h : (q, a) ∈ l) : (insertAll l m).find? q = some a := by
  induction l generalizing m with
  | nil => cases h
  | cons e l ih =>
    rw [List.map_cons, List.nodup_cons] at hl
    rw [insertAll, List.foldl_cons, ← insertAll]
    rcases List.mem_cons.1 h with rfl | h
    · rw [find?_insertAll_of_notMem hl.1, find?_insert, if_pos rfl]
    · exact ih hl.2 h

/-- Inserting entries that are already there changes nothing. -/
theorem insertAll_of_find? {l : List (String × α)} {m : NameMap α}
    (hl : (l.map (·.1)).Nodup) (h : ∀ e ∈ l, m.find? e.1 = some e.2) : insertAll l m = m := by
  refine ext_find? fun q => ?_
  by_cases hq : q ∈ l.map (·.1)
  · obtain ⟨e, he, rfl⟩ := List.mem_map.1 hq
    rw [find?_insertAll_of_mem hl he, h e he]
  · exact find?_insertAll_of_notMem hq

end NameMap
end Forager
