/-!
# Choosing from a list

`choose keeps l` runs through `l` and holds on to one element: the held one stays against a later
candidate `c` when `keeps held c`, otherwise the candidate takes its place.

* `choose_mem`: what is chosen is in the list.
* `choose_eq_none_iff`: only an empty list leaves nothing to choose.
* `keeps_of_choose`: in a linear order, what is chosen stays against everything.
-/
namespace Forager

variable {α : Type}

/-- The held element after one more candidate. -/
def choice (keeps : α → α → Bool) : Option α → α → Option α
  | none, c => some c
  | some held, c => if keeps held c then some held else some c

def choose (keeps : α → α → Bool) (l : List α) : Option α := l.foldl (choice keeps) none

@[simp] theorem choose_nil (keeps : α → α → Bool) : choose keeps [] = none := rfl

theorem foldl_choice_some (keeps : α → α → Bool) (held : α) (l : List α) :
    ∃ c, l.foldl (choice keeps) (some held) = some c ∧ (c = held ∨ c ∈ l) := by
  induction l generalizing held with
  | nil => exact ⟨held, rfl, .inl rfl⟩
  | cons a l ih =>
    by_cases h : keeps held a
    · obtain ⟨c, hc, hm⟩ := ih held
      exact ⟨c, by simpa [choice, h] using hc, hm.imp_right (List.mem_cons_of_mem _)⟩
    · obtain ⟨c, hc, hm⟩ := ih a
      refine ⟨c, by simpa [choice, h] using hc, .inr ?_⟩
      rcases hm with rfl | hm
      · exact List.mem_cons_self
      · exact List.mem_cons_of_mem _ hm

theorem choose_eq_none_iff {keeps : α → α → Bool} {l : List α} : choose keeps l = none ↔ l = [] := by
  cases l with
  | nil => simp
  | cons a l =>
    obtain ⟨c, hc, _⟩ := foldl_choice_some keeps a l
    simp [choose, choice, hc]

theorem choose_mem {keeps : α → α → Bool} {l : List α} {c : α} (h : choose keeps l = some c) :
    c ∈ l := by
  cases l with
  | nil => simp at h
  | cons a l =>
    obtain ⟨c', hc, hm⟩ := foldl_choice_some keeps a l
    have : c = c' := by simpa [choose, choice, hc, eq_comm] using h
    subst this
    rcases hm with rfl | hm
    · exact List.mem_cons_self
    · exact List.mem_cons_of_mem _ hm

/-! ## Linear orders -/

section Linear

variable {keeps : α → α → Bool} {S : α → Prop}

theorem foldl_choice_keeps (total : ∀ a b, S a → S b → keeps a b ∨ keeps b a)
    (trans : ∀ a b c, keeps a b → keeps b c → keeps a c) {held c : α} {l : List α} (hs : S held)
    (hl : ∀ a ∈ l, S a) (h : l.foldl (choice keeps) (some held) = some c) :
    keeps c held ∧ ∀ a ∈ l, keeps c a := by
  induction l generalizing held with
  | nil =>
    cases h
    exact ⟨(total _ _ hs hs).elim id id, nofun⟩
  | cons a l ih =>
    rw [List.forall_mem_cons] at hl ⊢
    simp only [List.foldl_cons, choice] at h
    split at h
    · rename_i stays
      obtain ⟨best, rest⟩ := ih hs hl.2 h
      exact ⟨best, trans _ _ _ best stays, rest⟩
    · rename_i leaves
      obtain ⟨best, rest⟩ := ih hl.1 hl.2 h
      exact ⟨trans _ _ _ best ((total held a hs hl.1).resolve_left leaves), best, rest⟩

theorem keeps_of_choose (total : ∀ a b, S a → S b → keeps a b ∨ keeps b a)
    (trans : ∀ a b c, keeps a b → keeps b c → keeps a c) {c : α} {l : List α}
    (hl : ∀ a ∈ l, S a) (h : choose keeps l = some c) : ∀ a ∈ l, keeps c a := by
  cases l with
  | nil => exact nofun
  | cons a l =>
    rw [List.forall_mem_cons] at hl ⊢
    exact foldl_choice_keeps total trans hl.1 hl.2 h

end Linear

end Forager
