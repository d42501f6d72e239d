/-
# Lists of records with an identity

A linked list of records that are known by their address is a list in which a key tells
the elements apart.  Changing a field through a pointer is `modify`, unlinking a node is
`erase`, following a pointer is `find`.
-/
import Mathlib.Data.List.Nodup

namespace Keyed

variable {κ α : Type} [DecidableEq κ] (key : α → κ)

/-- Change the element with key `a`. -/
def modify (a : κ) (f : α → α) (l : List α) : List α :=
  l.map fun x => if key x = a then f x else x

/-- Take out the element with key `a`. -/
def erase (a : κ) (l : List α) : List α :=
  l.filter fun x => decide (key x ≠ a)

/-- The element with key `a`. -/
def find (a : κ) (l : List α) : Option α :=
  l.find? fun x => decide (key x = a)

/-- The element behind the one with key `a`. -/
def next (a : κ) (l : List α) : Option α :=
  (l.dropWhile fun x => decide (key x ≠ a)).tail.head?

/-- Change the element with key `a`, or put one at the end if there is none. -/
def upsert (a : κ) (g : Option α → α) : List α → List α
  | [] => [g none]
  | x :: l => if key x = a then g (some x) :: l else x :: upsert a g l

/-- No two elements have the same key. -/
def Distinct (l : List α) : Prop := (l.map key).Nodup

instance (l : List α) : Decidable (Distinct key l) :=
  inferInstanceAs (Decidable (l.map key).Nodup)

variable {key} {a : κ} {f : α → α} {l : List α} {x y : α}

lemma mem_modify : y ∈ modify key a f l ↔
    (∃ x ∈ l, key x = a ∧ y = f x) ∨ (y ∈ l ∧ key y ≠ a) := by
  simp only [modify, List.mem_map]
  constructor
  · rintro ⟨x, hx, rfl⟩
    by_cases h : key x = a
    · exact Or.inl ⟨x, hx, h, by simp [h]⟩
    · rw [if_neg h]
      exact Or.inr ⟨hx, h⟩
  · rintro (⟨x, hx, h, rfl⟩ | ⟨hy, h⟩)
    · exact ⟨x, hx, by simp [h]⟩
    · exact ⟨y, hy, by simp [h]⟩

lemma mem_erase : y ∈ erase key a l ↔ y ∈ l ∧ key y ≠ a := by
  simp [erase]

lemma mem_of_find (h : find key a l = some x) : x ∈ l := List.mem_of_find?_eq_some h

lemma key_of_find (h : find key a l = some x) : key x = a := by
  simpa using List.find?_some h

lemma find_eq_none : find key a l = none ↔ ∀ x ∈ l, key x ≠ a := by
  simp [find, List.find?_eq_none]

lemma modify_of_absent (h : ∀ x ∈ l, key x ≠ a) : modify key a f l = l := by
  have : l.map (fun x => if key x = a then f x else x) = l.map id :=
    List.map_congr_left fun x hx => if_neg (h x hx)
  rw [modify, this, List.map_id]

/-- What the change leaves alone. -/
lemma map_modify {β : Type} {p : α → β} (hf : ∀ x ∈ l, key x = a → p (f x) = p x) :
    (modify key a f l).map p = l.map p := by
  simp only [modify, List.map_map]
  refine List.map_congr_left fun x hx => ?_
  simp only [Function.comp_apply]
  split
  · exact hf x hx ‹_›
  · rfl

lemma erase_modify (hf : ∀ x, key (f x) = key x) :
    erase key a (modify key a f l) = erase key a l := by
  induction l with
  | nil => rfl
  | cons x l ih =>
    simp only [erase, modify, List.map_cons] at ih ⊢
    by_cases hx : key x = a
    · rw [if_pos hx, List.filter_cons_of_neg (by simp [hf, hx]),
        List.filter_cons_of_neg (by simp [hx]), ih]
    · rw [if_neg hx, List.filter_cons_of_pos (by simp [hx]),
        List.filter_cons_of_pos (by simp [hx]), ih]

/-- Taking out an element that the test fails does not change what passes it. -/
lemma filter_erase {p : α → Bool} (h : ∀ x ∈ l, key x = a → p x = false) :
    (erase key a l).filter p = l.filter p := by
  rw [erase, List.filter_filter]
  refine List.filter_congr fun x hx => ?_
  by_cases hk : key x = a
  · simp [h x hx hk]
  · simp [hk]

/-- Changing an element that the test fails, before and after, does not change what passes
it. -/
lemma filter_modify {p : α → Bool}
    (h : ∀ x ∈ l, key x = a → p x = false ∧ p (f x) = false) :
    (modify key a f l).filter p = l.filter p := by
  induction l with
  | nil => rfl
  | cons x l ih =>
    have hl := ih fun y hy => h y (List.mem_cons_of_mem _ hy)
    simp only [modify, List.map_cons] at hl ⊢
    by_cases hk : key x = a
    · obtain ⟨hx, hfx⟩ := h x (List.mem_cons_self ..) hk
      rw [if_pos hk, List.filter_cons_of_neg (by simp [hfx]), hl,
        List.filter_cons_of_neg (by simp [hx])]
    · rw [if_neg hk, List.filter_cons, List.filter_cons, hl]

namespace Distinct

omit [DecidableEq κ] in
lemma eq_of_mem (h : Distinct key l) (hx : x ∈ l) (hy : y ∈ l) (hk : key x = key y) :
    x = y :=
  List.inj_on_of_nodup_map h hx hy hk

/-- A key finds the element that has it. -/
lemma find_of_mem (h : Distinct key l) (hx : x ∈ l) : find key (key x) l = some x := by
  cases hfind : find key (key x) l with
  | none => exact absurd rfl (find_eq_none.1 hfind x hx)
  | some y => rw [h.eq_of_mem (mem_of_find hfind) hx (key_of_find hfind)]

lemma modify (h : Distinct key l) (hf : ∀ x, key (f x) = key x) :
    Distinct key (Keyed.modify key a f l) := by
  rw [Distinct, map_modify fun x _ _ => hf x]
  exact h

lemma erase (h : Distinct key l) : Distinct key (Keyed.erase key a l) :=
  List.Nodup.sublist (List.filter_sublist.map key) h

section Split

variable {l₁ l₂ : List α}

omit [DecidableEq κ] in
lemma ne_of_split (h : Distinct key (l₁ ++ x :: l₂)) :
    (∀ y ∈ l₁, key y ≠ key x) ∧ ∀ y ∈ l₂, key y ≠ key x := by
  rw [Distinct, List.map_append, List.map_cons] at h
  obtain ⟨-, hx, hne⟩ := List.nodup_append.1 h
  refine ⟨fun y hy => hne _ (List.mem_map_of_mem hy) _ (List.mem_cons_self ..), ?_⟩
  intro y hy heq
  exact (List.nodup_cons.1 hx).1 (heq ▸ List.mem_map_of_mem hy)

lemma next_split (h : Distinct key (l₁ ++ x :: l₂)) :
    next key (key x) (l₁ ++ x :: l₂) = l₂.head? := by
  have hdrop : (l₁ ++ x :: l₂).dropWhile (fun y => decide (key y ≠ key x)) = x :: l₂ := by
    rw [List.dropWhile_append_of_pos fun y hy => by simpa using h.ne_of_split.1 y hy]
    exact List.dropWhile_cons_of_neg (by simp)
  rw [next, hdrop, List.tail_cons]

lemma erase_split (h : Distinct key (l₁ ++ x :: l₂)) :
    Keyed.erase key (key x) (l₁ ++ x :: l₂) = l₁ ++ l₂ := by
  have hkeep : ∀ l : List α, (∀ y ∈ l, key y ≠ key x) → Keyed.erase key (key x) l = l :=
    fun l hl => List.filter_eq_self.2 fun y hy => by simpa using hl y hy
  have hl := hkeep l₁ h.ne_of_split.1
  have hr := hkeep l₂ h.ne_of_split.2
  rw [Keyed.erase] at hl hr ⊢
  rw [List.filter_append, List.filter_cons_of_neg (by simp), hl, hr]

lemma modify_split (h : Distinct key (l₁ ++ x :: l₂)) :
    Keyed.modify key (key x) f (l₁ ++ x :: l₂) = l₁ ++ f x :: l₂ := by
  have hl : Keyed.modify key (key x) f l₁ = l₁ := modify_of_absent h.ne_of_split.1
  have hr : Keyed.modify key (key x) f l₂ = l₂ := modify_of_absent h.ne_of_split.2
  rw [Keyed.modify] at hl hr ⊢
  rw [List.map_append, List.map_cons, if_pos rfl, hl, hr]

end Split

omit [DecidableEq κ] in
lemma cons (h : Distinct key l) (hx : ∀ y ∈ l, key y ≠ key x) : Distinct key (x :: l) := by
  refine List.nodup_cons.2 ⟨?_, h⟩
  simpa using hx

end Distinct

section Upsert

variable {g : Option α → α} {b : κ}

lemma find_cons : find key b (x :: l) = if key x = b then some x else find key b l := by
  rw [find, List.find?_cons]
  split_ifs with hx
  · simp [hx]
  · simp [hx, find]

/-- The other elements are still found. -/
lemma find_upsert (hg : ∀ o, (∀ x ∈ o, key x = a) → key (g o) = a) :
    find key b (upsert key a g l) = if a = b then some (g (find key a l)) else find key b l := by
  induction l with
  | nil => rw [upsert, find_cons, hg none (by simp)]; rfl
  | cons x l ih =>
    rw [upsert, find_cons]
    by_cases hx : key x = a
    · rw [if_pos hx, if_pos hx, find_cons, hg (some x) (by simpa using hx), find_cons, hx]
      split_ifs <;> rfl
    · rw [if_neg hx, if_neg hx, find_cons, find_cons, ih]
      split_ifs with hxb hab
      · exact absurd (hxb.trans hab.symm) hx
      · rfl
      · rfl
      · rfl

lemma keys_upsert (hg : ∀ o, (∀ x ∈ o, key x = a) → key (g o) = a) :
    (upsert key a g l).map key = if a ∈ l.map key then l.map key else l.map key ++ [a] := by
  induction l with
  | nil => simp [upsert, hg none]
  | cons x l ih =>
    rw [upsert]
    by_cases hx : key x = a
    · rw [if_pos hx, if_pos (by simp [hx]), List.map_cons, List.map_cons,
        hg (some x) (by simpa using hx), hx]
    · rw [if_neg hx, List.map_cons, List.map_cons, ih]
      by_cases hmem : a ∈ l.map key
      · rw [if_pos hmem, if_pos (List.mem_cons_of_mem _ hmem)]
      · rw [if_neg hmem, if_neg (by simpa [Ne.symm hx] using hmem)]
        rfl

/-- A change that changes nothing. -/
lemma upsert_eq_self (hfind : find key a l = some x) (hx : g (some x) = x) :
    upsert key a g l = l := by
  induction l with
  | nil => exact nomatch hfind
  | cons y l ih =>
    rw [find_cons] at hfind
    rw [upsert]
    split_ifs at hfind ⊢ with hy
    · obtain rfl := Option.some.inj hfind
      rw [hx]
    · rw [ih hfind]

lemma Distinct.upsert (h : Distinct key l) (hg : ∀ o, (∀ x ∈ o, key x = a) → key (g o) = a) :
    Distinct key (Keyed.upsert key a g l) := by
  rw [Distinct, keys_upsert hg]
  split_ifs with hmem
  · exact h
  · refine List.nodup_append.2 ⟨h, List.nodup_singleton a, fun b hb c hc hbc => hmem ?_⟩
    rwa [← List.mem_singleton.1 hc, ← hbc]

/-! ### Sequences of changes -/

variable {ε : Type} {name : ε → κ} {g : ε → Option α → α}

/-- What is found at the end depends on the changes with this name only. -/
theorem find_foldl_upsert (hg : ∀ e o, (∀ x ∈ o, key x = name e) → key (g e o) = name e)
    (es : List ε) :
    find key b (es.foldl (fun l e => upsert key (name e) (g e) l) l) =
      (es.filter fun e => name e = b).foldl (fun o e => some (g e o)) (find key b l) := by
  induction es generalizing l with
  | nil => rfl
  | cons e es ih =>
    rw [List.foldl_cons, ih, find_upsert (hg e)]
    by_cases he : name e = b
    · rw [if_pos he, List.filter_cons_of_pos (by simpa using he), List.foldl_cons, he]
    · rw [if_neg he, List.filter_cons_of_neg (by simpa using he)]

/-- The keys at the end are the old ones and the names of the changes. -/
theorem mem_keys_foldl_upsert (hg : ∀ e o, (∀ x ∈ o, key x = name e) → key (g e o) = name e)
    (es : List ε) : b ∈ (es.foldl (fun l e => upsert key (name e) (g e) l) l).map key ↔
      b ∈ l.map key ∨ ∃ e ∈ es, name e = b := by
  induction es generalizing l with
  | nil => simp
  | cons e es ih =>
    have hkeys : b ∈ (upsert key (name e) (g e) l).map key ↔ b ∈ l.map key ∨ name e = b := by
      rw [keys_upsert (hg e)]
      split_ifs with hmem
      · refine (or_iff_left_of_imp ?_).symm
        rintro rfl
        exact hmem
      · rw [List.mem_append, List.mem_singleton, eq_comm (a := b)]
    rw [List.foldl_cons, ih, hkeys, or_assoc, List.exists_mem_cons_iff]

theorem Distinct.foldl_upsert (h : Distinct key l)
    (hg : ∀ e o, (∀ x ∈ o, key x = name e) → key (g e o) = name e) (es : List ε) :
    Distinct key (es.foldl (fun l e => Keyed.upsert key (name e) (g e) l) l) := by
  induction es generalizing l with
  | nil => exact h
  | cons e es ih => exact ih (h.upsert (hg e))

end Upsert

end Keyed
