/-
# Glob patterns

A pattern is a list of tokens: a star stands for any sequence of letters, `any` for one letter,
and a letter for each letter that is the same as it.  `Matches` is the meaning of a pattern.
`scan` is the usual matcher by backtracking, in the form in which a star that is not the last
token tries only the rests of the string that are not empty; what it misses by that are the
strings that leave nothing to two stars at the end.
-/
import Mathlib.Data.List.Infix

namespace Glob

variable {α : Type} {same : α → α → Bool}

inductive Token (α : Type)
  | star
  | any
  | letter (a : α)
deriving DecidableEq

/-- The whole string is matched by the pattern. -/
inductive Matches (same : α → α → Bool) : List (Token α) → List α → Prop
  | nil : Matches same [] []
  | star {ps : List (Token α)} {s : List α} (u : List α) :
      Matches same ps s → Matches same (.star :: ps) (u ++ s)
  | any {ps : List (Token α)} {s : List α} (b : α) :
      Matches same ps s → Matches same (.any :: ps) (b :: s)
  | letter {ps : List (Token α)} {s : List α} {a b : α} :
      same a b = true → Matches same ps s → Matches same (.letter a :: ps) (b :: s)

variable {ps q : List (Token α)} {s t u : List α} {a b : α}

/-! ### Token by token -/

@[simp] lemma matches_nil : Matches same [] s ↔ s = [] := by
  constructor
  · intro h
    cases h
    rfl
  · rintro rfl
    exact .nil

lemma matches_star : Matches same (.star :: ps) s ↔ ∃ t, t <:+ s ∧ Matches same ps t := by
  constructor
  · intro h
    cases h with
    | @star _ t u h => exact ⟨t, List.suffix_append u t, h⟩
  · rintro ⟨t, ⟨u, rfl⟩, h⟩
    exact .star u h

@[simp] lemma matches_any_nil : ¬ Matches same (.any :: ps) [] := nofun

@[simp] lemma matches_any_cons : Matches same (.any :: ps) (b :: s) ↔ Matches same ps s := by
  constructor
  · intro h
    cases h with
    | any _ h => exact h
  · exact .any b

@[simp] lemma matches_letter_nil : ¬ Matches same (.letter a :: ps) [] := nofun

@[simp] lemma matches_letter_cons :
    Matches same (.letter a :: ps) (b :: s) ↔ same a b = true ∧ Matches same ps s := by
  constructor
  · intro h
    cases h with
    | letter hab h => exact ⟨hab, h⟩
  · rintro ⟨hab, h⟩
    exact .letter hab h

/-- Nothing but stars matches the empty string. -/
lemma matches_empty : Matches same ps [] ↔ ∀ p ∈ ps, p = .star := by
  induction ps with
  | nil => simp
  | cons p ps ih =>
    cases p with
    | star =>
      rw [matches_star]
      simp only [List.suffix_nil, exists_eq_left, ih, List.forall_mem_cons, true_and]
    | any => simp
    | letter a => simp

/-! ### Matching by backtracking -/

/-- Some rest of the string that is not empty passes the test. -/
def anyRest (f : List α → Bool) : List α → Bool
  | [] => false
  | b :: s => f (b :: s) || anyRest f s

lemma anyRest_iff {f : List α → Bool} :
    anyRest f s = true ↔ ∃ t, t <:+ s ∧ t ≠ [] ∧ f t = true := by
  induction s with
  | nil => simp [anyRest]
  | cons b s ih =>
    simp only [anyRest, Bool.or_eq_true, ih, List.suffix_cons_iff]
    constructor
    · rintro (h | ⟨t, ht, hne, h⟩)
      · exact ⟨b :: s, Or.inl rfl, by simp, h⟩
      · exact ⟨t, Or.inr ht, hne, h⟩
    · rintro ⟨t, rfl | ht, hne, h⟩
      · exact Or.inl h
      · exact Or.inr ⟨t, ht, hne, h⟩

/-- The matcher: a star at the end matches what is left, and after another star the rest of
the pattern is tried on every rest of the string but the empty one. -/
def scan (same : α → α → Bool) : List (Token α) → List α → Bool
  | [], s => s.isEmpty
  | [.star], _ => true
  | .star :: p :: ps, s => anyRest (scan same (p :: ps)) s
  | .any :: _, [] => false
  | .any :: ps, _ :: s => scan same ps s
  | .letter _ :: _, [] => false
  | .letter a :: ps, b :: s => same a b && scan same ps s

lemma scan_star (hps : ps ≠ []) :
    scan same (.star :: ps) s = true ↔ ∃ t, t <:+ s ∧ t ≠ [] ∧ scan same ps t = true := by
  cases ps with
  | nil => exact absurd rfl hps
  | cons p ps => exact anyRest_iff

/-- The last two tokens are stars. -/
def EndsInStars (ps : List (Token α)) : Prop := ∃ q, ps = q ++ [.star, .star]

lemma EndsInStars.cons {p : Token α} (h : EndsInStars ps) : EndsInStars (p :: ps) := by
  obtain ⟨q, rfl⟩ := h
  exact ⟨p :: q, rfl⟩

/-- A star in front of stars. -/
lemma endsInStars_of_forall (hps : ps ≠ []) (hall : ∀ p ∈ ps, p = .star) :
    EndsInStars (.star :: ps) := by
  obtain ⟨q, p, rfl⟩ := List.eq_nil_or_concat ps |>.resolve_left hps
  obtain rfl := hall p (by simp)
  obtain rfl | ⟨q', p', rfl⟩ := List.eq_nil_or_concat q
  · exact ⟨[], rfl⟩
  · obtain rfl := hall p' (by simp)
    exact ⟨.star :: q', by simp⟩

/-- What the matcher accepts is matched. -/
lemma matches_of_scan (h : scan same ps s = true) : Matches same ps s := by
  induction ps generalizing s with
  | nil => simpa [scan] using h
  | cons p ps ih =>
    cases p with
    | star =>
      rw [matches_star]
      by_cases hps : ps = []
      · subst hps
        exact ⟨[], List.nil_suffix, .nil⟩
      · obtain ⟨t, ht, -, h⟩ := (scan_star hps).1 h
        exact ⟨t, ht, ih h⟩
    | any =>
      cases s with
      | nil => exact absurd h (by simp [scan])
      | cons b s => exact .any b (ih h)
    | letter a =>
      cases s with
      | nil => exact absurd h (by simp [scan])
      | cons b s =>
        obtain ⟨hab, h⟩ := (Bool.and_eq_true ..).mp h
        exact .letter hab (ih h)

/-- What is matched is accepted, unless the pattern ends in two stars. -/
lemma scan_of_matches (hends : ¬ EndsInStars ps) (h : Matches same ps s) :
    scan same ps s = true := by
  induction ps generalizing s with
  | nil => simpa [scan] using h
  | cons p ps ih =>
    have hrest : ¬ EndsInStars ps := fun h => hends h.cons
    cases p with
    | star =>
      by_cases hps : ps = []
      · subst hps
        rfl
      · obtain ⟨t, ht, h⟩ := matches_star.1 h
        refine (scan_star hps).2 ⟨t, ht, ?_, ih hrest h⟩
        rintro rfl
        exact hends (endsInStars_of_forall hps (matches_empty.1 h))
    | any =>
      cases s with
      | nil => exact absurd h matches_any_nil
      | cons b s => exact ih hrest (matches_any_cons.1 h)
    | letter a =>
      cases s with
      | nil => exact absurd h matches_letter_nil
      | cons b s =>
        obtain ⟨hab, h⟩ := matches_letter_cons.1 h
        simp only [scan, hab, ih hrest h, Bool.and_self]

/-- The empty string has no proper beginning. -/
lemma not_properPrefix_nil {P : List α → Prop} : ¬ ∃ u, u <+: [] ∧ u ≠ [] ∧ P u := by
  rintro ⟨u, hu, hne, -⟩
  exact hne (List.prefix_nil.1 hu)

/-- The proper beginnings of a string with a first letter. -/
lemma properPrefix_cons {P : List α → Prop} (hP : ¬ P []) :
    (∃ u, u <+: b :: s ∧ u ≠ b :: s ∧ P u) ↔ ∃ u, u <+: s ∧ u ≠ s ∧ P (b :: u) := by
  constructor
  · rintro ⟨u, hu, hne, h⟩
    cases u with
    | nil => exact absurd h hP
    | cons c u =>
      obtain ⟨rfl, hus⟩ := List.cons_prefix_cons.1 hu
      exact ⟨u, hus, by simpa using hne, h⟩
  · rintro ⟨u, hu, hne, h⟩
    exact ⟨b :: u, List.cons_prefix_cons.2 ⟨rfl, hu⟩, by simpa using hne, h⟩

/-- Two stars at the end take at least one letter. -/
lemma scan_stars : scan same (q ++ [.star, .star]) s = true ↔
    ∃ u, u <+: s ∧ u ≠ s ∧ Matches same q u := by
  induction q generalizing s with
  | nil =>
    rw [List.nil_append, scan_star (by simp)]
    constructor
    · rintro ⟨t, ht, hne, -⟩
      refine ⟨[], List.nil_prefix, fun hs => hne ?_, .nil⟩
      rwa [← hs, List.suffix_nil] at ht
    · rintro ⟨u, hu, hne, h⟩
      obtain rfl := matches_nil.1 h
      exact ⟨s, List.suffix_refl s, hne.symm, rfl⟩
  | cons p q ih =>
    cases p with
    | star =>
      rw [List.cons_append, scan_star (by simp)]
      constructor
      · rintro ⟨t, ⟨v, rfl⟩, -, h⟩
        obtain ⟨u, hu, hne, h⟩ := ih.1 h
        exact ⟨v ++ u, (List.prefix_append_right_inj v).2 hu,
          fun heq => hne (List.append_cancel_left heq), .star v h⟩
      · rintro ⟨u, ⟨r, rfl⟩, hne, h⟩
        obtain ⟨t, ⟨v, rfl⟩, ht⟩ := matches_star.1 h
        have hr : r ≠ [] := fun hr => hne (by simp [hr])
        refine ⟨t ++ r, ⟨v, by simp⟩, by simp [hr], ih.2 ⟨t, List.prefix_append t r, ?_, ht⟩⟩
        exact fun heq => hr (List.self_eq_append_right.1 heq)
    | any =>
      cases s with
      | nil => exact iff_of_false (by simp [scan]) not_properPrefix_nil
      | cons b s =>
        rw [List.cons_append, scan, ih, properPrefix_cons matches_any_nil]
        simp only [matches_any_cons]
    | letter a =>
      cases s with
      | nil => exact iff_of_false (by simp [scan]) not_properPrefix_nil
      | cons b s =>
        rw [List.cons_append, scan, Bool.and_eq_true, ih, properPrefix_cons matches_letter_nil]
        simp only [matches_letter_cons]
        constructor
        · rintro ⟨hab, u, hu, hne, h⟩
          exact ⟨u, hu, hne, hab, h⟩
        · rintro ⟨u, hu, hne, hab, h⟩
          exact ⟨hab, u, hu, hne, h⟩

/-- The string is matched, but only with nothing for the two stars at the end. -/
def Overlooked (same : α → α → Bool) (ps : List (Token α)) (s : List α) : Prop :=
  ∃ q, ps = q ++ [.star, .star] ∧ Matches same q s ∧
    ∀ u, u <+: s → u ≠ s → ¬ Matches same q u

/-- Two stars at the end match what a shorter pattern does on some beginning of the string. -/
lemma matches_stars : Matches same (q ++ [.star, .star]) s ↔ ∃ u, u <+: s ∧ Matches same q u := by
  induction q generalizing s with
  | nil =>
    refine iff_of_true ?_ ⟨[], List.nil_prefix, .nil⟩
    exact matches_star.2 ⟨s, List.suffix_refl s, matches_star.2 ⟨[], List.nil_suffix, .nil⟩⟩
  | cons p q ih =>
    constructor
    · intro h
      cases h with
      | star v h =>
        obtain ⟨u, hu, h⟩ := ih.1 h
        exact ⟨v ++ u, (List.prefix_append_right_inj v).2 hu, .star v h⟩
      | any b h =>
        obtain ⟨u, hu, h⟩ := ih.1 h
        exact ⟨b :: u, List.cons_prefix_cons.2 ⟨rfl, hu⟩, .any b h⟩
      | letter hab h =>
        obtain ⟨u, hu, h⟩ := ih.1 h
        exact ⟨_ :: u, List.cons_prefix_cons.2 ⟨rfl, hu⟩, .letter hab h⟩
    · rintro ⟨u, ⟨r, rfl⟩, h⟩
      cases h with
      | @star _ t v h =>
        rw [List.append_assoc]
        exact .star v (ih.2 ⟨t, List.prefix_append t r, h⟩)
      | @any _ t b h => exact .any b (ih.2 ⟨t, List.prefix_append t r, h⟩)
      | @letter _ t _ b hab h => exact .letter hab (ih.2 ⟨t, List.prefix_append t r, h⟩)

/-- The matcher is right about a string if and only if it does not overlook it. -/
theorem scan_iff_matches :
    (scan same ps s = true ↔ Matches same ps s) ↔ ¬ Overlooked same ps s := by
  by_cases hends : EndsInStars ps
  · obtain ⟨q, rfl⟩ := hends
    rw [scan_stars, matches_stars]
    constructor
    · rintro hiff ⟨q', hq', h, hnone⟩
      obtain rfl := List.append_cancel_right hq'
      obtain ⟨u, hu, hne, h⟩ := hiff.2 ⟨s, List.prefix_refl s, h⟩
      exact hnone u hu hne h
    · intro hno
      refine ⟨fun ⟨u, hu, _, h⟩ => ⟨u, hu, h⟩, fun ⟨u, hu, h⟩ => ?_⟩
      by_contra hnone
      have hall : ∀ u, u <+: s → u ≠ s → ¬ Matches same q u :=
        fun u hu hne h => hnone ⟨u, hu, hne, h⟩
      by_cases hus : u = s
      · exact hno ⟨q, rfl, hus ▸ h, hall⟩
      · exact hall u hu hus h
  · refine iff_of_true ⟨matches_of_scan, scan_of_matches hends⟩ ?_
    rintro ⟨q, rfl, -⟩
    exact hends ⟨q, rfl⟩

end Glob
