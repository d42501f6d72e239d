/-
# Going round a cycle

A function leads each element of one of its cycles to the next one.  `goRound` tries the other
elements of the cycle in this order, until it takes one of them or comes back to the start;
`wp_goRound` is the rule for it.  The cycles that a machine has are mostly those of an addition
modulo a number, whose length is `minimalPeriod_stride`.
-/
import Mathlib.Data.Nat.ModEq
import Mathlib.Dynamics.PeriodicPts.Defs
import Xdm.Lib.Prog

namespace Round

open Function Prog

variable {α σ : Type} {f : α → α} {x₀ x : α}

/-! ### The other elements -/

/-- The elements of the cycle behind `x₀`, until `x₀` comes again. -/
noncomputable def others (f : α → α) (x₀ : α) : List α :=
  (List.range' 1 (minimalPeriod f x₀ - 1)).map fun k => f^[k] x₀

lemma mem_others : x ∈ others f x₀ ↔ ∃ k, 0 < k ∧ k < minimalPeriod f x₀ ∧ f^[k] x₀ = x := by
  simp only [others, List.mem_map, List.mem_range'_1]
  constructor
  · rintro ⟨k, ⟨hle, hlt⟩, hk⟩
    exact ⟨k, hle, by omega, hk⟩
  · rintro ⟨k, hpos, hlt, hk⟩
    exact ⟨k, ⟨hpos, by omega⟩, hk⟩

lemma nodup_others : (others f x₀).Nodup := by
  refine List.Nodup.map_on (fun i hi j hj hij => ?_) List.nodup_range'
  rw [List.mem_range'_1] at hi hj
  exact (iterate_eq_iterate_iff_of_lt_minimalPeriod (by omega) (by omega)).1 hij

lemma ne_of_mem_others (h : x ∈ others f x₀) : x ≠ x₀ := by
  obtain ⟨k, hpos, hlt, rfl⟩ := mem_others.1 h
  exact not_isPeriodicPt_of_pos_of_lt_minimalPeriod hpos.ne' hlt

/-! ### The search -/

/-- From `x` on try each element that `f` gives, until one is taken, or `x₀` comes again and
`back` is run; the elements that have been tried. -/
def goRound [DecidableEq α] (f : α → α) (x₀ : α) (attempt : α → Prog σ Bool)
    (back : Prog σ PUnit) : Nat → α → Prog σ (List α)
  | 0, _ => failure
  | fuel + 1, x =>
    if f x = x₀ then do
      back
      pure []
    else do
      if ← attempt (f x) then pure [f x]
      else
        let tried ← goRound f x₀ attempt back fuel (f x)
        pure (f x :: tried)

/-- How a search among some elements ends: it takes the first one that is good, or has tried
all of them. -/
def Ends (good : α → Prop) (taken : α → σ → Prop) (none : σ → Prop) (elements tried : List α)
    (s : σ) : Prop :=
  (∃ before x after, elements = before ++ x :: after ∧ tried = before ++ [x] ∧
    (∀ y ∈ before, ¬ good y) ∧ good x ∧ taken x s) ∨
  tried = elements ∧ (∀ y ∈ elements, ¬ good y) ∧ none s

lemma Ends.cons {good : α → Prop} {taken : α → σ → Prop} {none : σ → Prop}
    {elements tried : List α} {s : σ} (h : Ends good taken none elements tried s)
    (hx : ¬ good x) : Ends good taken none (x :: elements) (x :: tried) s := by
  rcases h with ⟨before, y, after, rfl, rfl, hbefore, hy, hs⟩ | ⟨rfl, hall, hs⟩
  · exact Or.inl ⟨x :: before, y, after, rfl, rfl, List.forall_mem_cons.2 ⟨hx, hbefore⟩, hy, hs⟩
  · exact Or.inr ⟨rfl, List.forall_mem_cons.2 ⟨hx, hall⟩, hs⟩

/-- The elements under other names. -/
lemma Ends.map {β : Type} {g : α → β} {good : α → Prop} {good' : β → Prop}
    {taken : α → σ → Prop} {taken' : β → σ → Prop} {none none' : σ → Prop}
    {elements tried : List α} {s : σ} (h : Ends good taken none elements tried s)
    (hgood : ∀ x, good x ↔ good' (g x)) (htaken : ∀ x, taken x s → taken' (g x) s)
    (hnone : none s → none' s) :
    Ends good' taken' none' (elements.map g) (tried.map g) s := by
  rcases h with ⟨before, x, after, rfl, rfl, hbefore, hx, hs⟩ | ⟨rfl, hall, hs⟩
  · refine Or.inl ⟨before.map g, g x, after.map g, by simp, by simp, ?_, (hgood x).1 hx,
      htaken x hs⟩
    exact List.forall_mem_map.2 fun y hy => mt (hgood y).2 (hbefore y hy)
  · exact Or.inr ⟨rfl, List.forall_mem_map.2 fun y hy => mt (hgood y).2 (hall y hy), hnone hs⟩

/-- The rule: with as much fuel as the cycle has elements the search comes to an end. -/
theorem wp_goRound [DecidableEq α] {attempt : α → Prog σ Bool} {back : Prog σ PUnit}
    (I : σ → Prop) (good : α → Prop) (taken : α → σ → Prop) (none : σ → Prop) {fuel : Nat}
    {s : σ} (hcycle : 0 < minimalPeriod f x₀) (hfuel : minimalPeriod f x₀ ≤ fuel) (hs : I s)
    (hattempt : ∀ x ∈ others f x₀, ∀ s, I s → Wp (attempt x) (fun r s' =>
      r = true ∧ good x ∧ taken x s' ∨ r = false ∧ ¬ good x ∧ I s') s)
    (hback : ∀ s, I s → Wp back (fun _ s' => none s') s) :
    Wp (goRound f x₀ attempt back fuel x₀) (Ends good taken none (others f x₀)) s := by
  have hfrom : ∀ fuel k s, k < minimalPeriod f x₀ → minimalPeriod f x₀ ≤ k + fuel → I s →
      Wp (goRound f x₀ attempt back fuel (f^[k] x₀)) (Ends good taken none
        ((List.range' (k + 1) (minimalPeriod f x₀ - 1 - k)).map fun k => f^[k] x₀)) s := by
    intro fuel
    induction fuel with
    | zero => intro k s hlt hle; omega
    | succ fuel ih =>
      intro k s hlt hle hs
      rw [goRound, ← iterate_succ_apply' f k x₀]
      by_cases hlast : k + 1 = minimalPeriod f x₀
      · have hnil : minimalPeriod f x₀ - 1 - k = 0 := by omega
        have hback' : f^[k + 1] x₀ = x₀ := by rw [hlast, iterate_minimalPeriod]
        rw [if_pos hback', hnil]
        exact wp_bind ((hback s hs).mono fun _ s' hs' =>
          wp_pure (Or.inr ⟨rfl, List.forall_mem_nil _, hs'⟩))
      · have hmem : f^[k + 1] x₀ ∈ others f x₀ :=
          mem_others.2 ⟨k + 1, Nat.succ_pos k, by omega, rfl⟩
        have hcons : minimalPeriod f x₀ - 1 - k = minimalPeriod f x₀ - 1 - (k + 1) + 1 := by omega
        rw [if_neg (ne_of_mem_others hmem), hcons, List.range'_succ, List.map_cons]
        refine wp_bind ((hattempt _ hmem s hs).mono fun r s' h => ?_)
        rcases h with ⟨rfl, hgood, htaken⟩ | ⟨rfl, hbad, hs'⟩
        · exact wp_pure (Or.inl ⟨[], _, _, rfl, rfl, List.forall_mem_nil _, hgood, htaken⟩)
        · exact wp_bind ((ih (k + 1) s' (by omega) (by omega) hs').mono fun tried s'' h =>
            wp_pure (h.cons hbad))
  exact hfrom fuel 0 s hcycle (by omega) hs

/-! ### Additions modulo a number -/

section Stride

variable {num : α → ℕ} {n d : ℕ}

lemma num_iterate (hf : ∀ x, num x < n → num (f x) = (num x + d) % n) (hx : num x < n) (k : ℕ) :
    num (f^[k] x) = (num x + k * d) % n := by
  have hn : 0 < n := by omega
  induction k with
  | zero => simp [Nat.mod_eq_of_lt hx]
  | succ k ih =>
    rw [iterate_succ_apply', hf _ (ih ▸ Nat.mod_lt _ hn), ih, Nat.mod_add_mod, Nat.succ_mul,
      Nat.add_assoc]

/-- Adding `d` modulo `n` comes back after `n` steps, if `d` and `n` have no common divisor. -/
theorem minimalPeriod_stride (hf : ∀ x, num x < n → num (f x) = (num x + d) % n)
    (hinj : Injective num) (hx : num x < n) (hd : Nat.Coprime n d) : minimalPeriod f x = n := by
  have hperiod (k : ℕ) : minimalPeriod f x ∣ k ↔ n ∣ k := by
    rw [← isPeriodicPt_iff_minimalPeriod_dvd, IsPeriodicPt, IsFixedPt, ← hinj.eq_iff,
      num_iterate hf hx]
    constructor
    · intro h
      have hzero : k * d ≡ 0 [MOD n] := by
        refine Nat.ModEq.add_left_cancel' (num x) ?_
        rw [Nat.add_zero, Nat.ModEq, h, Nat.mod_eq_of_lt hx]
      exact hd.dvd_of_dvd_mul_right (Nat.dvd_of_mod_eq_zero hzero)
    · rintro ⟨m, rfl⟩
      rw [Nat.mul_assoc, Nat.add_mul_mod_self_left, Nat.mod_eq_of_lt hx]
  exact Nat.dvd_antisymm ((hperiod n).2 (Nat.dvd_refl n)) ((hperiod _).1 (Nat.dvd_refl _))

end Stride

end Round
