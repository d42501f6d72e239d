/-
# Labelled transition systems and forward simulation

A transition system is a relation between a state, a label and the state after it.  `Path`
is a finite sequence of steps with its labels.  `Follows` is the step of a forward
simulation: whatever abstract state stands for the concrete one before, the abstract system
can go on to one that stands for the concrete one after, and does on the way what the concrete
one does.  It is a preorder on the concrete states, so that it can be proved part by part.
-/
import Mathlib.Data.List.Induction
import Mathlib.Order.Defs.Unbundled

namespace Lts

universe u v w

variable {σ : Type u} {τ : Type v} {ℓ : Type w} {step : τ → ℓ → τ → Prop}

/-- The labels `ls` lead from one state to another. -/
inductive Path (step : τ → ℓ → τ → Prop) : τ → List ℓ → τ → Prop
  | nil (t : τ) : Path step t [] t
  | cons {t t' t'' : τ} {l : ℓ} {ls : List ℓ} :
      step t l t' → Path step t' ls t'' → Path step t (l :: ls) t''

namespace Path

variable {t t' t'' : τ} {l : ℓ} {ls ms : List ℓ}

lemma single (h : step t l t') : Path step t [l] t' := .cons h (.nil t')

lemma append (h : Path step t ls t') (h' : Path step t' ms t'') :
    Path step t (ls ++ ms) t'' := by
  induction h with
  | nil => exact h'
  | cons hstep _ ih => exact .cons hstep (ih h')

/-- A path can be cut between any two of its labels. -/
lemma split (h : Path step t (ls ++ ms) t'') :
    ∃ t', Path step t ls t' ∧ Path step t' ms t'' := by
  induction ls generalizing t with
  | nil => exact ⟨t, .nil t, h⟩
  | cons l ls ih =>
    cases h with
    | cons hstep hrest =>
      obtain ⟨t', hls, hms⟩ := ih hrest
      exact ⟨t', .cons hstep hls, hms⟩

/-- What holds at the end, and did not at the start, was set by some label, and no later one
has cleared it. -/
lemma since {P : τ → Prop} {sets clears : ℓ → Prop}
    (next : ∀ t l t', step t l t' → P t' → sets l ∨ ¬ clears l ∧ P t)
    (h : Path step t ls t') (hno : ¬ P t) (hP : P t') :
    ∃ ls₁ l ls₂, ls = ls₁ ++ l :: ls₂ ∧ sets l ∧ ∀ m ∈ ls₂, ¬ clears m := by
  induction ls using List.reverseRecOn generalizing t' with
  | nil =>
    cases h
    exact absurd hP hno
  | append_singleton ls l ih =>
    obtain ⟨u, hls, hl⟩ := h.split
    obtain ⟨_, hstep, hnil⟩ : ∃ v, step u l v ∧ Path step v [] t' := by
      cases hl with
      | cons hstep hrest => exact ⟨_, hstep, hrest⟩
    cases hnil
    rcases next _ _ _ hstep hP with hsets | ⟨hclears, hu⟩
    · exact ⟨ls, l, [], rfl, hsets, by simp⟩
    · obtain ⟨ls₁, m, ls₂, rfl, hsets, hkept⟩ := ih hls hu
      refine ⟨ls₁, m, ls₂ ++ [l], by simp, hsets, fun n hn => ?_⟩
      rcases List.mem_append.1 hn with hn | hn
      · exact hkept n hn
      · rwa [List.mem_singleton.1 hn]

end Path

/-! ### Forward simulation -/

/-- What the labels say is done can be put together; `does s ls s'` is what the concrete system
does from `s` to `s'`, said in the labels of the abstract one. -/
class Accumulates (does : σ → List ℓ → σ → Prop) : Prop where
  nil (s : σ) : does s [] s
  append {s s' s'' : σ} {ls ms : List ℓ} : does s ls s' → does s' ms s'' → does s (ls ++ ms) s''

/-- The abstract system can follow the concrete one from `s` to `s'`, and does the same. -/
def Follows (step : τ → ℓ → τ → Prop) (stands : σ → τ → Prop) (does : σ → List ℓ → σ → Prop)
    (s s' : σ) : Prop :=
  ∀ t, stands s t → ∃ ls t', Path step t ls t' ∧ stands s' t' ∧ does s ls s'

namespace Follows

variable {stands : σ → τ → Prop} {does : σ → List ℓ → σ → Prop} {s s' s'' : σ}

/-- The abstract system need not move. -/
lemma of_stands (hstands : ∀ t, stands s t → stands s' t) (hdoes : does s [] s') :
    Follows step stands does s s' :=
  fun t ht => ⟨[], t, .nil t, hstands t ht, hdoes⟩

variable [Accumulates does]

lemma refl (s : σ) : Follows step stands does s s := of_stands (fun _ => id) (Accumulates.nil s)

lemma trans (h : Follows step stands does s s') (h' : Follows step stands does s' s'') :
    Follows step stands does s s'' := by
  intro t ht
  obtain ⟨ls, t', hls, ht', hdoes⟩ := h t ht
  obtain ⟨ms, t'', hms, ht'', hdoes'⟩ := h' t' ht'
  exact ⟨ls ++ ms, t'', hls.append hms, ht'', Accumulates.append hdoes hdoes'⟩

instance : Std.Refl (Follows step stands does) := ⟨refl⟩
instance : IsTrans σ (Follows step stands does) := ⟨fun _ _ _ => trans⟩

end Follows

end Lts
