/-
# Cascades

A message is taken out of those in flight, and finitely many smaller ones are put there in its
place.  If the messages cannot go on becoming smaller, this ends, however many are sent each
time and in whatever order they are taken.
-/
import Mathlib.Logic.Hydra

namespace Cascade

open Relation

variable {α : Type*} {r : α → α → Prop} {m : ℕ → Multiset α}

/-- A message is answered by smaller ones. -/
lemma cutExpand_answer {a : α} {rest answers : Multiset α} (h : ∀ b ∈ answers, r b a) :
    CutExpand r (rest + answers) (a ::ₘ rest) := by
  refine ⟨answers, a, h, ?_⟩
  rw [← Multiset.singleton_add, add_comm {a} rest, add_assoc, add_assoc, add_comm answers {a}]

/-- A message that nobody answers. -/
lemma cutExpand_loss {a : α} {rest : Multiset α} : CutExpand r rest (a ::ₘ rest) := by
  have hanswer : CutExpand r (rest + 0) (a ::ₘ rest) :=
    cutExpand_answer fun b hb => absurd hb (Multiset.notMem_zero b)
  rwa [add_zero] at hanswer

/-- A cascade comes to rest. -/
theorem settles (hr : WellFounded r)
    (h : ∀ n, m (n + 1) = m n ∨ CutExpand r (m (n + 1)) (m n)) :
    ∃ N, ∀ n, N ≤ n → m (n + 1) = m n := by
  have hwf : WellFounded (CutExpand r) := hr.cutExpand
  obtain ⟨-, ⟨N, rfl⟩, hmin⟩ := hwf.has_min (Set.range m) (Set.range_nonempty m)
  have hstep : ∀ n, m n = m N → m (n + 1) = m n := by
    intro n hn
    refine (h n).resolve_right fun hlt => ?_
    exact hmin _ (Set.mem_range_self (n + 1)) (hn ▸ hlt)
  have hrest : ∀ n, N ≤ n → m n = m N := by
    intro n hn
    induction n, hn using Nat.le_induction with
    | base => rfl
    | succ n _ ih => exact (hstep n ih).trans ih
  exact ⟨N, fun n hn => hstep n (hrest n hn)⟩

end Cascade
