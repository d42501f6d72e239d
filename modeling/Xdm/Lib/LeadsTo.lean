/-
# What has to happen

The points of an infinite execution are numbered.  One predicate of them *leads to* another one
if at each point where the first one holds, or later, the second one does.  The rule for a rank
is the one with which a loop is shown to come to an end.
-/
import Mathlib.Data.Nat.Init
import Mathlib.Tactic.ByContra

def LeadsTo (P Q : ℕ → Prop) : Prop := ∀ n, P n → ∃ m, n ≤ m ∧ Q m

/-- What is kept from each point to the next one is kept for ever. -/
lemma holds_after {P : ℕ → Prop} (hstep : ∀ n, P n → P (n + 1)) {n m : ℕ} (hn : P n)
    (hle : n ≤ m) : P m := by
  induction m, hle using Nat.le_induction with
  | base => exact hn
  | succ m _ ih => exact hstep m ih

namespace LeadsTo

variable {P Q E : ℕ → Prop}

/-- `P` is kept until something happens, and it does happen. -/
lemma waits (hstep : ∀ n, P n → ¬ E n → P (n + 1)) (hend : ∀ n, P n → E n → Q (n + 1))
    (hE : ∀ n, P n → ∃ m, n ≤ m ∧ E m) : LeadsTo P Q := by
  intro n hn
  by_contra hnever
  have hwaits : ∀ m, n ≤ m → P m → ¬ E m := fun m hle hm hEm =>
    hnever ⟨m + 1, Nat.le_succ_of_le hle, hend m hm hEm⟩
  have hkept : ∀ m, n ≤ m → P m := by
    intro m hle
    induction m, hle using Nat.le_induction with
    | base => exact hn
    | succ m hle ih => exact hstep m ih (hwaits m hle ih)
  obtain ⟨m, hle, hEm⟩ := hE n hn
  exact hwaits m hle (hkept m hle) hEm

/-- From each point the rank becomes smaller, unless `Q` holds. -/
lemma of_rank (rank : ℕ → ℕ)
    (h : ∀ k, LeadsTo (fun n => P n ∧ rank n = k) fun m => Q m ∨ P m ∧ rank m < k) :
    LeadsTo P Q := by
  have hall : ∀ k n, P n → rank n = k → ∃ m, n ≤ m ∧ Q m := by
    intro k
    induction k using Nat.strongRecOn with
    | _ k ih =>
      intro n hn hrank
      obtain ⟨m, hle, hQ | ⟨hm, hlt⟩⟩ := h k n ⟨hn, hrank⟩
      · exact ⟨m, hle, hQ⟩
      · obtain ⟨m', hle', hQ⟩ := ih (rank m) hlt m hm rfl
        exact ⟨m', Nat.le_trans hle hle', hQ⟩
  exact fun n hn => hall (rank n) n hn rfl

end LeadsTo
