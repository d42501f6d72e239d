/-
# A supervisor and its children

What a process that runs others should be.  It spawns children, sends them signals, asks
them to end, and collects the ones that have ended.  It keeps a record of the children it
works with, and may strike one off the record only after it has asked it to end.  So every
child that has not been collected is on record or has been asked to end, and no signal ever
reaches a process that is not a child, or a later one with the same name: this is what the
fields of `Supervisor` say of each state, and the theorems of each path.
-/
import Xdm.Lib.Lts
import Mathlib.Data.Set.Insert
import Mathlib.Order.BooleanAlgebra.Set

universe u v

/-- The children not yet collected, those on record, and those that were asked to end. -/
structure Supervisor (P : Type u) where
  children : Set P
  owned : Set P
  told : Set P
  owned_subset : owned ⊆ children
  told_subset : told ⊆ children
  accounted : children ⊆ owned ∪ told

namespace Supervisor

variable {P : Type u} {S : Type v} {t t' : Supervisor P} {p q : P}

/-- What a supervisor can do; a signal carries its number. -/
inductive Act (P : Type u) (S : Type v)
  | spawn (p : P)
  | signal (p : P) (sig : S)
  | terminate (p : P) (sig : S)
  | forget (p : P)
  | collect (p : P)

/-- Nothing has been spawned. -/
def idle : Supervisor P where
  children := ∅
  owned := ∅
  told := ∅
  owned_subset := Set.Subset.rfl
  told_subset := Set.Subset.rfl
  accounted := Set.empty_subset _

/-- With the child `p`, which nobody has asked to end. -/
def spawn (t : Supervisor P) (p : P) : Supervisor P where
  children := insert p t.children
  owned := insert p t.owned
  told := t.told \ {p}
  owned_subset := Set.insert_subset_insert t.owned_subset
  told_subset := fun _ hq => Set.mem_insert_of_mem _ (t.told_subset hq.1)
  accounted := by
    rintro q (rfl | hq)
    · exact Or.inl (Set.mem_insert _ _)
    · rcases t.accounted hq with h | h
      · exact Or.inl (Set.mem_insert_of_mem _ h)
      · by_cases hqp : q = p
        · exact Or.inl (hqp ▸ Set.mem_insert _ _)
        · exact Or.inr ⟨h, hqp⟩

/-- The child `p` has been asked to end. -/
def terminate (t : Supervisor P) (p : P) (hp : p ∈ t.owned) : Supervisor P where
  children := t.children
  owned := t.owned
  told := insert p t.told
  owned_subset := t.owned_subset
  told_subset := Set.insert_subset (t.owned_subset hp) t.told_subset
  accounted := fun _ hq => (t.accounted hq).imp_right (Set.mem_insert_of_mem _)

/-- Without `p` on the record. -/
def forget (t : Supervisor P) (p : P) (hp : p ∈ t.told) : Supervisor P where
  children := t.children
  owned := t.owned \ {p}
  told := t.told
  owned_subset := fun _ hq => t.owned_subset hq.1
  told_subset := t.told_subset
  accounted := by
    intro q hq
    by_cases hqp : q = p
    · exact Or.inr (hqp ▸ hp)
    · exact (t.accounted hq).imp_left fun h => ⟨h, hqp⟩

/-- Without the child `p`. -/
def collect (t : Supervisor P) (p : P) : Supervisor P where
  children := t.children \ {p}
  owned := t.owned \ {p}
  told := t.told \ {p}
  owned_subset := fun _ hq => ⟨t.owned_subset hq.1, hq.2⟩
  told_subset := fun _ hq => ⟨t.told_subset hq.1, hq.2⟩
  accounted := fun _ hq => (t.accounted hq.1).imp (fun h => ⟨h, hq.2⟩) fun h => ⟨h, hq.2⟩

/-- A new child has a name that no child has; signals go to children on record. -/
inductive Step : Supervisor P → Act P S → Supervisor P → Prop
  | spawn {t : Supervisor P} {p : P} : p ∉ t.children → Step t (.spawn p) (t.spawn p)
  | signal {t : Supervisor P} {p : P} {sig : S} : p ∈ t.owned → Step t (.signal p sig) t
  | terminate {t : Supervisor P} {p : P} {sig : S} (hp : p ∈ t.owned) :
      Step t (.terminate p sig) (t.terminate p hp)
  | forget {t : Supervisor P} {p : P} (hp : p ∈ t.told) : Step t (.forget p) (t.forget p hp)
  | collect {t : Supervisor P} {p : P} : p ∈ t.children → Step t (.collect p) (t.collect p)

/-! ### What a path has done -/

/-- The act is about the process `p`, and ends what was known of an earlier one. -/
def Act.renews (p : P) : Act P S → Prop
  | .spawn q | .collect q => q = p
  | _ => False

/-- The act asks the process `p` to end. -/
def Act.asks (p : P) : Act P S → Prop
  | .terminate q _ => q = p
  | _ => False

/-- Neither is a child spawned nor one collected. -/
def Act.Sends : Act P S → Prop
  | .spawn _ | .collect _ => False
  | _ => True

lemma told_of_step {act : Act P S} (h : Step t act t') (hp : p ∈ t'.told) :
    act.asks p ∨ ¬ act.renews p ∧ p ∈ t.told := by
  cases h with
  | spawn _ => exact Or.inr ⟨fun hq => hp.2 hq.symm, hp.1⟩
  | signal _ => exact Or.inr ⟨id, hp⟩
  | terminate _ =>
    rcases hp with rfl | hp
    · exact Or.inl rfl
    · exact Or.inr ⟨id, hp⟩
  | forget _ => exact Or.inr ⟨id, hp⟩
  | collect _ => exact Or.inr ⟨fun hq => hp.2 hq.symm, hp.1⟩

/-- Who has been asked to end was asked somewhere on the path, and is the same child since. -/
theorem asked_of_told {acts : List (Act P S)} (h : Lts.Path Step t acts t') (hp : p ∈ t'.told)
    (hno : p ∉ t.told) :
    ∃ acts₁ act acts₂, acts = acts₁ ++ act :: acts₂ ∧ act.asks p ∧
      ∀ act' ∈ acts₂, ¬ act'.renews p := by
  exact h.since (fun _ _ _ hstep hp => told_of_step hstep hp) hno hp

/-- Who has been asked to end was so before, or the path has asked it. -/
theorem told_of_path {acts : List (Act P S)} (h : Lts.Path Step t acts t') (hp : p ∈ t'.told) :
    (∃ act ∈ acts, act.asks p) ∨ p ∈ t.told := by
  by_cases ht : p ∈ t.told
  · exact Or.inr ht
  · obtain ⟨acts₁, act, acts₂, rfl, hasks, -⟩ := asked_of_told h hp ht
    exact Or.inl ⟨act, by simp, hasks⟩

end Supervisor
