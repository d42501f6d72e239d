/-
# Descriptors that are closed on a fork

`dm.c` keeps the descriptors that a child has to close in `CloseMask`, and in `max` a bound for
them, which is looked for again when the largest one has been cleared.  The invariant `Holds`
compares both with the calls so far; so `CloseOnFork`, which goes up to `max`, misses none.
-/
import Mathlib.Data.List.Induction
import Xdm.Sockets.Mask

namespace Xdm

open Prog

/-- `CloseMask` and `max` -/
structure ForkMask where
  closeMask : List Nat
  max : Int
deriving DecidableEq

/-- The last descriptor below `fd` that is set, or -1. -/
def searchDown (mask : List Nat) : Nat → Int
  | 0 => -1
  | fd + 1 => if fd ∈ mask then fd else searchDown mask fd

namespace ForkMask

def empty : ForkMask := ⟨[], 0⟩

def registerCloseOnFork (fd : Nat) (c : ForkMask) : ForkMask where
  closeMask := fdSet fd c.closeMask
  max := if (fd : Int) > c.max then fd else c.max

def clearCloseOnFork (fd : Nat) (c : ForkMask) : ForkMask where
  closeMask := fdClr fd c.closeMask
  max := if (fd : Int) = c.max then searchDown (fdClr fd c.closeMask) fd else c.max

/-- The descriptors that `CloseOnFork` closes, one after the other. -/
def closed (c : ForkMask) : List Nat :=
  (List.range (c.max + 1).toNat).filter fun fd => fd ∈ c.closeMask

def closeOnFork (c : ForkMask) : List Nat × ForkMask := (c.closed, empty)

end ForkMask

/-! ### Sequences of calls -/

inductive CloseCall
  | register (fd : Nat)
  | clear (fd : Nat)
  | closeOnFork
deriving DecidableEq

def CloseCall.run : CloseCall → ForkMask → ForkMask
  | .register fd => ForkMask.registerCloseOnFork fd
  | .clear fd => ForkMask.clearCloseOnFork fd
  | .closeOnFork => fun c => c.closeOnFork.2

/-- What `CloseMask` and `max` are after some calls. -/
def ForkMask.after (calls : List CloseCall) : ForkMask :=
  calls.foldl (fun c call => call.run c) ForkMask.empty

/-- After the call the descriptor is not registered. -/
def CloseCall.Drops (fd : Nat) (call : CloseCall) : Prop := call = .clear fd ∨ call = .closeOnFork

/-- The descriptor has been registered, and neither cleared nor closed since. -/
def StaysRegistered (fd : Nat) (calls : List CloseCall) : Prop :=
  ∃ before since, calls = before ++ .register fd :: since ∧ ∀ call ∈ since, ¬ call.Drops fd

variable {fd x : Nat} {mask : List Nat} {c : ForkMask} {calls : List CloseCall} {call : CloseCall}

lemma not_staysRegistered_nil : ¬ StaysRegistered fd [] := by
  rintro ⟨before, since, h, -⟩
  simp at h

lemma staysRegistered_snoc : StaysRegistered fd (calls ++ [call]) ↔
    call = .register fd ∨ ¬ call.Drops fd ∧ StaysRegistered fd calls := by
  constructor
  · rintro ⟨before, since, h, hsince⟩
    rcases List.eq_nil_or_concat since with rfl | ⟨since, last, rfl⟩
    · obtain ⟨-, hlast⟩ := List.append_inj' h rfl
      exact Or.inl (List.cons.inj hlast).1
    · rw [List.concat_eq_append, ← List.cons_append, ← List.append_assoc] at h
      obtain ⟨rfl, hlast⟩ := List.append_inj' h rfl
      obtain rfl := (List.cons.inj hlast).1
      refine Or.inr ⟨hsince _ (by simp), before, since, rfl, fun call hcall => hsince call ?_⟩
      rw [List.concat_eq_append]
      exact List.mem_append_left _ hcall
  · rintro (rfl | ⟨hlast, before, since, rfl, hsince⟩)
    · exact ⟨calls, [], rfl, List.forall_mem_nil _⟩
    · refine ⟨before, since ++ [call], by simp, List.forall_mem_append.2 ⟨hsince, ?_⟩⟩
      exact List.forall_mem_singleton.2 hlast

/-! ### The bound -/

/-- The search passes over nothing that is set. -/
lemma le_searchDown (hx : x ∈ mask) (hlt : x < fd) : (x : Int) ≤ searchDown mask fd := by
  induction fd with
  | zero => omega
  | succ fd ih =>
    unfold searchDown
    split_ifs with hmem
    · omega
    · refine ih (Nat.lt_of_le_of_ne (Nat.le_of_lt_succ hlt) ?_)
      rintro rfl
      exact hmem hx

/-- `CloseMask` has the registered descriptors, and `max` is a bound for them. -/
structure ForkMask.Holds (calls : List CloseCall) (c : ForkMask) : Prop where
  mem_closeMask : ∀ fd, fd ∈ c.closeMask ↔ StaysRegistered fd calls
  le_max : ∀ fd ∈ c.closeMask, (fd : Int) ≤ c.max

lemma ForkMask.Holds.step (h : c.Holds calls) (call : CloseCall) :
    (call.run c).Holds (calls ++ [call]) where
  mem_closeMask x := by
    rw [staysRegistered_snoc, ← h.mem_closeMask]
    cases call with
    | register fd =>
      change x ∈ fdSet fd c.closeMask ↔ _
      simp [mem_fdSet, CloseCall.Drops, eq_comm]
    | clear fd =>
      change x ∈ fdClr fd c.closeMask ↔ _
      simp [mem_fdClr, CloseCall.Drops, eq_comm, and_comm]
    | closeOnFork => simp [CloseCall.run, closeOnFork, empty, CloseCall.Drops]
  le_max x hx := by
    cases call with
    | register fd =>
      change x ∈ fdSet fd c.closeMask at hx
      change (x : Int) ≤ if (fd : Int) > c.max then (fd : Int) else c.max
      rcases mem_fdSet.1 hx with rfl | hx
      · split_ifs <;> omega
      · have hle := h.le_max x hx
        split_ifs <;> omega
    | clear fd =>
      change x ∈ fdClr fd c.closeMask at hx
      change (x : Int) ≤ if (fd : Int) = c.max then _ else c.max
      obtain ⟨hmem, hne⟩ := mem_fdClr.1 hx
      have hle := h.le_max x hmem
      split_ifs with hmax
      · -- the bound was `fd`, so `x` is below it
        exact le_searchDown hx (by omega)
      · exact hle
    | closeOnFork => exact absurd hx List.not_mem_nil

lemma ForkMask.holds_after (calls : List CloseCall) : (ForkMask.after calls).Holds calls := by
  induction calls using List.reverseRecOn with
  | nil => exact ⟨fun fd => iff_of_false List.not_mem_nil not_staysRegistered_nil,
      List.forall_mem_nil _⟩
  | append_singleton calls call ih =>
    rw [ForkMask.after, List.foldl_append]
    exact ih.step call

/-- After every sequence of calls `max` is a bound for the registered descriptors, and
`CloseOnFork` closes each of them once and nothing else. -/
theorem closeOnFork_closes (calls : List CloseCall) :
    (∀ fd, StaysRegistered fd calls → (fd : Int) ≤ (ForkMask.after calls).max) ∧
    (∀ fd, fd ∈ (ForkMask.after calls).closeOnFork.1 ↔ StaysRegistered fd calls) ∧
    (ForkMask.after calls).closeOnFork.1.Nodup := by
  have h := ForkMask.holds_after calls
  have hmax : ∀ fd, StaysRegistered fd calls → (fd : Int) ≤ (ForkMask.after calls).max :=
    fun fd hfd => h.le_max fd ((h.mem_closeMask fd).2 hfd)
  refine ⟨hmax, fun fd => ?_, List.nodup_range.filter _⟩
  change fd ∈ (ForkMask.after calls).closed ↔ _
  rw [ForkMask.closed, List.mem_filter, List.mem_range, decide_eq_true_eq, h.mem_closeMask]
  constructor
  · exact And.right
  · intro hfd
    have hle := hmax fd hfd
    exact ⟨by omega, hfd⟩

/-- All descriptors are cleared, the largest one first; then 0 is registered again. -/
example : ForkMask.after [.register 0, .register 5, .clear 5, .clear 0] = ⟨[], -1⟩ ∧
    (ForkMask.after [.register 0, .register 5, .clear 5, .clear 0, .register 0]).closed = [0] := by
  decide

/-! ### Listening sockets -/

def Sockets.forkMask (t : Sockets) : ForkMask := ⟨t.closeMask, t.closeMax⟩

/-- `CreateListeningSocket` registers a descriptor in this way. -/
lemma registerCloseOnFork_forkMask (fd : Nat) (t : Sockets) :
    Wlp (registerCloseOnFork fd)
      (fun _ t' => t'.forkMask = t.forkMask.registerCloseOnFork fd) t := by
  have hmax : ((max t.closeMax fd : Nat) : Int) =
      if (fd : Int) > t.closeMax then (fd : Int) else t.closeMax := by
    split_ifs <;> omega
  rw [registerCloseOnFork, wlp_modify]
  exact congrArg (ForkMask.mk _) hmax

end Xdm
