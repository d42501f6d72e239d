/-
# Maps that forget

In a timed map a value lapses: when it was put in more than `timeout` ago, reading finds
nothing.  A program may keep the entries in a list of records and take the lapsed ones out
later, whenever it comes across them.  `Holds` says that such a list still does for the map,
and it has one rule for the passing of time and one for each thing that is done to the list.
-/
import Xdm.Lib.Keyed
import Mathlib.Order.Defs.LinearOrder

/-- What was put in last under each key, and when. -/
abbrev TimedMap (κ α : Type) : Type := κ → Option (α × Int)

namespace TimedMap

variable {κ α ρ : Type} {m : TimedMap κ α} {timeout now now' : Int} {k : κ} {v : α}

def empty : TimedMap κ α := fun _ => none

def put [DecidableEq κ] (m : TimedMap κ α) (k : κ) (v : α) (now : Int) : TimedMap κ α :=
  fun k' => if k' = k then some (v, now) else m k'

/-- What is read at `now`. -/
def get (m : TimedMap κ α) (timeout now : Int) (k : κ) : Option α :=
  (m k).bind fun x => if timeout < now - x.2 then none else some x.1

lemma get_of_lapsed (h : ∀ x, m k = some x → timeout < now - x.2) :
    m.get timeout now k = none := by
  cases hm : m k with
  | none => simp [get, hm]
  | some x => simp [get, hm, h x hm]

lemma get_of_fresh {x : α × Int} (hm : m k = some x) (h : ¬ timeout < now - x.2) :
    m.get timeout now k = some x.1 := by
  simp [get, hm, h]

/-! ### A list of records that does for the map -/

/-- The records of `l` are entries of the map, one for a key, and no entry is missing that
has not lapsed. -/
structure Holds (key : ρ → κ) (entry : ρ → α × Int) (timeout now : Int) (l : List ρ)
    (m : TimedMap κ α) : Prop where
  distinct : Keyed.Distinct key l
  agree : ∀ r ∈ l, m (key r) = some (entry r)
  kept : ∀ k x, m k = some x → ¬ timeout < now - x.2 → ∃ r ∈ l, key r = k

namespace Holds

variable {key : ρ → κ} {entry : ρ → α × Int} {l l' : List ρ} {r : ρ}

lemma nil : Holds key entry timeout now [] (empty : TimedMap κ α) :=
  ⟨List.nodup_nil, List.forall_mem_nil _, fun _ _ hm => nomatch hm⟩

/-- What has lapsed does not come back. -/
lemma later (h : Holds key entry timeout now l m) (hle : now ≤ now') :
    Holds key entry timeout now' l m :=
  { h with kept := fun k x hm hfresh => h.kept k x hm (by omega) }

/-- Records that have lapsed may be taken out. -/
lemma sweep (h : Holds key entry timeout now l m) (hsub : l'.Sublist l)
    (hout : ∀ r ∈ l, r ∈ l' ∨ timeout < now - (entry r).2) :
    Holds key entry timeout now l' m where
  distinct := List.Nodup.sublist (hsub.map key) h.distinct
  agree r hr := h.agree r (hsub.subset hr)
  kept k x hm hfresh := by
    obtain ⟨r, hr, rfl⟩ := h.kept k x hm hfresh
    obtain rfl : entry r = x := Option.some.inj ((h.agree r hr).symm.trans hm)
    exact ⟨r, (hout r hr).resolve_right hfresh, rfl⟩

lemma get_found (h : Holds key entry timeout now l m) (hr : r ∈ l)
    (hfresh : ¬ timeout < now - (entry r).2) :
    m.get timeout now (key r) = some (entry r).1 :=
  get_of_fresh (h.agree r hr) hfresh

lemma get_missing (h : Holds key entry timeout now l m) (hk : ∀ r ∈ l, key r ≠ k) :
    m.get timeout now k = none := by
  refine get_of_lapsed fun x hm => ?_
  by_contra hfresh
  obtain ⟨r, hr, hkey⟩ := h.kept k x hm hfresh
  exact hk r hr hkey

variable [DecidableEq κ]

/-- A record for a key that has none is put in front. -/
lemma cons (h : Holds key entry timeout now l m) (hk : ∀ r' ∈ l, key r' ≠ key r) :
    Holds key entry timeout now (r :: l) (m.put (key r) (entry r).1 (entry r).2) where
  distinct := h.distinct.cons hk
  agree r' hr' := by
    rcases List.mem_cons.1 hr' with rfl | hr'
    · exact if_pos rfl
    · rw [put, if_neg (hk r' hr')]
      exact h.agree r' hr'
  kept k x hm hfresh := by
    by_cases hkr : k = key r
    · exact ⟨r, List.mem_cons_self .., hkr.symm⟩
    · rw [put, if_neg hkr] at hm
      obtain ⟨r', hr', hkey⟩ := h.kept k x hm hfresh
      exact ⟨r', List.mem_cons_of_mem _ hr', hkey⟩

/-- The record for a key is given a new value, lapsed or not. -/
lemma modify {f : ρ → ρ} (h : Holds key entry timeout now l m) (hr : r ∈ l)
    (hf : ∀ r, key (f r) = key r) (hentry : ∀ r, entry (f r) = (v, now)) :
    Holds key entry timeout now (Keyed.modify key (key r) f l) (m.put (key r) v now) where
  distinct := h.distinct.modify hf
  agree r' hr' := by
    rcases Keyed.mem_modify.1 hr' with ⟨y, hy, hkey, rfl⟩ | ⟨hy, hkey⟩
    · rw [put, if_pos ((hf y).trans hkey), hentry]
    · rw [put, if_neg hkey]
      exact h.agree r' hy
  kept k x hm hfresh := by
    by_cases hkr : k = key r
    · exact ⟨f r, Keyed.mem_modify.2 (Or.inl ⟨r, hr, rfl, rfl⟩), (hf r).trans hkr.symm⟩
    · rw [put, if_neg hkr] at hm
      obtain ⟨y, hy, hkey⟩ := h.kept k x hm hfresh
      exact ⟨y, Keyed.mem_modify.2 (Or.inr ⟨hy, by rw [hkey]; exact hkr⟩), hkey⟩

end Holds

end TimedMap
