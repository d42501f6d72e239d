/-
# Runs of a machine that is driven by inputs

A machine is a program for each input.  A run from `s₀` is recorded with its history: for
each step the state before, the input, and the state after, oldest first.  The two
induction principles at the end are the ones every safety proof uses: an invariant of the
states, and an invariant of the state together with the history that led to it.
-/
import Xdm.Lib.Prog

namespace Prog

variable {σ ι : Type} {step : ι → Prog σ Unit} {s₀ : σ}

/-- One step of a run: the state before, the input, the state after. -/
structure Step (σ ι : Type) where
  pre : σ
  input : ι
  post : σ

/-- `Run step s₀ h s`: the machine can go from `s₀` to `s` with the history `h`. -/
inductive Run (step : ι → Prog σ Unit) (s₀ : σ) : List (Step σ ι) → σ → Prop
  | nil : Run step s₀ [] s₀
  | snoc {h : List (Step σ ι)} {s s' : σ} {i : ι} :
      Run step s₀ h s → step i s = some ((), s') → Run step s₀ (h ++ [⟨s, i, s'⟩]) s'

/-- The step of a machine whose inputs give the next state, if they can come. -/
lemma next_of_step {o : Option σ} {s : σ} (hstep : (o.map fun s => ((), s)) = some ((), s)) :
    o = some s := by
  obtain ⟨s', hs', heq⟩ := Option.map_eq_some_iff.1 hstep
  exact (Prod.mk.inj heq).2 ▸ hs'

namespace Run

/-- What holds at the start and is preserved by every step, together with the history,
holds at the end.  The steps may be assumed to satisfy `C` if the whole history does. -/
theorem invariant_of {C : Step σ ι → Prop} {I : List (Step σ ι) → σ → Prop}
    (init : I [] s₀)
    (next : ∀ h s i s', Run step s₀ h s → I h s → step i s = some ((), s') →
      C ⟨s, i, s'⟩ → I (h ++ [⟨s, i, s'⟩]) s')
    {h : List (Step σ ι)} {s : σ} (run : Run step s₀ h s) (hC : ∀ x ∈ h, C x) : I h s := by
  induction run with
  | nil => exact init
  | snoc run hstep ih =>
    have hI := ih fun x hx => hC x (by simp [hx])
    exact next _ _ _ _ run hI hstep (hC _ (by simp))

/-- An invariant of the states that every step preserves holds of every reachable state. -/
theorem invariant {I : σ → Prop} (init : I s₀)
    (next : ∀ s i s', I s → step i s = some ((), s') → I s')
    {h : List (Step σ ι)} {s : σ} (run : Run step s₀ h s) : I s :=
  invariant_of (C := fun _ => True) (I := fun _ s => I s) init
    (fun _ s i s' _ hs hstep _ => next s i s' hs hstep) run (fun _ _ => trivial)

/-- The part of a run before one of its steps is a run that ends where this step starts. -/
theorem before {h₁ h₂ : List (Step σ ι)} {x : Step σ ι} {s : σ}
    (run : Run step s₀ (h₁ ++ x :: h₂) s) :
    Run step s₀ h₁ x.pre ∧ step x.input x.pre = some ((), x.post) := by
  generalize hh : h₁ ++ x :: h₂ = h at run
  induction run generalizing h₂ with
  | nil => simp at hh
  | @snoc h s s' i run hstep ih =>
    rcases List.eq_nil_or_concat h₂ with rfl | ⟨h₃, y, rfl⟩
    · obtain ⟨rfl, hx⟩ := List.append_inj' hh rfl
      obtain rfl : x = ⟨s, i, s'⟩ := by simpa using hx
      exact ⟨run, hstep⟩
    · rw [List.concat_eq_append, ← List.cons_append, ← List.append_assoc] at hh
      exact ih (List.append_inj' hh rfl).1

/-- A run ends where it has started or where one of its steps has ended. -/
theorem reached {P : σ → Prop} {h : List (Step σ ι)} {s : σ} (run : Run step s₀ h s)
    (init : P s₀) (hpost : ∀ x ∈ h, P x.post) : P s := by
  cases run with
  | nil => exact init
  | snoc _ _ => exact hpost _ (List.mem_append_right _ (List.mem_singleton.2 rfl))

/-- Each step of the history starts where a shorter run ends. -/
theorem split {h : List (Step σ ι)} {s : σ} (run : Run step s₀ h s) {x : Step σ ι}
    (hx : x ∈ h) :
    ∃ h₁ h₂, h = h₁ ++ x :: h₂ ∧ Run step s₀ h₁ x.pre ∧
      step x.input x.pre = some ((), x.post) := by
  obtain ⟨h₁, h₂, rfl⟩ := List.append_of_mem hx
  exact ⟨h₁, h₂, rfl, run.before⟩

/-- What holds before some step of a run, and is preserved by this step and by all later
ones, holds before each of them and at the end. -/
theorem stable {P : σ → Prop} {h₁ h₂ : List (Step σ ι)} {x : Step σ ι} {s : σ}
    (run : Run step s₀ (h₁ ++ x :: h₂) s) (hP : P x.pre)
    (next : ∀ y ∈ x :: h₂, P y.pre → P y.post) : (∀ y ∈ x :: h₂, P y.pre) ∧ P s := by
  generalize hh : h₁ ++ x :: h₂ = h at run
  induction run generalizing h₂ with
  | nil => simp at hh
  | @snoc h s s' i run hstep ih =>
    rcases List.eq_nil_or_concat h₂ with rfl | ⟨h₃, y, rfl⟩
    · obtain ⟨-, hx⟩ := List.append_inj' hh rfl
      obtain rfl : x = ⟨s, i, s'⟩ := by simpa using hx
      exact ⟨by simpa using hP, next _ (by simp) hP⟩
    · simp only [List.concat_eq_append] at hh next ⊢
      rw [← List.cons_append, ← List.append_assoc] at hh
      obtain ⟨rfl, hy⟩ := List.append_inj' hh rfl
      obtain rfl : y = ⟨s, i, s'⟩ := by simpa using hy
      have hsub : ∀ z ∈ x :: h₃, z ∈ x :: (h₃ ++ [⟨s, i, s'⟩]) := by
        simp +contextual [or_imp]
      obtain ⟨hpre, hs⟩ := ih (fun z hz => next z (hsub z hz)) rfl
      refine ⟨fun z hz => ?_, next ⟨s, i, s'⟩ (by simp) hs⟩
      rw [← List.cons_append, List.mem_append] at hz
      rcases hz with hz | hz
      · exact hpre z hz
      · obtain rfl := List.mem_singleton.1 hz
        exact hs

/-- What holds after some step of a run, and is preserved by all later ones, holds before and
after each of them. -/
theorem stable_after {P : σ → Prop} {h₁ h₂ : List (Step σ ι)} {x : Step σ ι} {s : σ}
    (run : Run step s₀ (h₁ ++ x :: h₂) s) (hP : P x.post)
    (next : ∀ y ∈ h₂, P y.pre → P y.post) : ∀ y ∈ h₂, P y.pre ∧ P y.post := by
  cases h₂ with
  | nil => simp
  | cons y h₂ =>
    have hsplit : h₁ ++ x :: y :: h₂ = (h₁ ++ [x]) ++ y :: h₂ := by simp
    rw [hsplit] at run
    have hpost : P y.pre := by
      obtain ⟨hrun, -⟩ := run.before
      generalize hh : h₁ ++ [x] = h at hrun
      cases hrun with
      | nil => simp at hh
      | snoc _ _ =>
        obtain ⟨-, hx⟩ := List.append_inj' hh rfl
        obtain rfl := List.singleton_inj.1 hx
        exact hP
    have hpre := (run.stable hpost next).1
    exact fun z hz => ⟨hpre z hz, next z hz (hpre z hz)⟩

/-- What holds after some step of a run, of what has happened since, and is kept by all later
steps, holds at the end. -/
theorem after {P : List (Step σ ι) → σ → Prop} {h₁ h₂ : List (Step σ ι)} {x : Step σ ι} {s : σ}
    (run : Run step s₀ (h₁ ++ x :: h₂) s) (init : P [] x.post)
    (next : ∀ l, ∀ y ∈ h₂, P l y.pre → step y.input y.pre = some ((), y.post) →
      P (l ++ [y]) y.post) : P h₂ s := by
  generalize hh : h₁ ++ x :: h₂ = h at run
  induction run generalizing h₂ with
  | nil => simp at hh
  | @snoc h s s' i run hstep ih =>
    rcases List.eq_nil_or_concat h₂ with rfl | ⟨h₃, y, rfl⟩
    · obtain ⟨-, hx⟩ := List.append_inj' hh rfl
      obtain rfl : x = ⟨s, i, s'⟩ := by simpa using hx
      exact init
    · simp only [List.concat_eq_append] at hh next ⊢
      rw [← List.cons_append, ← List.append_assoc] at hh
      obtain ⟨rfl, hy⟩ := List.append_inj' hh rfl
      obtain rfl : y = ⟨s, i, s'⟩ := by simpa using hy
      have hs := ih (fun l z hz => next l z (List.mem_append_left _ hz)) rfl
      exact next _ _ (by simp) hs hstep

/-- What some steps set, and some clear, holds at the end if a step has set it and none has
cleared it since. -/
theorem since {P : σ → Prop} {sets clears : Step σ ι → Prop} {h : List (Step σ ι)} {s : σ}
    (run : Run step s₀ h s) (init : ¬ P s₀)
    (next : ∀ x ∈ h, P x.post ↔ sets x ∨ ¬ clears x ∧ P x.pre) :
    P s ↔ ∃ h₁ x h₂, h = h₁ ++ x :: h₂ ∧ sets x ∧ ∀ y ∈ h₂, ¬ clears y := by
  induction run with
  | nil =>
    refine iff_of_false init ?_
    rintro ⟨h₁, x, h₂, hh, -⟩
    simp at hh
  | @snoc h s s' i _ _ ih =>
    have hlast : P s' ↔ _ := next ⟨s, i, s'⟩ (by simp)
    rw [hlast, ih fun x hx => next x (List.mem_append_left _ hx)]
    constructor
    · rintro (hsets | ⟨hclears, h₁, x, h₂, rfl, hsets, hkept⟩)
      · exact ⟨h, _, [], rfl, hsets, by simp⟩
      · refine ⟨h₁, x, h₂ ++ [⟨s, i, s'⟩], by simp, hsets, fun y hy => ?_⟩
        rcases List.mem_append.1 hy with hy | hy
        · exact hkept y hy
        · rwa [List.mem_singleton.1 hy]
    · rintro ⟨h₁, x, h₂, hh, hsets, hkept⟩
      rcases List.eq_nil_or_concat h₂ with rfl | ⟨h₃, y, rfl⟩
      · obtain ⟨-, hx⟩ := List.append_inj' hh rfl
        obtain rfl : ⟨s, i, s'⟩ = x := by simpa using hx
        exact Or.inl hsets
      · rw [List.concat_eq_append] at hh hkept
        rw [← List.cons_append, ← List.append_assoc] at hh
        obtain ⟨rfl, hy⟩ := List.append_inj' hh rfl
        obtain rfl : ⟨s, i, s'⟩ = y := by simpa using hy
        exact Or.inr ⟨hkept _ (by simp), h₁, x, h₃, rfl, hsets, fun z hz => hkept z (by simp [hz])⟩

end Run

/-! ### Running the machine -/

/-- Feed the inputs to the machine, from the state `s` with the history `h` on. -/
def exec (step : ι → Prog σ Unit) (h : List (Step σ ι)) (s : σ) :
    List ι → Option (List (Step σ ι) × σ)
  | [] => some (h, s)
  | i :: inputs =>
    match step i s with
    | none => none
    | some (_, s') => exec step (h ++ [⟨s, i, s'⟩]) s' inputs

theorem Run.exec {h h' : List (Step σ ι)} {s s' : σ} {inputs : List ι}
    (run : Run step s₀ h s) (hexec : exec step h s inputs = some (h', s')) :
    Run step s₀ h' s' ∧ h'.map Step.input = h.map Step.input ++ inputs := by
  induction inputs generalizing h s with
  | nil =>
    obtain ⟨rfl, rfl⟩ := Prod.mk.inj (Option.some.inj hexec)
    exact ⟨run, by simp⟩
  | cons i inputs ih =>
    unfold Prog.exec at hexec
    split at hexec
    · exact nomatch hexec
    · next s₁ hstep =>
      obtain ⟨hrun, hinputs⟩ := ih (run.snoc hstep) hexec
      exact ⟨hrun, by simp [hinputs]⟩

/-- A run goes on with a loop over inputs. -/
theorem Run.forM {h : List (Step σ ι)} {s s' : σ} {inputs : List ι}
    (run : Run step s₀ h s) (hloop : inputs.forM step s = some ((), s')) :
    ∃ h', Run step s₀ (h ++ h') s' ∧ h'.map Step.input = inputs := by
  induction inputs generalizing h s with
  | nil =>
    obtain ⟨-, rfl⟩ := Prod.mk.inj (Option.some.inj hloop)
    exact ⟨[], by simpa using run, rfl⟩
  | cons i inputs ih =>
    obtain ⟨_, t, hstep, hrest⟩ := bind_eq_some.1 hloop
    obtain ⟨h', hrun, hinputs⟩ := ih (run.snoc hstep) hrest
    exact ⟨⟨s, i, t⟩ :: h', by simpa using hrun, by simp [hinputs]⟩

/-- If a test of the history and the last state succeeds on the inputs, there is a run on
these inputs with what the test is about. -/
theorem exists_run_on {P : List (Step σ ι) → σ → Prop} [∀ h s, Decidable (P h s)]
    (inputs : List ι)
    (htest : (exec step [] s₀ inputs).any (fun p => decide (P p.1 p.2)) = true) :
    ∃ h s, Run step s₀ h s ∧ h.map Step.input = inputs ∧ P h s := by
  obtain ⟨⟨h, s⟩, hexec, hP⟩ := (Option.any_eq_true _ _).1 htest
  obtain ⟨hrun, hinputs⟩ := Run.nil.exec hexec
  exact ⟨h, s, hrun, hinputs, of_decide_eq_true hP⟩

/-- Every step of a history with one input has this input. -/
lemma input_of_mem {h : List (Step σ ι)} {i : ι} (hinputs : h.map Step.input = [i])
    {x : Step σ ι} (hx : x ∈ h) : x.input = i := by
  have hmem : x.input ∈ h.map Step.input := List.mem_map_of_mem hx
  rwa [hinputs, List.mem_singleton] at hmem

theorem exists_run_of_exec {P : List (Step σ ι) → σ → Prop} [∀ h s, Decidable (P h s)]
    (inputs : List ι)
    (htest : (exec step [] s₀ inputs).any (fun p => decide (P p.1 p.2)) = true) :
    ∃ h s, Run step s₀ h s ∧ P h s := by
  obtain ⟨h, s, run, -, hP⟩ := exists_run_on inputs htest
  exact ⟨h, s, run, hP⟩

end Prog
