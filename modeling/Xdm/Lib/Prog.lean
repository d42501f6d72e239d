/-
# Partial programs over a state, and what holds after them

A program reads and changes a state of type `σ` and returns a value; it may also have
no outcome at all, which stands for a run that does not come back (it crashes, it loops,
or the surrounding world does not answer as the program needs).  This file has the
weakest liberal precondition of such a program, with one rule for each way of putting
programs together, and the notion `Keeps`: a program that preserves an invariant and
moves the state only along a given preorder.  `Wp` and `Delivers` say the same of programs
that do return.
-/
import Mathlib.Order.Defs.Unbundled

/-- A program over the states `σ` that returns an `α`, if it returns. -/
abbrev Prog (σ α : Type) : Type := StateT σ Option α

namespace Prog

variable {σ α β : Type}

/-- The outcomes of `m` started in `s`, all of them, satisfy `Q`. -/
def Wlp (m : Prog σ α) (Q : α → σ → Prop) (s : σ) : Prop :=
  ∀ a s', m s = some (a, s') → Q a s'

lemma Wlp.mono {m : Prog σ α} {Q Q' : α → σ → Prop} {s : σ} (h : Wlp m Q s)
    (hQ : ∀ a s', Q a s' → Q' a s') : Wlp m Q' s :=
  fun a s' hm => hQ a s' (h a s' hm)

lemma Wlp.and {m : Prog σ α} {Q Q' : α → σ → Prop} {s : σ} (h : Wlp m Q s)
    (h' : Wlp m Q' s) : Wlp m (fun a s' => Q a s' ∧ Q' a s') s :=
  fun a s' hm => ⟨h a s' hm, h' a s' hm⟩

/-- A program that does the same from here as another one from there. -/
lemma Wlp.of_eq {m m' : Prog σ α} {Q : α → σ → Prop} {s t : σ} (h : Wlp m' Q t)
    (heq : m s = m' t) : Wlp m Q s :=
  fun a s' hm => h a s' (heq ▸ hm)

/-! ### One rule for each construct -/

@[simp] lemma wlp_pure (a : α) (Q : α → σ → Prop) (s : σ) :
    Wlp (pure a : Prog σ α) Q s ↔ Q a s := by
  constructor
  · intro h
    exact h a s rfl
  · rintro h _ _ ⟨rfl, rfl⟩
    exact h

@[simp] lemma wlp_bind (m : Prog σ α) (f : α → Prog σ β) (Q : β → σ → Prop) (s : σ) :
    Wlp (m >>= f) Q s ↔ Wlp m (fun a s' => Wlp (f a) Q s') s := by
  constructor
  · intro h a s' hm b s'' hf
    refine h b s'' ?_
    change (m s).bind (fun p => f p.1 p.2) = some (b, s'')
    rw [hm]
    exact hf
  · intro h b s'' hmf
    change (m s).bind (fun p => f p.1 p.2) = some (b, s'') at hmf
    obtain ⟨⟨a, s'⟩, hm, hf⟩ := Option.bind_eq_some_iff.mp hmf
    exact h a s' hm b s'' hf

@[simp] lemma wlp_get (Q : σ → σ → Prop) (s : σ) :
    Wlp (get : Prog σ σ) Q s ↔ Q s s := by
  constructor
  · intro h
    exact h s s rfl
  · rintro h _ _ ⟨rfl, rfl⟩
    exact h

@[simp] lemma wlp_set (t : σ) (Q : PUnit → σ → Prop) (s : σ) :
    Wlp (set t : Prog σ PUnit) Q s ↔ Q ⟨⟩ t := by
  constructor
  · intro h
    exact h ⟨⟩ t rfl
  · rintro h _ _ ⟨rfl, rfl⟩
    exact h

@[simp] lemma wlp_modify (g : σ → σ) (Q : PUnit → σ → Prop) (s : σ) :
    Wlp (modify g : Prog σ PUnit) Q s ↔ Q ⟨⟩ (g s) := by
  constructor
  · intro h
    exact h ⟨⟩ (g s) rfl
  · rintro h _ _ ⟨rfl, rfl⟩
    exact h

@[simp] lemma wlp_failure (Q : α → σ → Prop) (s : σ) :
    Wlp (failure : Prog σ α) Q s ↔ True :=
  iff_true_intro fun _ _ h => nomatch h

@[simp] lemma wlp_map (f : α → β) (m : Prog σ α) (Q : β → σ → Prop) (s : σ) :
    Wlp (f <$> m) Q s ↔ Wlp m (fun a s' => Q (f a) s') s := by
  rw [map_eq_pure_bind, wlp_bind]
  simp only [wlp_pure]

lemma wlp_ite {c : Prop} [Decidable c] {m m' : Prog σ α} {Q : α → σ → Prop} {s : σ}
    (ht : c → Wlp m Q s) (hf : ¬ c → Wlp m' Q s) : Wlp (if c then m else m') Q s := by
  split
  · exact ht ‹_›
  · exact hf ‹_›

/-- A loop over a list keeps what each of its turns keeps. -/
lemma wlp_forM {f : α → Prog σ PUnit} {I : σ → Prop} :
    ∀ {l : List α} {s : σ}, (∀ a ∈ l, ∀ s, I s → Wlp (f a) (fun _ => I) s) → I s →
      Wlp (l.forM f) (fun _ => I) s
  | [], _, _, hs => (wlp_pure _ _ _).2 hs
  | a :: l, s, h, hs => by
    change Wlp (f a >>= fun _ => l.forM f) _ s
    rw [wlp_bind]
    exact (h a (by simp) s hs).mono fun _ _ hs' =>
      wlp_forM (fun b hb => h b (by simp [hb])) hs'

/-- A loop over a list whose invariant speaks of the elements that are still to come. -/
lemma wlp_forM_rest {f : α → Prog σ PUnit} {I : List α → σ → Prop}
    (h : ∀ a l s, I (a :: l) s → Wlp (f a) (fun _ => I l) s) :
    ∀ {l : List α} {s : σ}, I l s → Wlp (l.forM f) (fun _ => I []) s
  | [], _, hs => (wlp_pure _ _ _).2 hs
  | a :: l, s, hs => by
    change Wlp (f a >>= fun _ => l.forM f) _ s
    rw [wlp_bind]
    exact (h a l s hs).mono fun _ _ hs' => wlp_forM_rest h hs'

/-- A loop over a list in which one turn leads from `I` to `J`, and every turn keeps both. -/
lemma wlp_forM_visit {f : α → Prog σ PUnit} {I J : σ → Prop} {a : α} {l : List α} {s : σ}
    (hI : ∀ b s, I s → Wlp (f b) (fun _ => I) s) (hJ : ∀ b s, J s → Wlp (f b) (fun _ => J) s)
    (hvisit : ∀ s, I s → Wlp (f a) (fun _ => J) s) (ha : a ∈ l) (hs : I s) :
    Wlp (l.forM f) (fun _ => J) s := by
  obtain ⟨l₁, l₂, rfl⟩ := List.append_of_mem ha
  change Wlp (forM (l₁ ++ a :: l₂) f) _ s
  rw [List.forM_append, wlp_bind]
  refine (wlp_forM (fun b _ => hI b) hs).mono fun _ t ht => ?_
  change Wlp (f a >>= fun _ => l₂.forM f) _ t
  rw [wlp_bind]
  exact (hvisit t ht).mono fun _ u hu => wlp_forM (fun b _ => hJ b) hu

/-! ### Programs that return -/

/-- The program returns from `s`, and its outcome satisfies `Q`. -/
def Wp (m : Prog σ α) (Q : α → σ → Prop) (s : σ) : Prop :=
  ∃ a s', m s = some (a, s') ∧ Q a s'

lemma Wp.mono {m : Prog σ α} {Q Q' : α → σ → Prop} {s : σ} (h : Wp m Q s)
    (hQ : ∀ a s', Q a s' → Q' a s') : Wp m Q' s := by
  obtain ⟨a, s', hm, h⟩ := h
  exact ⟨a, s', hm, hQ a s' h⟩

/-- There is no other outcome. -/
lemma Wp.wlp {m : Prog σ α} {Q : α → σ → Prop} {s : σ} (h : Wp m Q s) : Wlp m Q s := by
  obtain ⟨a, s', hm, h⟩ := h
  intro b t hm'
  obtain ⟨rfl, rfl⟩ := Prod.mk.inj (Option.some.inj (hm.symm.trans hm'))
  exact h

lemma wp_pure {a : α} {Q : α → σ → Prop} {s : σ} (h : Q a s) : Wp (pure a : Prog σ α) Q s :=
  ⟨a, s, rfl, h⟩

lemma wp_bind {m : Prog σ α} {f : α → Prog σ β} {Q : β → σ → Prop} {s : σ}
    (h : Wp m (fun a s' => Wp (f a) Q s') s) : Wp (m >>= f) Q s := by
  obtain ⟨a, s', hm, b, s'', hf, h⟩ := h
  refine ⟨b, s'', ?_, h⟩
  change (m s).bind (fun p => f p.1 p.2) = some (b, s'')
  rw [hm]
  exact hf

lemma wp_get {Q : σ → σ → Prop} {s : σ} (h : Q s s) : Wp (get : Prog σ σ) Q s :=
  ⟨s, s, rfl, h⟩

lemma wp_set {t : σ} {Q : PUnit → σ → Prop} {s : σ} (h : Q ⟨⟩ t) :
    Wp (set t : Prog σ PUnit) Q s :=
  ⟨⟨⟩, t, rfl, h⟩

lemma wp_modify {g : σ → σ} {Q : PUnit → σ → Prop} {s : σ} (h : Q ⟨⟩ (g s)) :
    Wp (modify g : Prog σ PUnit) Q s :=
  ⟨⟨⟩, g s, rfl, h⟩

lemma wp_ite {c : Prop} [Decidable c] {m m' : Prog σ α} {Q : α → σ → Prop} {s : σ}
    (ht : c → Wp m Q s) (hf : ¬ c → Wp m' Q s) : Wp (if c then m else m') Q s := by
  split
  · exact ht ‹_›
  · exact hf ‹_›

/-- The program returns from every state. -/
def Returns (m : Prog σ α) : Prop := ∀ s, Wp m (fun _ _ => True) s

lemma Returns.pure (a : α) : Returns (pure a : Prog σ α) := fun _ => wp_pure trivial

lemma Returns.get : Returns (get : Prog σ σ) := fun _ => wp_get trivial

lemma Returns.set (t : σ) : Returns (set t : Prog σ PUnit) := fun _ => wp_set trivial

lemma Returns.modify (g : σ → σ) : Returns (modify g : Prog σ PUnit) := fun _ => wp_modify trivial

lemma Returns.bind {m : Prog σ α} {f : α → Prog σ β} (hm : Returns m) (hf : ∀ a, Returns (f a)) :
    Returns (m >>= f) :=
  fun s => wp_bind ((hm s).mono fun a s' _ => hf a s')

lemma Returns.ite {c : Prop} [Decidable c] {m m' : Prog σ α} (ht : c → Returns m)
    (hf : ¬ c → Returns m') : Returns (if c then m else m') :=
  fun s => wp_ite (fun h => ht h s) fun h => hf h s

/-- It returns, and what it does when it returns is known. -/
lemma Returns.wp {m : Prog σ α} {Q : α → σ → Prop} {s : σ} (h : Returns m) (hQ : Wlp m Q s) :
    Wp m Q s := by
  obtain ⟨a, s', hm, -⟩ := h s
  exact ⟨a, s', hm, hQ a s' hm⟩

/-! ### Running a program -/

lemma get_bind (f : σ → Prog σ α) (s : σ) : (get >>= f) s = f s s := rfl

/-- A composed program has an outcome if its parts have, one after the other. -/
lemma bind_eq_some {m : Prog σ α} {f : α → Prog σ β} {b : β} {s s'' : σ} :
    (m >>= f) s = some (b, s'') ↔ ∃ a s', m s = some (a, s') ∧ f a s' = some (b, s'') := by
  change (m s).bind (fun p => f p.1 p.2) = some (b, s'') ↔ _
  simp only [Option.bind_eq_some_iff, Prod.exists]

lemma bind_of_eq_some {m : Prog σ α} (f : α → Prog σ β) {a : α} {s s' : σ}
    (hm : m s = some (a, s')) : (m >>= f) s = f a s' := by
  change (m s).bind (fun p => f p.1 p.2) = _
  rw [hm]
  rfl

lemma modify_bind (g : σ → σ) (f : PUnit → Prog σ α) (s : σ) :
    (modify g >>= f) s = f ⟨⟩ (g s) := rfl

/-! ### Programs that keep an invariant and respect a preorder -/

/-- From a state with the invariant `I` the program ends, if it ends, in a state that
has it too and that `R` allows. -/
def Keeps (I : σ → Prop) (R : σ → σ → Prop) (m : Prog σ α) : Prop :=
  ∀ s, I s → Wlp m (fun _ s' => I s' ∧ R s s') s

section Keeps

variable {I : σ → Prop} {R : σ → σ → Prop}

lemma Keeps.pure [Std.Refl R] (a : α) : Keeps I R (pure a : Prog σ α) :=
  fun s hs => (wlp_pure _ _ _).2 ⟨hs, refl s⟩

lemma Keeps.failure : Keeps I R (failure : Prog σ α) :=
  fun _ _ => (wlp_failure _ _).2 trivial

lemma Keeps.get [Std.Refl R] : Keeps I R (get : Prog σ σ) :=
  fun s hs => (wlp_get _ _).2 ⟨hs, refl s⟩

lemma Keeps.modify {g : σ → σ} (h : ∀ s, I s → I (g s) ∧ R s (g s)) :
    Keeps I R (modify g : Prog σ PUnit) :=
  fun s hs => (wlp_modify _ _ _).2 (h s hs)

lemma Keeps.bind [IsTrans σ R] {m : Prog σ α} {f : α → Prog σ β}
    (hm : Keeps I R m) (hf : ∀ a, Keeps I R (f a)) : Keeps I R (m >>= f) := by
  intro s hs
  rw [wlp_bind]
  refine (hm s hs).mono fun a s₁ ⟨hs₁, h₁⟩ => ?_
  exact (hf a s₁ hs₁).mono fun _ s₂ ⟨hs₂, h₂⟩ => ⟨hs₂, IsTrans.trans _ _ _ h₁ h₂⟩

/-- Run `m` after what has led from `s₀` to `s`, and go on. -/
lemma Keeps.seq [IsTrans σ R] {m : Prog σ α} {f : α → Prog σ β} {Q : β → σ → Prop}
    {s₀ s : σ} (hm : Keeps I R m) (hs : I s) (h₀ : R s₀ s)
    (hf : ∀ a s', I s' → R s₀ s' → Wlp (f a) Q s') : Wlp (m >>= f) Q s := by
  rw [wlp_bind]
  exact (hm s hs).mono fun a s' ⟨hs', h⟩ => hf a s' hs' (IsTrans.trans _ _ _ h₀ h)

/-- Run `m` after what has led from `s₀` to `s`, and stop. -/
lemma Keeps.last [IsTrans σ R] {m : Prog σ α} {s₀ s : σ} (hm : Keeps I R m) (hs : I s)
    (h₀ : R s₀ s) : Wlp m (fun _ s' => I s' ∧ R s₀ s') s :=
  (hm s hs).mono fun _ _ ⟨hs', h⟩ => ⟨hs', IsTrans.trans _ _ _ h₀ h⟩

lemma Keeps.ite {c : Prop} [Decidable c] {m m' : Prog σ α}
    (ht : c → Keeps I R m) (hf : ¬ c → Keeps I R m') : Keeps I R (if c then m else m') := by
  split
  · exact ht ‹_›
  · exact hf ‹_›

lemma Keeps.forM [Std.Refl R] [IsTrans σ R] {f : α → Prog σ PUnit} :
    ∀ {l : List α}, (∀ a ∈ l, Keeps I R (f a)) → Keeps I R (l.forM f)
  | [], _ => Keeps.pure _
  | a :: l, h => Keeps.bind (h a (by simp)) fun _ =>
      Keeps.forM fun b hb => h b (by simp [hb])

end Keeps

/-- From every state the program moves the state, if it ends, only as `R` allows. -/
abbrev Respects (R : σ → σ → Prop) (m : Prog σ α) : Prop := Keeps (fun _ => True) R m

/-- The program returns from every state with `I`, in a state that has it too and that `R`
allows. -/
def Delivers (I : σ → Prop) (R : σ → σ → Prop) (m : Prog σ α) : Prop :=
  ∀ s, I s → Wp m (fun _ s' => I s' ∧ R s s') s

section Delivers

variable {I : σ → Prop} {R : σ → σ → Prop}

lemma Delivers.modify {g : σ → σ} (h : ∀ s, I s → I (g s) ∧ R s (g s)) :
    Delivers I R (modify g : Prog σ PUnit) :=
  fun s hs => wp_modify (h s hs)

lemma Delivers.bind [IsTrans σ R] {m : Prog σ α} {f : α → Prog σ β}
    (hm : Delivers I R m) (hf : ∀ a, Delivers I R (f a)) : Delivers I R (m >>= f) := by
  intro s hs
  refine wp_bind ((hm s hs).mono fun a s₁ ⟨hs₁, h₁⟩ => ?_)
  exact (hf a s₁ hs₁).mono fun _ s₂ ⟨hs₂, h₂⟩ => ⟨hs₂, IsTrans.trans _ _ _ h₁ h₂⟩

/-- Run `m` after what has led from `s₀` to `s`, and go on. -/
lemma Delivers.seq [IsTrans σ R] {m : Prog σ α} {f : α → Prog σ β} {Q : β → σ → Prop}
    {s₀ s : σ} (hm : Delivers I R m) (hs : I s) (h₀ : R s₀ s)
    (hf : ∀ a s', I s' → R s₀ s' → Wp (f a) Q s') : Wp (m >>= f) Q s :=
  wp_bind ((hm s hs).mono fun a s' ⟨hs', h⟩ => hf a s' hs' (IsTrans.trans _ _ _ h₀ h))

end Delivers

end Prog
