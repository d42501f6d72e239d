/-
What holds of the display list, and how an operation may change it.

`State.Sound` is the invariant of the list: structures have their own addresses, every
process of a display is a child still to be waited for, no process has two owners, and
the status of a display agrees with its processes.  `Quiet` says how a state may follow
another one while no XDMCP session is negotiated.
-/
import Xdm.Daemon

namespace Xdm

open Prog

/-! ### The invariant -/

/-- The two processes a display may have. -/
inductive Role
  | session
  | server
deriving DecidableEq

def Display.proc (d : Display) : Role → Pid
  | .session => d.pid
  | .server => d.serverPid

/-- The status of a display agrees with its processes. -/
structure Display.Ok (d : Display) : Prop where
  zombie : d.status = .zombie → d.serverPid ≠ -1
  phoenix : d.status = .phoenix → d.serverPid ≠ -1
  running : d.status = .running → d.pid ≠ -1

/-- The invariant of the display list.  While the end of a child is being dealt with, the
child is among `dead` and the display `busy` may have a status that does not fit. -/
structure State.Sound (dead : List Pid) (busy : Option Nat) (s : State) : Prop where
  distinct : Keyed.Distinct Display.addr s.displays
  bound : ∀ d ∈ s.displays, d.addr < s.nextAddr
  ok : ∀ d ∈ s.displays, busy ≠ some d.addr → d.Ok
  positive : ∀ p ∈ s.kernel.children, 0 < p
  child : ∀ d ∈ s.displays, ∀ r, d.proc r ≠ -1 → d.proc r ∈ dead ++ s.kernel.children
  owner : ∀ d ∈ s.displays, ∀ d' ∈ s.displays, ∀ r r', d.proc r ≠ -1 →
    d.proc r = d'.proc r' → d.addr = d'.addr ∧ r = r'

/-- The state after a store into the display at `a`. -/
def State.write (s : State) (a : Nat) (f : Display → Display) : State :=
  { s with displays := modifyAt a f s.displays }

/-- The state after the display at `a` has been unlinked and freed. -/
def State.remove (s : State) (a : Nat) : State :=
  { s with displays := eraseAt a s.displays, freed := a :: s.freed }

/-- The state with a new display in front. -/
def State.enter (t : State) (x : Display) : State :=
  { t with displays := x :: t.displays, nextAddr := t.nextAddr + 1 }

@[simp] lemma State.write_kernel (s : State) (a : Nat) (f : Display → Display) :
    (s.write a f).kernel = s.kernel := rfl

lemma State.mem_write {s : State} {a : Nat} {f : Display → Display} {d : Display} :
    d ∈ (s.write a f).displays ↔
      (∃ x ∈ s.displays, x.addr = a ∧ d = f x) ∨ (d ∈ s.displays ∧ d.addr ≠ a) :=
  Keyed.mem_modify

lemma State.mem_remove {s : State} {a : Nat} {d : Display} :
    d ∈ (s.remove a).displays ↔ d ∈ s.displays ∧ d.addr ≠ a :=
  Keyed.mem_erase

lemma State.mem_write_of_ne {s : State} {a : Nat} {f : Display → Display} {d : Display}
    (hf : ∀ x, (f x).addr = x.addr) (hd : d.addr ≠ a) :
    d ∈ (s.write a f).displays ↔ d ∈ s.displays := by
  rw [State.mem_write]
  constructor
  · rintro (⟨x, -, hx, rfl⟩ | ⟨hmem, -⟩)
    · exact absurd ((hf x).trans hx) hd
    · exact hmem
  · exact fun hmem => Or.inr ⟨hmem, hd⟩

/-- Storing twice into one display is one store. -/
lemma State.write_write (s : State) (a : Nat) (f g : Display → Display)
    (hf : ∀ d, (f d).addr = d.addr) : (s.write a f).write a g = s.write a (g ∘ f) := by
  simp only [State.write, modifyAt, Keyed.modify, List.map_map]
  congr 1
  refine List.map_congr_left fun d _ => ?_
  by_cases h : d.addr = a <;> simp [h, hf]

namespace State.Sound

variable {dead : List Pid} {busy busy' : Option Nat} {s : State} {a : Nat}

/-- A display that is not looked at may as well be sound. -/
lemma weaken (h : s.Sound dead none) : s.Sound dead busy :=
  { h with ok := fun d hd _ => h.ok d hd (by simp) }

/-- The rule for stores: a process of the display stays, is forgotten, or is `p`, a child
that no display has, in the role `k`. -/
lemma assign {f : Display → Display} {k : Role} {p : Pid} (h : s.Sound dead busy)
    (hbusy : ∀ b, busy = some b → b ≠ a → busy' = some b)
    (hp : p = -1 ∨ p ∈ s.kernel.children ∧ ∀ d ∈ s.displays, ∀ r, d.proc r ≠ p)
    (haddr : ∀ d, (f d).addr = d.addr)
    (hok : busy' ≠ some a → ∀ d ∈ s.displays, d.addr = a → (f d).Ok)
    (hproc : ∀ d ∈ s.displays, d.addr = a → ∀ r,
      (f d).proc r = -1 ∨ (f d).proc r = d.proc r ∨ r = k ∧ (f d).proc r = p) :
    (s.write a f).Sound dead busy' where
  distinct := h.distinct.modify haddr
  bound := by
    intro d hd
    rcases State.mem_write.1 hd with ⟨x, hx, -, rfl⟩ | ⟨hd, -⟩
    · rw [haddr]
      exact h.bound x hx
    · exact h.bound d hd
  ok := by
    intro d hd hb
    rcases State.mem_write.1 hd with ⟨x, hx, hxa, rfl⟩ | ⟨hd, hda⟩
    · refine hok ?_ x hx hxa
      rwa [haddr, hxa] at hb
    · exact h.ok d hd fun hbd => hb (hbusy _ hbd hda)
  positive := h.positive
  child := by
    intro d hd r hr
    rcases State.mem_write.1 hd with ⟨x, hx, hxa, rfl⟩ | ⟨hd, -⟩
    · rcases hproc x hx hxa r with h' | h' | ⟨-, h'⟩
      · exact absurd h' hr
      · rw [h'] at hr ⊢
        exact h.child x hx r hr
      · rw [h'] at hr ⊢
        rcases hp with rfl | ⟨hp, -⟩
        · exact absurd rfl hr
        · exact List.mem_append_right _ hp
    · exact h.child d hd r hr
  owner := by
    -- an old process of the changed display, or `p`, against a process of another one
    have key : ∀ x ∈ s.displays, x.addr = a → ∀ y ∈ s.displays, ∀ r r',
        (f x).proc r ≠ -1 → (f x).proc r = y.proc r' → x.addr = y.addr ∧ r = r' := by
      intro x hx hxa y hy r r' hr heq
      rcases hproc x hx hxa r with h' | h' | ⟨-, h'⟩
      · exact absurd h' hr
      · rw [h'] at hr heq
        exact h.owner x hx y hy r r' hr heq
      · rcases hp with rfl | ⟨-, hp⟩
        · exact absurd h' hr
        · exact absurd (heq.symm.trans h') (hp y hy r')
    intro d hd d' hd' r r' hr heq
    rcases State.mem_write.1 hd with ⟨x, hx, hxa, rfl⟩ | ⟨hd, hda⟩ <;>
      rcases State.mem_write.1 hd' with ⟨y, hy, hya, rfl⟩ | ⟨hd', hda'⟩
    · refine ⟨by rw [haddr, haddr, hxa, hya], ?_⟩
      rcases hproc y hy hya r' with h' | h' | ⟨rfl, h'⟩
      · exact absurd (heq.trans h') hr
      · exact (key x hx hxa y hy r r' hr (heq.trans h')).2
      · rcases hproc x hx hxa r with h'' | h'' | ⟨rfl, -⟩
        · exact absurd h'' hr
        · rcases hp with rfl | ⟨-, hp⟩
          · exact absurd (heq.trans h') hr
          · exact absurd (h''.symm.trans (heq.trans h')) (hp x hx r)
        · rfl
    · rw [haddr]
      exact key x hx hxa d' hd' r r' hr heq
    · rw [haddr]
      obtain ⟨h₁, h₂⟩ := key y hy hya d hd r' r (heq ▸ hr) heq.symm
      exact ⟨h₁.symm, h₂.symm⟩
    · exact h.owner d hd d' hd' r r' hr heq

/-- Stores that give the display no new process. -/
lemma write {f : Display → Display} (h : s.Sound dead busy)
    (hbusy : ∀ b, busy = some b → b ≠ a → busy' = some b)
    (haddr : ∀ d, (f d).addr = d.addr)
    (hok : busy' ≠ some a → ∀ d ∈ s.displays, d.addr = a → (f d).Ok)
    (hproc : ∀ d ∈ s.displays, d.addr = a → ∀ r,
      (f d).proc r = -1 ∨ (f d).proc r = d.proc r) :
    (s.write a f).Sound dead busy' :=
  h.assign (k := .session) hbusy (Or.inl rfl) haddr hok fun d hd hda r =>
    (hproc d hd hda r).imp_right Or.inl

lemma remove (h : s.Sound dead busy) (hbusy : ∀ b, busy = some b → b ≠ a → busy' = some b) :
    (s.remove a).Sound dead busy' where
  distinct := h.distinct.erase
  bound := fun d hd => h.bound d (State.mem_remove.1 hd).1
  ok := fun d hd hb => by
    obtain ⟨hd, hda⟩ := State.mem_remove.1 hd
    exact h.ok d hd fun hbd => hb (hbusy _ hbd hda)
  positive := h.positive
  child := fun d hd => h.child d (State.mem_remove.1 hd).1
  owner := fun d hd d' hd' =>
    h.owner d (State.mem_remove.1 hd).1 d' (State.mem_remove.1 hd').1

/-- Only the list, the kernel's children and the allocator matter. -/
lemma congr {t : State} (h : s.Sound dead busy) (hd : t.displays = s.displays)
    (hc : t.kernel.children = s.kernel.children) (hn : s.nextAddr ≤ t.nextAddr) :
    t.Sound dead busy where
  distinct := hd ▸ h.distinct
  bound := fun d hmem => Nat.lt_of_lt_of_le (h.bound d (hd ▸ hmem)) hn
  ok := fun d hmem => h.ok d (hd ▸ hmem)
  positive := fun p hp => h.positive p (hc ▸ hp)
  child := fun d hmem => hc ▸ h.child d (hd ▸ hmem)
  owner := fun d hmem d' hmem' => h.owner d (hd ▸ hmem) d' (hd ▸ hmem')

/-- A new display in front of the list. -/
lemma cons {d : Display} (h : s.Sound dead busy) (haddr : d.addr = s.nextAddr)
    (hok : d.Ok)
    (hproc : ∀ r, d.proc r = -1) :
    State.Sound dead busy
      { s with displays := d :: s.displays, nextAddr := s.nextAddr + 1 } where
  distinct := h.distinct.cons fun y hy => by
    have := h.bound y hy
    omega
  bound := by
    intro x hx
    change x.addr < s.nextAddr + 1
    rcases List.mem_cons.1 hx with rfl | hx
    · omega
    · have := h.bound x hx
      omega
  ok := by
    intro x hx hb
    rcases List.mem_cons.1 hx with rfl | hx
    · exact hok
    · exact h.ok x hx hb
  positive := h.positive
  child := by
    intro x hx r hr
    rcases List.mem_cons.1 hx with rfl | hx
    · exact absurd (hproc r) hr
    · exact h.child x hx r hr
  owner := by
    intro x hx y hy r r' hr heq
    rcases List.mem_cons.1 hx with rfl | hx
    · exact absurd (hproc r) hr
    · rcases List.mem_cons.1 hy with rfl | hy
      · exact absurd (heq.trans (hproc r')) hr
      · exact h.owner x hx y hy r r' hr heq

end State.Sound

/-! ### How the state may change -/

/-- Two displays stand for the same XDMCP session. -/
structure Display.SameSession (d d' : Display) : Prop where
  origin : d.displayType.origin = .fromXDMCP
  name : d'.name = d.name
  sessionID : d'.sessionID = d.sessionID
  fromAddr : d'.fromAddr = d.fromAddr
  displayNumber : d'.displayNumber = d.displayNumber
  authorizations : d'.authorizations = d.authorizations

/-- `d'` is what may have become of `d`: a zombie stays one, and what is an XDMCP session
was the same session before. -/
structure Display.Successor (d d' : Display) : Prop where
  addr : d'.addr = d.addr
  zombie : d.status = .zombie → d'.status = .zombie
  session : d'.displayType.origin = .fromXDMCP → d.SameSession d'

lemma Display.Successor.refl (d : Display) : d.Successor d :=
  ⟨rfl, id, fun h => ⟨h, rfl, rfl, rfl, rfl, rfl⟩⟩

lemma Display.Successor.trans {d d' d'' : Display} (h : d.Successor d')
    (h' : d'.Successor d'') : d.Successor d'' := by
  refine ⟨h'.addr.trans h.addr, h'.zombie ∘ h.zombie, fun ho => ?_⟩
  have h₂ := h'.session ho
  have h₁ := h.session h₂.origin
  exact ⟨h₁.origin, h₂.name.trans h₁.name, h₂.sessionID.trans h₁.sessionID,
    h₂.fromAddr.trans h₁.fromAddr, h₂.displayNumber.trans h₁.displayNumber,
    h₂.authorizations.trans h₁.authorizations⟩

/-- Addresses are not used again, and a display that is older than the change is the
successor of the one that was there. -/
structure Later (s s' : State) : Prop where
  nextAddr : s.nextAddr ≤ s'.nextAddr
  old : ∀ d' ∈ s'.displays, d'.addr < s.nextAddr → ∃ d ∈ s.displays, d.Successor d'

lemma Later.trans {s s' s'' : State} (h : Later s s') (h' : Later s' s'') : Later s s'' := by
  refine ⟨Nat.le_trans h.nextAddr h'.nextAddr, fun d'' hd'' hlt => ?_⟩
  obtain ⟨d', hd', hs'⟩ := h'.old d'' hd'' (Nat.lt_of_lt_of_le hlt h.nextAddr)
  obtain ⟨d, hd, hs⟩ := h.old d' hd' (by rw [← hs'.addr]; exact hlt)
  exact ⟨d, hd, hs.trans hs'⟩

/-- The answers to a `REQUEST` or a `MANAGE` that concern a session. -/
def Event.isQuiet : Event → Bool
  | .send _ (.accept ..) => false
  | .send _ (.refuse _) => false
  | _ => true

/-- No XDMCP session has been negotiated in between. -/
structure Quiet (s s' : State) : Prop extends Later s s' where
  protoDisplays : s'.protoDisplays = s.protoDisplays
  globalSessionID : s'.globalSessionID = s.globalSessionID
  session : ∀ d' ∈ s'.displays, d'.displayType.origin = .fromXDMCP →
    ∃ d ∈ s.displays, d.Successor d'
  out : ∃ es, s'.out = s.out ++ es ∧ ∀ e ∈ es, e.isQuiet = true

lemma Quiet.trans {s s' s'' : State} (h : Quiet s s') (h' : Quiet s' s'') : Quiet s s'' where
  toLater := h.toLater.trans h'.toLater
  protoDisplays := h'.protoDisplays.trans h.protoDisplays
  globalSessionID := h'.globalSessionID.trans h.globalSessionID
  session := by
    intro d'' hd'' ho
    obtain ⟨d', hd', hs'⟩ := h'.session d'' hd'' ho
    obtain ⟨d, hd, hs⟩ := h.session d' hd' (hs'.session ho).origin
    exact ⟨d, hd, hs.trans hs'⟩
  out := by
    obtain ⟨es, hes, hq⟩ := h.out
    obtain ⟨es', hes', hq'⟩ := h'.out
    refine ⟨es ++ es', by rw [hes', hes, List.append_assoc], fun e he => ?_⟩
    exact (List.mem_append.1 he).elim (hq e) (hq' e)

/-- The list of displays and the sessions have not changed. -/
lemma Quiet.of_eq {s s' : State} (hd : s'.displays = s.displays)
    (hn : s'.nextAddr = s.nextAddr) (hp : s'.protoDisplays = s.protoDisplays)
    (hg : s'.globalSessionID = s.globalSessionID)
    (ho : ∃ es, s'.out = s.out ++ es ∧ ∀ e ∈ es, e.isQuiet = true) : Quiet s s' where
  nextAddr := Nat.le_of_eq hn.symm
  old := fun d h _ => ⟨d, hd ▸ h, Display.Successor.refl d⟩
  protoDisplays := hp
  globalSessionID := hg
  session := fun d h _ => ⟨d, hd ▸ h, Display.Successor.refl d⟩
  out := ho

lemma Quiet.refl (s : State) : Quiet s s :=
  Quiet.of_eq rfl rfl rfl rfl ⟨[], by simp⟩

instance : Std.Refl Quiet := ⟨Quiet.refl⟩
instance : IsTrans State Quiet := ⟨fun _ _ _ => Quiet.trans⟩

/-- A store that leaves a successor. -/
lemma Quiet.write {s : State} {a : Nat} {f : Display → Display}
    (h : ∀ d ∈ s.displays, d.addr = a → d.Successor (f d)) : Quiet s (s.write a f) := by
  have hs : ∀ d' ∈ (s.write a f).displays, ∃ d ∈ s.displays, d.Successor d' := by
    intro d' hd'
    rcases State.mem_write.1 hd' with ⟨d, hd, hda, rfl⟩ | ⟨hd', -⟩
    · exact ⟨d, hd, h d hd hda⟩
    · exact ⟨d', hd', Display.Successor.refl d'⟩
  exact ⟨⟨Nat.le_refl _, fun d' hd' _ => hs d' hd'⟩, rfl, rfl, fun d' hd' _ => hs d' hd',
    [], by simp [State.write]⟩

lemma Quiet.remove (s : State) (a : Nat) : Quiet s (s.remove a) := by
  have hs : ∀ d' ∈ (s.remove a).displays, ∃ d ∈ s.displays, d.Successor d' := fun d' hd' =>
    ⟨d', (State.mem_remove.1 hd').1, Display.Successor.refl d'⟩
  exact ⟨⟨Nat.le_refl _, fun d' hd' _ => hs d' hd'⟩, rfl, rfl, fun d' hd' _ => hs d' hd',
    [], by simp [State.remove]⟩

end Xdm
