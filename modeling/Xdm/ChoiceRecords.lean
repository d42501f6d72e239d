/-
# The records of the choices, and memory that runs out

Here the choices are linked records that are known by their address and can be freed.  Reading
a record that has been freed has no outcome.  `RegisterIndirectChoice` has one way out when the
choice cannot be copied, and takes it with a new record, which is not linked yet, as well as
with the record that the client has in the list.
-/
import Xdm.Choices

namespace Xdm

open Prog

/-! ### The functions -/

structure ChoiceRec extends Choice where
  addr : Nat

/-- The list `choices`, and the records that have been freed. -/
structure ChoiceHeap where
  choices : List ChoiceRec
  freed : List Nat
  nextAddr : Nat

/-- Which allocations of `RegisterIndirectChoice` succeed: the record, the copy of the client
address and the copy of the choice. -/
structure ChoiceAlloc where
  record : Bool
  client : Bool
  choice : Bool

/-- Reading the record. -/
def ChoiceRec.touch (c : ChoiceRec) : Prog ChoiceHeap Unit := do
  let s ← get
  if c.addr ∈ s.freed then failure

def freeChoice (addr : Nat) : Prog ChoiceHeap Unit :=
  modify fun s => { s with freed := addr :: s.freed }

def writeChoice (addr : Nat) (f : ChoiceRec → ChoiceRec) : Prog ChoiceHeap Unit :=
  modify fun s => { s with choices := Keyed.modify ChoiceRec.addr addr f s.choices }

/-- The loop of `RegisterIndirectChoice`. -/
def findChoice (clientAddress : ARRAY8) (connectionType : CARD16) :
    List ChoiceRec → Prog ChoiceHeap (Option ChoiceRec)
  | [] => pure none
  | c :: choices => do
    c.touch
    if c.isFor clientAddress connectionType then pure (some c)
    else findChoice clientAddress connectionType choices

/-- The end of `RegisterIndirectChoice`, for a new record and for one of the list. -/
def copyChoice (now : Time) (alloc : ChoiceAlloc) (choice : ARRAY8) (c : ChoiceRec)
    (insert : Bool) : Prog ChoiceHeap Bool := do
  if alloc.choice then
    let copied : ChoiceRec → ChoiceRec := fun c => { c with choice := choice, time := now }
    if insert then modify fun s => { s with choices := copied c :: s.choices }
    else writeChoice c.addr copied
    pure true
  else
    freeChoice c.addr
    pure false

/-- `RegisterIndirectChoice`. -/
def registerChoice (now : Time) (alloc : ChoiceAlloc) (clientAddress : ARRAY8)
    (connectionType : CARD16) (choice : ARRAY8) : Prog ChoiceHeap Bool := do
  let s ← get
  match ← findChoice clientAddress connectionType s.choices with
  | none =>
    if alloc.record then
      set { s with nextAddr := s.nextAddr + 1 }
      let c : ChoiceRec := ⟨⟨clientAddress, connectionType, [], 0⟩, s.nextAddr⟩
      if alloc.client then copyChoice now alloc choice c true
      else
        freeChoice c.addr
        pure false
    else pure false
  | some c =>
    writeChoice c.addr fun c => { c with choice := [] }
    copyChoice now alloc choice c false

/-- The loop of `IndirectChoice`. -/
def recallChoiceLoop (now choiceTimeout : Time) (clientAddress : ARRAY8)
    (connectionType : CARD16) : List ChoiceRec → Prog ChoiceHeap (Option ARRAY8)
  | [] => pure none
  | c :: choices => do
    c.touch
    if choiceTimeout < now - c.time then
      modify fun s => { s with choices := Keyed.erase ChoiceRec.addr c.addr s.choices }
      freeChoice c.addr
      recallChoiceLoop now choiceTimeout clientAddress connectionType choices
    else if c.isFor clientAddress connectionType then pure (some c.choice)
    else recallChoiceLoop now choiceTimeout clientAddress connectionType choices

/-- `IndirectChoice`. -/
def recallChoice (now choiceTimeout : Time) (clientAddress : ARRAY8)
    (connectionType : CARD16) : Prog ChoiceHeap (Option ARRAY8) := do
  let s ← get
  recallChoiceLoop now choiceTimeout clientAddress connectionType s.choices

variable {now timeout : Time} {a : ARRAY8} {n : CARD16} {choice : ARRAY8} {alloc : ChoiceAlloc}
variable {s s' : ChoiceHeap} {c : ChoiceRec} {l l₁ l₂ : List ChoiceRec}

/-! ### Lists of live records -/

namespace ChoiceHeap

/-- No record of the list has been freed. -/
def Live (s : ChoiceHeap) : Prop := ∀ c ∈ s.choices, c.addr ∉ s.freed

/-- The records of the list are different ones, none of them freed, and a new record is
different from all of these. -/
structure Sound (s : ChoiceHeap) : Prop where
  distinct : Keyed.Distinct ChoiceRec.addr s.choices
  live : s.Live
  bound : ∀ c ∈ s.choices, c.addr < s.nextAddr
  freedBound : ∀ x ∈ s.freed, x < s.nextAddr

/-- The choices without their addresses. -/
def toChoices (s : ChoiceHeap) : List Choice := s.choices.map ChoiceRec.toChoice

/-- What a client has chosen. -/
def chosenBy (s : ChoiceHeap) (k : ARRAY8 × CARD16) : List (ARRAY8 × Time) :=
  (s.toChoices.filter fun c => c.key = k).map Choice.entry

end ChoiceHeap

lemma wp_touch {Q : Unit → ChoiceHeap → Prop} (hc : c.addr ∉ s.freed) (hQ : Q () s) :
    Wp c.touch Q s := by
  refine wp_bind (wp_get ?_)
  rw [if_neg hc]
  exact wp_pure hQ

lemma findChoice_live : ∀ {l : List ChoiceRec}, (∀ c ∈ l, c.addr ∉ s.freed) →
    findChoice a n l s = some (l.find? fun c => c.isFor a n, s)
  | [], _ => rfl
  | c :: l, hl => by
    obtain ⟨hc, hl⟩ := List.forall_mem_cons.1 hl
    have ih := findChoice_live hl
    have htouch : c.touch s = some ((), s) := by
      change (if c.addr ∈ s.freed then failure else pure () : Prog ChoiceHeap Unit) s = _
      rw [if_neg hc]
      rfl
    rw [findChoice, bind_of_eq_some _ htouch, List.find?_cons]
    cases hfor : c.isFor a n with
    | true => rfl
    | false => exact ih

/-- Going through live records reads only these, whatever it takes out, and finds what the
list without addresses has. -/
lemma wp_recallChoiceLoop : ∀ {l₂ l₁ : List ChoiceRec} {s : ChoiceHeap}, s.Sound →
    s.choices = l₁ ++ l₂ →
    Wp (recallChoiceLoop now timeout a n l₂) (fun found s' => s'.Sound ∧
      s'.toChoices = l₁.map ChoiceRec.toChoice ++
        (indirectChoiceLoop now timeout a n (l₂.map ChoiceRec.toChoice)).1 ∧
      found = (indirectChoiceLoop now timeout a n (l₂.map ChoiceRec.toChoice)).2) s
  | [], l₁, s, hs, hl => by
    refine wp_pure ⟨hs, ?_, rfl⟩
    rw [ChoiceHeap.toChoices, hl, List.map_append]
    rfl
  | c :: l₂, l₁, s, hs, hl => by
    have hc : c ∈ s.choices := hl ▸ List.mem_append_right _ (List.mem_cons_self ..)
    refine wp_bind (wp_touch (hs.live c hc) ?_)
    rw [List.map_cons, indirectChoiceLoop]
    refine wp_ite (fun hlapsed => ?_) (fun hfresh => wp_ite (fun hfor => ?_) fun hother => ?_)
    · -- the record is unlinked before it is freed
      refine wp_bind (wp_modify (wp_bind (wp_modify ?_)))
      have herase : Keyed.erase ChoiceRec.addr c.addr s.choices = l₁ ++ l₂ := by
        rw [hl]
        exact (hl ▸ hs.distinct).erase_split
      rw [if_pos hlapsed]
      refine wp_recallChoiceLoop ?_ herase
      refine ⟨hs.distinct.erase, fun d hd => ?_, fun d hd => ?_, fun x hx => ?_⟩
      · obtain ⟨hd, hne⟩ := Keyed.mem_erase.1 hd
        exact List.not_mem_cons_of_ne_of_not_mem hne (hs.live d hd)
      · exact hs.bound d (Keyed.mem_erase.1 hd).1
      · rcases List.mem_cons.1 hx with rfl | hx
        · exact hs.bound c hc
        · exact hs.freedBound x hx
    · rw [if_neg hfresh, if_pos hfor]
      refine wp_pure ⟨hs, ?_, rfl⟩
      rw [ChoiceHeap.toChoices, hl, List.map_append, List.map_cons]
    · rw [if_neg hfresh, if_neg hother]
      have happ : s.choices = (l₁ ++ [c]) ++ l₂ := by simpa using hl
      refine (wp_recallChoiceLoop hs happ).mono fun found s' h => ?_
      obtain ⟨hs', hlist, hfound⟩ := h
      exact ⟨hs', by simpa using hlist, hfound⟩

/-- `IndirectChoice` on live records. -/
lemma wp_recallChoice (hs : s.Sound) :
    Wp (recallChoice now timeout a n) (fun found s' => s'.Sound ∧
      s'.toChoices = (indirectChoiceLoop now timeout a n s.toChoices).1 ∧
      found = (indirectChoiceLoop now timeout a n s.toChoices).2) s :=
  wp_bind (wp_get (wp_recallChoiceLoop hs (show s.choices = [] ++ s.choices from rfl)))

/-! ### Registering a choice -/

/-- The choices after a registration. -/
def registered (w : World) (a : ARRAY8) (n : CARD16) (choice : ARRAY8) (l : List Choice) :
    List Choice :=
  if l.any (Choice.isFor a n) then registerIndirectChoice.update w a n choice l
  else ⟨a, n, choice, w.time⟩ :: l

lemma registerIndirectChoice_eq (w : World) (t : State) :
    registerIndirectChoice w a n choice t =
      some ((), { t with choices := registered w a n choice t.choices }) := by
  unfold registered
  change some ((), ite _ _ _) = _
  split <;> rfl

/-- The client has no record. -/
def ChoiceHeap.Lacks (s : ChoiceHeap) (k : ARRAY8 × CARD16) : Prop :=
  ∀ c ∈ s.choices, c.key ≠ k

/-- What `RegisterIndirectChoice` has done. -/
inductive Registered (w : World) (alloc : ChoiceAlloc) (a : ARRAY8) (n : CARD16)
    (choice : ARRAY8) (s : ChoiceHeap) : Bool → ChoiceHeap → Prop
  /-- There was no memory for a new record. -/
  | refused {t : ChoiceHeap} : s.Lacks (a, n) → t.choices = s.choices → t.Sound →
      Registered w alloc a n choice s false t
  /-- There was no memory for the choice, and the record of the client has been freed where
  it is. -/
  | dangling {t : ChoiceHeap} : alloc.choice = false → ¬ s.Lacks (a, n) → ¬ t.Live →
      Registered w alloc a n choice s false t
  | done {t : ChoiceHeap} : t.toChoices = registered w a n choice s.toChoices → t.Sound →
      Registered w alloc a n choice s true t

/-- A record that is not linked may be freed. -/
lemma ChoiceHeap.Sound.spend (hs : s.Sound) :
    ChoiceHeap.Sound ⟨s.choices, s.nextAddr :: s.freed, s.nextAddr + 1⟩ where
  distinct := hs.distinct
  live c hc := List.not_mem_cons_of_ne_of_not_mem (Nat.ne_of_lt (hs.bound c hc)) (hs.live c hc)
  bound c hc := Nat.lt_succ_of_lt (hs.bound c hc)
  freedBound x hx := by
    rcases List.mem_cons.1 hx with rfl | hx
    · exact Nat.lt_succ_self _
    · exact Nat.lt_succ_of_lt (hs.freedBound x hx)

lemma ChoiceHeap.Sound.link (hs : s.Sound) (c : Choice) :
    ChoiceHeap.Sound ⟨⟨c, s.nextAddr⟩ :: s.choices, s.freed, s.nextAddr + 1⟩ where
  distinct := hs.distinct.cons fun d hd => Nat.ne_of_lt (hs.bound d hd)
  live d hd := by
    rcases List.mem_cons.1 hd with rfl | hd
    · exact fun hfreed => Nat.lt_irrefl _ (hs.freedBound _ hfreed)
    · exact hs.live d hd
  bound d hd := by
    rcases List.mem_cons.1 hd with rfl | hd
    · exact Nat.lt_succ_self _
    · exact Nat.lt_succ_of_lt (hs.bound d hd)
  freedBound x hx := Nat.lt_succ_of_lt (hs.freedBound x hx)

lemma ChoiceHeap.Sound.write {f : ChoiceRec → ChoiceRec} {x : Nat} (hs : s.Sound)
    (hf : ∀ c, (f c).addr = c.addr) :
    ChoiceHeap.Sound { s with choices := Keyed.modify ChoiceRec.addr x f s.choices } := by
  have haddr : ∀ c ∈ Keyed.modify ChoiceRec.addr x f s.choices,
      ∃ d ∈ s.choices, c.addr = d.addr := by
    intro c hc
    rcases Keyed.mem_modify.1 hc with ⟨d, hd, -, rfl⟩ | ⟨hc, -⟩
    · exact ⟨d, hd, hf d⟩
    · exact ⟨c, hc, rfl⟩
  refine ⟨hs.distinct.modify hf, fun c hc => ?_, fun c hc => ?_, hs.freedBound⟩
  · obtain ⟨d, hd, heq⟩ := haddr c hc
    exact heq ▸ hs.live d hd
  · obtain ⟨d, hd, heq⟩ := haddr c hc
    exact heq ▸ hs.bound d hd

lemma lacks_iff : s.Lacks (a, n) ↔ s.toChoices.any (Choice.isFor a n) = false := by
  simp only [ChoiceHeap.Lacks, ChoiceHeap.toChoices, List.any_map, List.any_eq_false,
    Function.comp_apply, Choice.isFor_iff]

/-- The first record for a client is the one that is changed. -/
lemma update_split {w : World} {c : Choice} {k₁ k₂ : List Choice}
    (hfirst : ∀ d ∈ k₁, ¬ d.isFor a n = true) (hc : c.isFor a n = true) :
    registerIndirectChoice.update w a n choice (k₁ ++ c :: k₂) =
      k₁ ++ { c with choice := choice, time := w.time } :: k₂ := by
  induction k₁ with
  | nil => exact if_pos hc
  | cons d k₁ ih =>
    obtain ⟨hd, hfirst⟩ := List.forall_mem_cons.1 hfirst
    rw [List.cons_append, registerIndirectChoice.update, if_neg hd, ih hfirst]
    rfl

/-- With a record that is not linked yet the end of the function is harmless. -/
lemma wp_copyChoice_new {w : World} (hs : s.Sound) (hnew : s.Lacks (a, n)) :
    Wp (copyChoice w.time alloc choice ⟨⟨a, n, [], 0⟩, s.nextAddr⟩ true)
      (Registered w alloc a n choice s) { s with nextAddr := s.nextAddr + 1 } := by
  refine wp_ite (fun _ => ?_) fun _ => ?_
  · refine wp_bind (wp_modify (wp_pure (Registered.done ?_ (hs.link ⟨a, n, choice, w.time⟩))))
    rw [registered, if_neg (by simp [lacks_iff.1 hnew])]
    rfl
  · exact wp_bind (wp_modify (wp_pure (Registered.refused hnew rfl hs.spend)))

/-- With the record of the list it frees what is linked. -/
lemma wp_copyChoice_old {w : World} (hs : s.Sound) (hl : s.choices = l₁ ++ c :: l₂)
    (hfirst : ∀ d ∈ l₁, ¬ d.isFor a n = true) (hfor : c.isFor a n = true) :
    Wp (do
      writeChoice c.addr fun c => { c with choice := [] }
      copyChoice w.time alloc choice c false) (Registered w alloc a n choice s) s := by
  have hwrite : Keyed.modify ChoiceRec.addr c.addr
      (fun c => { c with choice := [] }) s.choices = l₁ ++ { c with choice := [] } :: l₂ := by
    rw [hl]
    exact (hl ▸ hs.distinct).modify_split
  have hs₁ := hs.write (x := c.addr) (f := fun c => { c with choice := [] }) fun _ => rfl
  rw [hwrite] at hs₁
  have hlacks : ¬ s.Lacks (a, n) := by
    intro hlacks
    refine hlacks c ?_ (Choice.isFor_iff.1 hfor)
    rw [hl]
    exact List.mem_append_right _ (List.mem_cons_self ..)
  refine wp_bind (wp_modify ?_)
  rw [hwrite]
  refine wp_ite (fun _ => ?_) fun hshort => ?_
  · -- the choice and the time are written over those of the record
    refine wp_bind (wp_modify (wp_pure (Registered.done ?_ (hs₁.write fun _ => rfl))))
    have hany : s.toChoices.any (Choice.isFor a n) = true := by
      rw [← Bool.not_eq_false, ← lacks_iff]
      exact hlacks
    have hcopy := hs₁.distinct.modify_split (f := fun c : ChoiceRec =>
      { c with choice := choice, time := w.time })
    rw [ChoiceHeap.toChoices, hcopy, registered, if_pos hany, ChoiceHeap.toChoices, hl,
      List.map_append, List.map_append, List.map_cons, List.map_cons, update_split _ hfor]
    intro x hx
    obtain ⟨d, hd, rfl⟩ := List.mem_map.1 hx
    exact hfirst d hd
  · refine wp_bind (wp_modify (wp_pure (Registered.dangling (by simpa using hshort) hlacks
      fun hlive => ?_)))
    exact hlive { c with choice := [] } (List.mem_append_right _ (List.mem_cons_self ..))
      (List.mem_cons_self ..)

lemma wp_registerChoice {w : World} (hs : s.Sound) :
    Wp (registerChoice w.time alloc a n choice) (Registered w alloc a n choice s) s := by
  refine wp_bind (wp_get (wp_bind ⟨_, _, findChoice_live hs.live, ?_⟩))
  cases hfind : s.choices.find? fun c => c.isFor a n with
  | none =>
    have hnew : s.Lacks (a, n) := fun c hc hkey =>
      List.find?_eq_none.1 hfind c hc (Choice.isFor_iff.2 hkey)
    refine wp_ite (fun _ => ?_) fun _ => wp_pure (Registered.refused hnew rfl hs)
    refine wp_bind (wp_set (wp_ite (fun _ => wp_copyChoice_new hs hnew) fun _ => ?_))
    exact wp_bind (wp_modify (wp_pure (Registered.refused hnew rfl hs.spend)))
  | some c =>
    obtain ⟨hfor, l₁, l₂, hl, hfirst⟩ := List.find?_eq_some_iff_append.1 hfind
    exact wp_copyChoice_old hs hl (fun d hd => by simpa using hfirst d hd) hfor

/-- A registration that has succeeded is `registerIndirectChoice` on the choices. -/
theorem registerChoice_refines {w : World} {t : State} (hs : s.Sound)
    (ht : t.choices = s.toChoices)
    (hreg : registerChoice w.time alloc a n choice s = some (true, s')) :
    registerIndirectChoice w a n choice t =
      some ((), { t with choices := s'.toChoices }) := by
  have hspec := (wp_registerChoice hs).wlp true s' hreg
  cases hspec with
  | done hlist _ => rw [registerIndirectChoice_eq, hlist, ht]

/-! ### After a failure -/

/-- A call on the records, with what is allocated in it. -/
def ChoiceUse.performOn (timeout : Time) (w : World) (alloc : ChoiceAlloc) :
    ChoiceUse → Prog ChoiceHeap Unit
  | .indirectChoice a n => do
    let _ ← recallChoice w.time timeout a n
    pure ()
  | .registerIndirectChoice a n choice => do
    let _ ← registerChoice w.time alloc a n choice
    pure ()

def performOnAll (timeout : Time) : List (World × ChoiceAlloc × ChoiceUse) →
    Prog ChoiceHeap Unit
  | [] => pure ()
  | (w, alloc, call) :: calls => do
    call.performOn timeout w alloc
    performOnAll timeout calls

/-- The call does not run out of memory for the choice of a client that has a record. -/
def ChoiceUse.Spared (alloc : ChoiceAlloc) (s : ChoiceHeap) : ChoiceUse → Prop
  | .indirectChoice _ _ => True
  | .registerIndirectChoice a n _ => alloc.choice = true ∨ s.Lacks (a, n)

/-- None of the calls does. -/
def SparedAll (timeout : Time) : List (World × ChoiceAlloc × ChoiceUse) → ChoiceHeap → Prop
  | [], _ => True
  | (w, alloc, call) :: calls, s => call.Spared alloc s ∧
      ∀ t, call.performOn timeout w alloc s = some ((), t) → SparedAll timeout calls t

lemma wp_performOn {w : World} {call : ChoiceUse} (hs : s.Sound) (hc : call.Spared alloc s) :
    Wp (call.performOn timeout w alloc) (fun _ s' => s'.Sound) s := by
  cases call with
  | indirectChoice a n =>
    exact wp_bind ((wp_recallChoice hs).mono fun _ s' h => wp_pure h.1)
  | registerIndirectChoice a n choice =>
    refine wp_bind ((wp_registerChoice hs).mono fun _ s' h => wp_pure ?_)
    cases h with
    | refused _ _ hsound => exact hsound
    | dangling hshort hhas _ =>
      rcases hc with hchoice | hlacks
      · exact absurd (hchoice.symm.trans hshort) (by simp)
      · exact absurd hlacks hhas
    | done _ hsound => exact hsound

lemma wp_performOnAll : ∀ {calls : List (World × ChoiceAlloc × ChoiceUse)} {s : ChoiceHeap},
    s.Sound → SparedAll timeout calls s →
    Wp (performOnAll timeout calls) (fun _ s' => s'.Sound) s
  | [], _, hs, _ => wp_pure hs
  | (_, _, _) :: _, _, hs, hc => by
    obtain ⟨⟨⟩, t, hcall, ht⟩ := wp_performOn hs hc.1
    exact wp_bind ⟨_, t, hcall, wp_performOnAll ht (hc.2 t hcall)⟩

/-- What a registration that has failed should leave: no freed record in the list, so that
later calls read live records only, and the choices of the others as they were.  Later calls
that fail in the way of `dangling` are not held against this one. -/
structure Undamaged (timeout : Time) (k : ARRAY8 × CARD16) (s s' : ChoiceHeap) : Prop where
  live : s'.Live
  reads : ∀ calls, SparedAll timeout calls s' → (performOnAll timeout calls s').isSome = true
  others : ∀ k', k' ≠ k → s'.chosenBy k' = s.chosenBy k'

/-- A failed registration is harmless if and only if the client had no record. -/
theorem registerChoice_failed_iff {w : World} (hs : s.Sound)
    (hreg : registerChoice w.time alloc a n choice s = some (false, s')) :
    Undamaged timeout (a, n) s s' ↔ s.Lacks (a, n) := by
  have hwp : Wp (registerChoice w.time alloc a n choice) (Registered w alloc a n choice s) s :=
    wp_registerChoice hs
  obtain ⟨r, t, hrun, hspec⟩ := hwp
  obtain ⟨rfl, rfl⟩ := Prod.mk.inj (Option.some.inj (hreg.symm.trans hrun))
  cases hspec with
  | refused hlacks hsame hsound =>
    refine iff_of_true ⟨hsound.live, fun calls hcalls => ?_, fun k' _ => ?_⟩ hlacks
    · obtain ⟨_, _, hall, -⟩ := wp_performOnAll hsound hcalls
      rw [hall]
      rfl
    · rw [ChoiceHeap.chosenBy, ChoiceHeap.toChoices, hsame]
      rfl
  | dangling _ hhas hdead => exact iff_of_false (fun h => hdead h.live) hhas

/-! ### Two clients -/

/-- The records of two clients. -/
def ChoiceHeap.pair : ChoiceHeap where
  choices := [⟨⟨[1], familyInternet, [10], 10⟩, 1⟩, ⟨⟨[2], familyInternet, [11], 5⟩, 0⟩]
  freed := []
  nextAddr := 2

lemma ChoiceHeap.sound_pair : ChoiceHeap.pair.Sound :=
  ⟨by decide, by unfold ChoiceHeap.Live; decide, by decide, by decide⟩

/-- There is no memory for the choice of a third client. -/
theorem registerChoice_failed_third :
    registerChoice 20 ⟨true, true, false⟩ [3] familyInternet [12] ChoiceHeap.pair =
        some (false, ⟨ChoiceHeap.pair.choices, [2], 3⟩) ∧
      Undamaged 15 ([3], familyInternet) ChoiceHeap.pair ⟨ChoiceHeap.pair.choices, [2], 3⟩ :=
  ⟨rfl, (registerChoice_failed_iff (w := { World.silent with time := 20 }) ChoiceHeap.sound_pair
    (show registerChoice 20 ⟨true, true, false⟩ [3] familyInternet [12] ChoiceHeap.pair = _ from
      rfl)).2 (by unfold ChoiceHeap.Lacks; decide)⟩

/-- There is no memory for the new choice of the first client: its record is freed and stays in
the list, and the second client, behind it, cannot be looked up any more. -/
theorem registerChoice_failed_again :
    ((registerChoice 20 ⟨true, true, false⟩ [1] familyInternet [12] ChoiceHeap.pair).map
        fun r => (r.1, r.2.freed, r.2.choices.map ChoiceRec.addr)) =
        some (false, [1], [1, 0]) ∧
      ((recallChoice 20 15 [2] familyInternet ChoiceHeap.pair).map fun r => r.1) =
        some (some [11]) ∧
      ((do
        let _ ← registerChoice 20 ⟨true, true, false⟩ [1] familyInternet [12]
        recallChoice 20 15 [2] familyInternet : Prog ChoiceHeap (Option ARRAY8))
          ChoiceHeap.pair).isNone = true :=
  ⟨by decide, by decide, by decide⟩

end Xdm
