/-
# The proto-displays of a client

A client is known by its address, up to `addressEqual`, and the number of its display.
`protoDisplays_agree` says that a client never has two proto-displays, that it has one with
the session ID of the `ACCEPT` that it is sent and none after a `DECLINE`, and that its
packets do not touch the proto-displays of other clients.
-/
import Xdm.Sessions

namespace Xdm

open Prog

variable {config : Config} {g : Nat} {h : List (Step State Input)} {s s' t : State} {i : Input}
variable {w : World} {sender : Netaddr} {r : Request} {m : Manage} {p q pdpy : ProtoDisplay}
variable {address : Netaddr} {n : CARD16}

/-! ### Clients -/

/-- The proto-display belongs to the client with this address and display number. -/
def ProtoDisplay.isFor (address : Netaddr) (n : CARD16) (p : ProtoDisplay) : Bool :=
  decide (p.displayNumber = n) && addressEqual address p.address

/-- Two proto-displays belong to one client. -/
def ProtoDisplay.SameClient (p q : ProtoDisplay) : Prop :=
  addressEqual p.address q.address = true ∧ p.displayNumber = q.displayNumber

/-- The proto-displays of a client. -/
def State.protoDisplaysOf (s : State) (address : Netaddr) (n : CARD16) : List ProtoDisplay :=
  s.protoDisplays.filter fun p => p.isFor address n

/-- The proto-displays of all the other clients. -/
def State.protoDisplaysBut (s : State) (address : Netaddr) (n : CARD16) : List ProtoDisplay :=
  s.protoDisplays.filter fun p => !p.isFor address n

/-- No client has two proto-displays. -/
def State.OneForEach (s : State) : Prop :=
  s.protoDisplays.Pairwise fun p q => ¬ p.SameClient q

lemma isFor_iff : p.isFor address n = true ↔
    p.displayNumber = n ∧ addressEqual address p.address = true := by
  simp [ProtoDisplay.isFor]

lemma sameClient_of_isFor (hp : p.isFor address n = true) (hq : q.isFor address n = true) :
    p.SameClient q := by
  obtain ⟨hpn, hpa⟩ := isFor_iff.1 hp
  obtain ⟨hqn, hqa⟩ := isFor_iff.1 hq
  exact ⟨addressEqual_trans (addressEqual_symm hpa) hqa, hpn.trans hqn.symm⟩

/-- A proto-display is for the same clients as long as it is in the list. -/
lemma ProtoDisplay.SameSession.isFor_eq (h : p.SameSession q) :
    q.isFor address n = p.isFor address n := by
  rw [ProtoDisplay.isFor, ProtoDisplay.isFor, h.displayNumber, h.address]

lemma ProtoDisplay.SameClient.of_sameSession {p' q' : ProtoDisplay} (h : p'.SameClient q')
    (hp : p.SameSession p') (hq : q.SameSession q') : p.SameClient q := by
  obtain ⟨ha, hn⟩ := h
  rw [hp.address, hq.address] at ha
  exact ⟨ha, hp.displayNumber.symm.trans (hn.trans hq.displayNumber)⟩

lemma isFor_of_find (h : findProtoDisplay address n s.protoDisplays = some p) :
    p ∈ s.protoDisplays ∧ p.isFor address n = true := by
  obtain ⟨hmem, hn, ha⟩ := findProtoDisplay_some h
  exact ⟨hmem, isFor_iff.2 ⟨hn, ha⟩⟩

lemma find_eq_none_iff :
    findProtoDisplay address n s.protoDisplays = none ↔ s.protoDisplaysOf address n = [] := by
  rw [State.protoDisplaysOf, List.filter_eq_nil_iff, findProtoDisplay, List.find?_eq_none]
  simp [ProtoDisplay.isFor]

/-- A client with a proto-display has this one and no other. -/
lemma State.OneForEach.eq_singleton (h : s.OneForEach) (hp : p ∈ s.protoDisplays)
    (hfor : p.isFor address n = true) : s.protoDisplaysOf address n = [p] := by
  have hmem : p ∈ s.protoDisplaysOf address n := List.mem_filter.2 ⟨hp, hfor⟩
  have hpair := h.filter fun p => p.isFor address n
  have hall : ∀ q ∈ s.protoDisplaysOf address n, q.isFor address n = true :=
    fun q hq => (List.mem_filter.1 hq).2
  change (s.protoDisplaysOf address n).Pairwise _ at hpair
  generalize s.protoDisplaysOf address n = l at hmem hpair hall
  obtain _ | ⟨q, _ | ⟨q', l⟩⟩ := l
  · exact nomatch hmem
  · rw [List.mem_singleton.1 hmem]
  · have hne := (List.pairwise_cons.1 hpair).1 q' (by simp)
    exact absurd (sameClient_of_isFor (hall q (by simp)) (hall q' (by simp))) hne

lemma State.OneForEach.filter (h : s.OneForEach) {f : ProtoDisplay → Bool}
    (ht : t.protoDisplays = s.protoDisplays.filter f) : t.OneForEach := by
  rw [State.OneForEach, ht]
  exact List.Pairwise.filter f h

/-! ### One packet -/

/-- The proto-displays of the other clients stay, or those of them that have not timed
out. -/
def Untouched (w : World) (address : Netaddr) (n : CARD16) (s s' : State) : Prop :=
  s'.protoDisplaysBut address n = s.protoDisplaysBut address n ∨
    s'.protoDisplaysBut address n =
      (s.protoDisplaysBut address n).filter fun p => !timedOut w.time p

lemma Untouched.of_eq (h : s'.protoDisplaysBut address n = t.protoDisplaysBut address n)
    (ht : Untouched w address n s t) : Untouched w address n s s' := by
  unfold Untouched at ht ⊢
  rwa [h]

/-- A proto-display for the client is taken out. -/
lemma protoDisplaysBut_erase {a : Nat}
    (hfor : ∀ p ∈ s.protoDisplays, p.addr = a → p.isFor address n = true)
    (ht : t.protoDisplays = Keyed.erase ProtoDisplay.addr a s.protoDisplays) :
    t.protoDisplaysBut address n = s.protoDisplaysBut address n := by
  rw [State.protoDisplaysBut, ht]
  exact Keyed.filter_erase fun p hp ha => by simp [hfor p hp ha]

/-- What is known of the proto-display that a `REQUEST` is about. -/
structure Pending.Spec (w : World) (sender : Netaddr) (r : Request) (s : State)
    (pdpy : ProtoDisplay) (t : State) : Prop where
  mem : pdpy ∈ t.protoDisplays
  isFor : pdpy.isFor sender r.displayNumber = true
  protoSound : t.ProtoSound
  oneForEach : t.OneForEach
  untouched : Untouched w sender r.displayNumber s t
  out : t.out = s.out

lemma Pending.spec (h : Pending w sender r s pdpy t) (hs : s.ProtoSound)
    (ho : s.OneForEach) : Pending.Spec w sender r s pdpy t := by
  have ht := h.protoSound hs
  cases h with
  | known hfind =>
    obtain ⟨hmem, hfor⟩ := isFor_of_find hfind
    exact ⟨hmem, hfor, ht, ho, Or.inl rfl, rfl⟩
  | new hnone hissued =>
    have hfor : pdpy.isFor sender r.displayNumber = true :=
      isFor_iff.2 ⟨hissued.displayNumber, by rw [hissued.address, addressEqual_refl]⟩
    refine ⟨List.mem_cons_self .., hfor, ht, ?_, Or.inr ?_, rfl⟩
    · -- the client had no proto-display before
      refine List.pairwise_cons.2 ⟨fun q hq hsame => ?_, ho.filter (t := s.timeout w) rfl⟩
      rw [find_eq_none_iff, State.protoDisplaysOf, List.filter_eq_nil_iff] at hnone
      refine hnone q (List.mem_filter.1 hq).1 (isFor_iff.2 ⟨?_, ?_⟩)
      · exact hsame.2.symm.trans hissued.displayNumber
      · rw [← hissued.address]
        exact hsame.1
    · change (pdpy :: _).filter _ = _
      rw [List.filter_cons_of_neg (by simp [hfor])]
      exact List.filter_comm ..

/-- What the answer to a `REQUEST` says, and what the client has then. -/
structure Agrees (w : World) (sender : Netaddr) (r : Request) (s s' : State) : Prop where
  oneForEach : s'.OneForEach
  untouched : Untouched w sender r.displayNumber s s'
  answer : (∃ status an ad, s'.out = s.out ++ [.send sender.sa (.decline status an ad)] ∧
      s'.protoDisplaysOf sender r.displayNumber = []) ∨
    ∃ p an ad zn zd, s'.out = s.out ++ [.send sender.sa (.accept p.sessionID an ad zn zd)] ∧
      s'.protoDisplaysOf sender r.displayNumber = [p] ∧
      ∃ pdpy t auth, Pending w sender r s pdpy t ∧ Granted w s.config r pdpy p auth

lemma Answered.agrees (h : Answered w sender r s s') (hs : s.ProtoSound)
    (ho : s.OneForEach) : Agrees w sender r s s' := by
  cases h with
  | refused status data hnone =>
    exact ⟨ho, Or.inl rfl, Or.inl ⟨_, _, _, rfl, find_eq_none_iff.1 hnone⟩⟩
  | outOfMemory status data hnone _ =>
    refine ⟨ho.filter (t := s.timeout w) rfl, Or.inr (List.filter_comm ..),
      Or.inl ⟨_, _, _, rfl, ?_⟩⟩
    rw [find_eq_none_iff, State.protoDisplaysOf, List.filter_eq_nil_iff] at hnone
    exact List.filter_eq_nil_iff.2 fun p hp => hnone p (List.mem_filter.1 hp).1
  | @declined pdpy t status data hp _ =>
    obtain ⟨hmem, hfor, ht, hto, huntouched, hout⟩ := hp.spec hs ho
    have hat : ∀ p ∈ t.protoDisplays, p.addr = pdpy.addr → p = pdpy :=
      fun p hp ha => ht.distinct.eq_of_mem hp hmem ha
    refine ⟨hto.filter rfl, huntouched.of_eq ?_, Or.inl ⟨_, _, _, by rw [← hout]; rfl, ?_⟩⟩
    · exact protoDisplaysBut_erase (a := pdpy.addr)
        (fun p hp ha => by rw [hat p hp ha]; exact hfor) rfl
    · -- the only proto-display of the client is disposed of
      refine List.filter_eq_nil_iff.2 fun p hp hpfor => ?_
      obtain ⟨hpt, hne⟩ := Keyed.mem_erase.1 hp
      have hp1 : p ∈ t.protoDisplaysOf sender r.displayNumber := List.mem_filter.2 ⟨hpt, hpfor⟩
      rw [hto.eq_singleton hmem hfor, List.mem_singleton] at hp1
      exact hne (congrArg _ hp1)
  | @accepted pdpy pdpy' t auth data hp hgrant =>
    obtain ⟨hmem, hfor, ht, hto, huntouched, hout⟩ := hp.spec hs ho
    have hsame := hgrant.same
    have hat : ∀ p ∈ t.protoDisplays, p.addr = pdpy'.addr → p = pdpy :=
      fun p hp ha => ht.distinct.eq_of_mem hp hmem (ha.trans hsame.addr)
    have hfor' : pdpy'.isFor sender r.displayNumber = true := hsame.isFor_eq.trans hfor
    have hone : State.OneForEach (t.authorize pdpy') := by
      have himage : ∀ p ∈ t.protoDisplays,
          p.SameSession (if p.addr = pdpy'.addr then pdpy' else p) := by
        intro p hp
        split_ifs with ha
        · rw [hat p hp ha]
          exact hsame
        · exact ProtoDisplay.SameSession.refl p
      refine List.pairwise_map.2 (hto.imp_of_mem fun {p q} hp hq hne hsc => hne ?_)
      exact hsc.of_sameSession (himage p hp) (himage q hq)
    refine ⟨hone, huntouched.of_eq ?_, Or.inr ⟨pdpy', _, _, _, _, by rw [← hout]; rfl, ?_,
      pdpy, t, auth, hp, hgrant⟩⟩
    · refine Keyed.filter_modify fun p hp ha => ?_
      rw [hat p hp ha]
      simp [hfor, hfor']
    · refine hone.eq_singleton (Keyed.mem_modify.2 (Or.inl ⟨pdpy, hmem, ?_, rfl⟩)) hfor'
      exact hsame.addr.symm

/-! ### Runs -/

/-- A `MANAGE` only disposes of the proto-display of its client. -/
lemma Dealt.protoDisplays (h : Dealt w sender m s s') : s'.protoDisplays = s.protoDisplays ∨
    ∃ pdpy, findProtoDisplay sender m.displayNumber s.protoDisplays = some pdpy ∧
      s'.protoDisplays = Keyed.erase ProtoDisplay.addr pdpy.addr s.protoDisplays := by
  cases h with
  | stale _ _ _ h => exact Or.inl (by rw [h]; rfl)
  | unknown _ _ h => exact Or.inl (by rw [h]; rfl)
  | ignored _ _ _ _ h => exact Or.inl (by rw [h])
  | managed pdpy hfind _ h =>
    cases h with
    | failed hq _ => exact Or.inl hq.protoDisplays
    | started _ _ hp => exact Or.inr ⟨pdpy, hfind, hp⟩
    | leaked _ _ _ hp _ => exact Or.inl hp

lemma run_protoSound (run : DaemonRun config g h s) : s.ProtoSound := by
  refine run.invariant_of (C := fun _ => True) (I := fun _ s => s.ProtoSound)
    ⟨List.nodup_nil, by simp [State.initial]⟩ ?_ fun _ _ => trivial
  rintro h s i s' run hs hstep -
  exact (step_kind (run_sound run) hstep).2.protoSound hs

lemma run_oneForEach (run : DaemonRun config g h s) : s.OneForEach := by
  refine run.invariant_of (C := fun _ => True) (I := fun _ s => s.OneForEach)
    List.Pairwise.nil ?_ fun _ _ => trivial
  rintro h s i s' run ho hstep -
  have hsame : s'.protoDisplays = s.protoDisplays → s'.OneForEach := by
    intro heq
    rw [State.OneForEach, heq]
    exact ho
  cases (step_kind (run_sound run) hstep).2 with
  | quiet _ _ hq => exact hsame hq.protoDisplays
  | request w sender r _ hr =>
    have hs := run_protoSound run
    exact (hr.agrees ⟨hs.distinct, hs.bound⟩ ho).oneForEach
  | manage w sender m _ hd =>
    rcases hd.protoDisplays with heq | ⟨pdpy, -, heq⟩
    · exact hsame heq
    · exact ho.filter heq

/-- The proto-display that a client has after its `REQUEST` has been granted an
authorization. -/
lemma Agrees.granted (h : Agrees w sender r s s')
    (hp : p ∈ s'.protoDisplaysOf sender r.displayNumber) :
    ∃ pdpy t auth, Pending w sender r s pdpy t ∧ Granted w s.config r pdpy p auth := by
  rcases h.answer with ⟨_, _, _, -, hnone⟩ | ⟨q, _, _, _, _, -, hone, hgrant⟩
  · simp [hnone] at hp
  · rw [hone, List.mem_singleton] at hp
    exact hp ▸ hgrant

/-- A proto-display is the same before a step, or the step has granted it an
authorization. -/
lemma StepKind.granted (hk : StepKind i s s') (hs : s.ProtoSound) (ho : s.OneForEach)
    (hp : p ∈ s'.protoDisplays) : p ∈ s.protoDisplays ∨ ∃ w sender r pdpy t auth,
      i.request? = some (w, sender, r) ∧ p.isFor sender r.displayNumber = true ∧
      Pending w sender r (s.begin i) pdpy t ∧ Granted w s.config r pdpy p auth := by
  cases hk with
  | quiet _ _ hq => exact Or.inl (hq.protoDisplays ▸ hp)
  | manage _ _ _ _ hd =>
    rcases hd.protoDisplays with heq | ⟨_, -, heq⟩
    · exact Or.inl (heq ▸ hp)
    · exact Or.inl (Keyed.mem_erase.1 (heq ▸ hp)).1
  | request w sender r hreq hr =>
    have hagree := hr.agrees ⟨hs.distinct, hs.bound⟩ ho
    by_cases hfor : p.isFor sender r.displayNumber = true
    · obtain ⟨pdpy, t, auth, hpending, hgrant⟩ := hagree.granted (List.mem_filter.2 ⟨hp, hfor⟩)
      exact Or.inr ⟨w, sender, r, pdpy, t, auth, hreq, hfor, hpending, hgrant⟩
    · have hmem : p ∈ s'.protoDisplaysBut sender r.displayNumber :=
        List.mem_filter.2 ⟨hp, by simpa using hfor⟩
      rcases hagree.untouched with heq | heq
      · exact Or.inl (List.mem_filter.1 (heq ▸ hmem)).1
      · exact Or.inl (List.mem_filter.1 (List.mem_filter.1 (heq ▸ hmem)).1).1

/-- In every run: no two proto-displays belong to one client.  A `REQUEST` that is answered
with an `ACCEPT` leaves the client exactly one, with the session ID sent, and one that is
answered with a `DECLINE` leaves it none; the proto-displays of the other clients stay,
except those that have timed out, and all of them stay when a `MANAGE` is processed. -/
theorem protoDisplays_agree (run : DaemonRun config g h s) :
    (s.protoDisplays.Pairwise fun p q =>
      ¬ (addressEqual p.address q.address = true ∧ p.displayNumber = q.displayNumber)) ∧
    (∀ x ∈ h, ∀ w sender r, x.input.request? = some (w, sender, r) →
      (∀ dest sid an ad zn zd, Event.send dest (.accept sid an ad zn zd) ∈ x.post.out →
        ∃ p, x.post.protoDisplaysOf sender r.displayNumber = [p] ∧ p.sessionID = sid) ∧
      (∀ dest status an ad, Event.send dest (.decline status an ad) ∈ x.post.out →
        x.post.protoDisplaysOf sender r.displayNumber = []) ∧
      Untouched w sender r.displayNumber x.pre x.post) ∧
    ∀ x ∈ h, ∀ w sender m, x.input.manage? = some (w, sender, m) →
      x.post.protoDisplaysBut sender m.displayNumber =
        x.pre.protoDisplaysBut sender m.displayNumber := by
  refine ⟨run_oneForEach run, fun x hx w sender r hreq => ?_, fun x hx w sender m hman => ?_⟩
  · obtain ⟨h₁, h₂, -, hrun, hstep⟩ := run.split hx
    have hs := run_protoSound hrun
    have hr := (step_kind (run_sound hrun) hstep).2.answered hreq
    have ho := run_oneForEach hrun
    have hagree := hr.agrees ⟨hs.distinct, hs.bound⟩ ho
    have hbegin : (x.pre.begin x.input).out = [] := rfl
    refine ⟨?_, ?_, hagree.untouched⟩
    · rintro dest sid an ad zn zd hmem
      rcases hagree.answer with ⟨_, _, _, hout, -⟩ | ⟨p, _, _, _, _, hout, hone, -⟩
      · simp [hout, hbegin] at hmem
      · refine ⟨p, hone, ?_⟩
        simp only [hout, hbegin, List.nil_append, List.mem_singleton, Event.send.injEq,
          Message.accept.injEq] at hmem
        exact hmem.2.1.symm
    · rintro dest status an ad hmem
      rcases hagree.answer with ⟨_, _, _, -, hnone⟩ | ⟨p, _, _, _, _, hout, -⟩
      · exact hnone
      · simp [hout, hbegin] at hmem
  · obtain ⟨h₁, h₂, -, hrun, hstep⟩ := run.split hx
    have hd := (step_kind (run_sound hrun) hstep).2.dealt hman
    rcases hd.protoDisplays with heq | ⟨pdpy, hfind, heq⟩
    · rw [State.protoDisplaysBut, heq]
      rfl
    · obtain ⟨hmem, hfor⟩ := isFor_of_find hfind
      refine protoDisplaysBut_erase (fun p hp ha => ?_) heq
      rw [(run_protoSound hrun).distinct.eq_of_mem hp hmem ha]
      exact hfor

def Event.isAccept : Event → Bool
  | .send _ (.accept ..) => true
  | _ => false

def Event.isDecline : Event → Bool
  | .send _ (.decline ..) => true
  | _ => false

/-- In the step a `REQUEST` of the guest for display 0 has been given such an answer. -/
def answersGuest (isAnswer : Event → Bool) (x : Step State Input) : Bool :=
  (x.input.request?.any fun p => decide (p.2.1 = Netaddr.guest ∧ p.2.2.displayNumber = 0)) &&
    x.post.out.any isAnswer

lemma answersGuest_eq_true {isAnswer : Event → Bool} {x : Step State Input}
    (h : answersGuest isAnswer x = true) : ∃ w r, x.input.request? = some (w, Netaddr.guest, r) ∧
      r.displayNumber = 0 ∧ ∃ e ∈ x.post.out, isAnswer e = true := by
  simp only [answersGuest, Bool.and_eq_true, Option.any_eq_true, List.any_eq_true,
    decide_eq_true_eq] at h
  obtain ⟨⟨⟨w, sender, r⟩, hreq, rfl, hn⟩, hout⟩ := h
  exact ⟨w, r, hreq, hn, hout⟩

/-- A client that asks twice, and the second time for an authorization that nobody knows. -/
theorem protoDisplays_agree_guest : ∃ h s, DaemonRun Config.open 0 h s ∧
    (∃ x ∈ h, ∃ p, x.post.protoDisplaysOf Netaddr.guest 0 = [p]) ∧
    ∃ x ∈ h, x.post.protoDisplaysOf Netaddr.guest 0 = [] := by
  obtain ⟨h, s, run, ⟨x, hx, haccept⟩, y, hy, hdecline⟩ : ∃ h s, DaemonRun Config.open 0 h s ∧
      (∃ x ∈ h, answersGuest Event.isAccept x = true) ∧
      ∃ x ∈ h, answersGuest Event.isDecline x = true :=
    exists_run_of_exec [.request (World.lan 20 7) Netaddr.guest (Request.plain 0 []),
      .request (World.lan 20 7) Netaddr.guest (Request.plain 0 [[88]])] (by decide +kernel)
  refine ⟨h, s, run, ⟨x, hx, ?_⟩, y, hy, ?_⟩
  · obtain ⟨w, r, hreq, hn, e, he, haccept⟩ := answersGuest_eq_true haccept
    have hagree := ((protoDisplays_agree run).2.1 x hx w _ r hreq).1
    rw [hn] at hagree
    cases e with
    | send dest m =>
      cases m with
      | accept sid an ad zn zd =>
        obtain ⟨p, hp, -⟩ := hagree dest sid an ad zn zd he
        exact ⟨p, hp⟩
      | _ => exact nomatch haccept
    | _ => exact nomatch haccept
  · obtain ⟨w, r, hreq, hn, e, he, hdecline⟩ := answersGuest_eq_true hdecline
    have hagree := ((protoDisplays_agree run).2.1 y hy w _ r hreq).2.1
    rw [hn] at hagree
    cases e with
    | send dest m =>
      cases m with
      | decline status an ad => exact hagree dest status an ad he
      | _ => exact nomatch hdecline
    | _ => exact nomatch hdecline

end Xdm
