/-
# One session, one authorization

The `ACCEPT` for a session carries an authorization, and the display is given the one that
is stored with the proto-display.  `request_respond` stores a new one for every `REQUEST`,
so that the two agree only as long as a `REQUEST` that is repeated asks for what is stored
already and happens to get it again.
-/
import Xdm.Sessions

namespace Xdm

open Prog

variable {config : Config} {g : Nat} {h : List (Step State Input)} {s s' : State} {i : Input}
variable {w : World} {cfg : Config} {r : Request} {pdpy pdpy' : ProtoDisplay}
variable {auth : Option Xauth}

/-! ### What a proto-display has -/

/-- The authorization that an `ACCEPT` for the proto-display carries. -/
def ProtoDisplay.granted (pdpy : ProtoDisplay) : Option Xauth :=
  pdpy.xdmcpAuthorization.or pdpy.fileAuthorization

/-- An authorization as a packet carries it: no authorization has empty fields. -/
def onWire (auth : Option Xauth) : Xauth := auth.getD ⟨[], []⟩

lemma acceptMessage_eq (r : Request) (pdpy : ProtoDisplay) (data : ARRAY8)
    (auth : Option Xauth) : acceptMessage r pdpy data auth =
      .accept pdpy.sessionID r.authenticationName data (onWire auth).name
        (onWire auth).data := by
  cases auth <;> rfl

/-- Only `XDM-AUTHORIZATION-1` has one authorization for the packet and another one for
the display. -/
def ProtoDisplay.Shaped (pdpy : ProtoDisplay) : Prop :=
  pdpy.xdmcpAuthorization = none ∨
    ∃ auth, pdpy.fileAuthorization = some auth ∧ auth.name = xdmAuthorization1

lemma ProtoDisplay.Shaped.granted_eq_none (h : pdpy.Shaped)
    (hfile : pdpy.fileAuthorization = none) : pdpy.granted = none := by
  rcases h with hx | ⟨auth, hauth, -⟩
  · rw [granted, hx, hfile]
    rfl
  · simp [hfile] at hauth

lemma mitMagicCookie1_ne : mitMagicCookie1 ≠ xdmAuthorization1 := by decide

/-- What a display gets for a `MIT-MAGIC-COOKIE-1` is what the packet carries. -/
lemma ProtoDisplay.Shaped.granted_eq_file (h : pdpy.Shaped)
    (hfile : ∀ auth, pdpy.fileAuthorization = some auth → auth.name = mitMagicCookie1) :
    pdpy.granted = pdpy.fileAuthorization := by
  rcases h with hx | ⟨auth, hauth, hname⟩
  · rw [granted, hx]
    rfl
  · exact absurd ((hfile auth hauth).symm.trans hname) mitMagicCookie1_ne

lemma findProtocol_eq_mit {name : ARRAY8}
    (h : findProtocol cfg name = some .mitMagicCookie1) : name = mitMagicCookie1 := by
  unfold findProtocol at h
  split_ifs at h with hname
  · exact hname
  · cases h

lemma findProtocol_eq_xdm {name : ARRAY8}
    (h : findProtocol cfg name = some .xdmAuthorization1) : name = xdmAuthorization1 := by
  unfold findProtocol at h
  split_ifs at h with hmit hname
  · cases h
  · exact hname.2

/-- The three things that `SetProtoDisplayAuthorization` can come to. -/
lemma setProtoDisplayAuthorization_cases {pdpy' : ProtoDisplay} {name : ARRAY8}
    (hset : setProtoDisplayAuthorization w cfg pdpy name = some pdpy') :
    match findProtocol cfg name with
    | none => pdpy'.xdmcpAuthorization = none ∧ pdpy'.fileAuthorization = none
    | some .mitMagicCookie1 => pdpy'.xdmcpAuthorization = none ∧
        pdpy'.fileAuthorization = (w.generateAuthData authDataLen).map fun data =>
          ⟨mitMagicCookie1, data⟩
    | some .xdmAuthorization1 => match w.generateAuthData 8 with
      | none => pdpy'.xdmcpAuthorization = none ∧ pdpy'.fileAuthorization = none
      | some data => pdpy'.xdmcpAuthorization =
            some ⟨xdmAuthorization1, w.xdmcpWrap (data.set 0 0) pdpy.key⟩ ∧
          ∃ auth, pdpy'.fileAuthorization = some auth ∧ auth.name = xdmAuthorization1 := by
  unfold setProtoDisplayAuthorization at hset
  cases hp : findProtocol cfg name with
  | none =>
    rw [hp] at hset
    obtain rfl := Option.some.inj hset
    exact ⟨rfl, rfl⟩
  | some protocol =>
    cases protocol with
    | mitMagicCookie1 =>
      rw [hp] at hset
      obtain rfl := Option.some.inj hset
      obtain rfl := findProtocol_eq_mit hp
      exact ⟨rfl, rfl⟩
    | xdmAuthorization1 =>
      rw [hp] at hset
      obtain rfl := findProtocol_eq_xdm hp
      cases hdata : w.generateAuthData 8 with
      | none =>
        simp only [xdmGetXdmcpAuth, xdmGetAuthHelper, hdata] at hset
        obtain rfl := Option.some.inj hset
        exact ⟨rfl, rfl⟩
      | some data =>
        simp only [xdmGetXdmcpAuth, xdmGetAuthHelper, hdata] at hset
        obtain rfl := Option.some.inj (Option.ite_none_left_eq_some.1 hset).2
        exact ⟨rfl, _, rfl, rfl⟩

/-! ### Asking again -/

/-- The `REQUEST` is declined, or what it asks for is what the proto-display has: no
authorization that the host knows, and none is stored; or a protocol for which the
random bytes are those stored already. -/
def Regrants (w : World) (cfg : Config) (r : Request) (pdpy : ProtoDisplay) : Bool :=
  match authorizationIndex cfg r with
  | none => true
  | some j =>
    match checkAuthentication w cfg pdpy r.manufacturerDisplayID r.authenticationName
        r.authenticationData with
    | (false, _, _) => true
    | (true, pdpy₁, _) =>
      match r.authorizationNames[j]?.bind (findProtocol cfg) with
      | none => pdpy.fileAuthorization = none
      | some .mitMagicCookie1 =>
        pdpy.fileAuthorization = (w.generateAuthData authDataLen).map fun data =>
          ⟨mitMagicCookie1, data⟩
      | some .xdmAuthorization1 =>
        match w.generateAuthData 8 with
        | none => pdpy.fileAuthorization = none
        | some data => pdpy.xdmcpAuthorization =
            some ⟨xdmAuthorization1, w.xdmcpWrap (data.set 0 0) pdpy₁.key⟩

/-- What the packet carries is what is stored. -/
lemma Granted.eq_granted (hgrant : Granted w cfg r pdpy pdpy' auth) (hs : pdpy.Shaped)
    (hold : Regrants w cfg r pdpy = true ∨
      pdpy.fileAuthorization = none ∧ pdpy.xdmcpAuthorization = none) :
    pdpy'.Shaped ∧ auth = pdpy'.granted ∧
      (Regrants w cfg r pdpy = true → auth = pdpy.granted) := by
  obtain ⟨j, pdpy₁, data, hj, hcheck, hgrant⟩ := hgrant.granted
  obtain ⟨-, hfile, hxdmcp⟩ := checkAuthentication_same hcheck
  unfold Regrants at hold ⊢
  simp only [hj, hcheck] at hold ⊢
  unfold grantAuthorization at hgrant
  cases hname : r.authorizationNames[j]? with
  | none =>
    -- the list of names is empty: nothing is stored and nothing is carried
    simp only [hname] at hgrant
    obtain ⟨rfl, rfl⟩ := Prod.mk.inj (Option.some.inj hgrant)
    have hnone : pdpy.granted = none := by
      rcases hold with hold | ⟨hf, -⟩
      · simp only [hname, Option.bind_none, decide_eq_true_eq] at hold
        exact hs.granted_eq_none hold
      · exact hs.granted_eq_none hf
    have hsame : pdpy₁.granted = pdpy.granted := by
      rw [ProtoDisplay.granted, hfile, hxdmcp]
      rfl
    refine ⟨?_, by rw [hsame, hnone], fun _ => hnone.symm⟩
    unfold ProtoDisplay.Shaped at hs ⊢
    rwa [hxdmcp, hfile]
  | some name =>
    simp only [hname] at hgrant
    obtain ⟨pdpy₂, hset, heq⟩ := Option.map_eq_some_iff.1 hgrant
    obtain ⟨rfl, rfl⟩ := Prod.mk.inj heq
    replace hset := setProtoDisplayAuthorization_cases hset
    simp only [Option.bind_some]
    cases hp : findProtocol cfg name with
    | none =>
      simp only [hp, decide_eq_true_eq] at hset ⊢
      refine ⟨Or.inl hset.1, rfl, fun hnone => ?_⟩
      rw [hs.granted_eq_none hnone, hset.1, hset.2]
      rfl
    | some protocol =>
      cases protocol with
      | mitMagicCookie1 =>
        simp only [hp, decide_eq_true_eq] at hset ⊢
        refine ⟨Or.inl hset.1, rfl, fun hstored => ?_⟩
        rw [hs.granted_eq_file ?_, hset.1, hset.2, hstored]
        · rfl
        · intro auth hauth
          rw [hstored] at hauth
          obtain ⟨_, -, rfl⟩ := Option.map_eq_some_iff.1 hauth
          rfl
      | xdmAuthorization1 =>
        simp only [hp] at hset ⊢
        cases hdata : w.generateAuthData 8 with
        | none =>
          simp only [hdata, decide_eq_true_eq] at hset ⊢
          refine ⟨Or.inl hset.1, rfl, fun hnone => ?_⟩
          rw [hs.granted_eq_none hnone, hset.1, hset.2]
          rfl
        | some key =>
          simp only [hdata, decide_eq_true_eq] at hset ⊢
          refine ⟨Or.inr hset.2, rfl, fun hstored => ?_⟩
          rw [ProtoDisplay.granted, hstored, hset.1]
          rfl

/-! ### What is carried, and what is stored -/

/-- In the step `x` an `ACCEPT` has been sent with this session ID and authorization. -/
def Carries (x : Step State Input) (sid : CARD32) (a : Xauth) : Prop :=
  ∃ dest an ad, Event.send dest (.accept sid an ad a.name a.data) ∈ x.post.out

/-- If the step `x` answers a `REQUEST` of a client whose session is still to be started,
then it asks for what the session has. -/
def Steady (x : Step State Input) : Bool :=
  match x.input.request? with
  | none => true
  | some (w, sender, r) =>
    (findProtoDisplay sender r.displayNumber x.pre.protoDisplays).all
      (Regrants w x.pre.config r)

lemma regrants_of_steady {x : Step State Input} (h : Steady x = true) {sender : Netaddr}
    (hreq : x.input.request? = some (w, sender, r))
    (hfind : findProtoDisplay sender r.displayNumber x.pre.protoDisplays = some pdpy) :
    Regrants w x.pre.config r pdpy = true := by
  simpa only [Steady, hreq, hfind, Option.all_some] using h

/-- The step `x` has sent an `ACCEPT` for the proto-display `p'`, and for no other. -/
structure AcceptedFor (x : Step State Input) (p' : ProtoDisplay) : Prop where
  carries : ∀ sid a, Carries x sid a ↔ sid = p'.sessionID ∧ a = onWire p'.granted
  shaped : p'.Shaped
  other : ∀ q ∈ x.post.protoDisplays, q = p' ∨ q ∈ x.pre.protoDisplays ∧ q.addr ≠ p'.addr
  origin : (∃ p ∈ x.pre.protoDisplays, p.SameSession p' ∧ p'.granted = p.granted) ∨
    x.post.globalSessionID = x.pre.globalSessionID + 1 ∧
      p'.sessionID = UInt32.ofNat (x.pre.globalSessionID + 1)

lemma not_carries_of_quiet {x : Step State Input} {t : State}
    (ho : ∃ es, x.post.out = (t.begin i).out ++ es ∧ ∀ e ∈ es, e.isQuiet = true) (sid : CARD32)
    (a : Xauth) : ¬ Carries x sid a := by
  rintro ⟨dest, an, ad, hmem⟩
  obtain ⟨es, hes, hq⟩ := ho
  rw [hes] at hmem
  exact absurd (hq _ (by simpa [State.begin] using hmem)) (by simp [Event.isQuiet])

lemma not_carries_of_sent {t : State} {dest : SockAddr} {m : Message} (ht : t.out = [])
    (hs' : s' = t.sent dest m) (hm : ∀ sid an ad n d, m ≠ .accept sid an ad n d) (sid : CARD32)
    (a : Xauth) : ¬ Carries ⟨s, i, s'⟩ sid a := by
  rintro ⟨dest', an, ad, hmem⟩
  subst hs'
  simp only [State.sent, ht, List.nil_append, List.mem_singleton, Event.send.injEq] at hmem
  exact hm _ _ _ _ _ hmem.2.symm

/-- The `ACCEPT` of a steady step is for the proto-display that has been granted. -/
lemma Pending.acceptedFor {sender : Netaddr} {t : State} {data : ARRAY8}
    (hp : Pending w sender r (s.begin i) pdpy t) (hgrant : Granted w s.config r pdpy pdpy' auth)
    (hreq : i.request? = some (w, sender, r)) (hs : ∀ p ∈ s.protoDisplays, p.Shaped)
    (hs' : s' = (t.authorize pdpy').sent sender.sa (acceptMessage r pdpy' data auth))
    (hsteady : Steady ⟨s, i, s'⟩ = true) : AcceptedFor ⟨s, i, s'⟩ pdpy' := by
  -- what the proto-display has is what the client asks for, or it has nothing yet
  have hold : pdpy.Shaped ∧ (Regrants w s.config r pdpy = true ∨
      pdpy.fileAuthorization = none ∧ pdpy.xdmcpAuthorization = none) := by
    cases hp with
    | known hfind =>
      exact ⟨hs _ (findProtoDisplay_some hfind).1, Or.inl (regrants_of_steady hsteady hreq hfind)⟩
    | new _ hissued =>
      exact ⟨Or.inl hissued.xdmcpAuthorization,
        Or.inr ⟨hissued.fileAuthorization, hissued.xdmcpAuthorization⟩⟩
  obtain ⟨hshaped, hauth, hsame⟩ := hgrant.eq_granted hold.1 hold.2
  have hout : t.out = [] := by cases hp <;> rfl
  subst hs'
  constructor
  case carries =>
    intro sid a
    simp only [Carries, State.sent, State.authorize, hout, List.nil_append,
      List.mem_singleton, acceptMessage_eq, Event.send.injEq, Message.accept.injEq, ← hauth]
    constructor
    · rintro ⟨_, _, _, -, hsid, -, -, hname, hdata⟩
      cases a
      exact ⟨hsid, by simp_all⟩
    · rintro ⟨rfl, rfl⟩
      exact ⟨_, _, _, rfl, rfl, rfl, rfl, rfl, rfl⟩
  case shaped => exact hshaped
  case other =>
    intro q hq
    rcases Keyed.mem_modify.1 hq with ⟨_, -, -, rfl⟩ | ⟨hmem, hne⟩
    · exact Or.inl rfl
    · exact Or.inr ⟨hp.old hmem (hgrant.same.addr ▸ hne), hne⟩
  case origin =>
    cases hp with
    | known hfind =>
      refine Or.inl ⟨pdpy, (findProtoDisplay_some hfind).1, hgrant.same, ?_⟩
      exact hauth.symm.trans (hsame (regrants_of_steady hsteady hreq hfind))
    | new _ hissued =>
      exact Or.inr ⟨rfl, hgrant.same.sessionID.trans hissued.sessionID⟩

/-- A step sends one `ACCEPT`, or none and then no proto-display is new. -/
lemma StepKind.acceptedFor (hk : StepKind i s s') (hs : ∀ p ∈ s.protoDisplays, p.Shaped)
    (hsteady : Steady ⟨s, i, s'⟩ = true) :
    (∃ p', AcceptedFor ⟨s, i, s'⟩ p') ∨
      (∀ sid a, ¬ Carries ⟨s, i, s'⟩ sid a) ∧ ∀ p ∈ s'.protoDisplays, p ∈ s.protoDisplays := by
  cases hk with
  | quiet _ _ hq =>
    exact Or.inr ⟨not_carries_of_quiet (t := s) hq.out, fun p hp => hq.protoDisplays ▸ hp⟩
  | manage _ _ _ _ hd =>
    refine Or.inr ?_
    cases hd with
    | stale _ _ _ h =>
      exact ⟨not_carries_of_sent rfl h (by simp), fun p hp => by rw [h] at hp; exact hp⟩
    | unknown _ _ h =>
      exact ⟨not_carries_of_sent rfl h (by simp), fun p hp => by rw [h] at hp; exact hp⟩
    | ignored _ _ _ _ h =>
      exact ⟨fun sid a ⟨_, _, _, hmem⟩ => by simp [h, State.begin] at hmem,
        fun p hp => by rw [h] at hp; exact hp⟩
    | managed _ _ _ h =>
      cases h with
      | failed hq _ =>
        exact ⟨not_carries_of_quiet (t := s) hq.out, fun p hp => hq.protoDisplays ▸ hp⟩
      | started _ hst h =>
        exact ⟨not_carries_of_quiet (t := s) hst.out, fun p hp =>
          (Keyed.mem_erase.1 (h ▸ hp)).1⟩
      | leaked _ _ hst h _ =>
        exact ⟨not_carries_of_quiet (t := s) hst.out, fun p hp => h ▸ hp⟩
  | request w sender r hreq hr =>
    cases hr with
    | refused status data _ =>
      exact Or.inr ⟨not_carries_of_sent rfl rfl (by simp), fun p hp => hp⟩
    | outOfMemory status data _ _ =>
      exact Or.inr ⟨not_carries_of_sent rfl rfl (by simp), fun p hp => (List.mem_filter.1 hp).1⟩
    | declined status data hp _ =>
      refine Or.inr ⟨not_carries_of_sent ?_ rfl (by simp), fun p hmem => ?_⟩
      · cases hp <;> rfl
      · obtain ⟨hmem, hne⟩ := Keyed.mem_erase.1 hmem
        exact hp.old hmem hne
    | accepted data hp hgrant => exact Or.inl ⟨_, hp.acceptedFor hgrant hreq hs rfl hsteady⟩

/-- What holds along a run of steady steps in which fewer than `2 ^ 32` session IDs are
issued. -/
structure Consistent (g : Nat) (h : List (Step State Input)) (s : State) : Prop
    extends Numbered g s where
  shaped : ∀ p ∈ s.protoDisplays, p.Shaped
  known : ∀ y ∈ h, ∀ sid a, Carries y sid a → IsIssued g s sid
  stored : ∀ y ∈ h, ∀ p ∈ s.protoDisplays, ∀ a, Carries y p.sessionID a → a = onWire p.granted
  same : ∀ y ∈ h, ∀ y' ∈ h, ∀ sid a a', Carries y sid a → Carries y' sid a' → a = a'

lemma Consistent.initial : Consistent g [] (State.initial config g) where
  toNumbered := Numbered.initial
  shaped := by simp [State.initial]
  known := by simp
  stored := by simp
  same := by simp

/-- A step with an `ACCEPT`. -/
lemma Consistent.accepted {p' : ProtoDisplay} (hc : Consistent g h s) (hn : Numbered g s')
    (hacc : AcceptedFor ⟨s, i, s'⟩ p') (hle : s.globalSessionID ≤ s'.globalSessionID)
    (hfew : s'.globalSessionID < g + 2 ^ 32) : Consistent g (h ++ [⟨s, i, s'⟩]) s' := by
  have hsplit : ∀ {y : Step State Input}, y ∈ h ++ [⟨s, i, s'⟩] → y ∈ h ∨ y = ⟨s, i, s'⟩ := by
    simp
  -- an earlier `ACCEPT` with the ID of `p'` was for the same proto-display
  have hpast : ∀ y ∈ h, ∀ a, Carries y p'.sessionID a → a = onWire p'.granted := by
    intro y hy a ha
    rcases hacc.origin with ⟨p, hp, hsame, hgranted⟩ | ⟨hid, hsid⟩
    · rw [hgranted]
      exact hc.stored y hy p hp a (hsame.sessionID ▸ ha)
    · exact absurd hsid (ne_of_issued (hc.known y hy _ a ha) hfew hid)
  -- and no other proto-display has this ID
  have hother : ∀ q ∈ s.protoDisplays, q.addr ≠ p'.addr → q.sessionID ≠ p'.sessionID := by
    intro q hq hne heq
    rcases hacc.origin with ⟨p, hp, hsame, -⟩ | ⟨hid, hsid⟩
    · exact hne ((hc.unique q hq p hp (heq.trans hsame.sessionID)).trans hsame.addr.symm)
    · exact ne_of_issued (hc.issued q hq) hfew hid (heq.trans hsid)
  constructor
  case toNumbered => exact hn
  case shaped =>
    intro q hq
    rcases hacc.other q hq with rfl | ⟨hq, -⟩
    · exact hacc.shaped
    · exact hc.shaped q hq
  case known =>
    intro y hy sid a ha
    rcases hsplit hy with hy | rfl
    · exact (hc.known y hy sid a ha).mono hle
    · obtain ⟨rfl, -⟩ := (hacc.carries sid a).1 ha
      rcases hacc.origin with ⟨p, hp, hsame, -⟩ | ⟨hid, hsid⟩
      · rw [hsame.sessionID]
        exact (hc.issued p hp).mono hle
      · have := hc.start
        exact ⟨s.globalSessionID + 1, by omega, Nat.le_of_eq hid.symm, hsid⟩
  case stored =>
    intro y hy q hq a ha
    rcases hsplit hy with hy | rfl <;> rcases hacc.other q hq with rfl | ⟨hq, hne⟩
    · exact hpast y hy a ha
    · exact hc.stored y hy q hq a ha
    · exact ((hacc.carries _ a).1 ha).2
    · exact absurd ((hacc.carries _ a).1 ha).1 (hother q hq hne)
  case same =>
    intro y hy y' hy' sid a a' ha ha'
    rcases hsplit hy with hy | rfl <;> rcases hsplit hy' with hy' | rfl
    · exact hc.same y hy y' hy' sid a a' ha ha'
    · obtain ⟨rfl, rfl⟩ := (hacc.carries sid a').1 ha'
      exact hpast y hy a ha
    · obtain ⟨rfl, rfl⟩ := (hacc.carries sid a).1 ha
      exact (hpast y' hy' a' ha').symm
    · exact ((hacc.carries sid a).1 ha).2.trans ((hacc.carries sid a').1 ha').2.symm

/-- A step without an `ACCEPT`, after which no proto-display is new. -/
lemma Consistent.silent (hc : Consistent g h s) (hn : Numbered g s')
    (hle : s.globalSessionID ≤ s'.globalSessionID)
    (hnone : ∀ sid a, ¬ Carries ⟨s, i, s'⟩ sid a)
    (hsub : ∀ p ∈ s'.protoDisplays, p ∈ s.protoDisplays) :
    Consistent g (h ++ [⟨s, i, s'⟩]) s' := by
  have hold : ∀ {y : Step State Input} {sid a}, y ∈ h ++ [⟨s, i, s'⟩] → Carries y sid a →
      y ∈ h := by
    intro y sid a hy ha
    rcases List.mem_append.1 hy with hy | hy
    · exact hy
    · obtain rfl := List.mem_singleton.1 hy
      exact absurd ha (hnone sid a)
  exact
    { toNumbered := hn
      shaped := fun p hp => hc.shaped p (hsub p hp)
      known := fun y hy sid a ha => (hc.known y (hold hy ha) sid a ha).mono hle
      stored := fun y hy p hp a ha => hc.stored y (hold hy ha) p (hsub p hp) a ha
      same := fun y hy y' hy' sid a a' ha ha' =>
        hc.same y (hold hy ha) y' (hold hy' ha') sid a a' ha ha' }

lemma Consistent.step (hc : Consistent g h s) (hk : StepKind i s s')
    (hsteady : Steady ⟨s, i, s'⟩ = true) (hfew : s'.globalSessionID < g + 2 ^ 32) :
    Consistent g (h ++ [⟨s, i, s'⟩]) s' := by
  have hn := hc.toNumbered.step hk hfew
  rcases hk.acceptedFor hc.shaped hsteady with ⟨p', hacc⟩ | ⟨hnone, hsub⟩
  · exact hc.accepted hn hacc hk.globalSessionID hfew
  · exact hc.silent hn hk.globalSessionID hnone hsub

lemma run_consistent (run : DaemonRun config g h s) (hsteady : ∀ x ∈ h, Steady x = true)
    (hfew : s.globalSessionID < g + 2 ^ 32) : Consistent g h s := by
  refine run.invariant_of (C := fun x => Steady x = true ∧ x.post.globalSessionID < g + 2 ^ 32)
    Consistent.initial ?_ fun x hx =>
      ⟨hsteady x hx, Nat.lt_of_le_of_lt (run_globalSessionID run x hx) hfew⟩
  rintro h s i s' run hc hstep ⟨hsteady, hfew⟩
  exact hc.step (step_kind (run_sound run) hstep).2 hsteady hfew

/-! ### What a display gets -/

/-- A display that a step starts has the authorization of its proto-display. -/
lemma StepKind.installs (hs : s.Sound [] none) (hk : StepKind i s s') {d : Display}
    (hd : Starts ⟨s, i, s'⟩ d) (hfreed : s'.dangling = false) :
    ∃ pdpy ∈ s.protoDisplays, d.sessionID = pdpy.sessionID ∧
      d.authorizations = pdpy.fileAuthorization.toList := by
  have hmem : d ∈ s'.displays := hd.mem
  have hle : s.nextAddr ≤ d.addr := hd.fresh
  have hnew : ¬ ∃ d₀ ∈ s.displays, d₀.Successor d := by
    rintro ⟨d₀, hd₀, hsucc⟩
    have hlt := hs.bound d₀ hd₀
    rw [hsucc.addr] at hle
    omega
  have hrefl : d ∈ s.displays → ∃ d₀ ∈ s.displays, d₀.Successor d :=
    fun h => ⟨d, h, Display.Successor.refl d⟩
  cases hk with
  | quiet _ _ hq => exact absurd (hq.session d hmem hd.origin) hnew
  | request _ _ _ _ hr => exact absurd (hrefl (hr.undisturbed.displays ▸ hmem)) hnew
  | manage _ _ _ _ hdealt =>
    cases hdealt with
    | stale _ _ _ h => rw [h] at hmem; exact absurd (hrefl hmem) hnew
    | unknown _ _ h => rw [h] at hmem; exact absurd (hrefl hmem) hnew
    | ignored _ _ _ _ h => rw [h] at hmem; exact absurd (hrefl hmem) hnew
    | managed pdpy hfind _ h =>
      cases h with
      | failed hq _ => exact absurd (hq.session d hmem hd.origin) hnew
      | started _ hst _ =>
        rcases hst.session d hmem hd.origin with hold | ⟨-, hserves⟩
        · exact absurd hold hnew
        · exact ⟨pdpy, (findProtoDisplay_some hfind).1, hserves.sessionID,
            hserves.authorizations⟩
      | leaked _ _ _ _ h => simp [hfreed] at h

/-- What the display gets is what the packets carry, if it is no `XDM-AUTHORIZATION-1`. -/
lemma ProtoDisplay.Shaped.onWire_granted (h : pdpy.Shaped) {auths : List Xauth}
    (hauths : auths = pdpy.fileAuthorization.toList)
    (hmit : auths = [] ∨ ∃ data, auths = [⟨mitMagicCookie1, data⟩]) :
    onWire pdpy.granted = auths.headD ⟨[], []⟩ := by
  subst hauths
  cases hfile : pdpy.fileAuthorization with
  | none => rw [h.granted_eq_none hfile]; rfl
  | some auth =>
    rw [hfile] at hmit
    obtain ⟨data, hdata⟩ := hmit.resolve_left (by simp)
    obtain rfl : auth = ⟨mitMagicCookie1, data⟩ := by simpa using hdata
    rw [h.granted_eq_file (fun auth hauth => ?_), hfile]
    · rfl
    · obtain rfl := Option.some.inj (hfile.symm.trans hauth)
      rfl

/-- A repeated `REQUEST` is answered with the session ID of the proto-display. -/
lemma StepKind.repeated (hk : StepKind i s s') {w : World} {sender : Netaddr} {r : Request}
    (hreq : i.request? = some (w, sender, r)) {pdpy : ProtoDisplay}
    (hfind : findProtoDisplay sender r.displayNumber s.protoDisplays = some pdpy) :
    (∀ sid a, Carries ⟨s, i, s'⟩ sid a → sid = pdpy.sessionID) ∧
      (Entitled w s.config r pdpy → ∃ a, Carries ⟨s, i, s'⟩ pdpy.sessionID a) := by
  -- the pending proto-display is the one that is found
  have hpending : ∀ {p t}, Pending w sender r (s.begin i) p t → p = pdpy ∧ t = s.begin i := by
    rintro p t (hfound | ⟨hnone, -⟩)
    · exact ⟨Option.some.inj (hfound.symm.trans hfind), rfl⟩
    · exact absurd (hnone.symm.trans hfind) (by simp)
  cases hk.answered hreq with
  | refused _ _ hnone => exact absurd (hnone.symm.trans hfind) (by simp)
  | outOfMemory _ _ hnone _ => exact absurd (hnone.symm.trans hfind) (by simp)
  | declined _ _ hp hno =>
    obtain ⟨rfl, rfl⟩ := hpending hp
    refine ⟨?_, fun h => absurd h hno⟩
    rintro sid a ⟨_, _, _, hmem⟩
    simp [State.sent, State.dispose, State.begin] at hmem
  | @accepted p p' t auth data hp hgrant =>
    obtain ⟨rfl, rfl⟩ := hpending hp
    rw [← hgrant.same.sessionID]
    refine ⟨?_, fun _ => ⟨onWire auth, sender.sa, r.authenticationName, data, ?_⟩⟩
    · rintro sid a ⟨_, _, _, hmem⟩
      simp only [State.sent, State.authorize, State.begin, List.nil_append,
        List.mem_singleton, acceptMessage_eq, Event.send.injEq, Message.accept.injEq] at hmem
      exact hmem.2.1
    · rw [acceptMessage_eq]
      exact List.mem_append_right _ (List.mem_singleton.2 rfl)

/-- In a run of steady steps in which fewer than `2 ^ 32` session IDs are issued, all
`ACCEPT`s with one session ID carry one authorization; a display that is started with a
`MIT-MAGIC-COOKIE-1` or none gets the one that every earlier `ACCEPT` with its session ID
carries; and a `REQUEST` that is repeated by a client entitled to it gets an `ACCEPT` with
the session ID it had. -/
theorem one_authorization (run : DaemonRun config g h s) (hsteady : ∀ x ∈ h, Steady x = true)
    (hfew : s.globalSessionID < g + 2 ^ 32) :
    (∀ y ∈ h, ∀ y' ∈ h, ∀ sid a a', Carries y sid a → Carries y' sid a' → a = a') ∧
    (∀ h₁ x h₂, h = h₁ ++ x :: h₂ → x.post.dangling = false → ∀ d, Starts x d →
      (d.authorizations = [] ∨ ∃ data, d.authorizations = [⟨mitMagicCookie1, data⟩]) →
      ∀ y ∈ h₁, ∀ a, Carries y d.sessionID a → a = d.authorizations.headD ⟨[], []⟩) ∧
    ∀ x ∈ h, ∀ w sender r pdpy, x.input.request? = some (w, sender, r) →
      findProtoDisplay sender r.displayNumber x.pre.protoDisplays = some pdpy →
      (∀ sid a, Carries x sid a → sid = pdpy.sessionID) ∧
      (Entitled w x.pre.config r pdpy → ∃ a, Carries x pdpy.sessionID a) := by
  refine ⟨(run_consistent run hsteady hfew).same, ?_, ?_⟩
  · rintro h₁ x h₂ rfl hfreed d hd hauths y hy a ha
    obtain ⟨hrun, hstep⟩ := run.before
    have hpre : x.pre.globalSessionID < g + 2 ^ 32 :=
      Nat.lt_of_le_of_lt ((step_kind (run_sound hrun) hstep).2.globalSessionID)
        (Nat.lt_of_le_of_lt (run_globalSessionID run x (by simp)) hfew)
    have hc := run_consistent hrun (fun z hz => hsteady z (by simp [hz])) hpre
    obtain ⟨pdpy, hmem, hsid, hfile⟩ :=
      (step_kind (run_sound hrun) hstep).2.installs (run_sound hrun) hd hfreed
    rw [hc.stored y hy pdpy hmem a (hsid ▸ ha)]
    exact (hc.shaped pdpy hmem).onWire_granted hfile hauths
  · intro x hx w sender r pdpy hreq hfind
    obtain ⟨h₁, h₂, -, hrun, hstep⟩ := run.split hx
    exact (step_kind (run_sound hrun) hstep).2.repeated hreq hfind

/-- The packets of a client that repeats its `REQUEST` before it sends `MANAGE`; the random
bytes are `cookie` the first time and `cookie'` the second. -/
def repeated (cookie cookie' : UInt8) : List Input :=
  [.request (World.lan 20 cookie) Netaddr.guest (Request.plain 0 [mitMagicCookie1]),
    .request (World.lan 20 cookie') Netaddr.guest (Request.plain 0 [mitMagicCookie1]),
    .manage (World.lan 20 cookie') Netaddr.guest ⟨1, 0, []⟩]

/-- The authorizations that the `ACCEPT`s of a step carry, with their session IDs. -/
def carried (x : Step State Input) : List (CARD32 × Xauth) :=
  x.post.out.filterMap fun
    | .send _ (.accept sid _ _ name data) => some (sid, ⟨name, data⟩)
    | _ => none

lemma carries_of_mem {x : Step State Input} {sid : CARD32} {a : Xauth}
    (h : (sid, a) ∈ carried x) : Carries x sid a := by
  obtain ⟨e, he, heq⟩ := List.mem_filterMap.1 h
  split at heq
  · cases heq
    exact ⟨_, _, _, he⟩
  · cases heq

/-- The step `x` starts a display with another authorization than the one that the step `y`
has sent for its session ID. -/
def disagrees (y x : Step State Input) : Bool :=
  x.post.displays.any fun d => d.isXDMCP && decide (x.pre.nextAddr ≤ d.addr) &&
    (carried y).any fun c => c.1 == d.sessionID && c.2.name == mitMagicCookie1 &&
      d.authorizations.any fun auth => auth.name == mitMagicCookie1 && auth.data != c.2.data

/-- The first `ACCEPT` carries a cookie that the display does not get. -/
theorem two_authorizations : ∃ h s, DaemonRun Config.open 0 h s ∧
    h.map Step.input = repeated 7 8 ∧ ∃ h₁ x h₂, h = h₁ ++ x :: h₂ ∧ ∃ d, Starts x d ∧
      ∃ auth ∈ d.authorizations, auth.name = mitMagicCookie1 ∧
      ∃ y ∈ h₁, ∃ a, Carries y d.sessionID a ∧ a.name = mitMagicCookie1 ∧
        a.data ≠ auth.data := by
  obtain ⟨h, s, run, hinputs, htest⟩ : ∃ h s, DaemonRun Config.open 0 h s ∧
      h.map Step.input = repeated 7 8 ∧
      h.getLast?.any (fun x => h.dropLast.any fun y => disagrees y x) = true :=
    exists_run_on _ (by decide +kernel)
  obtain ⟨x, hx, htest⟩ := (Option.any_eq_true _ _).1 htest
  obtain ⟨y, hy, htest⟩ := List.any_eq_true.1 htest
  simp only [disagrees, Display.isXDMCP, List.any_eq_true, Bool.and_eq_true,
    decide_eq_true_eq, beq_iff_eq, bne_iff_ne, ne_eq] at htest
  obtain ⟨d, hd, ⟨ho, hle⟩, ⟨sid, a⟩, ha, ⟨rfl, hname⟩, auth, hauth, hmit, hne⟩ := htest
  exact ⟨h, s, run, hinputs, h.dropLast, x, [], (List.dropLast_append_getLast? x hx).symm, d,
    ⟨hd, ho, hle⟩, auth, hauth, hmit, y, hy, a, carries_of_mem ha, hname, Ne.symm hne⟩

/-- With the same random bytes the repeated `REQUEST` is answered as the first one. -/
theorem one_authorization_guest : ∃ h s, DaemonRun Config.open 0 h s ∧
    h.map carried = [[(1, ⟨mitMagicCookie1, List.replicate 16 7⟩)],
      [(1, ⟨mitMagicCookie1, List.replicate 16 7⟩)], []] ∧
    ∀ y ∈ h, ∀ y' ∈ h, ∀ sid a a', Carries y sid a → Carries y' sid a' → a = a' := by
  obtain ⟨h, s, run, hcarried, hsteady, hfew⟩ : ∃ h s, DaemonRun Config.open 0 h s ∧
      h.map carried = [[(1, ⟨mitMagicCookie1, List.replicate 16 7⟩)],
        [(1, ⟨mitMagicCookie1, List.replicate 16 7⟩)], []] ∧
      (∀ x ∈ h, Steady x = true) ∧ s.globalSessionID < 0 + 2 ^ 32 :=
    exists_run_of_exec (repeated 7 7) (by decide +kernel)
  exact ⟨h, s, run, hcarried, (one_authorization run hsteady hfew).1⟩

end Xdm
