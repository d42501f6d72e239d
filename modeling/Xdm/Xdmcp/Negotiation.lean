/-
# The rules for `REQUEST` and `MANAGE`

`wlp_answerRequest` and `wlp_answerManage` say in what states the daemon can be after one
of these packets.
-/
import Xdm.Xdmcp.Effects

namespace Xdm

open Prog

variable {w : World} {fd : Int} {sender : Netaddr} {s s₀ : State}

/-! ### `REQUEST` -/

/-- What a proto-display keeps while it is in the list. -/
structure ProtoDisplay.SameSession (p p' : ProtoDisplay) : Prop where
  addr : p'.addr = p.addr
  address : p'.address = p.address
  displayNumber : p'.displayNumber = p.displayNumber
  connectionType : p'.connectionType = p.connectionType
  connectionAddress : p'.connectionAddress = p.connectionAddress
  sessionID : p'.sessionID = p.sessionID

lemma ProtoDisplay.SameSession.refl (p : ProtoDisplay) : p.SameSession p :=
  ⟨rfl, rfl, rfl, rfl, rfl, rfl⟩

lemma ProtoDisplay.SameSession.trans {p p' p'' : ProtoDisplay} (h : p.SameSession p')
    (h' : p'.SameSession p'') : p.SameSession p'' :=
  ⟨h'.addr.trans h.addr, h'.address.trans h.address, h'.displayNumber.trans h.displayNumber,
    h'.connectionType.trans h.connectionType,
    h'.connectionAddress.trans h.connectionAddress, h'.sessionID.trans h.sessionID⟩

/-- `pdpy` is the proto-display of a new session that the state `s` admits. -/
structure Issued (w : World) (sender : Netaddr) (r : Request) (s : State)
    (pdpy : ProtoDisplay) : Prop where
  admitted : ∃ family addr, convertAddr sender.sa = (some family, addr) ∧
    accept w s.config s.database addr family = none ∧
    ∃ c, (selectConnectionTypeIndex w addr family r.connectionTypes
      r.connectionAddresses).1 = some c ∧
      pdpy.connectionType = c.connectionType ∧ pdpy.connectionAddress = c.connectionAddress
  addr : pdpy.addr = s.nextAddr
  address : pdpy.address = sender
  displayNumber : pdpy.displayNumber = r.displayNumber
  sessionID : pdpy.sessionID = UInt32.ofNat (s.globalSessionID + 1)
  fileAuthorization : pdpy.fileAuthorization = none
  xdmcpAuthorization : pdpy.xdmcpAuthorization = none
  authenticationData : pdpy.authenticationData = []

/-- The state after a session ID has been issued and the old proto-displays timed out. -/
def State.timeout (s : State) (w : World) : State :=
  { s with
    globalSessionID := s.globalSessionID + 1
    protoDisplays := s.protoDisplays.filter fun pdpy => !timedOut w.time pdpy }

/-- The state with the proto-display of a new session. -/
def State.issue (s : State) (w : World) (pdpy : ProtoDisplay) : State :=
  { s.timeout w with
    protoDisplays := pdpy :: (s.timeout w).protoDisplays
    nextAddr := s.nextAddr + 1 }

lemma wlp_newSession {r : Request} {Q : ProtoDisplay ⊕ ARRAY8 → State → Prop}
    (hpolicy : ∀ reason, Q (.inr reason) s)
    (hmemory : w.alloc.newProtoDisplay = false → Q (.inr outOfMemory) (s.timeout w))
    (hnew : ∀ pdpy, Issued w sender r s pdpy → Q (.inl pdpy) (s.issue w pdpy)) :
    Wlp (newSession w sender r) Q s := by
  unfold newSession
  split
  · exact (wlp_pure _ _ _).2 (hpolicy _)
  · next family addr hconvert =>
    simp only [wlp_bind, wlp_get]
    split
    · exact (wlp_pure _ _ _).2 (hpolicy _)
    · next haccept =>
      refine wlp_ite (fun _ => (wlp_failure _ _).2 trivial) fun _ => ?_
      split
      · exact (wlp_pure _ _ _).2 (hpolicy _)
      · next c hc =>
        simp only [nextSessionID, newProtoDisplay, timeoutProtoDisplays, wlp_bind, wlp_get,
          wlp_set, wlp_pure, wlp_modify]
        refine wlp_ite (fun _ => ?_) fun halloc => ?_
        · simp only [wlp_bind, wlp_get, wlp_set, wlp_pure]
          exact hnew _ ⟨⟨family, addr, hconvert, haccept, c, hc, rfl, rfl⟩, rfl, rfl, rfl, rfl,
            rfl, rfl, rfl⟩
        · simp only [wlp_pure]
          exact hmemory (by simpa using halloc)

/-- The authorization that `request_respond` gives to the proto-display `pdpy`, and the
one that it puts into the packet. -/
structure Granted (w : World) (cfg : Config) (r : Request) (pdpy pdpy' : ProtoDisplay)
    (auth : Option Xauth) : Prop where
  granted : ∃ j pdpy₁ data, authorizationIndex cfg r = some j ∧
    checkAuthentication w cfg pdpy r.manufacturerDisplayID r.authenticationName
      r.authenticationData = (true, pdpy₁, data) ∧
    grantAuthorization w cfg pdpy₁ r j = some (pdpy', auth)

lemma checkAuthentication_same {cfg : Config} {pdpy pdpy' : ProtoDisplay}
    {displayID name data data' : ARRAY8} {valid : Bool}
    (h : checkAuthentication w cfg pdpy displayID name data = (valid, pdpy', data')) :
    pdpy.SameSession pdpy' ∧ pdpy'.fileAuthorization = pdpy.fileAuthorization ∧
      pdpy'.xdmcpAuthorization = pdpy.xdmcpAuthorization := by
  have hrefl := ProtoDisplay.SameSession.refl pdpy
  unfold checkAuthentication xdmCheckAuthentication at h
  split at h
  · split at h
    · obtain ⟨-, rfl, -⟩ := h
      exact ⟨hrefl, rfl, rfl⟩
    · simp only at h
      split at h <;> obtain ⟨-, rfl, -⟩ := h <;>
        exact ⟨⟨rfl, rfl, rfl, rfl, rfl, rfl⟩, rfl, rfl⟩
  · obtain ⟨-, rfl, -⟩ := h
    exact ⟨hrefl, rfl, rfl⟩

/-- What `SetProtoDisplayAuthorization` leaves alone. -/
structure ProtoDisplay.Reauthorized (p p' : ProtoDisplay) : Prop where
  same : p.SameSession p'
  key : p'.key = p.key
  authenticationData : p'.authenticationData = p.authenticationData

lemma setProtoDisplayAuthorization_reauthorized {cfg : Config} {pdpy pdpy' : ProtoDisplay}
    {name : ARRAY8} (h : setProtoDisplayAuthorization w cfg pdpy name = some pdpy') :
    pdpy.Reauthorized pdpy' := by
  unfold setProtoDisplayAuthorization xdmGetXdmcpAuth at h
  dsimp only at h
  split at h
  · obtain rfl := Option.some.inj h
    exact ⟨⟨rfl, rfl, rfl, rfl, rfl, rfl⟩, rfl, rfl⟩
  · rw [if_neg (by simp)] at h
    split at h
    · obtain rfl := Option.some.inj h
      exact ⟨⟨rfl, rfl, rfl, rfl, rfl, rfl⟩, rfl, rfl⟩
    · split_ifs at h
      obtain rfl := Option.some.inj h
      exact ⟨⟨rfl, rfl, rfl, rfl, rfl, rfl⟩, rfl, rfl⟩
  · obtain rfl := Option.some.inj h
    exact ⟨⟨rfl, rfl, rfl, rfl, rfl, rfl⟩, rfl, rfl⟩

lemma Granted.same {cfg : Config} {r : Request} {pdpy pdpy' : ProtoDisplay}
    {auth : Option Xauth} (h : Granted w cfg r pdpy pdpy' auth) : pdpy.SameSession pdpy' := by
  obtain ⟨j, pdpy₁, data, -, hcheck, hgrant⟩ := h.granted
  refine (checkAuthentication_same hcheck).1.trans ?_
  unfold grantAuthorization at hgrant
  split at hgrant
  · obtain ⟨rfl, -⟩ := Prod.mk.inj (Option.some.inj hgrant)
    exact ProtoDisplay.SameSession.refl _
  · obtain ⟨pdpy₂, hset, heq⟩ := Option.map_eq_some_iff.1 hgrant
    obtain ⟨rfl, -⟩ := Prod.mk.inj heq
    exact (setProtoDisplayAuthorization_reauthorized hset).same

/-- The proto-display that a `REQUEST` is about, and the state in which it is authorized. -/
inductive Pending (w : World) (sender : Netaddr) (r : Request) (s : State) :
    ProtoDisplay → State → Prop
  | known {pdpy : ProtoDisplay} :
      findProtoDisplay sender r.displayNumber s.protoDisplays = some pdpy →
      Pending w sender r s pdpy s
  | new {pdpy : ProtoDisplay} :
      findProtoDisplay sender r.displayNumber s.protoDisplays = none →
      Issued w sender r s pdpy → Pending w sender r s pdpy (s.issue w pdpy)

/-- The state after a packet has been sent. -/
def State.sent (s : State) (dest : SockAddr) (m : Message) : State :=
  { s with out := s.out ++ [.send dest m] }

/-- The state without the proto-display at `a`. -/
def State.dispose (s : State) (a : Nat) : State :=
  { s with protoDisplays := Keyed.erase ProtoDisplay.addr a s.protoDisplays }

/-- The state in which the proto-display with the address of `pdpy` has become `pdpy`. -/
def State.authorize (s : State) (pdpy : ProtoDisplay) : State :=
  { s with protoDisplays :=
      Keyed.modify ProtoDisplay.addr pdpy.addr (fun _ => pdpy) s.protoDisplays }

/-- The `ACCEPT` for a proto-display. -/
def acceptMessage (r : Request) (pdpy : ProtoDisplay) (data : ARRAY8) (auth : Option Xauth) :
    Message :=
  .accept pdpy.sessionID r.authenticationName data ((auth.map Xauth.name).getD [])
    ((auth.map Xauth.data).getD [])

/-- There is an authorization for the client, and it has authenticated itself. -/
def Entitled (w : World) (cfg : Config) (r : Request) (pdpy : ProtoDisplay) : Prop :=
  (authorizationIndex cfg r).isSome = true ∧
    (checkAuthentication w cfg pdpy r.manufacturerDisplayID r.authenticationName
      r.authenticationData).1 = true

lemma wlp_authorizeRequest {r : Request} {pdpy : ProtoDisplay} {Q : Unit → State → Prop}
    (hdecline : ¬ Entitled w s.config r pdpy → ∀ status data,
      Q () ((s.dispose pdpy.addr).sent sender.sa (.decline status r.authenticationName data)))
    (haccept : ∀ pdpy' auth data, Granted w s.config r pdpy pdpy' auth →
      Q () ((s.authorize pdpy').sent sender.sa (acceptMessage r pdpy' data auth))) :
    Wlp (authorizeRequest w sender r pdpy) Q s := by
  unfold authorizeRequest
  simp only [wlp_bind, wlp_get]
  split
  · next hnone =>
    simp only [sendDecline, emit, disposeProtoDisplay, wlp_bind, wlp_modify]
    exact hdecline (fun h => by simpa [hnone] using h.1) _ _
  · next j hj =>
    split
    · next hcheck =>
      simp only [sendDecline, emit, disposeProtoDisplay, wlp_bind, wlp_modify]
      exact hdecline (fun h => by simpa [hcheck] using h.2) _ _
    · next pdpy₁ data hcheck =>
      split
      · exact (wlp_failure _ _).2 trivial
      · next pdpy' auth hgrant =>
        simp only [sendAccept, emit, writeProtoDisplay, wlp_bind, wlp_modify]
        exact haccept _ _ data ⟨j, pdpy₁, data, hj, hcheck, hgrant⟩

/-- The state after a `REQUEST` that has been answered. -/
inductive Answered (w : World) (sender : Netaddr) (r : Request) (s : State) : State → Prop
  /-- The policy is against the client. -/
  | refused (status data : ARRAY8) :
      findProtoDisplay sender r.displayNumber s.protoDisplays = none → Answered w sender r s
        (s.sent sender.sa (.decline status r.authenticationName data))
  | outOfMemory (status data : ARRAY8) :
      findProtoDisplay sender r.displayNumber s.protoDisplays = none →
      w.alloc.newProtoDisplay = false → Answered w sender r s
        ((s.timeout w).sent sender.sa (.decline status r.authenticationName data))
  /-- There is no authorization, or the client cannot authenticate itself. -/
  | declined {pdpy : ProtoDisplay} {t : State} (status data : ARRAY8) :
      Pending w sender r s pdpy t → ¬ Entitled w s.config r pdpy → Answered w sender r s
        ((t.dispose pdpy.addr).sent sender.sa (.decline status r.authenticationName data))
  | accepted {pdpy pdpy' : ProtoDisplay} {t : State} {auth : Option Xauth} (data : ARRAY8) :
      Pending w sender r s pdpy t → Granted w s.config r pdpy pdpy' auth →
      Answered w sender r s
        ((t.authorize pdpy').sent sender.sa (acceptMessage r pdpy' data auth))

theorem wlp_answerRequest {r : Request} :
    Wlp (answerRequest w sender r) (fun _ => Answered w sender r s) s := by
  unfold answerRequest
  simp only [wlp_bind, wlp_get]
  split
  · next pdpy hpdpy =>
    have hp : Pending w sender r s pdpy s := .known hpdpy
    exact wlp_authorizeRequest (fun hno status data => .declined status data hp hno)
      fun pdpy' auth data hgrant => .accepted data hp hgrant
  · next hnone =>
    rw [wlp_bind]
    refine wlp_newSession (fun reason => ?_) (fun halloc => ?_) fun pdpy hissued => ?_
    · simp only [sendDecline, emit, wlp_modify]
      exact .refused _ _ hnone
    · simp only [sendDecline, emit, wlp_modify]
      exact .outOfMemory _ _ hnone halloc
    · have hp : Pending w sender r s pdpy (s.issue w pdpy) := .new hnone hissued
      exact wlp_authorizeRequest (fun hno status data => .declined status data hp hno)
        fun pdpy' auth data hgrant => .accepted data hp hgrant

/-- A `REQUEST` changes no display and no process. -/
structure Undisturbed (s s' : State) : Prop where
  config : s'.config = s.config
  database : s'.database = s.database
  displays : s'.displays = s.displays
  kernel : s'.kernel = s.kernel
  nextAddr : s.nextAddr ≤ s'.nextAddr
  freed : s'.freed = s.freed
  out : ∃ es, s'.out = s.out ++ es ∧ ∀ e ∈ es, ∃ dest message, e = .send dest message

/-- A packet may be sent, whatever becomes of the proto-displays and their session IDs. -/
lemma Undisturbed.sent {t : State} (h : Undisturbed s t) (protoDisplays : List ProtoDisplay)
    (globalSessionID : Nat) (dest : SockAddr) (message : Message) :
    Undisturbed s (State.sent { t with protoDisplays, globalSessionID } dest message) := by
  obtain ⟨es, hout, hes⟩ := h.out
  refine ⟨h.config, h.database, h.displays, h.kernel, h.nextAddr, h.freed,
    es ++ [.send dest message], ?_, fun e he => ?_⟩
  · rw [State.sent, hout, List.append_assoc]
  · rcases List.mem_append.1 he with he | he
    · exact hes e he
    · exact ⟨dest, message, List.mem_singleton.1 he⟩

lemma Undisturbed.refl (s : State) : Undisturbed s s :=
  ⟨rfl, rfl, rfl, rfl, Nat.le_refl _, rfl, [], (List.append_nil _).symm, by simp⟩

namespace Pending

variable {r : Request} {pdpy : ProtoDisplay} {t : State}

lemma undisturbed (h : Pending w sender r s pdpy t) : Undisturbed s t := by
  cases h with
  | known => exact .refl s
  | new => exact ⟨rfl, rfl, rfl, rfl, Nat.le_succ _, rfl, [], (List.append_nil _).symm, by simp⟩

lemma globalSessionID (h : Pending w sender r s pdpy t) :
    s.globalSessionID ≤ t.globalSessionID := by
  cases h with
  | known => exact Nat.le_refl _
  | new => exact Nat.le_succ _

/-- What is in the list besides the pending proto-display has been there before. -/
lemma old (h : Pending w sender r s pdpy t) {p : ProtoDisplay} (hp : p ∈ t.protoDisplays)
    (hne : p.addr ≠ pdpy.addr) : p ∈ s.protoDisplays := by
  cases h with
  | known => exact hp
  | new =>
    rcases List.mem_cons.1 hp with rfl | hp
    · exact absurd rfl hne
    · exact (List.mem_filter.1 hp).1

end Pending

lemma Answered.undisturbed {r : Request} {s' : State} (h : Answered w sender r s s') :
    Undisturbed s s' := by
  cases h with
  | refused => exact (Undisturbed.refl s).sent _ _ _ _
  | outOfMemory => exact (Undisturbed.refl s).sent _ _ _ _
  | declined _ _ hp _ => exact hp.undisturbed.sent _ _ _ _
  | accepted _ hp _ => exact hp.undisturbed.sent _ _ _ _

/-- A proto-display after a `REQUEST` was there before, or it is the one of a new session
and the `ACCEPT` for it has been sent. -/
lemma Answered.session {r : Request} {s' : State} (h : Answered w sender r s s') :
    ∀ p' ∈ s'.protoDisplays, (∃ p ∈ s.protoDisplays, p.SameSession p') ∨
      s'.globalSessionID = s.globalSessionID + 1 ∧
      ∃ pdpy, Issued w sender r s pdpy ∧ pdpy.SameSession p' ∧ ∃ an ad zn zd,
        Event.send sender.sa (.accept p'.sessionID an ad zn zd) ∈ s'.out := by
  have hrefl : ∀ p ∈ s.protoDisplays, ∃ p₀ ∈ s.protoDisplays, p₀.SameSession p :=
    fun p hp => ⟨p, hp, ProtoDisplay.SameSession.refl p⟩
  intro p' hp'
  cases h with
  | refused => exact Or.inl (hrefl p' hp')
  | outOfMemory => exact Or.inl (hrefl p' (List.mem_filter.1 hp').1)
  | declined _ _ hp _ =>
    obtain ⟨hmem, hne⟩ := Keyed.mem_erase.1 hp'
    exact Or.inl (hrefl p' (hp.old hmem hne))
  | @accepted pdpy pdpy' _ auth data hp hgrant =>
    rcases Keyed.mem_modify.1 hp' with ⟨x, hx, hxa, rfl⟩ | ⟨hmem, hne⟩
    · cases hp with
      | known hfind => exact Or.inl ⟨pdpy, (findProtoDisplay_some hfind).1, hgrant.same⟩
      | new _ hissued =>
        refine Or.inr ⟨rfl, pdpy, hissued, hgrant.same, r.authenticationName, data,
          (auth.map Xauth.name).getD [], (auth.map Xauth.data).getD [], ?_⟩
        exact List.mem_append_right _ (List.mem_singleton.2 rfl)
    · rw [hgrant.same.addr] at hne
      exact Or.inl (hrefl p' (hp.old hmem hne))

lemma Answered.globalSessionID {r : Request} {s' : State} (h : Answered w sender r s s') :
    s.globalSessionID ≤ s'.globalSessionID := by
  cases h with
  | refused => exact Nat.le_refl _
  | outOfMemory => exact Nat.le_succ _
  | declined _ _ hp _ => exact hp.globalSessionID
  | accepted _ hp _ => exact hp.globalSessionID

/-- The proto-displays have addresses of their own. -/
structure State.ProtoSound (s : State) : Prop where
  distinct : Keyed.Distinct ProtoDisplay.addr s.protoDisplays
  bound : ∀ p ∈ s.protoDisplays, p.addr < s.nextAddr

lemma Pending.protoSound {r : Request} {pdpy : ProtoDisplay} {t : State}
    (h : Pending w sender r s pdpy t) (hs : s.ProtoSound) : t.ProtoSound := by
  cases h with
  | known => exact hs
  | new _ hissued =>
    refine ⟨Keyed.Distinct.cons (List.Nodup.sublist (List.filter_sublist.map _) hs.distinct)
      fun p hp => ?_, fun p hp => ?_⟩
    · have := hs.bound p (List.mem_filter.1 hp).1
      rw [hissued.addr]
      omega
    · change p.addr < s.nextAddr + 1
      rcases List.mem_cons.1 hp with rfl | hp
      · rw [hissued.addr]
        omega
      · have := hs.bound p (List.mem_filter.1 hp).1
        omega

lemma Answered.protoSound {r : Request} {s' : State} (h : Answered w sender r s s')
    (hs : s.ProtoSound) : s'.ProtoSound := by
  cases h with
  | refused => exact ⟨hs.distinct, hs.bound⟩
  | outOfMemory =>
    exact ⟨List.Nodup.sublist (List.filter_sublist.map _) hs.distinct,
      fun p hp => hs.bound p (List.mem_filter.1 hp).1⟩
  | declined _ _ hp _ =>
    have ht := hp.protoSound hs
    exact ⟨ht.distinct.erase, fun p hp => ht.bound p (Keyed.mem_erase.1 hp).1⟩
  | @accepted pdpy pdpy' t _ _ hp hgrant =>
    have ht := hp.protoSound hs
    refine ⟨?_, fun p hp => ?_⟩
    · have : (t.authorize pdpy').protoDisplays.map ProtoDisplay.addr =
          t.protoDisplays.map ProtoDisplay.addr :=
        Keyed.map_modify fun p _ hp => hp.symm
      change ((t.authorize pdpy').protoDisplays.map ProtoDisplay.addr).Nodup
      rw [this]
      exact ht.distinct
    · rcases Keyed.mem_modify.1 hp with ⟨x, hx, hxa, rfl⟩ | ⟨hp, -⟩
      · exact hxa ▸ ht.bound x hx
      · exact ht.bound p hp

/-! ### `MANAGE` -/

/-- The display `d` is the one that `manage` makes of the proto-display `pdpy`. -/
structure Display.Serves (sender : Netaddr) (pdpy : ProtoDisplay) (auths : List Xauth)
    (d : Display) : Prop where
  sessionID : d.sessionID = pdpy.sessionID
  fromAddr : d.fromAddr = sender
  displayNumber : d.displayNumber = pdpy.displayNumber
  authorizations : d.authorizations = auths

/-- From `s` to `s'` a display at `a` has been made of the proto-display `pdpy`; the other
XDMCP sessions are old ones. -/
structure Started (sender : Netaddr) (pdpy : ProtoDisplay) (auths : List Xauth) (a : Nat)
    (s s' : State) : Prop extends Later s s' where
  fresh : s.nextAddr ≤ a
  bound : a < s'.nextAddr
  globalSessionID : s'.globalSessionID = s.globalSessionID
  session : ∀ d' ∈ s'.displays, d'.displayType.origin = .fromXDMCP →
    (∃ d ∈ s.displays, d.Successor d') ∨ d'.addr = a ∧ d'.Serves sender pdpy auths
  out : ∃ es, s'.out = s.out ++ es ∧ ∀ e ∈ es, e.isQuiet = true

lemma Started.quiet {pdpy : ProtoDisplay} {auths : List Xauth} {a : Nat} {s' : State}
    (h : Started sender pdpy auths a s₀ s) (h' : Quiet s s') :
    Started sender pdpy auths a s₀ s' where
  toLater := h.toLater.trans h'.toLater
  fresh := h.fresh
  bound := Nat.lt_of_lt_of_le h.bound h'.nextAddr
  globalSessionID := h'.globalSessionID.trans h.globalSessionID
  session := by
    intro d'' hd'' ho
    obtain ⟨d', hd', hs'⟩ := h'.session d'' hd'' ho
    have hsame := hs'.session ho
    rcases h.session d' hd' hsame.origin with ⟨d, hd, hs⟩ | ⟨ha, hserves⟩
    · exact Or.inl ⟨d, hd, hs.trans hs'⟩
    · exact Or.inr ⟨hs'.addr.trans ha, hsame.sessionID.trans hserves.sessionID,
        hsame.fromAddr.trans hserves.fromAddr,
        hsame.displayNumber.trans hserves.displayNumber,
        hsame.authorizations.trans hserves.authorizations⟩
  out := by
    obtain ⟨es, hes, hq⟩ := h.out
    obtain ⟨es', hes', hq'⟩ := h'.out
    refine ⟨es ++ es', by rw [hes', hes, List.append_assoc], fun e he => ?_⟩
    exact (List.mem_append.1 he).elim (hq e) (hq' e)

/-- A state that has one display more, which serves `pdpy`. -/
lemma Started.of_cons {pdpy : ProtoDisplay} {auths : List Xauth} {t : State} {d : Display}
    (h : Quiet s₀ s) (hd : t.displays = d :: s.displays) (hn : t.nextAddr = s.nextAddr + 1)
    (hg : t.globalSessionID = s.globalSessionID) (ho : t.out = s.out)
    (haddr : d.addr = s.nextAddr) (hserves : d.Serves sender pdpy auths) :
    Started sender pdpy auths s.nextAddr s₀ t where
  nextAddr := by have := h.nextAddr; omega
  old := by
    intro x hx hlt
    have := h.nextAddr
    rcases List.mem_cons.1 (hd ▸ hx) with rfl | hx
    · omega
    · exact h.old x hx hlt
  fresh := h.nextAddr
  bound := by omega
  globalSessionID := hg.trans h.globalSessionID
  session := by
    intro x hx hox
    rcases List.mem_cons.1 (hd ▸ hx) with rfl | hx
    · exact Or.inr ⟨haddr, hserves⟩
    · exact Or.inl (h.session x hx hox)
  out := ho ▸ h.out

lemma keeps_terminateActive (name : Str) :
    Keeps (State.Sound [] none) Quiet (terminateActive name) := by
  refine Keeps.bind Keeps.get fun s => ?_
  split
  · exact keeps_stopDisplay _
  · exact Keeps.pure _

/-- A store into a new display in front of the list. -/
lemma State.Sound.write_cons {t v : State} {x : Display} (ht : t.Sound dead none)
    (hv : v.displays = x :: t.displays) (hx : x.addr = t.nextAddr) (f : Display → Display) :
    (v.write t.nextAddr f).displays = f x :: t.displays := by
  have hl : ∀ y ∈ t.displays, y.addr ≠ t.nextAddr := fun y hy => by
    have := ht.bound y hy
    omega
  simp only [State.write, hv]
  change (if x.addr = t.nextAddr then f x else x) :: Keyed.modify _ _ f t.displays = _
  rw [if_pos hx, Keyed.modify_of_absent hl]

/-- The state `v` is `t` with the new display `x` in front of its list. -/
structure Opened (t : State) (x : Display) (v : State) : Prop where
  displays : v.displays = x :: t.displays
  addr : x.addr = t.nextAddr
  nextAddr : v.nextAddr = t.nextAddr + 1
  protoDisplays : v.protoDisplays = t.protoDisplays
  globalSessionID : v.globalSessionID = t.globalSessionID
  kernel : v.kernel = t.kernel
  out : v.out = t.out

namespace Opened

variable {t v : State} {x : Display}

lemma wlp_newDisplay {name : Str} {className : Option Str} {Q : Nat → State → Prop}
    (h : ∀ v, Opened t (newDisplayAt t.nextAddr name className) v → Q t.nextAddr v) :
    Wlp (newDisplay name className) Q t := by
  unfold newDisplay
  simp only [wlp_bind, wlp_get, wlp_set, wlp_pure]
  exact h _ ⟨rfl, rfl, rfl, rfl, rfl, rfl, rfl⟩

lemma wlp_write {f : Display → Display} {Q : Unit → State → Prop} (hv : Opened t x v)
    (ht : t.Sound [] none) (hf : (f x).addr = x.addr) (h : ∀ v', Opened t (f x) v' → Q () v') :
    Wlp (writeDisplay t.nextAddr f) Q v := by
  refine wlp_writeDisplay ?_ fun hnone => absurd hv.addr (hnone x (by simp [hv.displays]))
  exact h _ ⟨ht.write_cons hv.displays hv.addr f, hf.trans hv.addr, hv.nextAddr,
    hv.protoDisplays, hv.globalSessionID, hv.kernel, hv.out⟩

lemma wlp_chooserFor {addr : ARRAY8} {type : CARD16} {Q : Bool → State → Prop}
    (hv : Opened t x v) (h : ∀ b v', Opened t x v' → Q b v') :
    Wlp (chooserFor w addr type) Q v := by
  obtain ⟨h₁, h₂, h₃, h₄, h₅, h₆, h₇⟩ := hv
  unfold chooserFor
  simp only [wlp_bind, wlp_get]
  refine wlp_ite (fun _ => ?_) fun _ =>
    (wlp_pure _ _ _).2 (h false v ⟨h₁, h₂, h₃, h₄, h₅, h₆, h₇⟩)
  simp only [forgetIndirectClient, wlp_bind, wlp_modify]
  refine wlp_choiceFor fun choice cs => ?_
  simp only [wlp_get, wlp_pure]
  exact h _ _ ⟨h₁, h₂, h₃, h₄, h₅, h₆, h₇⟩

lemma sound (hv : Opened t x v) (ht : t.Sound [] none) (hok : x.Ok)
    (hproc : ∀ r, x.proc r = -1) : v.Sound [] none :=
  (ht.cons hv.addr hok hproc).congr hv.displays (by rw [hv.kernel]) (Nat.le_of_eq hv.nextAddr.symm)

end Opened

/-- The state after a `MANAGE` with the right session ID: without a session, with one, or
with a display that has been freed and is still in the list. -/
inductive Managed (w : World) (sender : Netaddr) (pdpy : ProtoDisplay) (s s' : State) : Prop
  | failed : Quiet s s' → s'.out ≠ s.out → Managed w sender pdpy s s'
  | started (a : Nat) : Started sender pdpy pdpy.fileAuthorization.toList a s s' →
      s'.protoDisplays = Keyed.erase ProtoDisplay.addr pdpy.addr s.protoDisplays →
      Managed w sender pdpy s s'
  | leaked (a : Nat) : w.alloc.authorizations = false → Started sender pdpy [] a s s' →
      s'.protoDisplays = s.protoDisplays → s'.dangling = true → Managed w sender pdpy s s'

/-- What `manage` does with the new display and the proto-display at the end. -/
lemma wlp_finishManaged (m : Manage) (name : Str) {pdpy : ProtoDisplay} {x : Display}
    {t v : State} (hq : Quiet s t) (ht : t.Sound [] none) (hv : Opened t x v)
    (hserves : x.Serves sender pdpy []) (hidle : x.status = .notRunning)
    (hproc : ∀ r, x.proc r = -1) :
    Wlp (do
      if ← installAuthorization w sender m.sessionID name t.nextAddr pdpy then
        disposeProtoDisplay pdpy.addr
        startDisplay w t.nextAddr)
      (fun _ s' => s'.Sound [] none ∧ Managed w sender pdpy s s') v := by
  have hok : x.Ok := ⟨by simp [hidle], by simp [hidle], by simp [hidle]⟩
  -- the display is complete: dispose of the proto-display and start it
  have hgo : ∀ y u, Opened t y u → y.Serves sender pdpy pdpy.fileAuthorization.toList →
      y.status = .notRunning → (∀ r, y.proc r = -1) →
      Wlp (do
        disposeProtoDisplay pdpy.addr
        startDisplay w t.nextAddr)
        (fun _ s' => s'.Sound [] none ∧ Managed w sender pdpy s s') u := by
    intro y u hu hy hyidle hyproc
    have hyok : y.Ok := ⟨by simp [hyidle], by simp [hyidle], by simp [hyidle]⟩
    have husound := hu.sound ht hyok hyproc
    simp only [disposeProtoDisplay, wlp_bind, wlp_modify]
    have hdsound : (u.dispose pdpy.addr).Sound [] none :=
      husound.congr rfl rfl (Nat.le_refl _)
    have hdstarted : Started sender pdpy pdpy.fileAuthorization.toList t.nextAddr s
        (u.dispose pdpy.addr) :=
      Started.of_cons hq hu.displays hu.nextAddr hu.globalSessionID hu.out hu.addr hy
    have hwhere : (u.dispose pdpy.addr).Where t.nextAddr fun d => d.status = .notRunning :=
      hdsound.where_of_mem (d := y) (by simp [State.dispose, hu.displays]) hu.addr hyidle
    refine (wlp_startDisplay w hdsound (Quiet.refl _) hwhere).mono fun _ s' hs' => ?_
    have hq' : Quiet (u.dispose pdpy.addr) s' := hs'.2
    refine ⟨hs'.1, .started _ (hdstarted.quiet hq') (hq'.protoDisplays.trans ?_)⟩
    change Keyed.erase _ _ u.protoDisplays = _
    rw [hu.protoDisplays, hq.protoDisplays]
  rw [wlp_bind]
  unfold installAuthorization
  split
  · next hnone =>
    rw [wlp_pure, if_pos rfl]
    rw [hnone] at hgo
    exact hgo x v hv hserves hidle hproc
  · next auth hauth =>
    refine wlp_ite (fun _ => ?_) fun halloc => ?_
    · rw [wlp_bind]
      refine hv.wlp_write ht rfl fun v' hv' => ?_
      rw [wlp_pure, if_pos rfl]
      rw [hauth] at hgo
      refine hgo _ v' hv' ⟨hserves.sessionID, hserves.fromAddr, hserves.displayNumber, rfl⟩
        hidle fun r => ?_
      cases r
      · exact hproc .session
      · exact hproc .server
    · simp only [wlp_bind, wlp_modify, sendFailedTo, emit, wlp_pure, Bool.false_eq_true, if_false]
      set u : State := { v with
        freed := t.nextAddr :: v.freed
        out := v.out ++ [.send sender.sa (.failed m.sessionID
          (failedStatus name m.sessionID "out of memory".toList))] } with hu
      have hvstarted : Started sender pdpy [] t.nextAddr s v :=
        Started.of_cons hq hv.displays hv.nextAddr hv.globalSessionID hv.out hv.addr hserves
      have hquiet : Quiet v u := Quiet.of_eq rfl rfl rfl rfl ⟨_, rfl, by simp [Event.isQuiet]⟩
      refine ⟨(hv.sound ht hok hproc).congr rfl rfl (Nat.le_refl _), .leaked t.nextAddr
        (by simpa using halloc) (hvstarted.quiet hquiet)
        (hv.protoDisplays.trans hq.protoDisplays) ?_⟩
      simp [State.dangling, hu, hv.displays, hv.addr]

theorem wlp_startManaged {m : Manage} {pdpy : ProtoDisplay} (hs : s.Sound [] none) :
    Wlp (startManaged w fd sender m pdpy)
      (fun _ s' => s'.Sound [] none ∧ Managed w sender pdpy s s') s := by
  unfold startManaged
  simp only [wlp_bind, wlp_get]
  split
  · simp only [sendFailedTo, emit, wlp_modify]
    exact ⟨hs.emit _, .failed (Quiet.emit s rfl) (by simp)⟩
  next name _ =>
  rw [wlp_bind]
  refine (keeps_terminateActive name s hs).mono fun _ t h => ?_
  obtain ⟨ht, hq⟩ := h
  refine wlp_ite (fun _ => ?_) fun _ => ?_
  swap
  · simp only [sendFailedTo, emit, wlp_modify]
    obtain ⟨es, hes, -⟩ := hq.out
    exact ⟨ht.emit _, .failed (hq.trans (Quiet.emit t rfl)) (by simp [hes])⟩
  rw [wlp_bind]
  refine Opened.wlp_newDisplay fun v₁ hv₁ => ?_
  simp only [wlp_bind]
  refine hv₁.wlp_write ht rfl fun v₂ hv₂ => hv₂.wlp_chooserFor fun chooser v₃ hv₃ =>
    hv₃.wlp_write ht rfl fun v₄ hv₄ => ?_
  have hfinish := wlp_finishManaged (w := w) m name hq ht hv₄ ⟨rfl, rfl, rfl, rfl⟩ rfl
    (by rintro (_ | _) <;> rfl)
  rwa [wlp_bind] at hfinish

/-- Such a packet always leaves a trace. -/
lemma Managed.ne {pdpy : ProtoDisplay} {s' : State} (h : Managed w sender pdpy s s') :
    s' ≠ s := by
  have hne : ∀ {auths a}, Started sender pdpy auths a s s' → s' ≠ s := by
    rintro auths a hst rfl
    have := hst.fresh
    have := hst.bound
    omega
  cases h with
  | failed _ hout => exact fun heq => hout (by rw [heq])
  | started _ hst _ => exact hne hst
  | leaked _ _ hst _ _ => exact hne hst

/-- The state after a `MANAGE` that has been dealt with. -/
inductive Dealt (w : World) (sender : Netaddr) (m : Manage) (s s' : State) : Prop
  /-- The session ID is not the one of the client's proto-display. -/
  | stale (pdpy : ProtoDisplay) :
      findProtoDisplay sender m.displayNumber s.protoDisplays = some pdpy →
      pdpy.sessionID ≠ m.sessionID → s' = s.sent sender.sa (.refuse m.sessionID) →
      Dealt w sender m s s'
  /-- The client has no proto-display, and the first of its displays another session. -/
  | unknown : findProtoDisplay sender m.displayNumber s.protoDisplays = none →
      (∀ d, findDisplayByAddress sender m.displayNumber s.displays = some d →
        d.sessionID ≠ m.sessionID) → s' = s.sent sender.sa (.refuse m.sessionID) →
      Dealt w sender m s s'
  /-- It is a duplicate of the one that started the client's session. -/
  | ignored (d : Display) : findProtoDisplay sender m.displayNumber s.protoDisplays = none →
      findDisplayByAddress sender m.displayNumber s.displays = some d →
      d.sessionID = m.sessionID → s' = s → Dealt w sender m s s'
  | managed (pdpy : ProtoDisplay) :
      findProtoDisplay sender m.displayNumber s.protoDisplays = some pdpy →
      pdpy.sessionID = m.sessionID → Managed w sender pdpy s s' → Dealt w sender m s s'

theorem wlp_answerManage {m : Manage} (hs : s.Sound [] none) :
    Wlp (answerManage w fd sender m)
      (fun _ s' => s'.Sound [] none ∧ Dealt w sender m s s') s := by
  unfold answerManage
  simp only [wlp_bind, wlp_get]
  split
  · next pdpy hpdpy =>
    refine wlp_ite (fun hid => ?_) fun hid => ?_
    · exact (wlp_startManaged hs).mono fun _ s' h => ⟨h.1, .managed pdpy hpdpy hid h.2⟩
    · simp only [sendRefuse, emit, wlp_modify]
      exact ⟨hs.emit _, .stale pdpy hpdpy hid rfl⟩
  · next hnone =>
    split
    · next d hd =>
      refine wlp_ite (fun hid => (wlp_pure _ _ _).2 ⟨hs, .ignored d hnone hd hid rfl⟩)
        fun hid => ?_
      simp only [sendRefuse, emit, wlp_modify]
      exact ⟨hs.emit _, .unknown hnone (fun d' hd' => by simp_all) rfl⟩
    · next hd =>
      simp only [sendRefuse, emit, wlp_modify]
      exact ⟨hs.emit _, .unknown hnone (by simp [hd]) rfl⟩

end Xdm
