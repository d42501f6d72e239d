/-
# XDM-AUTHORIZATION-1 and XDM-AUTHENTICATION-1

An `XDM-AUTHORIZATION-1` authorization is made of the eight bytes of authentication data that
`XdmCheckAuthentication` has left in the proto-display.  Whether that function runs depends on
the authentication name of the `REQUEST` alone, and which authorization is chosen on the list
of authorization names as well.  `xdm_authorized_iff` says when the bytes are there; where
they are not, the copy reads through a null pointer.
-/
import Xdm.ProtoDisplays

namespace Xdm

open Prog

variable {config : Config} {g : Nat} {h : List (Step State Input)} {s s' t : State} {i : Input}
variable {w : World} {cfg : Config} {sender : Netaddr} {r : Request} {p pdpy : ProtoDisplay}
variable {auth : Option Xauth}

/-! ### One `REQUEST` -/

/-- The protocol of the authorization that `request_respond` chooses. -/
def chosenProtocol (cfg : Config) (r : Request) : Option AuthProtocol :=
  ((authorizationIndex cfg r).bind fun j => r.authorizationNames[j]?).bind (findProtocol cfg)

/-- `CheckAuthentication` goes on to `XdmCheckAuthentication`. -/
def namesAuthentication (cfg : Config) (r : Request) : Bool :=
  cfg.hasXdmAuth ∧ xdmAuthentication1 <+: r.authenticationName

/-- The proto-display has the key and the authentication data of a `REQUEST` that has passed
`XdmCheckAuthentication`. -/
structure Passed (w : World) (r : Request) (p : ProtoDisplay) : Prop where
  key : w.xdmGetKey r.manufacturerDisplayID = some p.key
  length : r.authenticationData.length = 8
  authenticationData : p.authenticationData = w.xdmcpUnwrap r.authenticationData p.key

lemma checkAuthentication_true {data : ARRAY8}
    (hcheck : checkAuthentication w cfg pdpy r.manufacturerDisplayID r.authenticationName
      r.authenticationData = (true, p, data)) :
    if namesAuthentication cfg r = true then Passed w r p else p = pdpy := by
  unfold checkAuthentication xdmCheckAuthentication at hcheck
  unfold namesAuthentication
  simp only [decide_eq_true_eq]
  by_cases hname : cfg.hasXdmAuth = true ∧ xdmAuthentication1 <+: r.authenticationName
  · rw [if_pos hname] at hcheck ⊢
    split at hcheck
    · cases hcheck
    · next key hkey =>
      dsimp only at hcheck
      split_ifs at hcheck with hlen
      · cases hcheck
      · obtain ⟨-, rfl, -⟩ := hcheck
        exact ⟨hkey, by simpa using hlen, rfl⟩
  · rw [if_neg hname] at hcheck ⊢
    exact (Prod.mk.inj (Prod.mk.inj hcheck).2).1.symm

/-- No other protocol has an authorization of its own for the packet, and this one has only
if there are eight bytes to copy. -/
lemma setProtoDisplayAuthorization_xdm {name : ARRAY8}
    (hset : setProtoDisplayAuthorization w cfg pdpy name = some p)
    (hx : p.xdmcpAuthorization.isSome = true) :
    findProtocol cfg name = some .xdmAuthorization1 ∧ 8 ≤ p.authenticationData.length := by
  unfold setProtoDisplayAuthorization xdmGetXdmcpAuth at hset
  dsimp only at hset
  split at hset
  · obtain rfl := Option.some.inj hset
    cases hx
  · next hprotocol =>
    rw [if_neg (by simp)] at hset
    split at hset
    · obtain rfl := Option.some.inj hset
      cases hx
    · obtain ⟨hlen, heq⟩ := Option.ite_none_left_eq_some.1 hset
      obtain rfl := Option.some.inj heq
      exact ⟨hprotocol, Nat.not_lt.1 hlen⟩
  · obtain rfl := Option.some.inj hset
    cases hx

/-- `XdmGetXdmcpAuth` with random bytes and nothing to keep. -/
lemma setProtoDisplayAuthorization_copies (pdpy : ProtoDisplay) {name : ARRAY8}
    (hprotocol : findProtocol cfg name = some .xdmAuthorization1)
    (hrandom : (w.generateAuthData 8).isSome = true) :
    ∃ p, p.xdmcpAuthorization.isSome = true ∧
      setProtoDisplayAuthorization w cfg pdpy name =
        if pdpy.authenticationData.length < 8 then none else some p := by
  obtain ⟨data, hdata⟩ := Option.isSome_iff_exists.1 hrandom
  refine ⟨{ pdpy with
    fileAuthorization := some ⟨name, pdpy.authenticationData.take 8 ++ data.set 0 0⟩
    xdmcpAuthorization := some ⟨name, w.xdmcpWrap (data.set 0 0) pdpy.key⟩ }, rfl, ?_⟩
  unfold setProtoDisplayAuthorization xdmGetXdmcpAuth xdmGetAuthHelper
  rw [hprotocol, hdata]
  exact if_neg (by simp)

/-- What a `REQUEST` that is granted makes of the proto-display. -/
lemma Granted.passed (hgrant : Granted w cfg r pdpy p auth) :
    (if namesAuthentication cfg r = true then Passed w r p
      else p.key = pdpy.key ∧ p.authenticationData = pdpy.authenticationData) ∧
    (p.xdmcpAuthorization.isSome = true → 8 ≤ p.authenticationData.length ∨
      pdpy.xdmcpAuthorization.isSome = true) := by
  obtain ⟨j, pdpy₁, data, -, hcheck, hgrant⟩ := hgrant.granted
  have hpassed := checkAuthentication_true hcheck
  obtain ⟨-, -, hxdmcp⟩ := checkAuthentication_same hcheck
  unfold grantAuthorization at hgrant
  cases hname : r.authorizationNames[j]? with
  | none =>
    simp only [hname] at hgrant
    obtain ⟨rfl, -⟩ := Prod.mk.inj (Option.some.inj hgrant)
    refine ⟨?_, fun hx => Or.inr (hxdmcp ▸ hx)⟩
    split_ifs at hpassed ⊢ with hnames
    · exact hpassed
    · subst hpassed
      exact ⟨rfl, rfl⟩
  | some name =>
    simp only [hname] at hgrant
    obtain ⟨pdpy₂, hset, heq⟩ := Option.map_eq_some_iff.1 hgrant
    obtain ⟨rfl, -⟩ := Prod.mk.inj heq
    have hkeeps := setProtoDisplayAuthorization_reauthorized hset
    refine ⟨?_, fun hx => Or.inl (setProtoDisplayAuthorization_xdm hset hx).2⟩
    split_ifs at hpassed ⊢ with hnames
    · exact ⟨hkeeps.key ▸ hpassed.key, hpassed.length, by
        rw [hkeeps.authenticationData, hkeeps.key]
        exact hpassed.authenticationData⟩
    · subst hpassed
      exact ⟨hkeeps.key, hkeeps.authenticationData⟩

/-! ### The copy -/

/-- The proto-display that `request_respond` goes on with, known or new, and the state in
which it does. -/
def proceeds (w : World) (sender : Netaddr) (r : Request) (s : State) :
    Option (ProtoDisplay × State) :=
  match findProtoDisplay sender r.displayNumber s.protoDisplays with
  | some pdpy => some (pdpy, s)
  | none =>
    match newSession w sender r s with
    | some (.inl pdpy, t) => some (pdpy, t)
    | _ => none

/-- The proto-display as `SetProtoDisplayAuthorization` gets it when it is to put an
`XDM-AUTHORIZATION-1` authorization on it: `XdmGetXdmcpAuth` has its random bytes, and goes
on to copy the authentication data. -/
def copiesFrom (w : World) (sender : Netaddr) (r : Request) (s : State) :
    Option ProtoDisplay :=
  if chosenProtocol s.config r = some .xdmAuthorization1 ∧
      (w.generateAuthData 8).isSome = true then
    match (proceeds w sender r s).map fun asked => checkAuthentication w s.config asked.1
        r.manufacturerDisplayID r.authenticationName r.authenticationData with
    | some (true, p, _) => some p
    | _ => none
  else none

lemma pending_of_proceeds (h : proceeds w sender r s = some (pdpy, t)) :
    Pending w sender r s pdpy t ∧
      answerRequest w sender r s = authorizeRequest w sender r pdpy t := by
  unfold proceeds at h
  split at h
  · next pdpy' hfind =>
    obtain ⟨rfl, rfl⟩ := Prod.mk.inj (Option.some.inj h)
    refine ⟨.known hfind, ?_⟩
    change (match findProtoDisplay sender r.displayNumber s.protoDisplays with
      | some pdpy => authorizeRequest w sender r pdpy
      | none => _ : M Unit) s = _
    rw [hfind]
  · next hnone =>
    split at h
    · next pdpy' t' hnew =>
      obtain ⟨rfl, rfl⟩ := Prod.mk.inj (Option.some.inj h)
      have hpending : Wlp (newSession w sender r) (fun result t => ∀ pdpy,
          result = .inl pdpy → Pending w sender r s pdpy t) s := by
        refine wlp_newSession (by simp) (by simp) fun pdpy hissued pdpy' heq => ?_
        obtain rfl := Sum.inl.inj heq
        exact .new hnone hissued
      refine ⟨hpending _ _ hnew _ rfl, ?_⟩
      change (match findProtoDisplay sender r.displayNumber s.protoDisplays with
        | some pdpy => authorizeRequest w sender r pdpy
        | none => newSession w sender r >>= _ : M Unit) s = _
      rw [hnone]
      change (newSession w sender r s).bind _ = _
      rw [hnew]
      rfl
    · cases h

/-- What is known where the copy is made. -/
structure Copies (w : World) (sender : Netaddr) (r : Request) (s : State) (p pdpy : ProtoDisplay)
    (t : State) : Prop where
  pending : Pending w sender r s pdpy t
  answer : answerRequest w sender r s = authorizeRequest w sender r pdpy t
  check : ∃ data, checkAuthentication w s.config pdpy r.manufacturerDisplayID
    r.authenticationName r.authenticationData = (true, p, data)
  chosen : ∃ j name, authorizationIndex s.config r = some j ∧
    r.authorizationNames[j]? = some name ∧
    findProtocol s.config name = some .xdmAuthorization1
  random : (w.generateAuthData 8).isSome = true

lemma copies_of_copiesFrom (h : copiesFrom w sender r s = some p) :
    ∃ pdpy t, Copies w sender r s p pdpy t := by
  unfold copiesFrom at h
  obtain ⟨⟨hchosen, hrandom⟩, h⟩ := Option.ite_none_right_eq_some.1 h
  split at h
  · next p' data hmap =>
    obtain rfl := Option.some.inj h
    obtain ⟨⟨pdpy, t⟩, hproceeds, hcheck⟩ := Option.map_eq_some_iff.1 hmap
    obtain ⟨hpending, hanswer⟩ := pending_of_proceeds hproceeds
    obtain ⟨name, hname, hprotocol⟩ := Option.bind_eq_some_iff.1 hchosen
    obtain ⟨j, hj, hname⟩ := Option.bind_eq_some_iff.1 hname
    exact ⟨pdpy, t, hpending, hanswer, ⟨data, hcheck⟩, ⟨j, name, hj, hname, hprotocol⟩, hrandom⟩
  · cases h

lemma Pending.config_eq (h : Pending w sender r s pdpy t) : t.config = s.config := by
  cases h <;> rfl

/-- Without eight bytes the packet has no outcome. -/
lemma Copies.stuck (h : Copies w sender r s p pdpy t) (hlen : p.authenticationData.length < 8) :
    answerRequest w sender r s = none := by
  obtain ⟨data, hcheck⟩ := h.check
  obtain ⟨j, name, hj, hname, hprotocol⟩ := h.chosen
  obtain ⟨p', -, hset⟩ := setProtoDisplayAuthorization_copies p hprotocol h.random
  rw [if_pos hlen] at hset
  have hnone : grantAuthorization w s.config p r j = none := by
    simp only [grantAuthorization, hname, hset, Option.map_none]
  have hfalse : Wlp (authorizeRequest w sender r pdpy) (fun _ _ => False) t := by
    simp only [authorizeRequest, wlp_bind, wlp_get, h.pending.config_eq, hj, hcheck, hnone,
      wlp_failure]
  rw [h.answer]
  exact Option.eq_none_iff_forall_ne_some.2 fun out hu => hfalse out.1 out.2 hu

/-- With eight bytes the client has the authorization when the packet has been answered. -/
lemma Copies.granted (h : Copies w sender r s p pdpy t) (hs : s.ProtoSound) (ho : s.OneForEach)
    (hlen : 8 ≤ p.authenticationData.length) :
    ∃ s', answerRequest w sender r s = some ((), s') ∧
      ∃ p' ∈ s'.protoDisplaysOf sender r.displayNumber, p.Reauthorized p' ∧
        p'.xdmcpAuthorization.isSome = true := by
  obtain ⟨data, hcheck⟩ := h.check
  obtain ⟨j, name, hj, hname, hprotocol⟩ := h.chosen
  obtain ⟨p', hx, hset⟩ := setProtoDisplayAuthorization_copies p hprotocol h.random
  rw [if_neg (Nat.not_lt.2 hlen)] at hset
  have hsome : grantAuthorization w s.config p r j =
      some (p', p'.xdmcpAuthorization.or p'.fileAuthorization) := by
    simp only [grantAuthorization, hname, hset, Option.map_some]
  have hkeeps := setProtoDisplayAuthorization_reauthorized hset
  have hsame := (checkAuthentication_same hcheck).1.trans hkeeps.same
  have hspec := h.pending.spec hs ho
  refine ⟨(t.authorize p').sent sender.sa (acceptMessage r p' data
    (p'.xdmcpAuthorization.or p'.fileAuthorization)), ?_, p', ?_, hkeeps, hx⟩
  · have hwp : Wp (authorizeRequest w sender r pdpy) (fun _ u => u = (t.authorize p').sent
        sender.sa (acceptMessage r p' data (p'.xdmcpAuthorization.or p'.fileAuthorization))) t := by
      refine wp_bind (wp_get ?_)
      simp only [h.pending.config_eq, hj, hcheck, hsome]
      exact wp_bind (wp_modify (wp_modify rfl))
    obtain ⟨_, u, hu, rfl⟩ := hwp
    rw [h.answer]
    exact hu
  · refine List.mem_filter.2 ⟨Keyed.mem_modify.2 (Or.inl ⟨pdpy, hspec.mem, ?_, rfl⟩), ?_⟩
    · exact hsame.addr.symm
    · rw [hsame.isFor_eq]
      exact hspec.isFor

/-! ### Runs -/

/-- In some step of the history a `REQUEST` for this client has passed
`XdmCheckAuthentication`, and left its key and its data in the proto-display. -/
def Authenticated (h : List (Step State Input)) (p : ProtoDisplay) : Prop :=
  ∃ x ∈ h, ∃ w sender r, x.input.request? = some (w, sender, r) ∧
    p.isFor sender r.displayNumber = true ∧ Passed w r p

/-- The authentication name of the `REQUEST` makes `CheckAuthentication` call
`XdmCheckAuthentication`, or the client has a proto-display with 8 bytes of authentication
data. -/
def Authenticates (s : State) (sender : Netaddr) (r : Request) : Prop :=
  namesAuthentication s.config r = true ∨
    ∃ p ∈ findProtoDisplay sender r.displayNumber s.protoDisplays,
      p.authenticationData.length = 8

instance : Decidable (Authenticates s sender r) := inferInstanceAs (Decidable (_ ∨ _))

/-- `XdmcpUnwrap` delivers as many bytes as it is given. -/
def World.UnwrapsAll (w : World) : Prop :=
  ∀ data key, (w.xdmcpUnwrap data key).length = data.length

lemma Authenticated.mono {x : Step State Input} (hp : Authenticated h p) :
    Authenticated (h ++ [x]) p := by
  obtain ⟨y, hy, hrest⟩ := hp
  exact ⟨y, List.mem_append_left _ hy, hrest⟩

lemma Authenticated.congr {q : ProtoDisplay} (hp : Authenticated h p) (hsame : p.SameSession q)
    (hkey : q.key = p.key) (hdata : q.authenticationData = p.authenticationData) :
    Authenticated h q := by
  obtain ⟨x, hx, w, sender, r, hreq, hfor, hpassed⟩ := hp
  refine ⟨x, hx, w, sender, r, hreq, hsame.isFor_eq.trans hfor, ?_⟩
  exact ⟨hkey ▸ hpassed.key, hpassed.length, by rw [hdata, hkey, hpassed.authenticationData]⟩

lemma Authenticated.length (hp : Authenticated h p)
    (hunwrap : ∀ x ∈ h, ∀ w ∈ x.input.worlds, w.UnwrapsAll) :
    p.authenticationData.length = 8 := by
  obtain ⟨x, hx, w, sender, r, hreq, -, hpassed⟩ := hp
  rw [hpassed.authenticationData, hunwrap x hx w (mem_worlds_of_request hreq), hpassed.length]

/-- A proto-display has no authentication data before it has passed. -/
lemma run_authenticated (run : DaemonRun config g h s) :
    ∀ p ∈ s.protoDisplays, p.authenticationData = [] ∨ Authenticated h p := by
  refine run.invariant_of (C := fun _ => True) (I := fun h s => ∀ p ∈ s.protoDisplays,
    p.authenticationData = [] ∨ Authenticated h p) (by simp [State.initial]) ?_
    fun _ _ => trivial
  rintro h s i s' run hI hstep - p hp
  rcases (step_kind (run_sound run) hstep).2.granted (run_protoSound run) (run_oneForEach run) hp
    with hp | ⟨w, sender, r, pdpy, t, auth, hreq, hfor, hpending, hgrant⟩
  · exact (hI p hp).imp_right Authenticated.mono
  · have hpassed := hgrant.passed.1
    split_ifs at hpassed with hnames
    · exact Or.inr ⟨⟨s, i, s'⟩, by simp, w, sender, r, hreq, hfor, hpassed⟩
    · obtain ⟨hkey, hdata⟩ := hpassed
      cases hpending with
      | known hfind =>
        rcases hI pdpy (findProtoDisplay_some hfind).1 with hnil | hauth
        · exact Or.inl (hdata.trans hnil)
        · exact Or.inr (hauth.mono.congr hgrant.same hkey hdata)
      | new _ hissued => exact Or.inl (hdata.trans hissued.authenticationData)

/-- The data that are copied: they are those of an authentication if and only if the packet
authenticates. -/
lemma Copies.authenticated_iff (run : DaemonRun config g h s)
    (hcopies : Copies w sender r (s.begin i) p pdpy t) (hw : w.UnwrapsAll) :
    (Authenticated h p ∨ Passed w r p) ∧ p.authenticationData.length = 8 ↔
      Authenticates s sender r := by
  obtain ⟨data, hcheck⟩ := hcopies.check
  have hpassed : if namesAuthentication s.config r = true then Passed w r p else p = pdpy :=
    checkAuthentication_true hcheck
  split_ifs at hpassed with hnames
  · refine iff_of_true ⟨Or.inr hpassed, ?_⟩ (Or.inl hnames)
    rw [hpassed.authenticationData, hw, hpassed.length]
  subst hpassed
  unfold Authenticates
  rw [or_iff_right hnames]
  cases hcopies.pending with
  | known hfind =>
    constructor
    · rintro ⟨-, hlen⟩
      exact ⟨_, hfind, hlen⟩
    · rintro ⟨q, hq, hlen⟩
      obtain rfl := Option.some.inj (hfind.symm.trans hq)
      refine ⟨Or.inl ?_, hlen⟩
      rcases run_authenticated run _ (findProtoDisplay_some hfind).1 with hnil | hauth
      · simp [hnil] at hlen
      · exact hauth
  | new hnone hissued =>
    refine iff_of_false (fun hc => ?_) ?_
    · rw [hissued.authenticationData] at hc
      exact nomatch hc.2
    · rintro ⟨q, hq, -⟩
      exact nomatch hnone.symm.trans hq

/-- Without authentication there is nothing to copy. -/
lemma Copies.length_lt (run : DaemonRun config g h s)
    (hcopies : Copies w sender r (s.begin i) p pdpy t)
    (hnot : ¬ Authenticates s sender r) (hunwrap : ∀ x ∈ h, ∀ w ∈ x.input.worlds, w.UnwrapsAll) :
    p.authenticationData.length < 8 := by
  obtain ⟨data, hcheck⟩ := hcopies.check
  have hpassed : if namesAuthentication s.config r = true then Passed w r p else p = pdpy :=
    checkAuthentication_true hcheck
  rw [if_neg fun hnames => hnot (Or.inl hnames)] at hpassed
  subst hpassed
  cases hcopies.pending with
  | known hfind =>
    rcases run_authenticated run _ (findProtoDisplay_some hfind).1 with hnil | hauth
    · simp [hnil]
    · exact absurd (Or.inr ⟨_, hfind, hauth.length hunwrap⟩) hnot
  | new _ hissued => simp [hissued.authenticationData]

/-- Every proto-display with such an authorization has passed. -/
lemma run_xdm_authenticated (run : DaemonRun config g h s)
    (hunwrap : ∀ x ∈ h, ∀ w ∈ x.input.worlds, w.UnwrapsAll) :
    ∀ p ∈ s.protoDisplays, p.xdmcpAuthorization.isSome = true → Authenticated h p := by
  have hlength : ∀ p ∈ s.protoDisplays, p.xdmcpAuthorization.isSome = true →
      8 ≤ p.authenticationData.length := by
    refine run.invariant_of (C := fun x => ∀ w ∈ x.input.worlds, w.UnwrapsAll)
      (I := fun _ s => ∀ p ∈ s.protoDisplays, p.xdmcpAuthorization.isSome = true →
        8 ≤ p.authenticationData.length) (by simp [State.initial]) ?_ hunwrap
    rintro h s i s' run hI hstep hw p hp hx
    rcases (step_kind (run_sound run) hstep).2.granted (run_protoSound run) (run_oneForEach run)
      hp with hp | ⟨w, sender, r, pdpy, t, auth, hreq, -, hpending, hgrant⟩
    · exact hI p hp hx
    obtain ⟨hpassed, hcopied⟩ := hgrant.passed
    rcases hcopied hx with hlen | hold
    · exact hlen
    -- it had such an authorization before
    split_ifs at hpassed with hnames
    · rw [hpassed.authenticationData, hw w (mem_worlds_of_request hreq)]
      exact Nat.le_of_eq hpassed.length.symm
    · rw [hpassed.2]
      cases hpending with
      | known hfind => exact hI pdpy (findProtoDisplay_some hfind).1 hold
      | new _ hissued => simp [hissued.xdmcpAuthorization] at hold
  intro p hp hx
  rcases run_authenticated run p hp with hnil | hauth
  · simpa [hnil] using hlength p hp hx
  · exact hauth

/-- In every run, with `XdmcpUnwrap` delivering as many bytes as it is given, and for every
`REQUEST` for which `XdmGetXdmcpAuth` goes on to copy the authentication data of a
proto-display: the proto-display has passed `XdmCheckAuthentication`, and has the 8 bytes, if
and only if the authentication name of the packet makes this check take place or the client's
proto-display has the 8 bytes already.  Then the client gets its authorization, and otherwise
the packet has no outcome.  So whatever has such an authorization has passed. -/
theorem xdm_authorized_iff (run : DaemonRun config g h s)
    (hunwrap : ∀ x ∈ h, ∀ w ∈ x.input.worlds, w.UnwrapsAll) :
    (∀ i w sender r p, i.request? = some (w, sender, r) → w.UnwrapsAll →
      copiesFrom w sender r (s.begin i) = some p →
      ((Authenticated h p ∨ Passed w r p) ∧ p.authenticationData.length = 8 ↔
        Authenticates s sender r) ∧
      (Authenticates s sender r → ∃ s', i.operation (s.begin i) = some ((), s') ∧
        ∃ p' ∈ s'.protoDisplaysOf sender r.displayNumber, p.Reauthorized p' ∧
          p'.xdmcpAuthorization.isSome = true) ∧
      (¬ Authenticates s sender r → i.operation (s.begin i) = none)) ∧
    ∀ p ∈ s.protoDisplays, p.xdmcpAuthorization.isSome = true →
      Authenticated h p ∧ p.authenticationData.length = 8 := by
  refine ⟨fun i w sender r p hreq hw hcopies => ?_, fun p hp hx => ?_⟩
  · obtain ⟨pdpy, t, hcopies⟩ := copies_of_copiesFrom hcopies
    have hiff := hcopies.authenticated_iff run hw
    have hs := run_protoSound run
    have ho := run_oneForEach run
    rw [operation_of_request hreq]
    refine ⟨hiff, fun hyes => ?_, fun hno => ?_⟩
    · have hlen := (hiff.2 hyes).2
      exact hcopies.granted ⟨hs.distinct, hs.bound⟩ ho (Nat.le_of_eq hlen.symm)
    · exact hcopies.stuck (hcopies.length_lt run hno hunwrap)
  · have ha := run_xdm_authenticated run hunwrap p hp hx
    exact ⟨ha, ha.length hunwrap⟩

/-! ### An authorization without authentication -/

/-- A configuration of a daemon with `XDM-AUTHORIZATION-1` that admits everybody. -/
def Config.xdmAuth : Config := { Config.open with hasXdmAuth := true }

/-- A world with a key file that has the key of the display `D`, all zeros. -/
def World.keyed : World :=
  { World.lan 20 7 with
    config := Config.xdmAuth
    xdmGetKey := fun displayID =>
      if displayID = bytesOf "D".toList then some (List.replicate 8 0) else none }

/-- What the display `D` sends for `XDM-AUTHORIZATION-1`, with an authentication. -/
def Request.xdm (authenticationName authenticationData : ARRAY8) : Request :=
  { Request.plain 0 [xdmAuthorization1] with
    authenticationName := authenticationName
    authenticationData := authenticationData
    manufacturerDisplayID := bytesOf "D".toList }

/-- Eight bytes that DES maps to themselves under the key of zeros. -/
def fixedData : ARRAY8 := [172, 60, 34, 186, 247, 17, 51, 97]

/-- Without an authentication name the authorization is chosen all the same, for a
proto-display without key and authentication data, and nothing comes of the packet. -/
theorem xdm_unauthenticated : ∃ s i p, DaemonRun Config.xdmAuth 0 [] s ∧
    i = .request World.keyed Netaddr.guest (Request.xdm [] []) ∧
    copiesFrom World.keyed Netaddr.guest (Request.xdm [] []) (s.begin i) = some p ∧
    p.key = [] ∧ p.authenticationData = [] ∧ step i s = none := by
  have hcopies : (copiesFrom World.keyed Netaddr.guest (Request.xdm [] [])
      ((State.initial Config.xdmAuth 0).begin
        (.request World.keyed Netaddr.guest (Request.xdm [] [])))).any
      (fun p => decide (p.key = [] ∧ p.authenticationData = [])) = true := by decide +kernel
  have hstuck : (step (.request World.keyed Netaddr.guest (Request.xdm [] []))
      (State.initial Config.xdmAuth 0)).isNone = true := by decide +kernel
  obtain ⟨p, hp, hnil⟩ := (Option.any_eq_true _ _).1 hcopies
  obtain ⟨hkey, hdata⟩ := of_decide_eq_true hnil
  exact ⟨_, _, p, .nil, rfl, hp, hkey, hdata, Option.isNone_iff_eq_none.1 hstuck⟩

/-- A display that authenticates itself. -/
theorem xdm_authenticated : ∃ h s, DaemonRun Config.xdmAuth 0 h s ∧
    ∃ p ∈ s.protoDisplays, p.xdmcpAuthorization.isSome = true ∧ Authenticated h p ∧
      p.authenticationData.length = 8 := by
  obtain ⟨h, s, run, hinputs, p, hp, hx⟩ : ∃ h s, DaemonRun Config.xdmAuth 0 h s ∧
      h.map Step.input = [.request World.keyed Netaddr.guest
        (Request.xdm xdmAuthentication1 fixedData)] ∧
      ∃ p ∈ s.protoDisplays, p.xdmcpAuthorization.isSome = true :=
    exists_run_on _ (by decide +kernel)
  refine ⟨h, s, run, p, hp, hx, (xdm_authorized_iff run fun x hx w hw => ?_).2 p hp hx⟩
  rw [input_of_mem hinputs hx] at hw
  obtain rfl := List.mem_singleton.1 hw
  exact fun _ _ => rfl

end Xdm
