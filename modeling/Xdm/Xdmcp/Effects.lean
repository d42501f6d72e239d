/-
# What the packets of XDMCP do to the state

Queries and `KEEPALIVE` only talk.  For `REQUEST` and `MANAGE` there is one rule each that
lists all the ways in which the packet can be dealt with; the proofs about sessions use
these rules and never look into the functions again.
-/
import Xdm.LifeCycle

namespace Xdm

open Prog

variable {dead : List Pid} {s s₀ : State}

/-! ### What a datagram is -/

/-- The length and the rest of a datagram with a given opcode, if its header is in order. -/
def payloadIn (opcode : XdmOpCode) (datagram : ARRAY8) : Option (Nat × ARRAY8) :=
  match readHeader datagram with
  | none => none
  | some (header, payload) =>
    if header.version = xdmProtocolVersion ∧ XdmOpCode.ofCARD16 header.opcode = some opcode then
      some (header.length.toNat, payload)
    else none

/-- The `REQUEST` that a datagram holds, if `request_respond` acts on it. -/
def requestIn (datagram : ARRAY8) : Option Request :=
  match payloadIn .request datagram with
  | none => none
  | some (length, payload) =>
    match readRequest payload with
    | none => none
    | some (r, _) => if length = r.expectlen then some r else none

/-- The `MANAGE` that a datagram holds, if `manage` acts on it. -/
def manageIn (datagram : ARRAY8) : Option Manage :=
  match payloadIn .manage datagram with
  | none => none
  | some (length, payload) =>
    match readManage payload with
    | none => none
    | some (m, _) => if length = m.expectlen then some m else none

lemma payloadIn_eq_some {opcode : XdmOpCode} {datagram payload : ARRAY8} {length : Nat}
    (h : payloadIn opcode datagram = some (length, payload)) :
    ∃ header, readHeader datagram = some (header, payload) ∧
      header.version = xdmProtocolVersion ∧
      XdmOpCode.ofCARD16 header.opcode = some opcode ∧ header.length.toNat = length := by
  unfold payloadIn at h
  split at h
  · exact nomatch h
  · next header payload' hheader =>
    split_ifs at h with hc
    simp only [Option.some.injEq, Prod.mk.injEq] at h
    obtain ⟨rfl, rfl⟩ := h
    exact ⟨header, hheader, hc.1, hc.2, rfl⟩

lemma requestIn_eq_some {datagram : ARRAY8} {r : Request} (h : requestIn datagram = some r) :
    ∃ length payload rest, payloadIn .request datagram = some (length, payload) ∧
      readRequest payload = some (r, rest) ∧ length = r.expectlen := by
  unfold requestIn at h
  split at h
  · exact nomatch h
  · next length payload hpayload =>
    split at h
    · exact nomatch h
    · next r' rest hr =>
      split_ifs at h with hlen
      obtain rfl := Option.some.inj h
      exact ⟨length, payload, rest, hpayload, hr, hlen⟩

lemma manageIn_eq_some {datagram : ARRAY8} {m : Manage} (h : manageIn datagram = some m) :
    ∃ length payload rest, payloadIn .manage datagram = some (length, payload) ∧
      readManage payload = some (m, rest) ∧ length = m.expectlen := by
  unfold manageIn at h
  split at h
  · exact nomatch h
  · next length payload hpayload =>
    split at h
    · exact nomatch h
    · next m' rest hm =>
      split_ifs at h with hlen
      obtain rfl := Option.some.inj h
      exact ⟨length, payload, rest, hpayload, hm, hlen⟩

lemma processRequestSocket_request (w : World) (fd : Int) (sender : Netaddr)
    {datagram : ARRAY8} {r : Request} (h : requestIn datagram = some r) :
    processRequestSocket w fd sender datagram = answerRequest w sender r := by
  obtain ⟨length, payload, rest, hpayload, hr, hlen⟩ := requestIn_eq_some h
  obtain ⟨header, hheader, hversion, hopcode, rfl⟩ := payloadIn_eq_some hpayload
  simp only [processRequestSocket, hheader, hversion, hopcode, if_true, requestRespond, hr, hlen]

lemma processRequestSocket_manage (w : World) (fd : Int) (sender : Netaddr)
    {datagram : ARRAY8} {m : Manage} (h : manageIn datagram = some m) :
    processRequestSocket w fd sender datagram = answerManage w fd sender m := by
  obtain ⟨length, payload, rest, hpayload, hm, hlen⟩ := manageIn_eq_some h
  obtain ⟨header, hheader, hversion, hopcode, rfl⟩ := payloadIn_eq_some hpayload
  simp only [processRequestSocket, hheader, hversion, hopcode, if_true, manage, hm, hlen]

/-- A `REQUEST` that cannot be read, or has the wrong length, is not acted on. -/
lemma requestRespond_eq_pure (w : World) (sender : Netaddr) {datagram payload : ARRAY8}
    {length : Nat} (hr : requestIn datagram = none)
    (hpayload : payloadIn .request datagram = some (length, payload)) :
    requestRespond w sender length payload = pure () := by
  rw [requestIn, hpayload] at hr
  unfold requestRespond
  dsimp only at hr
  cases hread : readRequest payload with
  | none => rfl
  | some p =>
    obtain ⟨r, rest⟩ := p
    simp only [hread] at hr
    exact if_neg fun hlen => by simp [hlen] at hr

lemma manage_eq_pure (w : World) (fd : Int) (sender : Netaddr) {datagram payload : ARRAY8}
    {length : Nat} (hm : manageIn datagram = none)
    (hpayload : payloadIn .manage datagram = some (length, payload)) :
    manage w fd sender length payload = pure () := by
  rw [manageIn, hpayload] at hm
  unfold manage
  dsimp only at hm
  cases hread : readManage payload with
  | none => rfl
  | some p =>
    obtain ⟨m, rest⟩ := p
    simp only [hread] at hm
    exact if_neg fun hlen => by simp [hlen] at hm

/-- A datagram is not both. -/
lemma manageIn_of_requestIn {datagram : ARRAY8} {r : Request}
    (h : requestIn datagram = some r) : manageIn datagram = none := by
  obtain ⟨length, payload, rest, hpayload, -, -⟩ := requestIn_eq_some h
  obtain ⟨header, hheader, -, hopcode, -⟩ := payloadIn_eq_some hpayload
  simp [manageIn, payloadIn, hheader, hopcode]

/-! ### Packets that only talk -/

/-- Answers that are about no session. -/
def Event.isTalk : Event → Bool
  | .send _ (.accept ..) => false
  | .send _ (.refuse _) => false
  | .send _ _ => true
  | _ => false

/-- Packets have been sent and indirect clients noted, and nothing else. -/
structure Talk (s s' : State) : Prop where
  config : s'.config = s.config
  database : s'.database = s.database
  displays : s'.displays = s.displays
  protoDisplays : s'.protoDisplays = s.protoDisplays
  globalSessionID : s'.globalSessionID = s.globalSessionID
  kernel : s'.kernel = s.kernel
  nextAddr : s'.nextAddr = s.nextAddr
  freed : s'.freed = s.freed
  out : ∃ es, s'.out = s.out ++ es ∧ ∀ e ∈ es, e.isTalk = true

namespace Talk

lemma refl (s : State) : Talk s s :=
  ⟨rfl, rfl, rfl, rfl, rfl, rfl, rfl, rfl, [], by simp⟩

lemma trans {s s' s'' : State} (h : Talk s s') (h' : Talk s' s'') : Talk s s'' where
  config := h'.config.trans h.config
  database := h'.database.trans h.database
  displays := h'.displays.trans h.displays
  protoDisplays := h'.protoDisplays.trans h.protoDisplays
  globalSessionID := h'.globalSessionID.trans h.globalSessionID
  kernel := h'.kernel.trans h.kernel
  nextAddr := h'.nextAddr.trans h.nextAddr
  freed := h'.freed.trans h.freed
  out := by
    obtain ⟨es, hes, hq⟩ := h.out
    obtain ⟨es', hes', hq'⟩ := h'.out
    refine ⟨es ++ es', by rw [hes', hes, List.append_assoc], fun e he => ?_⟩
    exact (List.mem_append.1 he).elim (hq e) (hq' e)

instance : Std.Refl Talk := ⟨refl⟩
instance : IsTrans State Talk := ⟨fun _ _ _ => trans⟩

lemma isQuiet_of_isTalk {e : Event} (h : e.isTalk = true) :
    e.isQuiet = true := by
  cases e with
  | send _ m => cases m <;> first | rfl | exact h
  | kill _ _ => rfl
  | writeFreed _ => rfl

lemma quiet {s s' : State} (h : Talk s s') : Quiet s s' := by
  obtain ⟨es, hes, ht⟩ := h.out
  exact Quiet.of_eq h.displays h.nextAddr h.protoDisplays h.globalSessionID
    ⟨es, hes, fun e he => isQuiet_of_isTalk (ht e he)⟩

lemma sound {s s' : State} (h : Talk s s') (hs : s.Sound dead none) : s'.Sound dead none :=
  hs.congr h.displays (by rw [h.kernel]) (Nat.le_of_eq h.nextAddr.symm)

end Talk

/-- The program only talks. -/
abbrev Talks (m : M Unit) : Prop := Respects Talk m

/-- What `IndirectChoice` returns for a client, where it is asked. -/
def choiceOf (w : World) (s : State) (addr : ARRAY8) (connectionType : CARD16) :
    Option ARRAY8 :=
  if asksChoice w s.database addr connectionType then
    (indirectChoiceLoop w.time s.config.choiceTimeout addr connectionType s.choices).2
  else none

/-- The state after it has been asked: choices that have timed out are dropped. -/
def State.askedChoice (s : State) (w : World) (addr : ARRAY8) (connectionType : CARD16) : State :=
  if asksChoice w s.database addr connectionType then
    { s with choices :=
        (indirectChoiceLoop w.time s.config.choiceTimeout addr connectionType s.choices).1 }
  else s

lemma choiceFor_eq (w : World) (s : State) (addr : ARRAY8) (connectionType : CARD16) :
    choiceFor w addr connectionType s =
      some (choiceOf w s addr connectionType, s.askedChoice w addr connectionType) := by
  unfold choiceFor choiceOf State.askedChoice
  rw [get_bind]
  split_ifs <;> rfl

namespace State

variable (w : World) (addr : ARRAY8) (connectionType : CARD16)

@[simp] lemma askedChoice_database :
    (s.askedChoice w addr connectionType).database = s.database := by
  unfold askedChoice
  split_ifs <;> rfl

@[simp] lemma askedChoice_indirectUsers :
    (s.askedChoice w addr connectionType).indirectUsers = s.indirectUsers := by
  unfold askedChoice
  split_ifs <;> rfl

@[simp] lemma askedChoice_out : (s.askedChoice w addr connectionType).out = s.out := by
  unfold askedChoice
  split_ifs <;> rfl

end State

/-- Asking for the choice of a client only drops choices. -/
lemma wlp_choiceFor {w : World} {addr : ARRAY8} {type : CARD16}
    {Q : Option ARRAY8 → State → Prop} (h : ∀ choice cs, Q choice { s with choices := cs }) :
    Wlp (choiceFor w addr type) Q s := by
  refine Wlp.of_eq ((wlp_pure (choiceOf w s addr type) Q (s.askedChoice w addr type)).2 ?_)
    (choiceFor_eq w s addr type)
  unfold State.askedChoice
  split_ifs
  · exact h _ _
  · exact h _ s.choices

/-! ### Queries -/

/-- The packets that queries and `KEEPALIVE` are answered with, and the forwarded ones: host
names are the own one, and the texts fit the buffers of `policy.c`. -/
def Event.OfQuery (w : World) : Event → Prop
  | .send _ (.willing authenticationName hostname status) =>
    authenticationName.length ≤ 20 ∧ hostname = bytesOf w.localHostname ∧ status.length ≤ 255
  | .send _ (.unwilling hostname status) =>
    hostname = bytesOf w.localHostname ∧ status.length ≤ 255
  | .send _ (.forwardQuery ..) | .send _ (.alive ..) => True
  | _ => False

/-- The relation allows what the functions below do. -/
structure Speaks (w : World) (R : State → State → Prop) : Prop where
  note : ∀ (s : State) us, R s { s with indirectUsers := us }
  choose : ∀ (s : State) cs, R s { s with choices := cs }
  emit : ∀ (s : State) e, e.OfQuery w → R s { s with out := s.out ++ [e] }

section

variable {w : World} {R : State → State → Prop}

lemma Speaks.emits (hR : Speaks w R) {e : Event} (he : e.OfQuery w) : Respects R (Xdm.emit e) :=
  Keeps.modify fun s _ => ⟨trivial, hR.emit s e he⟩

lemma respects_rememberIndirectClient [Std.Refl R] (hR : Speaks w R) (addr : ARRAY8)
    (type : CARD16) : Respects R (rememberIndirectClient w addr type) := by
  refine Keeps.modify fun s _ => ⟨trivial, ?_⟩
  split
  · exact refl s
  · exact hR.note s _

lemma respects_forgetIndirectClient (hR : Speaks w R) (addr : ARRAY8) (type : CARD16) :
    Respects R (forgetIndirectClient addr type) :=
  Keeps.modify fun s _ => ⟨trivial, hR.note s _⟩

lemma respects_choiceFor (hR : Speaks w R) (addr : ARRAY8) (type : CARD16) :
    Respects R (choiceFor w addr type) :=
  fun s _ => wlp_choiceFor fun _ cs => ⟨trivial, hR.choose s cs⟩

/-- The authentication that is chosen is one of the table of `policy.c`. -/
lemma length_chooseAuthentication (cfg : Config) (names : List ARRAY8) :
    (chooseAuthentication cfg names).length ≤ 20 := by
  have htable : ∀ auth ∈ authTable cfg, auth.1.length ≤ 20 := by
    unfold authTable
    intro auth hauth
    rcases List.mem_append.1 hauth with hauth | hauth
    · split_ifs at hauth
      · rw [List.mem_singleton.1 hauth]
        decide
      · exact absurd hauth List.not_mem_nil
    · rw [List.mem_singleton.1 hauth]
      decide
  unfold chooseAuthentication
  cases hfind : names.find? fun name => (authTable cfg).any fun auth => name = auth.1 with
  | none => decide
  | some name =>
    have hany := List.find?_some hfind
    simp only [List.any_eq_true, decide_eq_true_eq] at hany
    obtain ⟨auth, hauth, rfl⟩ := hany
    exact htable auth hauth

/-- The status text fits its buffer. -/
lemma length_willing (w : World) (cfg : Config) (database : List DisplayEntry) (addr : ARRAY8)
    (connectionType : CARD16) (type : XdmOpCode) :
    (willing w cfg database addr connectionType type).2.length ≤ 255 := by
  unfold willing
  split_ifs
  · decide
  · split
    · rw [bytesOf, List.length_map, List.length_take]
      omega
    · rw [bytesOf, List.length_map, List.length_take]
      omega
  · decide

lemma respects_sendForward [Std.Refl R] (hR : Speaks w R) (isLocal : Bool) (addr port : ARRAY8)
    (names : List ARRAY8) (address : ARRAY8) :
    Respects R (sendForward w isLocal addr port names address) := by
  unfold sendForward
  split
  · exact Keeps.pure _
  · exact hR.emits trivial

variable [Std.Refl R] [IsTrans State R]

lemma respects_answerQuery (hR : Speaks w R) (sender : Netaddr) (names : List ARRAY8)
    (addr : ARRAY8) (connectionType : CARD16) (type : XdmOpCode) :
    Respects R (answerQuery w sender names addr connectionType type) := by
  refine Keeps.bind Keeps.get fun s => ?_
  have hstatus := length_willing w s.config s.database addr connectionType type
  refine Keeps.ite (fun _ => ?_) fun _ => Keeps.ite (fun _ => ?_) fun _ => Keeps.pure _
  · exact hR.emits ⟨length_chooseAuthentication s.config names, rfl, hstatus⟩
  · exact hR.emits ⟨rfl, hstatus⟩

lemma respects_allQueryRespond (hR : Speaks w R) (sender : Netaddr) (names : List ARRAY8)
    (type : XdmOpCode) : Respects R (allQueryRespond w sender names type) := by
  unfold allQueryRespond
  split
  · exact Keeps.pure _
  · next connectionType addr _ =>
    have hanswer := respects_answerQuery hR sender names addr connectionType type
    exact Keeps.ite
      (fun _ => Keeps.bind (respects_rememberIndirectClient hR addr connectionType)
        fun _ => hanswer)
      fun _ => Keeps.bind (respects_forgetIndirectClient hR addr connectionType) fun _ => hanswer

lemma respects_directQueryRespond (hR : Speaks w R) (sender : Netaddr) (length : Nat)
    (payload : ARRAY8) (type : XdmOpCode) :
    Respects R (directQueryRespond w sender length payload type) := by
  unfold directQueryRespond
  split
  · exact Keeps.pure _
  · exact Keeps.ite (fun _ => respects_allQueryRespond hR _ _ _) fun _ => Keeps.pure _

lemma respects_answerIndirect (hR : Speaks w R) (sender : Netaddr) (names : List ARRAY8) :
    Respects R (answerIndirect w sender names) := by
  unfold answerIndirect
  refine Keeps.bind (respects_choiceFor hR _ _) fun choice => Keeps.bind Keeps.get fun s => ?_
  refine Keeps.bind (Keeps.forM fun address _ => respects_sendForward hR _ _ _ _ _) fun _ => ?_
  exact Keeps.ite (fun _ => respects_allQueryRespond hR _ _ _) fun _ => Keeps.pure _

lemma respects_indirectRespond (hR : Speaks w R) (sender : Netaddr) (length : Nat)
    (payload : ARRAY8) : Respects R (indirectRespond w sender length payload) := by
  unfold indirectRespond
  split
  · exact Keeps.pure _
  · exact Keeps.ite (fun _ => respects_answerIndirect hR _ _) fun _ => Keeps.pure _

lemma respects_answerForward (hR : Speaks w R) (sender : Netaddr) (q : ForwardQuery) :
    Respects R (answerForward w sender q) := by
  unfold answerForward
  split
  · exact respects_allQueryRespond hR _ _ _
  · exact Keeps.pure _

lemma respects_forwardRespond (hR : Speaks w R) (sender : Netaddr) (length : Nat)
    (payload : ARRAY8) : Respects R (forwardRespond w sender length payload) := by
  unfold forwardRespond
  split
  · exact Keeps.pure _
  · exact Keeps.ite (fun _ => respects_answerForward hR _ _) fun _ => Keeps.pure _

lemma respects_answerKeepAlive (hR : Speaks w R) (sender : Netaddr) (k : KeepAlive) :
    Respects R (answerKeepAlive sender k) := by
  refine Keeps.bind Keeps.get fun s => ?_
  dsimp only
  split
  · exact hR.emits trivial
  · exact hR.emits trivial

lemma respects_sendAlive (hR : Speaks w R) (sender : Netaddr) (length : Nat)
    (payload : ARRAY8) : Respects R (sendAlive sender length payload) := by
  unfold sendAlive
  split
  · exact Keeps.pure _
  · exact Keeps.ite (fun _ => respects_answerKeepAlive hR _ _) fun _ => Keeps.pure _

/-- A datagram that is no `REQUEST` and no `MANAGE` does only what queries do. -/
lemma respects_processRequestSocket (hR : Speaks w R) (fd : Int) (sender : Netaddr)
    {datagram : ARRAY8} (hr : requestIn datagram = none) (hm : manageIn datagram = none) :
    Respects R (processRequestSocket w fd sender datagram) := by
  unfold processRequestSocket
  split
  · exact Keeps.pure _
  · next header payload hheader =>
    refine Keeps.ite (fun hversion => ?_) fun _ => Keeps.pure _
    split
    · exact respects_directQueryRespond hR _ _ _ _
    · exact respects_directQueryRespond hR _ _ _ _
    · exact respects_indirectRespond hR _ _ _
    · exact respects_forwardRespond hR _ _ _
    · next hopcode =>
      rw [requestRespond_eq_pure w sender hr (by simp [payloadIn, hheader, hversion, hopcode])]
      exact Keeps.pure _
    · next hopcode =>
      rw [manage_eq_pure w fd sender hm (by simp [payloadIn, hheader, hversion, hopcode])]
      exact Keeps.pure _
    · exact respects_sendAlive hR _ _ _
    · exact Keeps.pure _

end

lemma Event.OfQuery.isTalk {w : World} {e : Event} (h : e.OfQuery w) : e.isTalk = true := by
  cases e with
  | send _ m => cases m <;> first | rfl | exact False.elim h
  | _ => exact False.elim h

/-- What queries do is to talk. -/
lemma Talk.speaks (w : World) : Speaks w Talk where
  note := fun _ _ => ⟨rfl, rfl, rfl, rfl, rfl, rfl, rfl, rfl, [], by simp⟩
  choose := fun _ _ => ⟨rfl, rfl, rfl, rfl, rfl, rfl, rfl, rfl, [], by simp⟩
  emit := fun _ e he => ⟨rfl, rfl, rfl, rfl, rfl, rfl, rfl, rfl, [e], rfl, by
    simpa using he.isTalk⟩

/-- A datagram that is no `REQUEST` and no `MANAGE` changes no session and no display. -/
lemma talks_processRequestSocket (w : World) (fd : Int) (sender : Netaddr)
    {datagram : ARRAY8} (hr : requestIn datagram = none) (hm : manageIn datagram = none) :
    Talks (processRequestSocket w fd sender datagram) :=
  respects_processRequestSocket (Talk.speaks w) fd sender hr hm

end Xdm
