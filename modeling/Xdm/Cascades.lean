/-
# Networks of daemons

The daemons of a network answer packets with packets, and forward indirect queries to each
other.  A forwarded query is answered, and never forwarded again, whatever the access files of
the daemons say; an answer is ignored by every daemon.  So whatever is sent to the daemons, and
in whatever order the packets come and are lost, the network is quiet some time after nobody
else sends any more.
-/
import Xdm.Emissions
import Xdm.Xdmcp.Messages
import Xdm.Xdmcp.Negotiation
import Xdm.Lib.Cascade

namespace Xdm

open Prog Relation

variable {w : World} {s s' : State}

/-! ### Ranks -/

/-- How long the chain of packets is that a packet can start. -/
def Packet.rank : Packet → Nat
  | .indirectQuery _ => 2
  | _ => 1

/-- Of a datagram; a daemon ignores what is no packet. -/
def rank (datagram : ARRAY8) : Nat := (packetIn datagram).elim 0 Packet.rank

def Message.isForward : Message → Bool
  | .forwardQuery .. => true
  | _ => false

/-- A packet is taken for one with its opcode. -/
lemma opcode_of_packetIn {W : XdmcpWriter} {m : Message} {p : Packet}
    (h : packetIn (m.datagram W) = some p) : p.opcode = m.opcode := by
  obtain ⟨part, hpart, -⟩ := m.datagram_eq_append W
  unfold packetIn at h
  rw [hpart, Message.header, readHeader_writeHeader] at h
  simp only [if_true, ofCARD16_toCARD16] at h
  exact (acceptFields_eq_some.1 h).1

/-- Daemons take a packet of a daemon for a `FORWARD_QUERY`, or ignore it. -/
lemma rank_datagram (W : XdmcpWriter) (m : Message) :
    rank (m.datagram W) ≤ if m.isForward then 1 else 0 := by
  unfold rank
  cases hp : packetIn (m.datagram W) with
  | none => exact Nat.zero_le _
  | some p =>
    have hopcode := opcode_of_packetIn hp
    cases p <;> cases m <;> first | exact Nat.le_refl 1 | exact nomatch hopcode

/-! ### What a packet makes a daemon send -/

/-- The event is no forwarded query. -/
def Event.IsAnswer : Event → Prop
  | .send _ m => m.isForward = false
  | _ => True

lemma Event.OfDisplay.isAnswer {e : Event} (h : e.OfDisplay) : e.IsAnswer := by
  cases e with
  | send dest m => cases m <;> first | rfl | exact h.elim
  | _ => trivial

namespace Emits

lemma emits {e : Event} (he : e.IsAnswer) : Respects (Emits Event.IsAnswer) (Xdm.emit e) :=
  Keeps.modify fun s _ => ⟨trivial, emit s he⟩

lemma answers_answerQuery (sender : Netaddr) (names : List ARRAY8) (addr : ARRAY8)
    (connectionType : CARD16) (type : XdmOpCode) :
    Respects (Emits Event.IsAnswer) (answerQuery w sender names addr connectionType type) := by
  refine Keeps.bind Keeps.get fun s => ?_
  exact Keeps.ite (fun _ => emits rfl) fun _ => Keeps.ite (fun _ => emits rfl) fun _ => Keeps.pure _

lemma answers_allQueryRespond (sender : Netaddr) (names : List ARRAY8) (type : XdmOpCode) :
    Respects (Emits Event.IsAnswer) (allQueryRespond w sender names type) := by
  unfold allQueryRespond
  split
  · exact Keeps.pure _
  · next connectionType addr _ =>
    have hanswer := answers_answerQuery (w := w) sender names addr connectionType type
    refine Keeps.ite (fun _ => Keeps.bind (modify fun s => ?_) fun _ => hanswer)
      fun _ => Keeps.bind (modify fun _ => rfl) fun _ => hanswer
    split <;> rfl

lemma answers_answerForward (sender : Netaddr) (q : ForwardQuery) :
    Respects (Emits Event.IsAnswer) (answerForward w sender q) := by
  unfold answerForward
  split
  · exact answers_allQueryRespond _ _ _
  · exact Keeps.pure _

lemma answers_answerKeepAlive (sender : Netaddr) (k : KeepAlive) :
    Respects (Emits Event.IsAnswer) (answerKeepAlive sender k) := by
  refine Keeps.bind Keeps.get fun s => ?_
  dsimp only
  split <;> exact emits rfl

lemma answers_answerRequest (sender : Netaddr) (r : Request) :
    Respects (Emits Event.IsAnswer) (answerRequest w sender r) := by
  intro s _
  refine wlp_answerRequest.mono fun _ s' h => ⟨trivial, ?_⟩
  have hpending : ∀ {pdpy t}, Pending w sender r s pdpy t → t.out = s.out := by
    intro pdpy t hp
    cases hp <;> rfl
  cases h with
  | refused | outOfMemory => exact ⟨_, rfl, by simp [Event.IsAnswer, Message.isForward]⟩
  | declined _ _ hp _ =>
    have hout := hpending hp
    exact ⟨[_], congrArg (· ++ [_]) hout, by simp [Event.IsAnswer, Message.isForward]⟩
  | accepted _ hp _ =>
    have hout := hpending hp
    refine ⟨[_], congrArg (· ++ [_]) hout, ?_⟩
    simp [Event.IsAnswer, acceptMessage, Message.isForward]

lemma answers_chooserFor (addr : ARRAY8) (connectionType : CARD16) :
    Respects (Emits Event.IsAnswer) (Xdm.chooserFor w addr connectionType) := by
  refine Keeps.bind Keeps.get fun s => Keeps.ite (fun _ => ?_) fun _ => Keeps.pure _
  exact Keeps.bind (modify fun _ => rfl) fun _ =>
    Keeps.bind (fun _ _ => wlp_choiceFor fun _ _ => ⟨trivial, of_eq rfl⟩) fun choice =>
      Keeps.bind Keeps.get fun _ => Keeps.pure _

lemma answers_startManaged (fd : Int) (sender : Netaddr) (m : Manage) (pdpy : ProtoDisplay) :
    Respects (Emits Event.IsAnswer) (Xdm.startManaged w fd sender m pdpy) := by
  have hdisplay : ∀ e : Event, e.OfDisplay → e.IsAnswer := fun _ => Event.OfDisplay.isAnswer
  refine Keeps.bind Keeps.get fun s => ?_
  split
  · exact emits rfl
  next name _ =>
  refine Keeps.bind (terminateActive hdisplay name) fun _ => Keeps.ite (fun _ => ?_)
    fun _ => emits rfl
  refine Keeps.bind (newDisplay name _) fun d => ?_
  refine Keeps.bind (writeDisplay hdisplay d _) fun _ => ?_
  refine Keeps.bind (answers_chooserFor _ _) fun chooser => ?_
  refine Keeps.bind (writeDisplay hdisplay d _) fun _ => ?_
  refine Keeps.bind (installAuthorization hdisplay sender m.sessionID name d pdpy) fun ok => ?_
  exact Keeps.ite (fun _ => Keeps.bind (modify fun _ => rfl) fun _ =>
    (works hdisplay d).startDisplay) fun _ => Keeps.pure _

lemma answers_answerManage (fd : Int) (sender : Netaddr) (m : Manage) :
    Respects (Emits Event.IsAnswer) (Xdm.answerManage w fd sender m) := by
  refine Keeps.bind Keeps.get fun s => ?_
  split
  · exact Keeps.ite (fun _ => answers_startManaged fd sender m _) fun _ => emits rfl
  · split
    · exact Keeps.ite (fun _ => Keeps.pure _) fun _ => emits rfl
    · exact emits rfl

/-- Only an `INDIRECT_QUERY` is answered by packets that daemons take for something. -/
lemma answers_respond (fd : Int) (sender : Netaddr) {p : Packet} (hp : p.opcode ≠ .indirectQuery) :
    Respects (Emits Event.IsAnswer) (p.respond w fd sender) := by
  cases p with
  | broadcastQuery names | query names => exact answers_allQueryRespond _ _ _
  | indirectQuery names => exact absurd rfl hp
  | forwardQuery q => exact answers_answerForward sender q
  | request r => exact answers_answerRequest sender r
  | manage m => exact answers_answerManage fd sender m
  | keepalive k => exact answers_answerKeepAlive sender k

end Emits

/-- The events are those of packets with a smaller rank. -/
def Event.Below (W : XdmcpWriter) (n : Nat) : Event → Prop
  | .send _ m => rank (m.datagram W) < n
  | _ => True

lemma Event.IsAnswer.below {W : XdmcpWriter} {e : Event} (h : e.IsAnswer) : e.Below W 1 := by
  cases e with
  | send dest m =>
    have hrank := rank_datagram W m
    rw [if_neg (by rw [show m.isForward = false from h]; decide)] at hrank
    exact Nat.lt_succ_of_le hrank
  | _ => trivial

lemma Event.below_two (W : XdmcpWriter) (e : Event) : e.Below W 2 := by
  cases e with
  | send dest m =>
    have hrank := rank_datagram W m
    refine Nat.lt_succ_of_le (hrank.trans ?_)
    split <;> decide
  | _ => trivial

/-- What a daemon sends on a datagram has a smaller rank. -/
lemma below_of_step (W : XdmcpWriter) {fd : Int} {sender : Netaddr} {bytes : ARRAY8}
    (hstep : step (.datagram w fd sender bytes) s = some ((), s')) :
    ∀ e ∈ s'.out, e.Below W (rank bytes) := by
  intro e he
  have hop : processRequestSocket w fd sender bytes _ = some ((), s') := operation_of_step hstep
  rw [processRequestSocket_eq] at hop
  unfold rank
  cases hp : packetIn bytes with
  | none =>
    rw [hp] at hop
    obtain ⟨-, rfl⟩ := Prod.mk.inj (Option.some.inj hop)
    exact absurd he List.not_mem_nil
  | some p =>
    rw [hp] at hop
    by_cases hopcode : p.opcode = .indirectQuery
    · have hrank : p.rank = 2 := by
        cases p <;> first | rfl | exact nomatch hopcode
      change e.Below W p.rank
      rw [hrank]
      exact e.below_two W
    · have hrank : p.rank = 1 := by
        cases p <;> first | rfl | exact absurd rfl hopcode
      have hemits := (Emits.answers_respond fd sender hopcode _ trivial _ _ hop).2
      change e.Below W p.rank
      rw [hrank]
      exact (hemits.mem rfl he).below

/-! ### Networks -/

/-- A datagram on its way. -/
structure Parcel where
  dest : SockAddr
  bytes : ARRAY8

/-- Daemons, and what is on its way between them and anybody else. -/
structure Network (κ : Type) where
  hosts : κ → State
  inFlight : Multiset Parcel

/-- The packets that an operation has sent. -/
def sentParcels (W : XdmcpWriter) (s : State) : List Parcel :=
  s.out.filterMap fun
    | .send dest m => some ⟨dest, m.datagram W⟩
    | _ => none

namespace Network

variable {κ : Type} [DecidableEq κ] {W : XdmcpWriter}

inductive Act (κ : Type)
  /-- A datagram comes to a daemon. -/
  | deliver (k : κ) (w : World) (fd : Int) (sender : Netaddr)
  /-- A datagram is lost, or comes to somebody who is no daemon. -/
  | lose
  /-- A daemon does something else. -/
  | work (k : κ) (i : Input)
  /-- Somebody who is no daemon sends a datagram, or one is duplicated. -/
  | inject

inductive Moves (W : XdmcpWriter) : Network κ → Act κ → Network κ → Prop
  | deliver {net : Network κ} {k : κ} {w : World} {fd : Int} {sender : Netaddr} {p : Parcel}
      {rest : Multiset Parcel} {s' : State} : net.inFlight = p ::ₘ rest →
      step (.datagram w fd sender p.bytes) (net.hosts k) = some ((), s') →
      Moves W net (.deliver k w fd sender)
        ⟨Function.update net.hosts k s', rest + (sentParcels W s' : Multiset Parcel)⟩
  | lose {net : Network κ} {p : Parcel} {rest : Multiset Parcel} : net.inFlight = p ::ₘ rest →
      Moves W net .lose ⟨net.hosts, rest⟩
  | work {net : Network κ} {k : κ} {i : Input} {s' : State} : i.packet? = none →
      step i (net.hosts k) = some ((), s') →
      Moves W net (.work k i)
        ⟨Function.update net.hosts k s', net.inFlight + (sentParcels W s' : Multiset Parcel)⟩
  | inject {net : Network κ} (p : Parcel) : Moves W net .inject ⟨net.hosts, p ::ₘ net.inFlight⟩

/-- The smaller parcel cannot start as long a chain. -/
def Smaller (p q : Parcel) : Prop := rank p.bytes < rank q.bytes

lemma wellFounded_smaller : WellFounded Smaller :=
  InvImage.wf (fun p : Parcel => rank p.bytes) Nat.lt_wfRel.wf

lemma smaller_of_step {fd : Int} {sender : Netaddr} {p q : Parcel}
    (hstep : step (.datagram w fd sender p.bytes) s = some ((), s'))
    (hq : q ∈ sentParcels W s') : Smaller q p := by
  obtain ⟨e, he, heq⟩ := List.mem_filterMap.1 hq
  have hbelow := below_of_step W hstep e he
  cases e with
  | send dest m =>
    obtain rfl := Option.some.inj heq
    exact hbelow
  | _ => exact nomatch heq

/-- A packet is sent that answers no packet of the network. -/
def Adds (net : Network κ) (act : Act κ) (net' : Network κ) : Prop :=
  match act with
  | .inject => True
  | .work _ _ => net'.inFlight ≠ net.inFlight
  | _ => False

def Act.delivers : Act κ → Bool
  | .deliver .. => true
  | _ => false

lemma Moves.cutExpand {net net' : Network κ} {act : Act κ} (h : Moves W net act net')
    (hquiet : ¬ Adds net act net') : net'.inFlight = net.inFlight ∧ act.delivers = false ∨
      CutExpand Smaller net'.inFlight net.inFlight := by
  cases h with
  | deliver hflight hstep =>
    refine Or.inr ?_
    rw [hflight]
    exact Cascade.cutExpand_answer fun q hq => smaller_of_step hstep (Multiset.mem_coe.1 hq)
  | lose hflight =>
    refine Or.inr ?_
    rw [hflight]
    exact Cascade.cutExpand_loss
  | work _ _ => exact Or.inl ⟨not_not.1 hquiet, rfl⟩
  | inject p => exact absurd trivial hquiet

/-- However many daemons there are, and whatever they, their worlds and everybody else do: in a
run of the network without end, if from some time on all that is sent answers a packet of the
network, then from some time on no daemon receives a packet. -/
theorem cascades_end (W : XdmcpWriter) {net : ℕ → Network κ} {acts : ℕ → Act κ}
    (hmoves : ∀ n, Moves W (net n) (acts n) (net (n + 1))) {N : ℕ}
    (hquiet : ∀ n, N ≤ n → ¬ Adds (net n) (acts n) (net (n + 1))) :
    ∃ M, ∀ n, M ≤ n → (acts n).delivers = false := by
  have hstep : ∀ n, (net (N + n + 1)).inFlight = (net (N + n)).inFlight ∧
      (acts (N + n)).delivers = false ∨
      CutExpand Smaller (net (N + n + 1)).inFlight (net (N + n)).inFlight := fun n =>
    (hmoves (N + n)).cutExpand (hquiet (N + n) (Nat.le_add_right N n))
  have hwf := wellFounded_smaller
  obtain ⟨M, hM⟩ := Cascade.settles (m := fun n => (net (N + n)).inFlight) hwf
    fun n => (hstep n).imp_left And.left
  refine ⟨N + M, fun n hn => ?_⟩
  obtain ⟨d, rfl⟩ := Nat.exists_eq_add_of_le hn
  rw [Nat.add_assoc]
  refine ((hstep (M + d)).resolve_right fun hcut => ?_).2
  have hsame : (net (N + (M + d) + 1)).inFlight = (net (N + (M + d))).inFlight :=
    hM (M + d) (Nat.le_add_right M d)
  rw [hsame] at hcut
  exact hwf.cutExpand.irrefl.irrefl _ hcut

/-- A daemon answers a query, and has nothing to do from then on. -/
theorem cascades_end_query : ∃ (net : ℕ → Network Unit) (acts : ℕ → Act Unit),
    (∀ n, Moves (Writer.cutting UInt8 xdmMaxMsglen) (net n) (acts n) (net (n + 1))) ∧
    (acts 0).delivers = true ∧ ∃ M, ∀ n, M ≤ n → (acts n).delivers = false := by
  obtain ⟨s₁, s₂, hquery, hstop, hidle, hout⟩ : ∃ s₁ s₂,
      step (.datagram World.silent 3 Netaddr.guest [0, 1, 0, 2, 0, 1, 0])
        (State.initial Config.plain 0) = some ((), s₁) ∧
      step .stopAll s₁ = some ((), s₂) ∧ step .stopAll s₂ = some ((), s₂) ∧ s₂.out = [] :=
    ⟨_, _, rfl, rfl, rfl, rfl⟩
  let W : XdmcpWriter := Writer.cutting UInt8 xdmMaxMsglen
  let p : Parcel := ⟨Netaddr.guest.sa, [0, 1, 0, 2, 0, 1, 0]⟩
  let answers : Multiset Parcel := 0 + (sentParcels W s₁ : Multiset Parcel)
  let net : ℕ → Network Unit := fun n =>
    if n = 0 then ⟨fun _ => State.initial Config.plain 0, {p}⟩
    else if n = 1 then ⟨fun _ => s₁, answers⟩ else ⟨fun _ => s₂, answers⟩
  let acts : ℕ → Act Unit := fun n =>
    if n = 0 then .deliver () World.silent 3 Netaddr.guest else .work () .stopAll
  have hhosts (s s' : State) : Function.update (fun _ : Unit => s) () s' = fun _ => s' :=
    funext fun _ => Function.update_self ..
  have hnothing : sentParcels W s₂ = [] := by rw [sentParcels, hout, List.filterMap_nil]
  have hwork {s : State} (parcels : Multiset Parcel) (hstep : step .stopAll s = some ((), s₂)) :
      Moves W ⟨fun _ => s, parcels⟩ (.work () .stopAll) ⟨fun _ => s₂, parcels⟩ := by
    have hmove : Moves W ⟨fun _ => s, parcels⟩ (.work () .stopAll) _ := .work rfl hstep
    rwa [hhosts, hnothing, Multiset.coe_nil, add_zero] at hmove
  have hmoves : ∀ n, Moves W (net n) (acts n) (net (n + 1)) := by
    rintro (_ | _ | n)
    · have hflight : (net 0).inFlight = p ::ₘ 0 := rfl
      have hmove : Moves W (net 0) (acts 0) _ := .deliver hflight hquery
      have hhosts₀ : Function.update (net 0).hosts () s₁ = fun _ => s₁ := hhosts _ s₁
      rwa [hhosts₀] at hmove
    · exact hwork answers hstop
    · exact hwork answers hidle
  have hquiet : ∀ n, 0 ≤ n → ¬ Adds (net n) (acts n) (net (n + 1)) := by
    rintro (_ | _ | n) _
    · exact id
    · exact not_not.2 rfl
    · exact not_not.2 rfl
  exact ⟨net, acts, hmoves, rfl, cascades_end W hmoves hquiet⟩

end Network

end Xdm
