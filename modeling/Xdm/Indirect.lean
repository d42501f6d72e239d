/-
# The marks of indirect clients

`all_query_respond` marks a client that has sent an indirect query, and takes the mark away
when the client sends any other query; `manage` takes it away when it starts a display.  The
set of marked clients is a list, from which `ForgetIndirectClient` removes only the first
record; so that this is the only one for the client is part of the invariant.
-/
import Xdm.Managing
import Xdm.Operations

namespace Xdm

open Prog

variable {config : Config} {g : Nat} {h : List (Step State Input)} {s s' t : State} {i : Input}
variable {w : World} {fd : Int} {sender : Netaddr} {m : Manage} {pdpy : ProtoDisplay}
variable {addr : ARRAY8} {connectionType : CARD16} {users : List IndirectUser}

/-! ### The list of marks -/

/-- What a record of the list is for. -/
def IndirectUser.key (i : IndirectUser) : ARRAY8 × CARD16 := (i.client, i.connectionType)

/-- The client of this address and type is marked. -/
def State.marked (s : State) (client : ARRAY8 × CARD16) : Bool :=
  isIndirectClient client.1 client.2 s.indirectUsers

/-- No two records are for the same client. -/
def State.UniqueMarks (s : State) : Prop := Keyed.Distinct IndirectUser.key s.indirectUsers

lemma IndirectUser.isFor_iff {i : IndirectUser} :
    i.isFor addr connectionType = true ↔ i.key = (addr, connectionType) := by
  unfold IndirectUser.isFor IndirectUser.key
  rw [decide_eq_true_eq, Prod.mk.injEq]
  exact and_congr eq_comm eq_comm

lemma isIndirectClient_iff :
    isIndirectClient addr connectionType users = true ↔
      (addr, connectionType) ∈ users.map IndirectUser.key := by
  unfold isIndirectClient
  simp only [List.any_eq_true, IndirectUser.isFor_iff, List.mem_map]

/-- Removing the first record of a client removes the only one. -/
lemma forget_eq_filter (hu : Keyed.Distinct IndirectUser.key users) :
    users.eraseP (IndirectUser.isFor addr connectionType) =
      users.filter fun i => !i.isFor addr connectionType := by
  induction users with
  | nil => rfl
  | cons i users ih =>
    obtain ⟨hfresh, hrest⟩ := List.nodup_cons.1 hu
    by_cases hfor : i.isFor addr connectionType = true
    · rw [List.eraseP_cons_of_pos hfor, List.filter_cons_of_neg (by simp [hfor])]
      refine (List.filter_eq_self.2 fun j hj => ?_).symm
      -- another record for the client would have the key of the first one
      rw [Bool.not_eq_true', ← Bool.not_eq_true, IndirectUser.isFor_iff]
      intro hkey
      exact hfresh (List.mem_map.2 ⟨j, hj, hkey.trans (IndirectUser.isFor_iff.1 hfor).symm⟩)
    · rw [List.eraseP_cons_of_neg (by simpa using hfor),
        List.filter_cons_of_pos (by simpa using hfor), ih hrest]

/-- What a call of `RememberIndirectClient` or `ForgetIndirectClient` makes of the list. -/
inductive Marking (client : ARRAY8 × CARD16) : Bool → List IndirectUser → List IndirectUser → Prop
  | known (users : List IndirectUser) : client ∈ users.map IndirectUser.key →
      Marking client true users users
  | new (users : List IndirectUser) : client ∉ users.map IndirectUser.key →
      Marking client true users (⟨client.1, client.2⟩ :: users)
  | forget (users : List IndirectUser) :
      Marking client false users (users.eraseP (IndirectUser.isFor client.1 client.2))

variable {client other : ARRAY8 × CARD16} {mark : Bool} {users' : List IndirectUser}

lemma Marking.distinct (hmark : Marking client mark users users')
    (hu : Keyed.Distinct IndirectUser.key users) : Keyed.Distinct IndirectUser.key users' := by
  cases hmark with
  | known => exact hu
  | new _ hfresh => exact List.nodup_cons.2 ⟨hfresh, hu⟩
  | forget => exact List.Nodup.sublist (List.eraseP_sublist.map _) hu

/-- Afterwards the client has the mark, or has it not, and the others are as before. -/
lemma Marking.mem_iff (hmark : Marking client mark users users')
    (hu : Keyed.Distinct IndirectUser.key users) : other ∈ users'.map IndirectUser.key ↔
      if other = client then mark = true else other ∈ users.map IndirectUser.key := by
  cases hmark with
  | known _ hknown =>
    split_ifs with heq
    · exact iff_of_true (heq ▸ hknown) rfl
    · exact Iff.rfl
  | new _ hfresh =>
    rw [List.map_cons, List.mem_cons]
    split_ifs with heq
    · exact iff_of_true (Or.inl heq) rfl
    · exact or_iff_right heq
  | forget =>
    rw [forget_eq_filter hu, List.mem_map]
    split_ifs with heq
    · refine iff_of_false ?_ (by simp)
      rintro ⟨i, hi, hkey⟩
      have hfor := IndirectUser.isFor_iff.2 (hkey.trans heq)
      simp [hfor] at hi
    · rw [List.mem_map]
      constructor
      · rintro ⟨i, hi, hkey⟩
        exact ⟨i, (List.mem_filter.1 hi).1, hkey⟩
      · rintro ⟨i, hi, hkey⟩
        refine ⟨i, List.mem_filter.2 ⟨hi, ?_⟩, hkey⟩
        rw [Bool.not_eq_true', ← Bool.not_eq_true, IndirectUser.isFor_iff]
        exact fun hclient => heq (hkey.symm.trans hclient)

/-! ### Queries -/

/-- The call of `all_query_respond` that a datagram leads to: the client, and the type of its
query. -/
def allQueryCall (w : World) (sender : Netaddr) (datagram : ARRAY8) (s : State) :
    Option (Netaddr × XdmOpCode) :=
  match readHeader datagram with
  | none => none
  | some (header, payload) =>
    if header.version = xdmProtocolVersion then
      match XdmOpCode.ofCARD16 header.opcode with
      | some .broadcastQuery => direct header payload .broadcastQuery
      | some .query => direct header payload .query
      | some .indirectQuery =>
        -- only if the local host is among the hosts of the client's entry
        if reportsLocalhost then direct header payload .indirectQuery else none
      | some .forwardQuery => forwarded header payload
      | _ => none
    else none
where
  direct (header : XdmcpHeader) (payload : ARRAY8) (type : XdmOpCode) :
      Option (Netaddr × XdmOpCode) :=
    match readARRAYofARRAY8 payload with
    | none => none
    | some (names, _) =>
      if header.length.toNat = 1 + sizeARRAYofARRAY8 names then some (sender, type) else none
  forwarded (header : XdmcpHeader) (payload : ARRAY8) : Option (Netaddr × XdmOpCode) :=
    match readForwardQuery payload with
    | none => none
    | some (q, _) =>
      if header.length.toNat = q.expectedLen then
        (forwardedClient (netaddrFamily sender.sa) q).map fun client => (client, .forwardQuery)
      else none
  reportsLocalhost : Bool :=
    let client := clientAddress sender.sa
    (forEachMatchingIndirectHost w s.database (choiceOf w s client.1 client.2.2) client.1
      client.2.2).haveLocalhost

/-- The client of a call of `all_query_respond` as the marks know it; none for an address
family without clients. -/
def queriedClient (call : Netaddr × XdmOpCode) : Option ((ARRAY8 × CARD16) × XdmOpCode) :=
  match convertAddr call.1.sa with
  | (none, _) => none
  | (some connectionType, addr) => some ((addr, connectionType), call.2)

/-- From `s` to `s'` the marks have changed as the call says. -/
def MarkedBy (call : Option ((ARRAY8 × CARD16) × XdmOpCode)) (s s' : State) : Prop :=
  match call with
  | none => s'.indirectUsers = s.indirectUsers
  | some (client, type) =>
    Marking client (decide (type = .indirectQuery)) s.indirectUsers s'.indirectUsers

/-- The marks have not changed. -/
def SameMarks (s s' : State) : Prop := s'.indirectUsers = s.indirectUsers

instance : Std.Refl SameMarks := ⟨fun _ => rfl⟩
instance : IsTrans State SameMarks := ⟨fun _ _ _ h h' => Eq.trans h' h⟩

/-- Answering the query leaves the marks alone. -/
lemma sameMarks_answerQuery (names : List ARRAY8) (type : XdmOpCode) :
    Respects SameMarks (answerQuery w sender names addr connectionType type) := by
  refine Keeps.bind Keeps.get fun s => ?_
  exact Keeps.ite (fun _ => Keeps.modify fun _ _ => ⟨trivial, rfl⟩) fun _ =>
    Keeps.ite (fun _ => Keeps.modify fun _ _ => ⟨trivial, rfl⟩) fun _ => Keeps.pure _

lemma wlp_allQueryRespond_marks (halloc : w.alloc = Alloc.ok) (names : List ARRAY8)
    (type : XdmOpCode) :
    Wlp (allQueryRespond w sender names type)
      (fun _ s' => MarkedBy (queriedClient (sender, type)) s s') s := by
  unfold allQueryRespond queriedClient
  cases hconvert : convertAddr sender.sa with
  | mk family addr =>
  cases family with
  | none => exact (wlp_pure _ _ _).2 rfl
  | some connectionType =>
    have hanswer : ∀ t, Marking (addr, connectionType) (decide (type = .indirectQuery))
        s.indirectUsers t.indirectUsers →
        Wlp (answerQuery w sender names addr connectionType type) (fun _ s' =>
          MarkedBy (some ((addr, connectionType), type)) s s') t := by
      intro t ht
      refine (sameMarks_answerQuery names type t trivial).mono fun _ s' h => ?_
      have hsame : s'.indirectUsers = t.indirectUsers := h.2
      unfold MarkedBy
      dsimp only
      rw [hsame]
      exact ht
    refine wlp_ite (fun htype => ?_) fun htype => ?_
    · simp only [rememberIndirectClient, wlp_bind, wlp_modify]
      refine hanswer _ ?_
      rw [decide_eq_true htype, halloc]
      by_cases hmarked : isIndirectClient addr connectionType s.indirectUsers = true
      · rw [if_pos (Or.inl hmarked)]
        exact .known _ (isIndirectClient_iff.1 hmarked)
      · rw [if_neg (by simp [hmarked, Alloc.ok])]
        exact .new _ fun hmem => hmarked (isIndirectClient_iff.2 hmem)
    · simp only [forgetIndirectClient, wlp_bind, wlp_modify]
      refine hanswer _ ?_
      rw [decide_eq_false htype]
      exact .forget _

lemma sameMarks_sendForwards (isLocal : Bool) (port : ARRAY8) (names hosts : List ARRAY8) :
    Respects SameMarks (hosts.forM (sendForward w isLocal addr port names)) := by
  refine Keeps.forM fun host _ => ?_
  unfold sendForward
  split
  · exact Keeps.pure _
  · exact Keeps.modify fun _ _ => ⟨trivial, rfl⟩

/-- A query whose header announces the right length. -/
lemma wlp_directQueryRespond_marks (halloc : w.alloc = Alloc.ok) (header : XdmcpHeader)
    (payload : ARRAY8) (type : XdmOpCode) :
    Wlp (directQueryRespond w sender header.length.toNat payload type) (fun _ s' =>
      MarkedBy ((allQueryCall.direct sender header payload type).bind queriedClient) s s') s := by
  unfold directQueryRespond allQueryCall.direct
  cases readARRAYofARRAY8 payload with
  | none => exact (wlp_pure _ _ _).2 rfl
  | some p =>
    dsimp only
    split_ifs
    · exact wlp_allQueryRespond_marks halloc _ type
    · exact (wlp_pure _ _ _).2 rfl

/-- The query of an indirect client is answered if the local host is among its hosts. -/
lemma wlp_answerIndirect_marks (halloc : w.alloc = Alloc.ok) (names : List ARRAY8) :
    Wlp (answerIndirect w sender names) (fun _ s' => MarkedBy
      ((if allQueryCall.reportsLocalhost w sender s then some (sender, .indirectQuery)
        else none).bind queriedClient) s s') s := by
  unfold answerIndirect allQueryCall.reportsLocalhost
  generalize clientAddress sender.sa = client
  obtain ⟨addr, port, connectionType⟩ := client
  dsimp only
  rw [wlp_bind]
  refine Wlp.of_eq ((wlp_pure _ _ _).2 ?_) (choiceFor_eq ..)
  rw [wlp_bind, wlp_get, wlp_bind, State.askedChoice_database]
  refine (sameMarks_sendForwards _ port names _ _ trivial).mono fun _ t ht => ?_
  have hsame : t.indirectUsers = s.indirectUsers :=
    ht.2.trans (State.askedChoice_indirectUsers w addr connectionType)
  split_ifs with hlocal
  · refine (wlp_allQueryRespond_marks halloc names .indirectQuery).mono fun _ s' hs' => ?_
    unfold MarkedBy at hs' ⊢
    rwa [hsame] at hs'
  · exact (wlp_pure _ _ _).2 hsame

lemma wlp_indirectRespond_marks (halloc : w.alloc = Alloc.ok) (header : XdmcpHeader)
    (payload : ARRAY8) :
    Wlp (indirectRespond w sender header.length.toNat payload) (fun _ s' => MarkedBy
      ((if allQueryCall.reportsLocalhost w sender s then
        allQueryCall.direct sender header payload .indirectQuery else none).bind queriedClient)
      s s') s := by
  have hidle : Wlp (pure () : M Unit) (fun _ s' => MarkedBy none s s') s := (wlp_pure _ _ _).2 rfl
  unfold indirectRespond allQueryCall.direct
  cases readARRAYofARRAY8 payload with
  | none => simpa using hidle
  | some p =>
    obtain ⟨names, rest⟩ := p
    dsimp only
    by_cases hlength : header.length.toNat = 1 + sizeARRAYofARRAY8 names
    · rw [if_pos hlength, if_pos hlength]
      exact wlp_answerIndirect_marks halloc names
    · rw [if_neg hlength, if_neg hlength]
      simpa using hidle

lemma wlp_forwardRespond_marks (halloc : w.alloc = Alloc.ok) (header : XdmcpHeader)
    (payload : ARRAY8) :
    Wlp (forwardRespond w sender header.length.toNat payload) (fun _ s' =>
      MarkedBy ((allQueryCall.forwarded sender header payload).bind queriedClient) s s') s := by
  unfold forwardRespond allQueryCall.forwarded
  cases readForwardQuery payload with
  | none => exact (wlp_pure _ _ _).2 rfl
  | some p =>
    dsimp only
    split_ifs
    · unfold answerForward
      cases forwardedClient (netaddrFamily sender.sa) p.1 with
      | none => exact (wlp_pure _ _ _).2 rfl
      | some client => exact wlp_allQueryRespond_marks halloc _ .forwardQuery
    · exact (wlp_pure _ _ _).2 rfl

lemma sameMarks_sendAlive (length : Nat) (payload : ARRAY8) :
    Respects SameMarks (sendAlive sender length payload) := by
  unfold sendAlive
  split
  · exact Keeps.pure _
  · refine Keeps.ite (fun _ => Keeps.bind Keeps.get fun s => ?_) fun _ => Keeps.pure _
    dsimp only
    split
    · exact Keeps.modify fun _ _ => ⟨trivial, rfl⟩
    · exact Keeps.modify fun _ _ => ⟨trivial, rfl⟩

/-- Only `all_query_respond` changes the marks. -/
lemma wlp_processRequestSocket_marks (halloc : w.alloc = Alloc.ok) {datagram : ARRAY8}
    (hr : requestIn datagram = none) (hm : manageIn datagram = none) :
    Wlp (processRequestSocket w fd sender datagram) (fun _ s' =>
      MarkedBy ((allQueryCall w sender datagram s).bind queriedClient) s s') s := by
  have hidle : Wlp (pure () : M Unit) (fun _ s' => MarkedBy none s s') s := (wlp_pure _ _ _).2 rfl
  unfold processRequestSocket allQueryCall
  cases hheader : readHeader datagram with
  | none => exact hidle
  | some p =>
  obtain ⟨header, payload⟩ := p
  dsimp only
  by_cases hversion : header.version = xdmProtocolVersion
  swap
  · rw [if_neg hversion, if_neg hversion]
    exact hidle
  rw [if_pos hversion, if_pos hversion]
  cases hopcode : XdmOpCode.ofCARD16 header.opcode with
  | none => exact hidle
  | some opcode =>
  cases opcode with
  | broadcastQuery => exact wlp_directQueryRespond_marks halloc header payload _
  | query => exact wlp_directQueryRespond_marks halloc header payload _
  | indirectQuery => exact wlp_indirectRespond_marks halloc header payload
  | forwardQuery => exact wlp_forwardRespond_marks halloc header payload
  | request =>
    dsimp only
    rw [requestRespond_eq_pure w sender hr (by simp [payloadIn, hheader, hversion, hopcode])]
    exact hidle
  | manage =>
    dsimp only
    rw [manage_eq_pure w fd sender hm (by simp [payloadIn, hheader, hversion, hopcode])]
    exact hidle
  | keepalive => exact (sameMarks_sendAlive _ _ s trivial).mono fun _ _ h => h.2
  | _ => exact hidle

/-! ### Everything else -/

/-- The client of a display. -/
def Display.clientKey (d : Display) : ARRAY8 × CARD16 := (d.clientAddr, d.connectionType)

/-- No display has got a chooser. -/
def SameChoosers (s s' : State) : Prop :=
  ∀ d ∈ s'.displays, d.useChooser = true →
    ∃ y ∈ s.displays, y.addr = d.addr ∧ y.useChooser = true ∧ y.clientKey = d.clientKey

/-- Neither the marks nor the choosers have changed. -/
structure Idle (s s' : State) : Prop where
  marks : SameMarks s s'
  choosers : SameChoosers s s'

lemma Shrinks.sameChoosers (h : Shrinks s s') : SameChoosers s s' := by
  intro d hd huse
  obtain ⟨y, hy, hid⟩ := h.mem hd
  exact ⟨y, hy, congrArg Identity.addr hid, (congrArg Identity.useChooser hid).trans huse,
    congrArg (fun i : Identity => (i.clientAddr, i.connectionType)) hid⟩

namespace Idle

instance : Std.Refl Idle := ⟨fun _ => ⟨rfl, fun d hd huse => ⟨d, hd, rfl, huse, rfl⟩⟩⟩

instance : IsTrans State Idle := ⟨fun _ _ _ h h' => ⟨Eq.trans h'.marks h.marks, fun d hd huse => by
  obtain ⟨y, hy, haddr, huse, hclient⟩ := h'.choosers d hd huse
  obtain ⟨x, hx, haddr', huse, hclient'⟩ := h.choosers y hy huse
  exact ⟨x, hx, haddr'.trans haddr, huse, hclient'.trans hclient⟩⟩⟩

lemma works (a : Nat) : Works a Idle where
  store := fun _ _ hf => ⟨rfl, (Shrinks.write hf).sameChoosers⟩
  remove := fun s => ⟨rfl, ((Shrinks.works a).remove s).sameChoosers⟩
  emit := fun _ _ _ => ⟨rfl, (Shrinks.of_eq rfl).sameChoosers⟩
  kernel := fun _ _ => ⟨rfl, (Shrinks.of_eq rfl).sameChoosers⟩

/-- A store that leaves the chooser alone. -/
lemma write {a : Nat} {f : Display → Display} (haddr : ∀ d, (f d).addr = d.addr)
    (huse : ∀ d, (f d).useChooser = d.useChooser) (hclient : ∀ d, (f d).clientKey = d.clientKey) :
    Idle s (s.write a f) := by
  refine ⟨rfl, fun d hd hchooser => ?_⟩
  rcases State.mem_write.1 hd with ⟨y, hy, -, rfl⟩ | ⟨hd, -⟩
  · exact ⟨y, hy, (haddr y).symm, (huse y).symm.trans hchooser, (hclient y).symm⟩
  · exact ⟨d, hd, rfl, hchooser, rfl⟩

/-- A new display has no chooser. -/
lemma enter {x : Display} (hx : x.useChooser = false) : Idle s (s.enter x) := by
  refine ⟨rfl, fun d hd hchooser => ?_⟩
  rcases List.mem_cons.1 hd with rfl | hd
  · exact absurd (hx.symm.trans hchooser) (by simp)
  · exact ⟨d, hd, rfl, hchooser, rfl⟩

lemma parseDisplay (source : Str) : Respects Idle (parseDisplay source) := by
  intro s _
  refine wlp_parseDisplay_of source ⟨trivial, refl s⟩
    (fun _ _ => ⟨trivial, write (fun _ => rfl) (fun _ => rfl) fun _ => rfl⟩)
    fun {name _ className _} _ _ => ⟨trivial, ?_⟩
  have henter : Idle s (s.enter (newDisplayAt s.nextAddr name className)) := enter rfl
  exact IsTrans.trans _ _ _ henter (write (fun _ => rfl) (fun _ => rfl) fun _ => rfl)

lemma operates : Operates (fun _ => True) Idle :=
  Operates.of_works works (fun _ _ _ h => ⟨trivial, h⟩) parseDisplay
    (fun _ => Keeps.modify fun _ _ => ⟨trivial, rfl, (Shrinks.of_eq rfl).sameChoosers⟩)
    fun _ => Keeps.modify fun _ _ => ⟨trivial, rfl, (Shrinks.of_eq rfl).sameChoosers⟩

end Idle

lemma Answered.sameMarks {r : Request} (h : Answered w sender r s s') : SameMarks s s' := by
  cases h with
  | refused => rfl
  | outOfMemory => rfl
  | declined _ _ hp _ => cases hp <;> rfl
  | accepted _ hp _ => cases hp <;> rfl

/-! ### `MANAGE` -/

@[simp] lemma State.terminated_indirectUsers (s : State) (name : Str) :
    (s.terminated name).indirectUsers = s.indirectUsers := by
  unfold State.terminated
  split
  · exact State.stopped_indirectUsers s _
  · rfl

lemma State.terminated_usesChooser (s : State) (name : Str) :
    (s.terminated name).usesChooser w addr connectionType =
      s.usesChooser w addr connectionType := by
  unfold State.terminated State.stopped
  split
  · split_ifs <;> rfl
  · rfl

/-- `manage` takes the mark away. -/
lemma State.askedChooser_indirectUsers (s : State) :
    (s.askedChooser w addr connectionType).indirectUsers =
      s.indirectUsers.eraseP (IndirectUser.isFor addr connectionType) := by
  unfold State.askedChooser
  split_ifs with hmarked
  · exact State.askedChoice_indirectUsers ..
  · refine (List.eraseP_of_forall_not fun i hi hfor => hmarked ?_).symm
    exact List.any_eq_true.2 ⟨i, hi, hfor⟩

/-- The client that `MANAGE` starts a display for, as `ClientAddress` gives it. -/
def Netaddr.clientKey (sender : Netaddr) : ARRAY8 × CARD16 :=
  ((clientAddress sender.sa).1, (clientAddress sender.sa).2.2)

/-- A `MANAGE` starts no display, or one for the sender, whose mark goes. -/
inductive Opens (w : World) (sender : Netaddr) (s s' : State) : Prop
  | nothing : SameMarks s s' → Shrinks s s' → Opens w sender s s'
  | display (d : Display) : Marking sender.clientKey false s.indirectUsers s'.indirectUsers →
      d.addr = s.nextAddr → d.clientKey = sender.clientKey →
      d.useChooser = s.usesChooser w sender.clientKey.1 sender.clientKey.2 → d ∈ s'.displays →
      (∀ x ∈ s'.displays, x ≠ d → ∃ y ∈ s.displays, y.identity = x.identity) →
      Opens w sender s s'

lemma startManaged_opens (hs : s.Sound [] none) (halloc : w.alloc = Alloc.ok)
    (hrun : startManaged w fd sender m pdpy s = some ((), s')) : Opens w sender s s' := by
  obtain ⟨q, t, hways, hrun⟩ := managePath_of_run hs hrun
  cases hways with
  | noName =>
    obtain ⟨-, rfl⟩ := Prod.mk.inj (Option.some.inj hrun)
    exact .nothing rfl (Shrinks.of_eq rfl)
  | noMemory name _ hno => simp [Alloc.display, halloc, Alloc.ok] at hno
  | leaked name _ _ hloses => simp [losesAuthorization, halloc, Alloc.ok] at hloses
  | ready name =>
    obtain ⟨k, y, rfl, hy⟩ := wlp_startReady hs _ _ hrun
    have hid := hy.identity_eq
    refine .display y ?_ ?_ ?_ ?_ (List.mem_cons_self ..) fun x hx hne => ?_
    · have husers : ((s.terminated name).settled w sender pdpy).indirectUsers =
          s.indirectUsers.eraseP (IndirectUser.isFor sender.clientKey.1 sender.clientKey.2) :=
        (State.askedChooser_indirectUsers _).trans
          (congrArg _ (State.terminated_indirectUsers s name))
      exact husers ▸ .forget _
    · exact (congrArg Identity.addr hid).trans (State.terminated_nextAddr s name)
    · exact congrArg (fun i : Identity => (i.clientAddr, i.connectionType)) hid
    · exact (congrArg Identity.useChooser hid).trans (State.terminated_usesChooser s name)
    · have hx : x ∈ (s.terminated name).displays := by
        rw [← State.settled_displays (s.terminated name) w sender pdpy]
        exact (List.mem_cons.1 hx).resolve_left hne
      exact (shrinks_terminated s name).mem hx

/-! ### One step -/

/-- The call of `all_query_respond` in a step. -/
def queryCall (x : Step State Input) : Option ((ARRAY8 × CARD16) × XdmOpCode) :=
  match x.input with
  | .datagram w _ sender datagram => (allQueryCall w sender datagram x.pre).bind queriedClient
  | _ => none

/-- The step is a `MANAGE`, and has started the display `d`. -/
def ManageStarts (x : Step State Input) (d : Display) : Prop :=
  x.input.manage?.isSome = true ∧ d ∈ x.post.displays ∧ ∀ y ∈ x.pre.displays, y.addr ≠ d.addr

/-- The step is a query of the client, or starts a display for it. -/
def Settles (client : ARRAY8 × CARD16) (x : Step State Input) : Prop :=
  (∃ type, queryCall x = some (client, type)) ∨ ∃ d, ManageStarts x d ∧ d.clientKey = client

/-- No query is read from a `REQUEST` or a `MANAGE`. -/
lemma allQueryCall_of_payload {opcode : XdmOpCode} {length : Nat} {datagram payload : ARRAY8}
    (hpayload : payloadIn opcode datagram = some (length, payload))
    (hopcode : opcode = .request ∨ opcode = .manage) : allQueryCall w sender datagram s = none := by
  obtain ⟨header, hheader, hversion, hread, -⟩ := payloadIn_eq_some hpayload
  unfold allQueryCall
  rw [hheader]
  dsimp only
  rw [if_pos hversion, hread]
  rcases hopcode with rfl | rfl <;> rfl

lemma queryCall_of_request {p : World × Netaddr × Request} (hr : i.request? = some p) :
    queryCall ⟨s, i, s'⟩ = none := by
  cases i with
  | datagram w fd sender bytes =>
    obtain ⟨r, hrequest, -⟩ := Option.map_eq_some_iff.1 hr
    obtain ⟨length, payload, rest, hpayload, -⟩ := requestIn_eq_some hrequest
    have hno : allQueryCall w sender bytes s = none := allQueryCall_of_payload hpayload (Or.inl rfl)
    change (allQueryCall w sender bytes s).bind queriedClient = none
    rw [hno, Option.bind_none]
  | _ => rfl

lemma queryCall_of_manage {p : World × Netaddr × Manage} (hm : i.manage? = some p) :
    queryCall ⟨s, i, s'⟩ = none := by
  cases i with
  | datagram w fd sender bytes =>
    obtain ⟨m, hmanage, -⟩ := Option.map_eq_some_iff.1 hm
    obtain ⟨length, payload, rest, hpayload, -⟩ := manageIn_eq_some hmanage
    have hno : allQueryCall w sender bytes s = none := allQueryCall_of_payload hpayload (Or.inr rfl)
    change (allQueryCall w sender bytes s).bind queriedClient = none
    rw [hno, Option.bind_none]
  | _ => rfl

/-- What a step does to the marks and the choosers. -/
inductive Marks (x : Step State Input) : Prop
  | called : x.input.manage? = none → MarkedBy (queryCall x) x.pre x.post →
      SameChoosers x.pre x.post → Marks x
  | managed (w : World) (sender : Netaddr) (m : Manage) :
      x.input.manage? = some (w, sender, m) → queryCall x = none →
      Opens w sender x.pre x.post → Marks x

/-- The rule for steps. -/
theorem step_marks (hs : s.Sound [] none) (halloc : ∀ w ∈ i.worlds, w.alloc = Alloc.ok)
    (hstep : step i s = some ((), s')) : Marks ⟨s, i, s'⟩ := by
  have hop := operation_of_step hstep
  cases hm : i.manage? with
  | some p =>
    obtain ⟨w, sender, m⟩ := p
    have hw : w.alloc = Alloc.ok := halloc w (mem_worlds_of_manage hm)
    obtain ⟨fd, hfd⟩ := operation_of_manage hm
    rw [hfd] at hop
    refine .managed w sender m hm (queryCall_of_manage hm) ?_
    have hbegin : ∀ {t}, Opens w sender (s.begin i) t → Opens w sender s t := fun h => by
      cases h with
      | nothing hsame hshrinks => exact .nothing hsame hshrinks
      | display d hmark haddr hclient huse hd hold =>
        exact .display d hmark haddr hclient huse hd hold
    cases (wlp_answerManage (hs.begin i) _ _ hop).2 with
    | stale _ _ _ heq => exact heq ▸ .nothing rfl (Shrinks.of_eq rfl)
    | unknown _ _ heq => exact heq ▸ .nothing rfl (Shrinks.of_eq rfl)
    | ignored _ _ _ _ heq => exact heq ▸ .nothing rfl (Shrinks.of_eq rfl)
    | managed pdpy hfind hid _ =>
      rw [answerManage_eq hfind hid] at hop
      exact hbegin (startManaged_opens (hs.begin i) hw hop)
  | none =>
    cases hi : i.isInternal with
    | true =>
      obtain ⟨-, hidle⟩ := Idle.operates.operation hi _ trivial _ _ hop
      have hcall : queryCall ⟨s, i, s'⟩ = none := by
        cases i with
        | datagram => cases hi
        | _ => rfl
      refine .called hm ?_ hidle.choosers
      rw [hcall]
      exact hidle.marks
    | false =>
      refine .called hm ?_ (Shrinks.of_eq (step_displays hi hm hstep)).sameChoosers
      cases hr : i.request? with
      | some p =>
        obtain ⟨w, sender, r⟩ := p
        rw [operation_of_request hr] at hop
        rw [queryCall_of_request hr]
        exact (wlp_answerRequest _ _ hop).sameMarks
      | none =>
        cases i with
        | datagram w fd sender bytes =>
          have hw : w.alloc = Alloc.ok := halloc w (List.mem_singleton.2 rfl)
          have hmarked := wlp_processRequestSocket_marks hw (Option.map_eq_none_iff.1 hr)
            (Option.map_eq_none_iff.1 hm) _ _ hop
          exact hmarked
        | registerIndirectChoice w addr type choice =>
          obtain ⟨-, rfl⟩ := Prod.mk.inj (Option.some.inj hop)
          change State.indirectUsers (if _ then _ else _) = s.indirectUsers
          split_ifs <;> rfl
        | _ => cases hi

namespace Marks

variable {x : Step State Input}

lemma uniqueMarks (h : Marks x) (hu : x.pre.UniqueMarks) : x.post.UniqueMarks := by
  have hsame : SameMarks x.pre x.post → x.post.UniqueMarks := fun hsame =>
    (congrArg (Keyed.Distinct IndirectUser.key) hsame).mpr hu
  cases h with
  | called _ hmarked _ =>
    cases hcall : queryCall x with
    | none =>
      rw [hcall] at hmarked
      exact hsame hmarked
    | some call =>
      rw [hcall] at hmarked
      exact Marking.distinct hmarked hu
  | managed w sender m _ _ hopens =>
    cases hopens with
    | nothing hmarks _ => exact hsame hmarks
    | display _ hmarking => exact hmarking.distinct hu

/-- A step does not start a display unless it is a `MANAGE`. -/
lemma not_manageStarts_of_manage? {d : Display} (hm : x.input.manage? = none) :
    ¬ ManageStarts x d :=
  fun hd => by simpa [hm] using hd.1

/-- Whoever has been there before is not started. -/
lemma not_manageStarts_of_old {d y : Display} (hy : y ∈ x.pre.displays)
    (hid : y.identity = d.identity) : ¬ ManageStarts x d :=
  fun hd => hd.2.2 y hy (congrArg Identity.addr hid)

/-- A new display in front of the list is started. -/
lemma manageStarts_of_fresh {d : Display} {p : World × Netaddr × Manage} (hs : x.pre.Sound [] none)
    (hm : x.input.manage? = some p) (hd : d ∈ x.post.displays) (haddr : d.addr = x.pre.nextAddr) :
    ManageStarts x d := by
  refine ⟨by rw [hm, Option.isSome_some], hd, fun y hy heq => ?_⟩
  have := hs.bound y hy
  omega

/-- The mark of a client is set by an indirect query, cleared by any other query and by a
`MANAGE` that starts a display for it, and otherwise left alone. -/
lemma marked_iff (h : Marks x) (hs : x.pre.Sound [] none) (hu : x.pre.UniqueMarks) :
    x.post.marked client = true ↔ queryCall x = some (client, .indirectQuery) ∨
      ¬ Settles client x ∧ x.pre.marked client = true := by
  have hmem : ∀ t : State, t.marked client = true ↔
      client ∈ t.indirectUsers.map IndirectUser.key := fun t => isIndirectClient_iff
  have hsame : SameMarks x.pre x.post → queryCall x = none → (∀ d, ¬ ManageStarts x d) →
      (x.post.marked client = true ↔ queryCall x = some (client, .indirectQuery) ∨
        ¬ Settles client x ∧ x.pre.marked client = true) := by
    intro hsame hcall hno
    have hsettles : ¬ Settles client x := by
      rintro (⟨type, htype⟩ | ⟨d, hd, -⟩)
      · simp [hcall] at htype
      · exact hno d hd
    rw [hmem, hmem, hsame, hcall]
    simp [hsettles]
  cases h with
  | called hm hmarked _ =>
    cases hcall : queryCall x with
    | none =>
      rw [hcall] at hmarked
      rw [← hcall]
      exact hsame hmarked hcall fun _ => not_manageStarts_of_manage? hm
    | some call =>
      obtain ⟨caller, type⟩ := call
      rw [hcall] at hmarked
      have hmarking : Marking caller (decide (type = .indirectQuery)) x.pre.indirectUsers
        x.post.indirectUsers := hmarked
      rw [hmem, hmem, hmarking.mem_iff hu]
      split_ifs with heq
      · subst heq
        have hsettles : Settles client x := Or.inl ⟨type, hcall⟩
        simp [hsettles]
      · have hsettles : ¬ Settles client x := by
          rintro (⟨type', htype⟩ | ⟨d, hd, -⟩)
          · rw [hcall] at htype
            exact heq (Prod.mk.inj (Option.some.inj htype)).1.symm
          · exact not_manageStarts_of_manage? hm hd
        simp [hsettles, Ne.symm heq]
  | managed w sender m hm hcall hopens =>
    cases hopens with
    | nothing hmarks hshrinks =>
      refine hsame hmarks hcall fun d hd => ?_
      obtain ⟨y, hy, hid⟩ := hshrinks.mem hd.2.1
      exact not_manageStarts_of_old hy hid hd
    | display d hmarking haddr hclient _ hd hold =>
      rw [hmem, hmem, hmarking.mem_iff hu, hcall]
      split_ifs with heq
      · have hsettles : Settles client x :=
          Or.inr ⟨d, manageStarts_of_fresh hs hm hd haddr, hclient.trans heq.symm⟩
        simp [hsettles]
      · have hsettles : ¬ Settles client x := by
          rintro (⟨type, htype⟩ | ⟨d', hd', hclient'⟩)
          · simp [hcall] at htype
          · -- the only display that has been started is the one for the sender
            by_cases hne : d' = d
            · exact heq ((hne ▸ hclient').symm.trans hclient)
            · obtain ⟨y, hy, hid⟩ := hold d' hd'.2.1 hne
              exact not_manageStarts_of_old hy hid hd'
        simp [hsettles]

/-- A display that has a chooser has had one before, or has been started for a client that was
marked and that `UseChooser` held for. -/
lemma choosers (h : Marks x) (hs : x.pre.Sound [] none) {d : Display} (hd : d ∈ x.post.displays)
    (huse : d.useChooser = true) :
    (∃ y ∈ x.pre.displays, y.addr = d.addr ∧ y.useChooser = true ∧ y.clientKey = d.clientKey) ∨
      ∃ w sender m, x.input.manage? = some (w, sender, m) ∧ ManageStarts x d ∧
        x.pre.usesChooser w d.clientKey.1 d.clientKey.2 = true := by
  cases h with
  | called _ _ hsame => exact Or.inl (hsame d hd huse)
  | managed w sender m hm _ hopens =>
    cases hopens with
    | nothing _ hshrinks => exact Or.inl (hshrinks.sameChoosers d hd huse)
    | display d' _ haddr hclient hchooser _ hold =>
      by_cases heq : d = d'
      · subst heq
        refine Or.inr ⟨w, sender, m, hm, manageStarts_of_fresh hs hm hd haddr, ?_⟩
        rw [hclient, ← hchooser, huse]
      · obtain ⟨y, hy, hid⟩ := hold d hd heq
        exact Or.inl ⟨y, hy, congrArg Identity.addr hid,
          (congrArg Identity.useChooser hid).trans huse,
          congrArg (fun i : Identity => (i.clientAddr, i.connectionType)) hid⟩

end Marks

/-! ### Runs -/

/-- The `MANAGE` of the step has started the display `d` for a client that was marked then, and
`UseChooser` held. -/
def Chosen (x : Step State Input) (d : Display) : Prop :=
  ∃ w sender m, x.input.manage? = some (w, sender, m) ∧
    (∃ y, ManageStarts x y ∧ y.addr = d.addr) ∧ x.pre.marked d.clientKey = true ∧
    useChooser w x.pre.database (choiceOf w x.pre d.clientAddr d.connectionType) d.clientAddr
      d.connectionType = true

/-- In every run without allocation failures: a client is marked if and only if its latest query
was an indirect one and no display has been started for it since; no two records are for the
same client; and a display has a chooser only if the `MANAGE` that has started it found its
client marked, and `UseChooser` held. -/
theorem indirect_clients (run : DaemonRun config g h s)
    (halloc : ∀ x ∈ h, ∀ w ∈ x.input.worlds, w.alloc = Alloc.ok) :
    (∀ client connectionType,
      isIndirectClient client connectionType s.indirectUsers = true ↔
        ∃ h₁ x h₂, h = h₁ ++ x :: h₂ ∧
          queryCall x = some ((client, connectionType), .indirectQuery) ∧
          ∀ y ∈ h₂, ¬ Settles (client, connectionType) y) ∧
    s.UniqueMarks ∧ ∀ d ∈ s.displays, d.useChooser = true → ∃ x ∈ h, Chosen x d := by
  have hmarks : ∀ x ∈ h, x.pre.Sound [] none ∧ Marks x := by
    intro x hx
    obtain ⟨h₁, h₂, -, hrun, hstep⟩ := run.split hx
    exact ⟨run_sound hrun, step_marks (run_sound hrun) (halloc x hx) hstep⟩
  have hpost : s.UniqueMarks ∧ (∀ d ∈ s.displays, d.useChooser = true → ∃ x ∈ h, Chosen x d) ∧
      ∀ x ∈ h, x.pre.UniqueMarks := by
    refine run.invariant_of (C := fun x => x.pre.Sound [] none ∧ Marks x)
      (I := fun h s => s.UniqueMarks ∧ (∀ d ∈ s.displays, d.useChooser = true →
        ∃ x ∈ h, Chosen x d) ∧ ∀ x ∈ h, x.pre.UniqueMarks) ?_ ?_ hmarks
    · exact ⟨List.nodup_nil, by simp [State.initial], by simp⟩
    · rintro h s i s' - ⟨hu, hchosen, hpre⟩ - ⟨hs, hx⟩
      refine ⟨hx.uniqueMarks hu, fun d hd huse => ?_, fun x hmem => ?_⟩
      · rcases hx.choosers hs hd huse with
          ⟨y, hy, haddr, huse, hclient⟩ | ⟨w, sender, m, hm, hd, hw⟩
        · obtain ⟨x, hmem, w, sender, m, hm, ⟨z, hz, hzy⟩, hmarked, hw⟩ := hchosen y hy huse
          obtain ⟨haddr', htype⟩ := Prod.mk.inj hclient
          refine ⟨x, List.mem_append_left _ hmem, w, sender, m, hm, ⟨z, hz, hzy.trans haddr⟩,
            ?_, ?_⟩
          · rwa [← hclient]
          · rwa [← haddr', ← htype]
        · rw [State.usesChooser, Bool.and_eq_true] at hw
          exact ⟨_, List.mem_append_right _ (List.mem_singleton.2 rfl), w, sender, m, hm,
            ⟨d, hd, rfl⟩, hw.1, hw.2⟩
      · rcases List.mem_append.1 hmem with hmem | hmem
        · exact hpre x hmem
        · rw [List.mem_singleton.1 hmem]
          exact hu
  refine ⟨fun client connectionType => ?_, hpost.1, hpost.2.1⟩
  exact run.since (P := fun s => s.marked (client, connectionType) = true)
    (by simp [State.initial, State.marked, isIndirectClient])
    fun x hx => (hmarks x hx).2.marked_iff (hmarks x hx).1 (hpost.2.2 x hx)

/-- A world with an access file that gives every client a chooser. -/
def World.chooser : World :=
  { World.lan 20 7 with
    config := Config.plain
    accessText := some "*\n* CHOOSER BROADCAST\n".toList }

/-- An indirect client, from its query to its display. -/
theorem indirect_clients_chooser : ∃ h s, DaemonRun Config.plain 0 h s ∧
    isIndirectClient [10, 0, 0, 2] familyInternet s.indirectUsers = false ∧
    ∃ d ∈ s.displays, d.clientKey = ([10, 0, 0, 2], familyInternet) ∧ ∃ x ∈ h, Chosen x d := by
  obtain ⟨h, s, run, halloc, hmarked, d, hd, hclient, huse⟩ : ∃ h s,
      DaemonRun Config.plain 0 h s ∧ (∀ x ∈ h, ∀ w ∈ x.input.worlds, w.alloc = Alloc.ok) ∧
      isIndirectClient [10, 0, 0, 2] familyInternet s.indirectUsers = false ∧
      ∃ d ∈ s.displays, d.clientKey = ([10, 0, 0, 2], familyInternet) ∧ d.useChooser = true :=
    exists_run_of_exec [.startUp World.chooser,
      .datagram World.chooser 3 Netaddr.guest [0, 1, 0, 3, 0, 1, 0],
      .request World.chooser Netaddr.guest (Request.plain 0 []),
      .manage World.chooser Netaddr.guest ⟨1, 0, []⟩] (by decide +kernel)
  exact ⟨h, s, run, hmarked, d, hd, hclient, (indirect_clients run halloc).2.2 d hd huse⟩

end Xdm
