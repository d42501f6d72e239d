/-
# What `MANAGE` does, to the last field

`stopDisplay_eq` and `startManaged_eq` say which state `StopDisplay` and the part of `manage`
before `StartDisplay` end in, where the rules of `Xdm.Xdmcp.Negotiation` only say what holds
there.  Starting the display, which is a remote one, changes nothing else than this display
and the kernel.
-/
import Xdm.Removal

namespace Xdm

open Prog

variable {s t v : State} {a : Nat} {d x : Display} {w : World} {fd : Int} {sender : Netaddr}
variable {m : Manage} {pdpy : ProtoDisplay} {name : Str} {dead : List Pid} {busy : Option Nat}

/-! ### Stopping a display -/

/-- The signals of `TerminateProcess`. -/
def terminated (pid : Pid) (signal : Int) : List Event := [.kill pid signal, .kill pid sigcont]

lemma terminateProcess_eq (pid : Pid) (signal : Int) (s : State) :
    terminateProcess pid signal s =
      some ((), { s with out := s.out ++ terminated pid signal }) := by
  change some _ = _
  simp only [terminated, List.append_assoc, List.cons_append, List.nil_append]

/-- The signals of `StopDisplay`. -/
def Display.stopSignals (d : Display) : List Event :=
  (if d.pid ≠ -1 then terminated d.pid sigterm else []) ++
    if d.serverPid ≠ -1 then terminated d.serverPid d.resources.termSignal else []

/-- The state after `StopDisplay` of the display `d`. -/
def State.stopped (s : State) (d : Display) : State :=
  let s' := if d.serverPid ≠ -1 then s.write d.addr fun x => { x with status := .zombie }
    else s.remove d.addr
  { s' with out := s.out ++ d.stopSignals }

lemma State.Sound.find (hs : s.Sound dead busy) (hd : d ∈ s.displays) :
    Keyed.find Display.addr d.addr s.displays = some d := by
  cases hfind : Keyed.find Display.addr d.addr s.displays with
  | none => exact absurd rfl (Keyed.find_eq_none.1 hfind d hd)
  | some x =>
    rw [hs.distinct.eq_of_mem (Keyed.mem_of_find hfind) hd (Keyed.key_of_find hfind)]

lemma readDisplay_eq (hfind : Keyed.find Display.addr a s.displays = some d) :
    readDisplay a s = some (d, s) := by
  unfold readDisplay
  rw [get_bind, hfind]
  rfl

lemma writeDisplay_eq (f : Display → Display)
    (hfind : Keyed.find Display.addr a s.displays = some d) :
    writeDisplay a f s = some ((), s.write a f) := by
  unfold writeDisplay
  rw [get_bind, hfind]
  rfl

lemma removeDisplay_eq (hfind : Keyed.find Display.addr a s.displays = some d) :
    removeDisplay a s = some ((), s.remove a) := by
  unfold removeDisplay
  rw [get_bind, hfind]
  rfl

lemma stopDisplay_eq (hs : s.Sound dead busy) (hd : d ∈ s.displays) :
    stopDisplay d.addr s = some ((), s.stopped d) := by
  have hfind := hs.find hd
  unfold stopDisplay State.stopped Display.stopSignals
  rw [bind_of_eq_some _ (readDisplay_eq hfind)]
  by_cases hserver : d.serverPid = -1
  · by_cases hpid : d.pid = -1
    · simp only [hserver, hpid, ne_eq, not_true_eq_false, if_false, List.append_nil]
      exact removeDisplay_eq hfind
    · simp only [hserver, hpid, ne_eq, not_true_eq_false, not_false_eq_true, if_true, if_false,
        List.append_nil]
      rw [bind_of_eq_some _ (terminateProcess_eq ..)]
      exact removeDisplay_eq hfind
  · simp only [hserver, ne_eq, not_false_eq_true, if_true]
    rw [bind_of_eq_some _ (writeDisplay_eq _ hfind)]
    by_cases hpid : d.pid = -1
    · simp only [hpid, not_true_eq_false, if_false, List.nil_append]
      exact terminateProcess_eq ..
    · simp only [hpid, not_false_eq_true, if_true]
      rw [bind_of_eq_some _ (terminateProcess_eq ..), terminateProcess_eq, List.append_assoc]
      rfl

namespace State

@[simp] lemma stopped_nextAddr (s : State) (d : Display) :
    (s.stopped d).nextAddr = s.nextAddr := by
  unfold stopped
  split_ifs <;> rfl

@[simp] lemma stopped_protoDisplays (s : State) (d : Display) :
    (s.stopped d).protoDisplays = s.protoDisplays := by
  unfold stopped
  split_ifs <;> rfl

@[simp] lemma stopped_indirectUsers (s : State) (d : Display) :
    (s.stopped d).indirectUsers = s.indirectUsers := by
  unfold stopped
  split_ifs <;> rfl

@[simp] lemma stopped_kernel (s : State) (d : Display) : (s.stopped d).kernel = s.kernel := by
  unfold stopped
  split_ifs <;> rfl

lemma stopped_out (s : State) (d : Display) :
    (s.stopped d).out = s.out ++ d.stopSignals := by
  unfold stopped
  split_ifs <;> rfl

/-- Whoever is left was there before, under the same name. -/
lemma mem_stopped (hx : x ∈ (s.stopped d).displays) :
    ∃ y ∈ s.displays, y.addr = x.addr ∧ y.name = x.name := by
  unfold stopped at hx
  split_ifs at hx
  · rcases State.mem_write.1 hx with ⟨y, hy, -, rfl⟩ | ⟨hx, -⟩
    · exact ⟨y, hy, rfl, rfl⟩
    · exact ⟨x, hx, rfl, rfl⟩
  · exact ⟨x, (State.mem_remove.1 hx).1, rfl, rfl⟩

/-- Whoever is left has not been freed by it. -/
lemma not_mem_stopped_freed (hx : x ∈ (s.stopped d).displays) (hfreed : x.addr ∉ s.freed) :
    x.addr ∉ (s.stopped d).freed := by
  unfold stopped at hx ⊢
  split_ifs at hx ⊢
  · exact hfreed
  · exact List.not_mem_cons_of_ne_of_not_mem (State.mem_remove.1 hx).2 hfreed

end State

/-- The state after the active session for a display name has been terminated. -/
def State.terminated (s : State) (name : Str) : State :=
  match findDisplayByName name s.displays with
  | some d => s.stopped d
  | none => s

lemma terminateActive_eq (hs : s.Sound dead busy) (name : Str) :
    terminateActive name s = some ((), s.terminated name) := by
  unfold terminateActive State.terminated
  rw [get_bind]
  cases hfind : findDisplayByName name s.displays with
  | none => rfl
  | some d => exact stopDisplay_eq hs (List.mem_of_find?_eq_some hfind)

lemma shrinks_terminated (s : State) (name : Str) : Shrinks s (s.terminated name) := by
  unfold State.terminated
  split
  · next d _ =>
    unfold State.stopped
    split_ifs
    · exact Shrinks.write fun _ => rfl
    · exact List.filter_sublist.map _
  · exact Shrinks.of_eq rfl

/-! ### The chooser -/

/-- The chooser is to run for the client: it is marked, and `UseChooser` holds. -/
def State.usesChooser (s : State) (w : World) (addr : ARRAY8) (connectionType : CARD16) : Bool :=
  isIndirectClient addr connectionType s.indirectUsers &&
    useChooser w s.database (choiceOf w s addr connectionType) addr connectionType

/-- The state after `manage` has found out: the mark is gone. -/
def State.askedChooser (s : State) (w : World) (addr : ARRAY8) (connectionType : CARD16) :
    State :=
  let users := s.indirectUsers.eraseP (IndirectUser.isFor addr connectionType)
  if isIndirectClient addr connectionType s.indirectUsers then
    ({ s with indirectUsers := users } : State).askedChoice w addr connectionType
  else s

lemma chooserFor_eq (w : World) (addr : ARRAY8) (connectionType : CARD16) (s : State) :
    chooserFor w addr connectionType s =
      some (s.usesChooser w addr connectionType, s.askedChooser w addr connectionType) := by
  unfold chooserFor State.usesChooser State.askedChooser
  rw [get_bind]
  cases hmarked : isIndirectClient addr connectionType s.indirectUsers with
  | false => rfl
  | true =>
    rw [if_pos rfl, forgetIndirectClient, modify_bind, bind_of_eq_some _ (choiceFor_eq ..),
      get_bind, if_pos rfl, Bool.true_and]
    unfold State.askedChoice choiceOf
    split_ifs <;> rfl

/-! ### The new display -/

/-- A store into the new display. -/
lemma writeDisplay_enter (f : Display → Display) (hold : ∀ d ∈ t.displays, d.addr ≠ a)
    (hx : x.addr = a) : writeDisplay a f (t.enter x) = some ((), t.enter (f x)) := by
  have hfind : Keyed.find Display.addr a (t.enter x).displays = some x := by
    simp only [State.enter, Keyed.find, List.find?_cons, hx, decide_true]
  rw [writeDisplay_eq f hfind]
  simp only [State.write, State.enter, modifyAt]
  congr 3
  change (if x.addr = a then f x else x) :: Keyed.modify _ _ f t.displays = _
  rw [if_pos hx, Keyed.modify_of_absent hold]

lemma State.enter_askedChooser (t : State) (x : Display) (w : World) (addr : ARRAY8)
    (connectionType : CARD16) : (t.enter x).askedChooser w addr connectionType =
      (t.askedChooser w addr connectionType).enter x := by
  unfold State.askedChooser State.askedChoice State.enter
  dsimp only
  split_ifs <;> rfl

@[simp] lemma State.askedChooser_displays (t : State) (w : World) (addr : ARRAY8)
    (connectionType : CARD16) : (t.askedChooser w addr connectionType).displays = t.displays := by
  unfold State.askedChooser State.askedChoice
  dsimp only
  split_ifs <;> rfl

/-- The display that `manage` enters for the proto-display, before it has an
authorization. -/
def managedDisplay (w : World) (fd : Int) (sender : Netaddr) (m : Manage) (pdpy : ProtoDisplay)
    (name : Str) (t : State) : Display :=
  let client := clientAddress sender.sa
  { fillDisplay fd sender pdpy (newDisplayAt t.nextAddr name (classOf m.displayClass)) with
    useChooser := t.usesChooser w client.1 client.2.2
    clientAddr := client.1
    connectionType := client.2.2 }

/-- The state after `manage` has entered the display `x`. -/
def State.entered (t : State) (w : World) (sender : Netaddr) (x : Display) : State :=
  let client := clientAddress sender.sa
  (t.askedChooser w client.1 client.2.2).enter x

/-- The name and the display itself could be allocated. -/
def Alloc.display (alloc : Alloc) : Bool := alloc.className && alloc.fromSave && alloc.newDisplay

/-- There is an authorization to be handed over, and no memory for it. -/
def losesAuthorization (w : World) (pdpy : ProtoDisplay) : Bool :=
  pdpy.fileAuthorization.isSome && !w.alloc.authorizations

/-- The state after `manage` has given up for want of memory. -/
def State.failed (s : State) (sender : Netaddr) (m : Manage) (name : Str) : State :=
  s.sent sender.sa (.failed m.sessionID (failedStatus name m.sessionID "out of memory".toList))

/-- The state after `manage` has freed the display that it has entered, and not unlinked it. -/
def State.leaked (t : State) (w : World) (fd : Int) (sender : Netaddr) (m : Manage)
    (pdpy : ProtoDisplay) (name : Str) : State :=
  let u := t.entered w sender (managedDisplay w fd sender m pdpy name t)
  { u with freed := t.nextAddr :: u.freed }

/-- The state when `manage` is done with the marks, the choices and the proto-display. -/
def State.settled (t : State) (w : World) (sender : Netaddr) (pdpy : ProtoDisplay) : State :=
  let client := clientAddress sender.sa
  (t.askedChooser w client.1 client.2.2).dispose pdpy.addr

/-- The display that `manage` starts. -/
def readyDisplay (w : World) (fd : Int) (sender : Netaddr) (m : Manage) (pdpy : ProtoDisplay)
    (name : Str) (t : State) : Display :=
  { managedDisplay w fd sender m pdpy name t with
    authorizations := pdpy.fileAuthorization.toList }

/-- The state in which `manage` calls `StartDisplay`. -/
def State.ready (t : State) (w : World) (fd : Int) (sender : Netaddr) (m : Manage)
    (pdpy : ProtoDisplay) (name : Str) : State :=
  (t.settled w sender pdpy).enter (readyDisplay w fd sender m pdpy name t)

/-- The ways through `manage` for a packet with the session ID of the proto-display: what is
left to do, and the state it is done in. -/
inductive ManagePath (w : World) (fd : Int) (sender : Netaddr) (m : Manage) (pdpy : ProtoDisplay)
    (s : State) : M Unit → State → Prop
  | noName : nameOf w s.config sender pdpy = none →
      ManagePath w fd sender m pdpy s (pure ()) (s.failed sender m "(no name)".toList)
  | noMemory (name : Str) : nameOf w s.config sender pdpy = some name →
      w.alloc.display = false →
      ManagePath w fd sender m pdpy s (pure ()) ((s.terminated name).failed sender m name)
  | leaked (name : Str) : nameOf w s.config sender pdpy = some name →
      w.alloc.display = true → losesAuthorization w pdpy = true →
      ManagePath w fd sender m pdpy s (pure ())
        (((s.terminated name).leaked w fd sender m pdpy name).failed sender m name)
  | ready (name : Str) : nameOf w s.config sender pdpy = some name →
      w.alloc.display = true → losesAuthorization w pdpy = false →
      ManagePath w fd sender m pdpy s (startDisplay w s.nextAddr)
        ((s.terminated name).ready w fd sender m pdpy name)

lemma State.terminated_nextAddr (s : State) (name : Str) :
    (s.terminated name).nextAddr = s.nextAddr := by
  unfold State.terminated
  split
  · exact State.stopped_nextAddr s _
  · rfl

lemma State.Sound.terminated (hs : s.Sound [] none) (name : Str) :
    (s.terminated name).Sound [] none :=
  (keeps_terminateActive name s hs _ _ (terminateActive_eq hs name)).1

/-- Handing the authorization over to the new display. -/
lemma installAuthorization_eq (hold : ∀ d ∈ t.displays, d.addr ≠ a) (hx : x.addr = a)
    (hnone : x.authorizations = []) :
    installAuthorization w sender m.sessionID name a pdpy (t.enter x) =
      if losesAuthorization w pdpy then
        some (false, ({ t.enter x with freed := a :: t.freed } : State).failed sender m name)
      else some (true, t.enter { x with authorizations := pdpy.fileAuthorization.toList }) := by
  unfold installAuthorization losesAuthorization
  cases hauth : pdpy.fileAuthorization with
  | none =>
    simp only [Option.isSome_none, Bool.false_and, Bool.false_eq_true, if_false,
      Option.toList_none, ← hnone]
    rfl
  | some auth =>
    cases halloc : w.alloc.authorizations with
    | true =>
      simp only [if_true, Option.isSome_some, Bool.not_true, Bool.and_false, Bool.false_eq_true,
        if_false]
      rw [bind_of_eq_some _ (writeDisplay_enter _ hold hx)]
      rfl
    | false => rfl

theorem startManaged_eq (hs : s.Sound [] none) : ∃ p t, ManagePath w fd sender m pdpy s p t ∧
    startManaged w fd sender m pdpy s = p t := by
  unfold startManaged
  rw [get_bind]
  cases hname : nameOf w s.config sender pdpy with
  | none => exact ⟨_, _, .noName hname, rfl⟩
  | some name =>
    dsimp only
    rw [bind_of_eq_some _ (terminateActive_eq hs name)]
    have ht := hs.terminated name
    cases hdisplay : w.alloc.display with
    | false =>
      have hno : ¬ (w.alloc.className = true ∧ w.alloc.fromSave = true ∧
          w.alloc.newDisplay = true) := by
        simpa [Alloc.display, and_assoc] using hdisplay
      rw [if_neg hno]
      exact ⟨_, _, .noMemory name hname hdisplay, rfl⟩
    | true =>
      have hyes : w.alloc.className = true ∧ w.alloc.fromSave = true ∧
          w.alloc.newDisplay = true := by
        simpa [Alloc.display, and_assoc] using hdisplay
      have hold : ∀ d ∈ (s.terminated name).displays, d.addr ≠ (s.terminated name).nextAddr :=
        fun d hd => by
          have := ht.bound d hd
          omega
      rw [if_pos hyes, bind_of_eq_some _ (newDisplay_eq ..),
        bind_of_eq_some _ (writeDisplay_enter _ hold rfl),
        bind_of_eq_some _ (chooserFor_eq ..), State.enter_askedChooser]
      have hold' : ∀ d ∈ ((s.terminated name).askedChooser w (clientAddress sender.sa).1
          (clientAddress sender.sa).2.2).displays, d.addr ≠ (s.terminated name).nextAddr := by
        rw [State.askedChooser_displays]
        exact hold
      rw [bind_of_eq_some _ (writeDisplay_enter _ hold' rfl)]
      cases hloses : losesAuthorization w pdpy with
      | true =>
        refine ⟨_, _, .leaked name hname hdisplay hloses, ?_⟩
        rw [bind_of_eq_some _ ((installAuthorization_eq hold' rfl rfl).trans (if_pos hloses))]
        rfl
      | false =>
        refine ⟨_, _, .ready name hname hdisplay hloses, ?_⟩
        rw [bind_of_eq_some _ ((installAuthorization_eq hold' rfl rfl).trans
          (if_neg (by simp [hloses])))]
        rw [← State.terminated_nextAddr s name]
        rfl

/-- The way that `startManaged` has taken when it has returned. -/
lemma managePath_of_run {s' : State} (hs : s.Sound [] none)
    (hrun : startManaged w fd sender m pdpy s = some ((), s')) :
    ∃ p t, ManagePath w fd sender m pdpy s p t ∧ p t = some ((), s') := by
  obtain ⟨p, t, hways, heq⟩ := startManaged_eq (s := s) (w := w) (m := m) hs
  exact ⟨p, t, hways, heq.symm.trans hrun⟩

lemma answerManage_eq (hfind : findProtoDisplay sender m.displayNumber s.protoDisplays = some pdpy)
    (hid : pdpy.sessionID = m.sessionID) :
    answerManage w fd sender m s = startManaged w fd sender m pdpy s := by
  unfold answerManage
  rw [get_bind, hfind]
  dsimp only
  rw [if_pos hid]

@[simp] lemma State.settled_displays (t : State) (w : World) (sender : Netaddr)
    (pdpy : ProtoDisplay) : (t.settled w sender pdpy).displays = t.displays :=
  State.askedChooser_displays ..

/-- The display in front is a new one. -/
lemma State.settled_fresh (hs : s.Sound [] none) (name : Str) :
    ∀ d ∈ ((s.terminated name).settled w sender pdpy).displays, d.addr ≠ s.nextAddr := by
  intro d hd
  rw [State.settled_displays] at hd
  have hbound := (hs.terminated name).bound d hd
  rw [State.terminated_nextAddr] at hbound
  omega

/-! ### Starting the new display -/

/-- What becomes of the new display: it has a session, or `fork` has failed. -/
inductive Display.StartsAs (x : Display) : Display → Prop
  | idle (resources : ServerResources) : StartsAs x { x with resources := resources }
  | running (resources : ServerResources) (pid : Pid) :
      StartsAs x { x with resources := resources, pid := pid, status := .running }

lemma Display.StartsAs.identity_eq {x y : Display} (h : x.StartsAs y) :
    y.identity = x.identity := by
  cases h <;> rfl

/-- A remote display has no server to be started. -/
lemma startDisplay_remote (hold : ∀ d ∈ t.displays, d.addr ≠ a) (hx : x.addr = a)
    (hremote : x.displayType.location = .foreign) :
    startDisplay w a (t.enter x) = startDisplay.startSession a
      (t.enter { x with resources := w.serverResources x.name x.className }) := by
  unfold startDisplay
  rw [bind_of_eq_some _ (writeDisplay_enter _ hold hx)]
  have hfind : Keyed.find Display.addr a (t.enter { x with
      resources := w.serverResources x.name x.className }).displays =
      some { x with resources := w.serverResources x.name x.className } := by
    simp only [State.enter, Keyed.find, List.find?_cons, hx, decide_true]
  rw [bind_of_eq_some _ (readDisplay_eq hfind), if_neg (by simp [hremote])]

lemma wlp_startRemote (hold : ∀ d ∈ t.displays, d.addr ≠ a) (hx : x.addr = a)
    (hremote : x.displayType.location = .foreign) :
    Wlp (startDisplay w a)
      (fun _ s' => ∃ k y, s' = State.enter { t with kernel := k } y ∧ x.StartsAs y)
      (t.enter x) := by
  refine Wlp.of_eq ?_ (startDisplay_remote hold hx hremote)
  unfold startDisplay.startSession
  rw [wlp_bind]
  refine wlp_fork (fun k _ => (wlp_pure _ _ _).2 ⟨k, _, rfl, .idle _⟩) fun k p _ _ _ => ?_
  have hwrite := writeDisplay_enter (t := { t with kernel := k }) (x := { x with
    resources := w.serverResources x.name x.className }) (a := a)
    (fun display => { display with pid := p, status := .running }) hold hx
  exact Wlp.of_eq ((wlp_pure _ _ _).2 ⟨k, _, rfl, .running _ p⟩) hwrite

/-- What `manage` leaves when it starts a display. -/
lemma wlp_startReady (hs : s.Sound [] none) :
    Wlp (startDisplay w s.nextAddr)
      (fun _ s' => ∃ k y, s' = State.enter
          { (s.terminated name).settled w sender pdpy with kernel := k } y ∧
        (readyDisplay w fd sender m pdpy name (s.terminated name)).StartsAs y)
      ((s.terminated name).ready w fd sender m pdpy name) :=
  wlp_startRemote (State.settled_fresh hs name) (State.terminated_nextAddr s name) rfl

lemma fork_eq {p : Pid} {forks : List (Option Pid)} (hforks : s.kernel.forks = some p :: forks)
    (hp : 0 < p) (hnew : p ∉ s.kernel.children) :
    fork s = some (some p, { s with kernel := { s.kernel with
      forks := forks, children := p :: s.kernel.children } }) := by
  unfold fork
  rw [get_bind, hforks]
  dsimp only
  rw [if_pos ⟨hp, hnew⟩]
  rfl

/-- If `fork` returns a process id the display has a session. -/
lemma startRemote_eq {p : Pid} {forks : List (Option Pid)}
    (hold : ∀ d ∈ t.displays, d.addr ≠ a) (hx : x.addr = a)
    (hremote : x.displayType.location = .foreign) (hforks : t.kernel.forks = some p :: forks)
    (hp : 0 < p) (hnew : p ∉ t.kernel.children) :
    ∃ k, startDisplay w a (t.enter x) = some ((), State.enter { t with kernel := k } { x with
      resources := w.serverResources x.name x.className, pid := p, status := .running }) := by
  have hfork := fork_eq (s := t.enter { x with
    resources := w.serverResources x.name x.className }) hforks hp hnew
  set k : Kernel := { t.kernel with forks := forks, children := p :: t.kernel.children } with hk
  have hwrite := writeDisplay_enter (t := { t with kernel := k }) (x := { x with
    resources := w.serverResources x.name x.className }) (a := a)
    (fun display => { display with pid := p, status := .running }) hold hx
  refine ⟨k, ?_⟩
  rw [startDisplay_remote hold hx hremote]
  unfold startDisplay.startSession
  rw [bind_of_eq_some _ hfork]
  exact hwrite

end Xdm
