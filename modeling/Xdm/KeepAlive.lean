/-
# What `KEEPALIVE` is told

A display that has lost contact asks with the ID of its session whether the session is
there, and `send_alive` looks for a display with this ID, and else for one with the sender's
address.  The first search takes any display, also a local one, whose session ID is 0.
`keepAlive_truthful_iff` says when the answer is right all the same.
-/
import Xdm.Packets
import Xdm.LocalDisplays

namespace Xdm

open Prog

variable {config : Config} {g : Nat} {h : List (Step State Input)} {s s' : State} {i : Input}
variable {w : World} {fd : Int} {sender : Netaddr} {k : KeepAlive} {bytes : ARRAY8}

/-! ### The truth -/

/-- The XDMCP session with this ID runs on the display. -/
def Display.hasSession (sessionID : CARD32) (d : Display) : Bool :=
  d.isXDMCP && d.status = .running && d.sessionID = sessionID

/-- An XDMCP session of this client runs on the display. -/
def Display.serves (sender : Netaddr) (displayNumber : CARD16) (d : Display) : Bool :=
  d.isXDMCP && d.status = .running && d.displayNumber = displayNumber &&
    addressEqual d.fromAddr sender

/-- The answer says that the session runs if and only if it does, and else it names a session
of the client that runs, if there is one. -/
structure Truthful (s : State) (sender : Netaddr) (k : KeepAlive) (running : UInt8)
    (sessionID : CARD32) : Prop where
  session : running = 1 ↔ ∃ d ∈ s.displays, d.hasSession k.sessionID = true
  client : running ≠ 1 →
    (∃ d ∈ s.displays, d.serves sender k.displayNumber = true ∧ sessionID = d.sessionID) ∨
      (∀ d ∈ s.displays, d.serves sender k.displayNumber = false) ∧ sessionID = 0

/-- The display that `send_alive` looks up: the first one with the session ID, or else the
first XDMCP display of the sender with the display number. -/
def aliveDisplay (s : State) (sender : Netaddr) (k : KeepAlive) : Option Display :=
  (findDisplayBySessionID k.sessionID s.displays).or
    (findDisplayByAddress sender k.displayNumber s.displays)

/-! ### What stands in the way -/

/-- The displays with a session ID, in the order of the list. -/
def State.withSessionID (s : State) (sessionID : CARD32) : List Display :=
  s.displays.filter fun d => sessionID = d.sessionID

/-- The XDMCP displays of a client, in the order of the list. -/
def State.ofClient (s : State) (sender : Netaddr) (displayNumber : CARD16) : List Display :=
  s.displays.filter fun d => d.displayType.origin = .fromXDMCP ∧
    d.displayNumber = displayNumber ∧ addressEqual d.fromAddr sender

def Display.runs (d : Display) : Bool := d.status = .running

/-- None of the displays runs, or one that does has the session ID 0. -/
def anonymous (displays : List Display) : Bool :=
  displays.all (fun d => !d.runs) || displays.any fun d => d.runs && d.sessionID = 0

/-- No display stands before the one that the answer should be about.  The first display with
the session ID, if it runs, is an XDMCP display or has one that runs behind it, and if it does
not, it has none behind it and the client has no session but an anonymous one.  Where no
display has the session ID, the first of the client runs, or those behind it do not. -/
def NotHidden (s : State) (sender : Netaddr) (k : KeepAlive) : Bool :=
  match s.withSessionID k.sessionID, s.ofClient sender k.displayNumber with
  | d :: behind, clients =>
    if d.runs then d.isXDMCP || behind.any fun d' => d'.isXDMCP && d'.runs
    else (behind.all fun d' => !(d'.isXDMCP && d'.runs)) && anonymous clients
  | [], d :: behind => d.runs || anonymous behind
  | [], [] => true

lemma aliveDisplay_eq : aliveDisplay s sender k = (s.withSessionID k.sessionID).head?.or
    (s.ofClient sender k.displayNumber).head? := by
  rw [State.withSessionID, State.ofClient, List.head?_filter, List.head?_filter]
  rfl

lemma sessionID_of_mem {sid : CARD32} {d : Display} (hd : d ∈ s.withSessionID sid) :
    d.sessionID = sid :=
  (of_decide_eq_true (List.mem_filter.1 hd).2).symm

/-- A session that runs is on a display with its ID. -/
lemma exists_hasSession : (∃ d ∈ s.displays, d.hasSession k.sessionID = true) ↔
    ∃ d ∈ s.withSessionID k.sessionID, (d.isXDMCP && d.runs) = true := by
  simp only [State.withSessionID, List.mem_filter, Display.hasSession, Display.runs]
  grind

/-- A client is served on one of its displays. -/
lemma mem_and_serves {n : CARD16} {d : Display} :
    d ∈ s.displays ∧ d.serves sender n = true ↔ d ∈ s.ofClient sender n ∧ d.runs = true := by
  simp only [State.ofClient, List.mem_filter, Display.serves, Display.isXDMCP, Display.runs]
  grind

/-- The answer that names no session. -/
lemma client_zero_iff {n : CARD16} :
    ((∃ d ∈ s.displays, d.serves sender n = true ∧ (0 : CARD32) = d.sessionID) ∨
      (∀ d ∈ s.displays, d.serves sender n = false) ∧ (0 : CARD32) = 0) ↔
    anonymous (s.ofClient sender n) = true := by
  have hserved : (∃ d ∈ s.displays, d.serves sender n = true ∧ (0 : CARD32) = d.sessionID) ↔
      ∃ d ∈ s.ofClient sender n, d.runs = true ∧ d.sessionID = 0 := by
    constructor
    · rintro ⟨d, hd, hserves, hid⟩
      obtain ⟨hmem, hrun⟩ := mem_and_serves.1 ⟨hd, hserves⟩
      exact ⟨d, hmem, hrun, hid.symm⟩
    · rintro ⟨d, hmem, hrun, hid⟩
      obtain ⟨hd, hserves⟩ := mem_and_serves.2 ⟨hmem, hrun⟩
      exact ⟨d, hd, hserves, hid.symm⟩
  have hidle : (∀ d ∈ s.displays, d.serves sender n = false) ↔
      ∀ d ∈ s.ofClient sender n, d.runs = false := by
    constructor
    · intro hno d hmem
      by_contra hrun
      obtain ⟨hd, hserves⟩ := mem_and_serves.2 ⟨hmem, by simpa using hrun⟩
      simp [hno d hd] at hserves
    · intro hno d hd
      by_contra hserves
      obtain ⟨hmem, hrun⟩ := mem_and_serves.1 ⟨hd, by simpa using hserves⟩
      simp [hno d hmem] at hrun
  rw [hserved, hidle, anonymous, Bool.or_eq_true, List.all_eq_true, List.any_eq_true, or_comm]
  simp

/-! ### The answer -/

/-- The display that is looked up decides the answer, if it runs. -/
lemma wlp_answerKeepAlive {Q : Unit → State → Prop}
    (hrun : ∀ d ∈ aliveDisplay s sender k, d.status = .running → Q () (s.sent sender.sa
      (.alive (if d.sessionID = k.sessionID then 1 else 0) d.sessionID)))
    (hnone : (∀ d ∈ aliveDisplay s sender k, d.status ≠ .running) →
      Q () (s.sent sender.sa (.alive 0 0))) : Wlp (answerKeepAlive sender k) Q s := by
  unfold answerKeepAlive
  simp only [wlp_bind, wlp_get]
  split
  · next d hd =>
    simp only [emit, wlp_modify]
    obtain ⟨hfound, hstatus⟩ := Option.filter_eq_some_iff.1 hd
    exact hrun d hfound (of_decide_eq_true hstatus)
  · next hnot =>
    simp only [emit, wlp_modify]
    exact hnone fun d hd => by simpa using Option.filter_eq_none_iff.1 hnot d hd

/-- A display that runs is looked up. -/
lemma truthful_of_running {d : Display} (hd : aliveDisplay s sender k = some d)
    (hrun : d.status = .running) :
    Truthful s sender k (if d.sessionID = k.sessionID then 1 else 0) d.sessionID ↔
      NotHidden s sender k = true := by
  have hruns : d.runs = true := decide_eq_true hrun
  rw [aliveDisplay_eq] at hd
  cases hwith : s.withSessionID k.sessionID with
  | cons e behind =>
    -- it is the first display with the session ID
    obtain rfl : e = d := by simpa [hwith] using hd
    have hid : e.sessionID = k.sessionID := sessionID_of_mem (s := s) (by simp [hwith])
    have hsession : (∃ d ∈ s.displays, d.hasSession k.sessionID = true) ↔
        e.isXDMCP = true ∨ ∃ d' ∈ behind, (d'.isXDMCP && d'.runs) = true := by
      rw [exists_hasSession, hwith, List.exists_mem_cons_iff, hruns, Bool.and_true]
    have hclear : NotHidden s sender k = true ↔
        e.isXDMCP = true ∨ ∃ d' ∈ behind, (d'.isXDMCP && d'.runs) = true := by
      rw [NotHidden, hwith]
      simp only [hruns, if_true, Bool.or_eq_true, List.any_eq_true]
    rw [hclear, if_pos hid, ← hsession]
    exact ⟨fun ht => ht.session.1 rfl, fun hs => ⟨iff_of_true rfl hs, fun hne => absurd rfl hne⟩⟩
  | nil =>
    -- no display has the session ID, and it is the first one of the client
    have hno : ¬ ∃ d ∈ s.displays, d.hasSession k.sessionID = true := by
      simp [exists_hasSession, hwith]
    cases hclient : s.ofClient sender k.displayNumber with
    | nil => simp [hwith, hclient] at hd
    | cons e behind =>
      obtain rfl : e = d := by simpa [hwith, hclient] using hd
      have hin : e ∈ s.ofClient sender k.displayNumber := by simp [hclient]
      obtain ⟨hmem, hserves⟩ := mem_and_serves.2 ⟨hin, hruns⟩
      have hid : e.sessionID ≠ k.sessionID := by
        intro heq
        have hin : e ∈ s.withSessionID k.sessionID :=
          List.mem_filter.2 ⟨hmem, decide_eq_true heq.symm⟩
        simp [hwith] at hin
      rw [if_neg hid]
      refine iff_of_true ⟨iff_of_false (by decide) hno, fun _ => Or.inl ⟨e, hmem, hserves, rfl⟩⟩ ?_
      simp only [NotHidden, hwith, hclient, hruns, Bool.true_or]

/-- No display is looked up, or one that does not run. -/
lemma truthful_of_not_running (hnot : ∀ d ∈ aliveDisplay s sender k, d.status ≠ .running) :
    Truthful s sender k 0 0 ↔ NotHidden s sender k = true := by
  have htruth : Truthful s sender k 0 0 ↔
      (¬ ∃ d ∈ s.withSessionID k.sessionID, (d.isXDMCP && d.runs) = true) ∧
        anonymous (s.ofClient sender k.displayNumber) = true := by
    rw [← exists_hasSession, ← client_zero_iff]
    exact ⟨fun ht => ⟨fun hex => absurd (ht.session.2 hex) (by decide), ht.client (by decide)⟩,
      fun ht => ⟨iff_of_false (by decide) ht.1, fun _ => ht.2⟩⟩
  rw [htruth]
  rw [aliveDisplay_eq] at hnot
  cases hwith : s.withSessionID k.sessionID with
  | cons e behind =>
    have hruns : e.runs = false := decide_eq_false (hnot e (by simp [hwith]))
    simp [NotHidden, hwith, hruns, imp_iff_not_or]
  | nil =>
    cases hclient : s.ofClient sender k.displayNumber with
    | nil => simp [NotHidden, hwith, hclient, anonymous]
    | cons e behind =>
      have hruns : e.runs = false := decide_eq_false (hnot e (by simp [hwith, hclient]))
      simp [NotHidden, hwith, hclient, hruns, anonymous]

/-! ### Runs -/

/-- In every run: a `KEEPALIVE` is answered with an `ALIVE`, and the answer is right if and
only if no other display is looked up in place of the one that it should be about. -/
theorem keepAlive_truthful_iff (run : DaemonRun config g h s) : ∀ x ∈ h, ∀ w sender k,
    x.input.packet? = some (w, sender, .keepalive k) → ∃ running sessionID,
      x.post.out = [.send sender.sa (.alive running sessionID)] ∧
      (Truthful x.pre sender k running sessionID ↔ NotHidden x.pre sender k = true) := by
  intro x hx w sender k hk
  obtain ⟨h₁, h₂, -, -, hstep⟩ := run.split hx
  have hop := operation_of_step hstep
  obtain ⟨fd, hfd⟩ := operation_of_packet hk
  rw [hfd] at hop
  change answerKeepAlive sender k (x.pre.begin x.input) = _ at hop
  refine wlp_answerKeepAlive (Q := fun _ s' => ∃ running sessionID,
    s'.out = [.send sender.sa (.alive running sessionID)] ∧
      (Truthful x.pre sender k running sessionID ↔ NotHidden x.pre sender k = true))
    (fun d hd hrun => ?_) (fun hnot => ?_) _ _ hop
  · exact ⟨_, _, rfl, truthful_of_running hd hrun⟩
  · exact ⟨_, _, rfl, truthful_of_not_running hnot⟩

/-! ### A local display and the session ID 0 -/

/-- The datagram of a `KEEPALIVE` from the guest. -/
def Input.keepAlive (k : KeepAlive) : Input :=
  .datagram World.silent 3 Netaddr.guest (Packet.keepalive k).datagram

/-- There is a local display and no other one, and the guest is told that its session with
the ID 0 runs. -/
theorem keepAlive_untruthful : ∃ h s, DaemonRun Config.open 0 h s ∧
    h.map Step.input = [.startUp World.office, .keepAlive ⟨0, 0⟩] ∧
    ∃ x ∈ h, x.input.packet?.isSome = true ∧
      x.post.out = [.send Netaddr.guest.sa (.alive 1 0)] ∧
      ∀ d ∈ x.pre.displays, d.displayType.origin ≠ .fromXDMCP :=
  exists_run_on _ (by decide +kernel)

/-- The guest is told the truth of the session that it has. -/
theorem keepAlive_truthful : ∃ h s, DaemonRun Config.open 0 h s ∧
    ∃ x ∈ h, ∃ running sid, x.post.out = [.send Netaddr.guest.sa (.alive running sid)] ∧
      Truthful x.pre Netaddr.guest ⟨0, 1⟩ running sid := by
  obtain ⟨h, s, run, hinputs, x, hx, hclear⟩ : ∃ h s, DaemonRun Config.open 0 h s ∧
      h.map Step.input = [.request (World.lan 20 7) Netaddr.guest (Request.plain 0 []),
        .manage (World.lan 20 7) Netaddr.guest ⟨1, 0, []⟩, .keepAlive ⟨0, 1⟩] ∧
      ∃ x ∈ h.getLast?, NotHidden x.pre Netaddr.guest ⟨0, 1⟩ = true :=
    exists_run_on _ (by decide +kernel)
  have hinput : x.input = .keepAlive ⟨0, 1⟩ := by
    have hlast := congrArg List.getLast? hinputs
    rw [List.getLast?_map, hx] at hlast
    exact Option.some.inj hlast
  have hpacket : x.input.packet? = some (World.silent, Netaddr.guest, .keepalive ⟨0, 1⟩) := by
    rw [hinput]
    rfl
  obtain ⟨running, sid, hout, htruth⟩ := keepAlive_truthful_iff run x
    (List.mem_of_getLast? hx) _ _ _ hpacket
  exact ⟨h, s, run, x, List.mem_of_getLast? hx, running, sid, hout, htruth.2 hclear⟩

end Xdm
