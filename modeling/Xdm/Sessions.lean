/-
# XDMCP sessions over whole runs

A session begins as a proto-display, when a `REQUEST` is admitted and a session ID issued,
and becomes a display when a `MANAGE` brings that ID back.  This file follows the session
ID through a run: `sessions_admitted` says that every session has passed the access
control, `sessions_safe` that no two sessions have the same ID and that every display has
been asked for with an ID that was sent to its client.
-/
import Xdm.Runs
import Mathlib.Data.List.Pairwise

namespace Xdm

open Prog

variable {config : Config} {g : Nat} {h : List (Step State Input)} {s s' : State} {i : Input}

/-! ### What a step does to the sessions -/

/-- A display of an XDMCP session. -/
def Display.isXDMCP (d : Display) : Bool := d.displayType.origin = .fromXDMCP

lemma StepKind.globalSessionID (hk : StepKind i s s') :
    s.globalSessionID ≤ s'.globalSessionID := by
  cases hk with
  | quiet _ _ hq => exact Nat.le_of_eq hq.globalSessionID.symm
  | request _ _ _ _ hr => exact hr.globalSessionID
  | manage _ _ _ _ hd =>
    cases hd with
    | stale _ _ _ hd => rw [hd]; exact Nat.le_refl _
    | unknown _ _ hd => rw [hd]; exact Nat.le_refl _
    | ignored _ _ _ _ hd => rw [hd]; exact Nat.le_refl _
    | managed _ _ _ hm =>
      cases hm with
      | failed hq _ => exact Nat.le_of_eq hq.globalSessionID.symm
      | started _ hst _ => exact Nat.le_of_eq hst.globalSessionID.symm
      | leaked _ _ hst _ _ => exact Nat.le_of_eq hst.globalSessionID.symm

/-- Where a proto-display comes from: it was there, or this step has issued its ID. -/
lemma StepKind.protoDisplay (hk : StepKind i s s') {p' : ProtoDisplay}
    (hp' : p' ∈ s'.protoDisplays) : (∃ p ∈ s.protoDisplays, p.SameSession p') ∨
      s'.globalSessionID = s.globalSessionID + 1 ∧
      ∃ w sender r pdpy, i.request? = some (w, sender, r) ∧
        Issued w sender r (s.begin i) pdpy ∧ pdpy.SameSession p' ∧ ∃ an ad zn zd,
          Event.send sender.sa (.accept p'.sessionID an ad zn zd) ∈ s'.out := by
  have hrefl : p' ∈ s.protoDisplays → ∃ p ∈ s.protoDisplays, p.SameSession p' :=
    fun hp => ⟨p', hp, ProtoDisplay.SameSession.refl p'⟩
  cases hk with
  | quiet _ _ hq => exact Or.inl (hrefl (hq.protoDisplays ▸ hp'))
  | request w sender r hreq hr =>
    rcases hr.session p' hp' with hold | ⟨hid, pdpy, hissued, hsame, hout⟩
    · exact Or.inl hold
    · exact Or.inr ⟨hid, w, sender, r, pdpy, hreq, hissued, hsame, hout⟩
  | manage _ _ _ _ hd =>
    refine Or.inl ?_
    cases hd with
    | stale _ _ _ hd => rw [hd] at hp'; exact hrefl hp'
    | unknown _ _ hd => rw [hd] at hp'; exact hrefl hp'
    | ignored _ _ _ _ hd => rw [hd] at hp'; exact hrefl hp'
    | managed _ _ _ hm =>
      cases hm with
      | failed hq _ => exact hrefl (hq.protoDisplays ▸ hp')
      | started _ _ hp => exact hrefl (Keyed.mem_erase.1 (hp ▸ hp')).1
      | leaked _ _ _ hp _ => exact hrefl (hp ▸ hp')

/-- The step `i` makes the display `d` of the proto-display `pdpy`. -/
structure Makes (i : Input) (s s' : State) (pdpy : ProtoDisplay) (d : Display) : Prop where
  input : ∃ w sender m, i.manage? = some (w, sender, m) ∧
    m.sessionID = pdpy.sessionID ∧ m.displayNumber = pdpy.displayNumber ∧
    d.fromAddr = sender ∧ addressEqual sender pdpy.address = true ∧
    (s'.protoDisplays = Keyed.erase ProtoDisplay.addr pdpy.addr s.protoDisplays ∨
      w.alloc.authorizations = false)
  mem : pdpy ∈ s.protoDisplays
  sessionID : d.sessionID = pdpy.sessionID
  displayNumber : d.displayNumber = pdpy.displayNumber
  fresh : s.nextAddr ≤ d.addr

/-- Where an XDMCP display comes from: it was there, or this step has made it, and then it
is the only one that is new. -/
lemma StepKind.display (hs : s.Sound [] none) (hk : StepKind i s s') {d' : Display}
    (hd' : d' ∈ s'.displays) (ho : d'.displayType.origin = .fromXDMCP) :
    (∃ d ∈ s.displays, d.Successor d') ∨ ∃ pdpy, Makes i s s' pdpy d' ∧
      ∀ d ∈ s'.displays, d.displayType.origin = .fromXDMCP → s.nextAddr ≤ d.addr →
        d.addr = d'.addr := by
  have hrefl : d' ∈ s.displays → ∃ d ∈ s.displays, d.Successor d' :=
    fun hd => ⟨d', hd, Display.Successor.refl d'⟩
  cases hk with
  | quiet _ _ hq => exact Or.inl (hq.session d' hd' ho)
  | request _ _ _ _ hr => exact Or.inl (hrefl (hr.undisturbed.displays ▸ hd'))
  | manage w sender m hm hd =>
    cases hd with
    | stale _ _ _ hd => rw [hd] at hd'; exact Or.inl (hrefl hd')
    | unknown _ _ hd => rw [hd] at hd'; exact Or.inl (hrefl hd')
    | ignored _ _ _ _ hd => rw [hd] at hd'; exact Or.inl (hrefl hd')
    | managed pdpy hfind hid hmanaged =>
      obtain ⟨hmem, hnumber, haddress⟩ := findProtoDisplay_some hfind
      have hnew : ∀ auths a, Started sender pdpy auths a (s.begin i) s' →
          (s'.protoDisplays = Keyed.erase ProtoDisplay.addr pdpy.addr s.protoDisplays ∨
            w.alloc.authorizations = false) →
          (∃ d ∈ s.displays, d.Successor d') ∨ ∃ pdpy, Makes i s s' pdpy d' ∧
            ∀ d ∈ s'.displays, d.displayType.origin = .fromXDMCP → s.nextAddr ≤ d.addr →
              d.addr = d'.addr := by
        intro auths a hst hproto
        rcases hst.session d' hd' ho with hold | ⟨ha, hserves⟩
        · exact Or.inl hold
        · refine Or.inr ⟨pdpy, ⟨⟨w, sender, m, hm, hid.symm, hnumber.symm, hserves.fromAddr,
            haddress, hproto⟩, hmem, hserves.sessionID, hserves.displayNumber,
            ha ▸ hst.fresh⟩, fun d hd hdo hle => ?_⟩
          rcases hst.session d hd hdo with ⟨d₀, hd₀, hsucc⟩ | ⟨hda, -⟩
          · have := hs.bound d₀ hd₀
            rw [← hsucc.addr] at this
            omega
          · rw [hda, ha]
      cases hmanaged with
      | failed hq _ => exact Or.inl (hq.session d' hd' ho)
      | started a hst hp => exact hnew _ a hst (Or.inl hp)
      | leaked a halloc hst _ _ => exact hnew _ a hst (Or.inr halloc)

/-! ### No session without the access control -/

/-- In the step `x` the session ID `sid` has been issued, after the access database in
force has admitted the address. -/
def Admits (x : Step State Input) (address : Netaddr) (sid : CARD32) : Prop :=
  ∃ w sender r family addr, x.input.request? = some (w, sender, r) ∧
    sid = UInt32.ofNat (x.pre.globalSessionID + 1) ∧
    x.post.globalSessionID = x.pre.globalSessionID + 1 ∧
    convertAddr address.sa = (some family, addr) ∧
    acceptableDisplayAddress w x.pre.config x.pre.database addr family .request = true

/-- An address that compares equal is admitted as well. -/
lemma Admits.congr {x : Step State Input} {a b : Netaddr} {sid : CARD32}
    (hx : Admits x a sid) (hab : addressEqual b a = true) : Admits x b sid := by
  obtain ⟨w, sender, r, family, addr, h₁, h₂, h₃, h₄, h₅⟩ := hx
  exact ⟨w, sender, r, family, addr, h₁, h₂, h₃,
    (convertAddr_eq_of_addressEqual hab).trans h₄, h₅⟩

/-- Every proto-display and every XDMCP display has an address that the access database in
force when its session ID was issued admits for a `REQUEST`. -/
theorem sessions_admitted (run : DaemonRun config g h s) :
    (∀ p ∈ s.protoDisplays, ∃ x ∈ h, Admits x p.address p.sessionID) ∧
    ∀ d ∈ s.displays, d.displayType.origin = .fromXDMCP →
      ∃ x ∈ h, Admits x d.fromAddr d.sessionID := by
  refine run.invariant_of (C := fun _ => True) (I := fun h s =>
    (∀ p ∈ s.protoDisplays, ∃ x ∈ h, Admits x p.address p.sessionID) ∧
    ∀ d ∈ s.displays, d.displayType.origin = .fromXDMCP →
      ∃ x ∈ h, Admits x d.fromAddr d.sessionID)
    (by simp [State.initial]) ?_ fun _ _ => trivial
  rintro h s i s' run ⟨hproto, hdisplay⟩ hstep -
  have hsound := run_sound run
  have hk := (step_kind hsound hstep).2
  refine ⟨fun p' hp' => ?_, fun d' hd' ho => ?_⟩
  · rcases hk.protoDisplay hp' with ⟨p, hp, hsame⟩ |
      ⟨hid, w, sender, r, pdpy, hreq, hissued, hsame, -⟩
    · obtain ⟨x, hx, hadmits⟩ := hproto p hp
      refine ⟨x, List.mem_append_left _ hx, ?_⟩
      rwa [hsame.address, hsame.sessionID]
    · obtain ⟨family, addr, hconvert, haccept, -⟩ := hissued.admitted
      refine ⟨⟨s, i, s'⟩, by simp, w, sender, r, family, addr, hreq, ?_, hid, ?_,
        accept_eq_none.1 haccept⟩
      · exact hsame.sessionID.trans hissued.sessionID
      · rw [hsame.address, hissued.address]
        exact hconvert
  · rcases hk.display hsound hd' ho with ⟨d, hd, hsucc⟩ | ⟨pdpy, hmakes, -⟩
    · have hsame := hsucc.session ho
      obtain ⟨x, hx, hadmits⟩ := hdisplay d hd hsame.origin
      refine ⟨x, List.mem_append_left _ hx, ?_⟩
      rwa [hsame.fromAddr, hsame.sessionID]
    · obtain ⟨w, sender, m, -, -, -, hfrom, haddress, -⟩ := hmakes.input
      obtain ⟨x, hx, hadmits⟩ := hproto pdpy hmakes.mem
      refine ⟨x, List.mem_append_left _ hx, ?_⟩
      rw [hmakes.sessionID, hfrom]
      exact hadmits.congr haddress

/-- The display that a `REQUEST` and a `MANAGE` have started was admitted. -/
theorem sessions_admitted_guest : ∃ h s, DaemonRun Config.open 0 h s ∧
    s.displays.map Display.sessionID = [1] ∧
    ∀ d ∈ s.displays, ∃ x ∈ h, Admits x d.fromAddr d.sessionID := by
  obtain ⟨h, s, run, hids, ho⟩ : ∃ h s, DaemonRun Config.open 0 h s ∧
      s.displays.map Display.sessionID = [1] ∧
      ∀ d ∈ s.displays, d.displayType.origin = .fromXDMCP :=
    exists_run_of_exec [.request (World.lan 20 7) Netaddr.guest (Request.plain 0 []),
      .manage (World.lan 20 7) Netaddr.guest ⟨1, 0, []⟩] (by decide +kernel)
  exact ⟨h, s, run, hids, fun d hd => (sessions_admitted run).2 d hd (ho d hd)⟩

/-! ### One session for each session ID -/

/-- In the step `x` an `ACCEPT` with the session ID `sid` has been sent to a client with
this address and display number. -/
def Accepts (x : Step State Input) (address : Netaddr) (displayNumber : CARD16)
    (sid : CARD32) : Prop :=
  ∃ w sender r, x.input.request? = some (w, sender, r) ∧
    addressEqual sender address = true ∧ r.displayNumber = displayNumber ∧ ∃ an ad zn zd,
      Event.send sender.sa (.accept sid an ad zn zd) ∈ x.post.out

/-- The step `x` starts the display `d` of an XDMCP session. -/
structure Starts (x : Step State Input) (d : Display) : Prop where
  mem : d ∈ x.post.displays
  origin : d.displayType.origin = .fromXDMCP
  fresh : x.pre.nextAddr ≤ d.addr

/-- The steps `x` and `y` start no displays with the same session ID. -/
def Separate (x y : Step State Input) : Prop :=
  ∀ d d', Starts x d → Starts y d' → d.sessionID ≠ d'.sessionID

instance : Std.Symm Separate := ⟨fun _ _ hxy d d' hd hd' => (hxy d' d hd' hd).symm⟩

/-- The step `x` answers a `MANAGE` with this session ID, from an address that compares
equal and with this display number. -/
def Manages (x : Step State Input) (address : Netaddr) (displayNumber : CARD16)
    (sid : CARD32) : Prop :=
  ∃ w sender m, x.input.manage? = some (w, sender, m) ∧ addressEqual sender address = true ∧
    m.displayNumber = displayNumber ∧ m.sessionID = sid

/-- An ID out of those issued since the start. -/
def IsIssued (g : Nat) (s : State) (sid : CARD32) : Prop :=
  ∃ k, g < k ∧ k ≤ s.globalSessionID ∧ sid = UInt32.ofNat k

lemma IsIssued.mono {sid : CARD32} (h : IsIssued g s sid)
    (hle : s.globalSessionID ≤ s'.globalSessionID) : IsIssued g s' sid := by
  obtain ⟨k, hk, hks, rfl⟩ := h
  exact ⟨k, hk, Nat.le_trans hks hle, rfl⟩

/-- The next ID differs from those issued before while there are fewer than `2 ^ 32`. -/
lemma IsIssued.ne_next {sid : CARD32} (h : IsIssued g s sid)
    (hfew : s.globalSessionID + 1 < g + 2 ^ 32) :
    sid ≠ UInt32.ofNat (s.globalSessionID + 1) := by
  obtain ⟨k, hk, hks, rfl⟩ := h
  intro heq
  have hmod := congrArg UInt32.toNat heq
  simp only [UInt32.toNat_ofNat'] at hmod
  omega

lemma Accepts.congr {x : Step State Input} {a b : Netaddr} {n : CARD16} {sid : CARD32}
    (hx : Accepts x a n sid) (hab : addressEqual b a = true) : Accepts x b n sid := by
  obtain ⟨w, sender, r, hreq, ha, hn, hout⟩ := hx
  exact ⟨w, sender, r, hreq, addressEqual_trans ha (addressEqual_symm hab), hn, hout⟩

lemma StepKind.protoSound (hk : StepKind i s s') (hs : s.ProtoSound) : s'.ProtoSound := by
  have hsame : s'.protoDisplays = s.protoDisplays → s'.ProtoSound := fun hp =>
    ⟨hp ▸ hs.distinct, fun p hmem => Nat.lt_of_lt_of_le (hs.bound p (hp ▸ hmem))
      hk.later.nextAddr⟩
  cases hk with
  | quiet _ _ hq => exact hsame hq.protoDisplays
  | request _ _ _ _ hr => exact hr.protoSound ⟨hs.distinct, hs.bound⟩
  | manage _ _ _ _ hd =>
    cases hd with
    | stale _ _ _ hd => exact hsame (by rw [hd]; rfl)
    | unknown _ _ hd => exact hsame (by rw [hd]; rfl)
    | ignored _ _ _ _ hd => exact hsame (by rw [hd]; rfl)
    | managed _ _ _ hm =>
      cases hm with
      | failed hq _ => exact hsame hq.protoDisplays
      | started _ hst hp =>
        refine ⟨hp ▸ hs.distinct.erase, fun p hmem => ?_⟩
        exact Nat.lt_of_lt_of_le (hs.bound p (Keyed.mem_erase.1 (hp ▸ hmem)).1) hst.nextAddr
      | leaked _ _ _ hp _ => exact hsame hp

/-- The proto-displays have session IDs of their own, out of those issued. -/
structure Numbered (g : Nat) (s : State) : Prop where
  start : g ≤ s.globalSessionID
  protoSound : s.ProtoSound
  issued : ∀ p ∈ s.protoDisplays, IsIssued g s p.sessionID
  unique : ∀ p ∈ s.protoDisplays, ∀ p' ∈ s.protoDisplays,
    p.sessionID = p'.sessionID → p.addr = p'.addr

lemma Numbered.initial : Numbered g (State.initial config g) where
  start := Nat.le_refl _
  protoSound := ⟨List.nodup_nil, by simp [State.initial]⟩
  issued := by simp [State.initial]
  unique := by simp [State.initial]

/-- The ID that a step issues, if it does, is none of those issued before. -/
lemma ne_of_issued {sid : CARD32} (hsid : IsIssued g s sid)
    (hfew : s'.globalSessionID < g + 2 ^ 32)
    (hid : s'.globalSessionID = s.globalSessionID + 1) :
    sid ≠ UInt32.ofNat (s.globalSessionID + 1) :=
  hsid.ne_next (by omega)

lemma Numbered.step (hn : Numbered g s) (hk : StepKind i s s')
    (hfew : s'.globalSessionID < g + 2 ^ 32) : Numbered g s' := by
  have hle := hk.globalSessionID
  constructor
  case start => exact Nat.le_trans hn.start hle
  case protoSound => exact hk.protoSound hn.protoSound
  case issued =>
    intro p' hp'
    rcases hk.protoDisplay hp' with ⟨p, hp, hsame⟩ | ⟨hid, _, _, _, pdpy, -, hissued, hsame, -⟩
    · rw [hsame.sessionID]
      exact (hn.issued p hp).mono hle
    · have := hn.start
      exact ⟨s.globalSessionID + 1, by omega, by omega, hsame.sessionID.trans hissued.sessionID⟩
  case unique =>
    intro p₁ hp₁ p₂ hp₂ heq
    rcases hk.protoDisplay hp₁ with
      ⟨q₁, hq₁, hsame₁⟩ | ⟨hid₁, _, _, _, q₁, -, hiss₁, hsame₁, -⟩ <;>
      rcases hk.protoDisplay hp₂ with
        ⟨q₂, hq₂, hsame₂⟩ | ⟨hid₂, _, _, _, q₂, -, hiss₂, hsame₂, -⟩ <;>
      rw [hsame₁.addr, hsame₂.addr] <;> rw [hsame₁.sessionID, hsame₂.sessionID] at heq
    · exact hn.unique q₁ hq₁ q₂ hq₂ heq
    · exact absurd (heq.trans hiss₂.sessionID) (ne_of_issued (hn.issued q₁ hq₁) hfew hid₂)
    · exact absurd (heq.symm.trans hiss₁.sessionID)
        (ne_of_issued (hn.issued q₂ hq₂) hfew hid₁)
    · exact hiss₁.addr.trans hiss₂.addr.symm

/-- What holds of the session IDs along a run in which no allocation fails and fewer than
`2 ^ 32` of them are issued. -/
structure Ledger (g : Nat) (h : List (Step State Input)) (s : State) : Prop
    extends Numbered g s where
  accepted : ∀ p ∈ s.protoDisplays,
    ∃ y ∈ h, Accepts y p.address p.displayNumber p.sessionID
  /-- The ID of a display that has been started is used up. -/
  retired : ∀ x ∈ h, ∀ d, Starts x d →
    IsIssued g s d.sessionID ∧ ∀ p ∈ s.protoDisplays, p.sessionID ≠ d.sessionID
  started : ∀ d ∈ s.displays, d.displayType.origin = .fromXDMCP →
    ∃ h₁ x h₂ d₀, h = h₁ ++ x :: h₂ ∧ Starts x d₀ ∧ d₀.addr = d.addr ∧
      d₀.sessionID = d.sessionID ∧ Manages x d.fromAddr d.displayNumber d.sessionID ∧
      ∃ y ∈ h₁, Accepts y d.fromAddr d.displayNumber d.sessionID
  once : h.Pairwise Separate

lemma Ledger.initial : Ledger g [] (State.initial config g) where
  toNumbered := Numbered.initial
  accepted := by simp [State.initial]
  retired := by simp
  started := by simp [State.initial]
  once := List.Pairwise.nil

/-- A display that a step starts is made of a proto-display that was in the list. -/
lemma makes_of_starts (hs : s.Sound [] none) (hk : StepKind i s s') {d : Display}
    (hd : Starts ⟨s, i, s'⟩ d) : ∃ pdpy, Makes i s s' pdpy d ∧
      ∀ d' ∈ s'.displays, d'.displayType.origin = .fromXDMCP → s.nextAddr ≤ d'.addr →
        d'.addr = d.addr := by
  rcases hk.display hs hd.mem hd.origin with ⟨d₀, hd₀, hsucc⟩ | hmakes
  · have hlt := hs.bound d₀ hd₀
    have hle : s.nextAddr ≤ d.addr := hd.fresh
    rw [hsucc.addr] at hle
    omega
  · exact hmakes

lemma Ledger.step (hl : Ledger g h s) (hs : s.Sound [] none) (hk : StepKind i s s')
    (halloc : ∀ w ∈ i.worlds, w.alloc = Alloc.ok)
    (hfew : s'.globalSessionID < g + 2 ^ 32) : Ledger g (h ++ [⟨s, i, s'⟩]) s' := by
  have hle := hk.globalSessionID
  -- a display that this step starts uses up the ID of a proto-display
  have huse : ∀ d, Starts ⟨s, i, s'⟩ d → ∃ pdpy ∈ s.protoDisplays,
      d.sessionID = pdpy.sessionID ∧
        s'.protoDisplays = Keyed.erase ProtoDisplay.addr pdpy.addr s.protoDisplays := by
    intro d hd
    obtain ⟨pdpy, hmakes, -⟩ := makes_of_starts hs hk hd
    obtain ⟨w, sender, m, hm, -, -, -, -, hproto⟩ := hmakes.input
    refine ⟨pdpy, hmakes.mem, hmakes.sessionID, hproto.resolve_right ?_⟩
    simp [halloc w (mem_worlds_of_manage hm), Alloc.ok]
  constructor
  case toNumbered => exact hl.toNumbered.step hk hfew
  case accepted =>
    intro p' hp'
    rcases hk.protoDisplay hp' with ⟨p, hp, hsame⟩ |
      ⟨hid, w, sender, r, pdpy, hreq, hissued, hsame, hout⟩
    · obtain ⟨y, hy, haccepts⟩ := hl.accepted p hp
      refine ⟨y, List.mem_append_left _ hy, ?_⟩
      rwa [hsame.address, hsame.displayNumber, hsame.sessionID]
    · refine ⟨⟨s, i, s'⟩, by simp, w, sender, r, hreq, ?_, ?_, hout⟩
      · rw [hsame.address, hissued.address]
        exact addressEqual_refl sender
      · exact (hsame.displayNumber.trans hissued.displayNumber).symm
  case retired =>
    intro x hx d hd
    rcases List.mem_append.1 hx with hx | hx
    · obtain ⟨hissued, hne⟩ := hl.retired x hx d hd
      refine ⟨hissued.mono hle, fun p' hp' => ?_⟩
      rcases hk.protoDisplay hp' with ⟨p, hp, hsame⟩ | ⟨hid, _, _, _, q, -, hiss, hsame, -⟩
      · rw [hsame.sessionID]
        exact hne p hp
      · rw [hsame.sessionID, hiss.sessionID]
        exact (ne_of_issued hissued hfew hid).symm
    · obtain rfl : x = ⟨s, i, s'⟩ := by simpa using hx
      obtain ⟨pdpy, hmem, hsid, hproto⟩ := huse d hd
      rw [hsid]
      refine ⟨(hl.issued pdpy hmem).mono hle, fun p' hp' heq => ?_⟩
      obtain ⟨hp', hne⟩ := Keyed.mem_erase.1 (hproto ▸ hp')
      exact hne (hl.unique p' hp' pdpy hmem heq)
  case started =>
    intro d' hd' ho
    rcases hk.display hs hd' ho with ⟨d, hd, hsucc⟩ | ⟨pdpy, hmakes, -⟩
    · have hsame := hsucc.session ho
      obtain ⟨h₁, x, h₂, d₀, rfl, hstarts, ha, hsid, hmanages, y, hy, haccepts⟩ :=
        hl.started d hd hsame.origin
      refine ⟨h₁, x, h₂ ++ [⟨s, i, s'⟩], d₀, by simp, hstarts, ha.trans hsucc.addr.symm,
        hsid.trans hsame.sessionID.symm, ?_, y, hy, ?_⟩
      · rwa [hsame.fromAddr, hsame.displayNumber, hsame.sessionID]
      · rwa [hsame.fromAddr, hsame.displayNumber, hsame.sessionID]
    · obtain ⟨w, sender, m, hm, hmid, hmn, hfrom, haddress, -⟩ := hmakes.input
      obtain ⟨y, hy, haccepts⟩ := hl.accepted pdpy hmakes.mem
      refine ⟨h, ⟨s, i, s'⟩, [], d', rfl, ⟨hd', ho, hmakes.fresh⟩, rfl, rfl, ?_, y, hy, ?_⟩
      · exact ⟨w, sender, m, hm, hfrom ▸ addressEqual_refl sender,
          hmn.trans hmakes.displayNumber.symm, hmid.trans hmakes.sessionID.symm⟩
      · rw [hfrom, hmakes.displayNumber, hmakes.sessionID]
        exact haccepts.congr haddress
  case once =>
    refine List.pairwise_append.2 ⟨hl.once, List.pairwise_singleton _ _, ?_⟩
    intro x hx y hy d d' hd hd'
    obtain rfl : y = ⟨s, i, s'⟩ := by simpa using hy
    obtain ⟨pdpy, hmem, hsid, -⟩ := huse d' hd'
    rw [hsid]
    exact ((hl.retired x hx d hd).2 pdpy hmem).symm

/-- IDs are only added. -/
lemma run_globalSessionID (run : DaemonRun config g h s) :
    ∀ x ∈ h, x.post.globalSessionID ≤ s.globalSessionID := by
  refine run.invariant_of (C := fun _ => True) (I := fun h s =>
    ∀ x ∈ h, x.post.globalSessionID ≤ s.globalSessionID) (by simp) ?_ fun _ _ => trivial
  rintro h s i s' run hI hstep - x hx
  have hle := (step_kind (run_sound run) hstep).2.globalSessionID
  rcases List.mem_append.1 hx with hx | hx
  · exact Nat.le_trans (hI x hx) hle
  · obtain rfl : x = ⟨s, i, s'⟩ := by simpa using hx
    exact Nat.le_refl _

lemma run_ledger (run : DaemonRun config g h s)
    (halloc : ∀ x ∈ h, ∀ w ∈ x.input.worlds, w.alloc = Alloc.ok)
    (hfew : s.globalSessionID < g + 2 ^ 32) : Ledger g h s := by
  refine run.invariant_of (C := fun x => (∀ w ∈ x.input.worlds, w.alloc = Alloc.ok) ∧
    x.post.globalSessionID < g + 2 ^ 32) Ledger.initial ?_ fun x hx =>
      ⟨halloc x hx, Nat.lt_of_le_of_lt (run_globalSessionID run x hx) hfew⟩
  rintro h s i s' run hl hstep ⟨halloc, hfew⟩
  exact hl.step (run_sound run) (step_kind (run_sound run) hstep).2 halloc hfew

/-- In a run without failing allocations in which fewer than `2 ^ 32` session IDs are
issued, the session IDs of all proto-displays and XDMCP displays differ; every XDMCP
display has been started by a `MANAGE` from an address and for a display number to which
its ID had been sent in an `ACCEPT`; and no two steps start displays with one ID, nor does
one step start two. -/
theorem sessions_safe (run : DaemonRun config g h s)
    (halloc : ∀ x ∈ h, ∀ w ∈ x.input.worlds, w.alloc = Alloc.ok)
    (hfew : s.globalSessionID < g + 2 ^ 32) :
    (s.protoDisplays.map ProtoDisplay.sessionID ++
      (s.displays.filter Display.isXDMCP).map Display.sessionID).Nodup ∧
    (∀ d ∈ s.displays, d.displayType.origin = .fromXDMCP →
      ∃ h₁ x h₂, h = h₁ ++ x :: h₂ ∧ (∃ d₀, Starts x d₀ ∧ d₀.addr = d.addr) ∧
        Manages x d.fromAddr d.displayNumber d.sessionID ∧
        ∃ y ∈ h₁, Accepts y d.fromAddr d.displayNumber d.sessionID) ∧
    h.Pairwise Separate ∧
    ∀ x ∈ h, ∀ d d', Starts x d → Starts x d' → d = d' := by
  have hl := run_ledger run halloc hfew
  have hs := run_sound run
  have hone : ∀ x ∈ h, ∀ d d', Starts x d → Starts x d' → d = d' := by
    intro x hx d d' hd hd'
    obtain ⟨h₁, h₂, -, hrun, hstep⟩ := run.split hx
    obtain ⟨hpost, hk⟩ := step_kind (run_sound hrun) hstep
    obtain ⟨pdpy, -, hnew⟩ := makes_of_starts (run_sound hrun) hk hd
    exact hpost.distinct.eq_of_mem hd.mem hd'.mem
      (hnew d' hd'.mem hd'.origin hd'.fresh).symm
  -- two displays with one ID have been started by one step, and are the same
  have hsame : ∀ d ∈ s.displays, ∀ d' ∈ s.displays, d.displayType.origin = .fromXDMCP →
      d'.displayType.origin = .fromXDMCP → d.sessionID = d'.sessionID → d = d' := by
    intro d hd d' hd' ho ho' heq
    obtain ⟨h₁, x, h₂, d₀, hx, hstarts, ha, hsid, -⟩ := hl.started d hd ho
    obtain ⟨h₁', x', h₂', d₀', hx', hstarts', ha', hsid', -⟩ := hl.started d' hd' ho'
    have hmem : x ∈ h := hx ▸ by simp
    have hmem' : x' ∈ h := hx' ▸ by simp
    have hsid₀ : d₀.sessionID = d₀'.sessionID := hsid.trans (heq.trans hsid'.symm)
    have hxx : x = x' := by
      by_contra hne
      exact hl.once.forall hmem hmem' hne d₀ d₀' hstarts hstarts' hsid₀
    obtain rfl := hone x hmem d₀ d₀' hstarts (hxx ▸ hstarts')
    exact hs.distinct.eq_of_mem hd hd' (ha.symm.trans ha')
  refine ⟨List.nodup_append.2 ⟨?_, ?_, ?_⟩, ?_, hl.once, hone⟩
  · refine List.Nodup.map_on (fun p hp p' hp' heq => ?_) (hl.protoSound.distinct.of_map _)
    exact hl.protoSound.distinct.eq_of_mem hp hp' (hl.unique p hp p' hp' heq)
  · refine List.Nodup.map_on (fun d hd d' hd' heq => ?_)
      (List.Nodup.filter _ (hs.distinct.of_map _))
    obtain ⟨hd, ho⟩ := List.mem_filter.1 hd
    obtain ⟨hd', ho'⟩ := List.mem_filter.1 hd'
    exact hsame d hd d' hd' (of_decide_eq_true ho) (of_decide_eq_true ho') heq
  · intro sid hsid sid' hsid'
    obtain ⟨p, hp, rfl⟩ := List.mem_map.1 hsid
    obtain ⟨d, hd, rfl⟩ := List.mem_map.1 hsid'
    obtain ⟨hd, ho⟩ := List.mem_filter.1 hd
    obtain ⟨h₁, x, h₂, d₀, hx, hstarts, -, hd₀, -⟩ := hl.started d hd (of_decide_eq_true ho)
    rw [← hd₀]
    exact (hl.retired x (hx ▸ by simp) d₀ hstarts).2 p hp
  · intro d hd ho
    obtain ⟨h₁, x, h₂, d₀, hx, hstarts, ha, -, hmanages, hy⟩ := hl.started d hd ho
    exact ⟨h₁, x, h₂, hx, ⟨d₀, hstarts, ha⟩, hmanages, hy⟩

/-- Two displays of one client have sessions with two IDs. -/
theorem sessions_safe_guest : ∃ h s, DaemonRun Config.open 0 h s ∧
    s.displays.map Display.sessionID = [2, 1] ∧ h.Pairwise Separate := by
  obtain ⟨h, s, run, hids, halloc, hfew⟩ : ∃ h s, DaemonRun Config.open 0 h s ∧
      s.displays.map Display.sessionID = [2, 1] ∧
      (∀ x ∈ h, ∀ w ∈ x.input.worlds, w.alloc = Alloc.ok) ∧ s.globalSessionID < 0 + 2 ^ 32 :=
    exists_run_of_exec [.request (World.lan 20 7) Netaddr.guest (Request.plain 0 []),
      .request (World.lan 20 7) Netaddr.guest (Request.plain 1 []),
      .manage (World.lan 20 7) Netaddr.guest ⟨1, 0, []⟩,
      .manage (World.lan 21 7) Netaddr.guest ⟨2, 1, []⟩] (by decide +kernel)
  exact ⟨h, s, run, hids, (sessions_safe run halloc hfew).2.2.1⟩

end Xdm
