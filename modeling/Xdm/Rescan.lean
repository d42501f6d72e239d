/-
# What a rescan of the servers file does

`RescanServers` and `RescanIfMod` mark every display as missing, let the lines of the file take
the mark away again, and leave it to `StartDisplays` to stop what is still marked.
`StartDisplays` visits each display once, and what it calls there depends on this display only,
as the scan has left it.
-/
import Xdm.Readded
import Xdm.Unique

namespace Xdm

open Prog

variable {config : Config} {g : Nat} {h : List (Step State Input)} {s s' t u : State}
variable {w : World} {a : Nat} {d x y : Display} {dead : List Pid} {busy : Option Nat}
variable {l : List Nat}

/-! ### The marks -/

/-- The mark of `MarkDisplay`. -/
def Display.marked (d : Display) : Display := { d with state := .missingEntry }

/-- The state in which every display is marked. -/
def State.allMarked (s : State) : State := { s with displays := s.displays.map Display.marked }

lemma markDisplay_listed (ha : s.Listed a) :
    markDisplay a s = some ((), s.write a Display.marked) := by
  obtain ⟨d, hd, rfl⟩ := ha
  cases hfind : Keyed.find Display.addr d.addr s.displays with
  | none => exact absurd rfl (Keyed.find_eq_none.1 hfind d hd)
  | some x => exact writeDisplay_eq Display.marked hfind

/-- Marking those of a list of addresses. -/
lemma markDisplays_forM (hl : ∀ a ∈ l, s.Listed a) : l.forM markDisplay s =
    some ((), { s with displays := s.displays.map fun d =>
      if d.addr ∈ l then d.marked else d }) := by
  induction l generalizing s with
  | nil =>
    simp only [List.not_mem_nil, if_false, List.map_id']
    rfl
  | cons a l ih =>
    have hrest : ∀ b ∈ l, (s.write a Display.marked).Listed b := by
      intro b hb
      obtain ⟨d, hd, rfl⟩ := hl b (List.mem_cons_of_mem _ hb)
      by_cases hda : d.addr = a
      · exact ⟨d.marked, State.mem_write.2 (Or.inl ⟨d, hd, hda, rfl⟩), rfl⟩
      · exact ⟨d, State.mem_write.2 (Or.inr ⟨hd, hda⟩), rfl⟩
    change (markDisplay a >>= fun _ => l.forM markDisplay) s = _
    rw [bind_of_eq_some _ (markDisplay_listed (hl a (List.mem_cons_self ..))), ih hrest]
    simp only [State.write, modifyAt, Keyed.modify, List.map_map]
    congr 3
    refine List.map_congr_left fun d _ => ?_
    by_cases hda : d.addr = a <;> by_cases hdl : d.addr ∈ l <;>
      simp [hda, Display.marked]

lemma markDisplays_eq (s : State) : forEachDisplay markDisplay s = some ((), s.allMarked) := by
  unfold forEachDisplay
  rw [get_bind, markDisplays_forM]
  · simp only [State.allMarked]
    congr 3
    exact List.map_congr_left fun d hd => if_pos (List.mem_map_of_mem hd)
  · intro a ha
    obtain ⟨d, hd, hda⟩ := List.mem_map.1 ha
    exact ⟨d, hd, hda⟩

/-! ### The calls of `StartDisplays` -/

/-- A call of `StopDisplay` or `StartDisplay`, with the name of the display. -/
inductive DisplayCall
  | stop (name : Str)
  | start (name : Str)
deriving DecidableEq

/-- `CheckDisplayStatus`, with what it calls. -/
def checkDisplayStatusCalls (w : World) (d : Nat) : M (List DisplayCall) := do
  let display ← readDisplay d
  if display.displayType.origin = .fromFile then
    match display.state with
    | .missingEntry => do
      stopDisplay d
      pure [.stop display.name]
    | .newEntry => do
      writeDisplay d fun display => { display with state := .oldEntry }
      startIfPermanentCalls display
    | .oldEntry => startIfPermanentCalls display
  else pure []
where
  startIfPermanentCalls (display : Display) : M (List DisplayCall) :=
    if display.displayType.lifetime = .permanent ∧ display.status = .notRunning then do
      startDisplay w display.addr
      pure [.start display.name]
    else pure []

def startDisplaysLoop (w : World) : List Nat → M (List DisplayCall)
  | [] => pure []
  | d :: ds => do
    let calls ← checkDisplayStatusCalls w d
    let calls' ← startDisplaysLoop w ds
    pure (calls ++ calls')

/-- `StartDisplays`, with what it calls. -/
def startDisplaysCalls (w : World) : M (List DisplayCall) := do
  let s ← get
  startDisplaysLoop w (s.displays.map Display.addr)

/-- `RescanServers`, with the calls of `StopDisplay` and `StartDisplay`. -/
def rescanServersCalls (w : World) : M (List DisplayCall) := do
  forEachDisplay markDisplay
  loadConfig w
  scanServers w
  loadDatabase w
  startDisplaysCalls w

/-- What `CheckDisplayStatus` calls for a display. -/
def Display.calls (d : Display) : List DisplayCall :=
  if d.displayType.origin = .fromFile then
    if d.state = .missingEntry then [.stop d.name]
    else if d.displayType.lifetime = .permanent ∧ d.status = .notRunning then [.start d.name]
    else []
  else []

lemma Display.calls_remote (h : d.displayType.origin ≠ .fromFile) : d.calls = [] := by
  unfold Display.calls
  rw [if_neg h]

lemma Display.calls_missing (horigin : d.displayType.origin = .fromFile)
    (hstate : d.state = .missingEntry) : d.calls = [.stop d.name] := by
  unfold Display.calls
  rw [if_pos horigin, if_pos hstate]

lemma Display.calls_current (horigin : d.displayType.origin = .fromFile)
    (hstate : d.state ≠ .missingEntry) : d.calls =
      if d.displayType.lifetime = .permanent ∧ d.status = .notRunning then [.start d.name]
      else [] := by
  unfold Display.calls
  rw [if_pos horigin, if_neg hstate]

/-- The calls are those of the display that is read, and the rest is `CheckDisplayStatus`. -/
lemma checkDisplayStatusCalls_eq (w : World) (a : Nat) (s : State) :
    checkDisplayStatusCalls w a s =
      (Keyed.find Display.addr a s.displays).bind fun d =>
        (checkDisplayStatus w a s).map fun r => (d.calls, r.2) := by
  unfold checkDisplayStatusCalls checkDisplayStatus
  cases hfind : Keyed.find Display.addr a s.displays with
  | none =>
    have hread : readDisplay a s = none := by
      unfold readDisplay
      rw [get_bind, hfind]
      rfl
    change (readDisplay a s).bind _ = _
    rw [hread]
    rfl
  | some d =>
    obtain rfl := Keyed.key_of_find hfind
    rw [bind_of_eq_some _ (readDisplay_eq hfind), bind_of_eq_some _ (readDisplay_eq hfind)]
    have hstart : ∀ (t : State), d.displayType.origin = .fromFile → d.state ≠ .missingEntry →
        checkDisplayStatusCalls.startIfPermanentCalls w d t =
          (checkDisplayStatus.startIfPermanent w d t).map fun r => (d.calls, r.2) := by
      intro t horigin hstate
      rw [Display.calls_current horigin hstate]
      unfold checkDisplayStatusCalls.startIfPermanentCalls checkDisplayStatus.startIfPermanent
      split_ifs
      · change (startDisplay w d.addr t).bind _ = _
        cases startDisplay w d.addr t <;> rfl
      · rfl
    rw [Option.bind_some]
    split_ifs with horigin
    · rcases hstate : d.state with _ | _ | _
      · dsimp only
        rw [bind_of_eq_some _ (writeDisplay_eq _ hfind),
          bind_of_eq_some _ (writeDisplay_eq _ hfind)]
        exact hstart _ horigin (by simp [hstate])
      · exact hstart _ horigin (by simp [hstate])
      · dsimp only
        rw [Display.calls_missing horigin hstate]
        change (stopDisplay d.addr s).bind _ = _
        cases stopDisplay d.addr s <;> rfl
    · rw [Display.calls_remote horigin]
      rfl

/-- A visit of a listed display, with and without its calls. -/
lemma checkDisplayStatusCalls_some {calls : List DisplayCall} :
    checkDisplayStatusCalls w a s = some (calls, s') ↔
      checkDisplayStatus w a s = some ((), s') ∧
        ∃ d, Keyed.find Display.addr a s.displays = some d ∧ calls = d.calls := by
  rw [checkDisplayStatusCalls_eq, Option.bind_eq_some_iff]
  constructor
  · rintro ⟨d, hfind, hmap⟩
    obtain ⟨r, hr, heq⟩ := Option.map_eq_some_iff.1 hmap
    obtain ⟨rfl, rfl⟩ := Prod.mk.inj heq
    exact ⟨hr, d, hfind, rfl⟩
  · rintro ⟨hr, d, hfind, rfl⟩
    exact ⟨d, hfind, by rw [hr]; rfl⟩

/-- A display that is not in the list cannot be visited. -/
lemma find_of_checkDisplayStatus (hrun : checkDisplayStatus w a s = some ((), s')) :
    ∃ d, Keyed.find Display.addr a s.displays = some d := by
  unfold checkDisplayStatus at hrun
  obtain ⟨d, t, hread, -⟩ := bind_eq_some.1 hrun
  unfold readDisplay at hread
  rw [get_bind] at hread
  cases hfind : Keyed.find Display.addr a s.displays with
  | none =>
    rw [hfind] at hread
    cases hread
  | some d => exact ⟨d, rfl⟩

/-- Whatever the loop does, it does so with some calls. -/
lemma startDisplaysLoop_of_forM (hrun : l.forM (checkDisplayStatus w) s = some ((), s')) :
    ∃ calls, startDisplaysLoop w l s = some (calls, s') := by
  induction l generalizing s with
  | nil =>
    obtain ⟨-, rfl⟩ := Prod.mk.inj (Option.some.inj hrun)
    exact ⟨[], rfl⟩
  | cons a l ih =>
    change (checkDisplayStatus w a >>= fun _ => l.forM (checkDisplayStatus w)) s = _ at hrun
    obtain ⟨_, t, hvisit, hrest⟩ := bind_eq_some.1 hrun
    obtain ⟨d, hfind⟩ := find_of_checkDisplayStatus hvisit
    obtain ⟨calls, hcalls⟩ := ih hrest
    refine ⟨d.calls ++ calls, ?_⟩
    unfold startDisplaysLoop
    rw [bind_of_eq_some _ (checkDisplayStatusCalls_some.2 ⟨hvisit, d, hfind, rfl⟩),
      bind_of_eq_some _ hcalls]
    rfl

/-- `StartDisplays` does what it does with some calls. -/
lemma startDisplaysCalls_of (hrun : startDisplays w s = some ((), s')) :
    ∃ calls, startDisplaysCalls w s = some (calls, s') := by
  unfold startDisplays forEachDisplay at hrun
  unfold startDisplaysCalls
  rw [get_bind] at hrun ⊢
  exact startDisplaysLoop_of_forM hrun

/-! ### One visit -/

/-- The display after a visit that calls nothing. -/
def Display.settled (d : Display) : Display :=
  if d.displayType.origin = .fromFile ∧ d.state = .newEntry then { d with state := .oldEntry }
  else d

/-- The state in which `StartServer` is called in a visit of the display at `a`. -/
def State.atServer (w : World) (a : Nat) (s : State) : State :=
  (s.write a fun d => { d with state := .oldEntry }).write a fun d => { d with
    resources := w.serverResources d.name d.className }

/-- `StartServer`, when it is called in a visit of the display at `a`, cannot start a server. -/
def refusesServer (w : World) (a : Nat) (s : State) : Bool :=
  (startServer a (s.atServer w a)).any fun r => !r.1

/-- What becomes of the display `d` in `StartDisplays`, which visits it in the state `u`. -/
structure Outcome (w : World) (u : State) (d : Display) (s : State) : Prop where
  idle : d.calls = [] → d.settled ∈ s.displays
  stopped : d.calls = [.stop d.name] → if d.serverPid = -1 then ¬ s.Listed d.addr
    else { d with status := .zombie } ∈ s.displays
  /-- A local display without a server is removed if it does not get one. -/
  started : d.calls = [.start d.name] →
    if d.displayType.location = .localHost ∧ d.serverPid = -1 ∧ refusesServer w d.addr u = true
    then ¬ s.Listed d.addr else s.Listed d.addr

lemma Outcome.of_idle (hcalls : d.calls = []) (h : d.settled ∈ s.displays) : Outcome w u d s :=
  ⟨fun _ => h, fun hno => by simp [hcalls] at hno, fun hno => by simp [hcalls] at hno⟩

lemma Outcome.of_started (hcalls : d.calls = [.start d.name])
    (h : if d.displayType.location = .localHost ∧ d.serverPid = -1 ∧
      refusesServer w d.addr u = true then ¬ s.Listed d.addr else s.Listed d.addr) :
    Outcome w u d s :=
  ⟨fun hno => by simp [hcalls] at hno, fun hno => by simp [hcalls] at hno, fun _ => h⟩

lemma Display.settled_of_ne (h : d.state ≠ .newEntry) : d.settled = d := by
  unfold Display.settled
  rw [if_neg fun hnew => h hnew.2]

namespace Only

lemma listed {b : Nat} (h : Only a s s') (hb : b ≠ a) : s'.Listed b ↔ s.Listed b := by
  constructor
  · rintro ⟨x, hx, rfl⟩
    exact ⟨x, (h x hb).1 hx, rfl⟩
  · rintro ⟨x, hx, rfl⟩
    exact ⟨x, (h x hb).2 hx, rfl⟩

/-- What became of another display is still so. -/
lemma outcome (h : Only a s s') (hd : d.addr ≠ a) (ho : Outcome w u d s) : Outcome w u d s' := by
  have hlisted := h.listed hd
  refine ⟨fun hcalls => (h _ ?_).2 (ho.idle hcalls), fun hcalls => ?_, fun hcalls => ?_⟩
  · unfold Display.settled
    split_ifs <;> exact hd
  · have hstopped := ho.stopped hcalls
    split_ifs at hstopped ⊢ with hserver
    · rwa [hlisted]
    · exact (h { d with status := .zombie } hd).2 hstopped
  · rw [hlisted]
    exact ho.started hcalls

end Only

/-- `StartDisplay` leaves the display in the list, unless it calls `StartServer` for it and no
server can be started. -/
lemma wlp_startDisplay_listed (hs : s.Sound [] none) (hd : d ∈ s.displays) :
    Wlp (startDisplay w d.addr) (fun _ s' => if d.displayType.location = .localHost ∧
      d.serverPid = -1 ∧ (startServer d.addr (s.write d.addr fun d => { d with
        resources := w.serverResources d.name d.className })).any (fun r => !r.1) = true
      then ¬ s'.Listed d.addr else s'.Listed d.addr) s := by
  have hbook : Bookkeeping fun d : Display =>
      { d with resources := w.serverResources d.name d.className } := by
    constructor <;> intro <;> rfl
  set t := s.write d.addr fun d => { d with
    resources := w.serverResources d.name d.className } with ht
  have hlisted : t.Listed d.addr := State.Listed.write ⟨d, hd, rfl⟩ fun _ => rfl
  have hfind : Keyed.find Display.addr d.addr t.displays = some { d with
      resources := w.serverResources d.name d.className } :=
    (hbook.sound hs).find (State.mem_write.2 (Or.inl ⟨d, hd, rfl, rfl⟩))
  have hsession : ∀ u : State, u.Listed d.addr → Wlp (startDisplay.startSession d.addr)
      (fun _ s' => s'.Listed d.addr) u := fun u hu =>
    (keepsListed_startSession u hu).mono fun _ _ h => h.1
  unfold startDisplay
  rw [wlp_bind]
  intro _ t' hwrite
  obtain rfl : t = t' := by
    rw [writeDisplay_eq _ (hs.find hd)] at hwrite
    exact (Prod.mk.inj (Option.some.inj hwrite)).2
  rw [wlp_bind]
  intro y t' hread
  rw [readDisplay_eq hfind] at hread
  obtain ⟨rfl, rfl⟩ := Prod.mk.inj (Option.some.inj hread)
  dsimp only
  by_cases hlocal : d.displayType.location = .localHost
  case neg =>
    rw [if_neg hlocal]
    simp only [hlocal, false_and, if_false]
    exact hsession t hlisted
  by_cases hserver : d.serverPid = -1
  case neg =>
    simp only [hlocal, hserver, true_and, false_and, if_false, if_true]
    refine wlp_ite (fun _ => ?_) fun _ => hsession t hlisted
    rw [wlp_bind, emit, wlp_modify]
    exact hsession _ hlisted
  -- the display gets a server or goes
  simp only [hlocal, hserver, ne_eq, not_true_eq_false, false_and, and_false, true_and, if_true,
    if_false]
  rw [wlp_bind]
  intro started u hstarted
  have hu : u.Listed d.addr := (keepsListed_startServer t hlisted _ _ hstarted).1
  rw [hstarted]
  cases started with
  | true => exact hsession u hu
  | false =>
    refine (wp_removeDisplay hu).wlp.mono fun _ s' h => ?_
    subst h
    rintro ⟨y, hy, hya⟩
    exact (State.mem_remove.1 hy).2 hya

/-- A store that changes nothing. -/
lemma State.Sound.write_self {f : Display → Display} (hs : s.Sound dead busy)
    (hd : d ∈ s.displays) (hf : f d = d) : s.write d.addr f = s := by
  have hmap : modifyAt d.addr f s.displays = s.displays := by
    refine (List.map_congr_left fun x hx => ?_).trans (List.map_id' s.displays)
    split_ifs with hxd
    · rw [hs.distinct.eq_of_mem hx hd hxd, hf]
    · rfl
  rw [State.write, hmap]

/-- A visit. -/
lemma wlp_checkDisplayStatus_outcome (hs : s.Sound [] none) (hx : x ∈ s.displays) :
    Wlp (checkDisplayStatus w x.addr) (fun _ s' => Outcome w s x s') s := by
  have hfind := hs.find hx
  have hbook : Bookkeeping fun d : Display => { d with state := .oldEntry } := by
    constructor <;> intro <;> rfl
  -- the end of a visit of a display that is not marked
  set t := s.write x.addr fun d => { d with state := .oldEntry } with ht
  have hmem : { x with state := .oldEntry } ∈ t.displays :=
    State.mem_write.2 (Or.inl ⟨x, hx, rfl, rfl⟩)
  have hstart : x.displayType.origin = .fromFile → x.state ≠ .missingEntry →
      x.settled = { x with state := .oldEntry } →
      Wlp (checkDisplayStatus.startIfPermanent w x) (fun _ s' => Outcome w s x s') t := by
    intro horigin hstate hsettled
    refine wlp_ite (fun hc => ?_) fun hc => (wlp_pure _ _ _).2 ?_
    · have hcalls : x.calls = [.start x.name] := by
        rw [Display.calls_current horigin hstate, if_pos hc]
      exact (wlp_startDisplay_listed (hbook.sound hs) hmem).mono fun _ s' h =>
        Outcome.of_started hcalls h
    · have hcalls : x.calls = [] := by
        rw [Display.calls_current horigin hstate, if_neg hc]
      exact .of_idle hcalls (hsettled ▸ hmem)
  unfold checkDisplayStatus
  rw [wlp_bind]
  intro d t' hread
  rw [readDisplay_eq hfind] at hread
  obtain ⟨rfl, rfl⟩ := Prod.mk.inj (Option.some.inj hread)
  refine wlp_ite (fun horigin => ?_) fun horigin => (wlp_pure _ _ _).2 ?_
  · rcases hstate : x.state with _ | _ | _
    · dsimp only
      rw [wlp_bind]
      intro _ t' hwrite
      rw [writeDisplay_eq _ hfind] at hwrite
      obtain ⟨-, rfl⟩ := Prod.mk.inj (Option.some.inj hwrite)
      refine hstart horigin (by simp [hstate]) ?_
      unfold Display.settled
      rw [if_pos ⟨horigin, hstate⟩]
    · have hsame : { x with state := .oldEntry } = x := by rw [← hstate]
      have hts : t = s := hs.write_self hx hsame
      rw [hts] at hstart
      refine hstart horigin (by simp [hstate]) ?_
      rw [Display.settled_of_ne (by simp [hstate]), hsame]
    · have hcalls := Display.calls_missing horigin hstate
      intro _ s' hstop
      dsimp only at hstop
      rw [stopDisplay_eq hs hx] at hstop
      obtain ⟨-, rfl⟩ := Prod.mk.inj (Option.some.inj hstop)
      refine ⟨fun hno => by simp [hcalls] at hno, fun _ => ?_, fun hno => by simp [hcalls] at hno⟩
      unfold State.stopped
      by_cases hserver : x.serverPid = -1
      · rw [if_pos hserver, if_neg (not_not.2 hserver)]
        rintro ⟨y, hy, hya⟩
        exact (State.mem_remove.1 hy).2 hya
      · rw [if_neg hserver, if_pos hserver]
        exact State.mem_write.2 (Or.inl ⟨x, hx, rfl, rfl⟩)
  · have hsettled : x.settled = x := by
      unfold Display.settled
      rw [if_neg fun h => horigin h.1]
    exact .of_idle (Display.calls_remote horigin) (hsettled.symm ▸ hx)

/-! ### The walk -/

/-- The calls for the display at an address. -/
def State.callsAt (s : State) (a : Nat) : List DisplayCall :=
  ((Keyed.find Display.addr a s.displays).map Display.calls).getD []

/-- A visit of another display does not change the calls at an address. -/
lemma Only.callsAt {b : Nat} (h : Only a s s') (hs' : s'.Sound [] none) (hb : b ≠ a) :
    s'.callsAt b = s.callsAt b := by
  unfold State.callsAt
  cases hfind : Keyed.find Display.addr b s.displays with
  | none =>
    have hnone : Keyed.find Display.addr b s'.displays = none :=
      Keyed.find_eq_none.2 fun x hx hxb =>
        Keyed.find_eq_none.1 hfind x ((h x (hxb ▸ hb)).1 hx) hxb
    rw [hnone]
  | some x =>
    obtain rfl := Keyed.key_of_find hfind
    rw [hs'.find ((h x hb).2 (Keyed.mem_of_find hfind))]

/-- The state in which a walk over a list of addresses comes to the one at `a`. -/
def visitState (w : World) (l : List Nat) (a : Nat) (s : State) : Option State :=
  ((l.takeWhile fun b => b ≠ a).forM (checkDisplayStatus w) s).map Prod.snd

lemma visitState_cons {b : Nat} (hvisit : checkDisplayStatus w a s = some ((), t)) (hb : b ≠ a) :
    visitState w (a :: l) b s = visitState w l b t := by
  unfold visitState
  rw [List.takeWhile_cons, if_pos (by simpa using hb.symm)]
  change ((checkDisplayStatus w a >>= fun _ => _) s).map Prod.snd = _
  rw [bind_of_eq_some _ hvisit]

/-- The walk over a list of addresses.  Each display is visited as it was at the start, and what
becomes of it then is not changed later. -/
lemma walk {calls : List DisplayCall} (hs : s.Sound [] none) (hnodup : l.Nodup)
    (hrun : startDisplaysLoop w l s = some (calls, s')) :
    calls = l.flatMap s.callsAt ∧
      (∀ x ∈ s.displays, x.addr ∈ l → ∃ u, visitState w l x.addr s = some u ∧
        Outcome w u x s') ∧
      ∀ (x : Display) u, x.addr ∉ l → Outcome w u x s → Outcome w u x s' := by
  induction l generalizing s calls with
  | nil =>
    obtain ⟨rfl, rfl⟩ := Prod.mk.inj (Option.some.inj hrun)
    exact ⟨rfl, by simp, fun x u _ ho => ho⟩
  | cons a l ih =>
    obtain ⟨ha, hdistinct⟩ := List.nodup_cons.1 hnodup
    unfold startDisplaysLoop at hrun
    obtain ⟨_, t, hturn, hrun⟩ := bind_eq_some.1 hrun
    obtain ⟨calls', u, hrest, hpure⟩ := bind_eq_some.1 hrun
    obtain ⟨rfl, rfl⟩ := Prod.mk.inj (Option.some.inj hpure)
    obtain ⟨hvisit, d, hfind, rfl⟩ := checkDisplayStatusCalls_some.1 hturn
    have hd : d ∈ s.displays := Keyed.mem_of_find hfind
    obtain rfl : d.addr = a := Keyed.key_of_find hfind
    have ht : t.Sound [] none := (keeps_checkDisplayStatus w d.addr s hs _ _ hvisit).1
    have honly : Only d.addr s t := ((Only.works d.addr).checkDisplayStatus s trivial _ _ hvisit).2
    obtain ⟨hcalls, houtcome, hstays⟩ := ih ht hdistinct hrest
    refine ⟨?_, fun x hx hxl => ?_, fun x u hxl ho => ?_⟩
    · have hhead : s.callsAt d.addr = d.calls := by
        unfold State.callsAt
        rw [hfind]
        rfl
      rw [List.flatMap_cons, hhead, hcalls]
      congr 1
      refine List.flatMap_congr fun b hb => honly.callsAt ht ?_
      rintro rfl
      exact ha hb
    · by_cases hxd : x.addr = d.addr
      · obtain rfl := hs.distinct.eq_of_mem hx hd hxd
        refine ⟨s, ?_, hstays x s ha (wlp_checkDisplayStatus_outcome hs hx _ _ hvisit)⟩
        unfold visitState
        rw [List.takeWhile_cons, if_neg (by simp)]
        rfl
      · rcases List.mem_cons.1 hxl with hxl | hxl
        · exact absurd hxl hxd
        · rw [visitState_cons hvisit hxd]
          exact houtcome x ((honly x hxd).2 hx) hxl
    · rw [List.mem_cons, not_or] at hxl
      exact hstays x u hxl.2 (honly.outcome hxl.1 ho)

/-- The state in which `StartDisplays` visits the display at `a`. -/
def startTurn (w : World) (a : Nat) (s : State) : Option State :=
  visitState w (s.displays.map Display.addr) a s

/-- `StartDisplays` calls for each display what its state asks for. -/
theorem startDisplays_outcomes {calls : List DisplayCall} (hs : s.Sound [] none)
    (hrun : startDisplaysCalls w s = some (calls, s')) :
    calls = s.displays.flatMap Display.calls ∧
      ∀ x ∈ s.displays, ∃ u, startTurn w x.addr s = some u ∧ Outcome w u x s' := by
  unfold startDisplaysCalls at hrun
  rw [get_bind] at hrun
  obtain ⟨hcalls, houtcome, -⟩ := walk hs hs.distinct hrun
  refine ⟨?_, fun x hx => houtcome x hx (List.mem_map_of_mem hx)⟩
  rw [hcalls, List.flatMap_map]
  refine List.flatMap_congr fun x hx => ?_
  unfold State.callsAt
  rw [hs.find hx]
  rfl

/-! ### A servers file that cannot be read -/

/-- The displays have the status and the processes they had, unless one is a permanent display
that was not running and is now. -/
def LeftAlone (s s' : State) : Prop :=
  ∀ d ∈ s.displays, ∃ x ∈ s'.displays, x.addr = d.addr ∧
    (x.status = d.status ∧ x.pid = d.pid ∧ x.serverPid = d.serverPid ∨
      d.status = .notRunning ∧ d.displayType.lifetime = .permanent ∧ x.status = .running)

instance (s s' : State) : Decidable (LeftAlone s s') :=
  inferInstanceAs (Decidable (∀ d ∈ s.displays, ∃ x ∈ s'.displays, _))

lemma State.Sound.allMarked (hs : s.Sound dead none) : s.allMarked.Sound dead none :=
  (keeps_forEachDisplay keeps_markDisplay s hs _ _ (markDisplays_eq s)).1

/-- A marked display: it is stopped, if it is one of the servers file. -/
lemma Display.calls_marked (d : Display) :
    d.marked.calls = if d.displayType.origin = .fromFile then [.stop d.name] else [] := by
  unfold Display.calls
  simp only [Display.marked, if_true]

/-- The sweep after a scan that has not found anything. -/
lemma leftAlone_iff (hs : s.Sound [] none) (ht : t.Sound [] none)
    (hmarked : t.displays = s.allMarked.displays) (hrun : startDisplays w t = some ((), s')) :
    LeftAlone s s' ↔
      ∀ d ∈ s.displays, d.displayType.origin = .fromFile → d.status = .zombie := by
  obtain ⟨calls, hcalls⟩ := startDisplaysCalls_of hrun
  have hs' : s'.Sound [] none := (keeps_startDisplays w t ht _ _ hrun).1
  have houtcome : ∀ d ∈ s.displays, ∃ u, Outcome w u d.marked s' := by
    intro d hd
    obtain ⟨u, -, ho⟩ :=
      (startDisplays_outcomes ht hcalls).2 d.marked (hmarked ▸ List.mem_map_of_mem hd)
    exact ⟨u, ho⟩
  have hstopped : ∀ d ∈ s.displays, d.displayType.origin = .fromFile →
      if d.serverPid = -1 then ¬ s'.Listed d.addr
      else { d.marked with status := .zombie } ∈ s'.displays := by
    intro d hd horigin
    obtain ⟨u, ho⟩ := houtcome d hd
    exact ho.stopped (by rw [d.calls_marked, if_pos horigin]; rfl)
  constructor
  · intro hsame d hd horigin
    obtain ⟨x, hx, hxd, hkept⟩ := hsame d hd
    have hstop := hstopped d hd horigin
    split_ifs at hstop with hserver
    · exact absurd ⟨x, hx, hxd⟩ hstop
    · obtain rfl := hs'.distinct.eq_of_mem hx hstop hxd
      rcases hkept with ⟨hstatus, -⟩ | ⟨-, -, hstatus⟩
      · exact hstatus.symm
      · exact nomatch hstatus
  · intro hzombie d hd
    by_cases horigin : d.displayType.origin = .fromFile
    · have hstatus := hzombie d hd horigin
      have hstop := hstopped d hd horigin
      rw [if_neg ((hs.ok d hd (by simp)).zombie hstatus)] at hstop
      exact ⟨_, hstop, rfl, Or.inl ⟨hstatus.symm, rfl, rfl⟩⟩
    · obtain ⟨u, ho⟩ := houtcome d hd
      have hidle := ho.idle (by rw [d.calls_marked, if_neg horigin])
      have hsettled : d.marked.settled = d.marked := by
        unfold Display.settled
        rw [if_neg fun h => horigin h.1]
      rw [hsettled] at hidle
      exact ⟨_, hidle, rfl, Or.inl ⟨rfl, rfl, rfl⟩⟩

/-- A scan of a file that cannot be opened. -/
lemma scanServers_unread (hunread : w.serversText = none)
    (hpath : s.config.servers.head? = some '/') : scanServers w s = some ((), s) := by
  rw [scanServers_eq, scanLines, if_pos hpath, hunread]
  rfl

/-- `RescanServers` is a scan and `StartDisplays`. -/
lemma rescanServers_eq (w : World) : rescanServers w =
    (do (Happening.rescan w).perform; startDisplays w) := by
  simp only [rescanServers, Happening.perform, bind_assoc]

/-- What `RescanServers` does before `StartDisplays`. -/
lemma rescan_some : (Happening.rescan w).perform s = some ((), t) ↔
    ∃ u, scanServers w { s.allMarked with config := w.config } = some ((), u) ∧
      t = { u with database := scanAccessDatabase w u.config } := by
  simp only [Happening.perform]
  rw [bind_of_eq_some _ (markDisplays_eq s), loadConfig, modify_bind]
  constructor
  · intro hrun
    obtain ⟨_, u, hscan, hload⟩ := bind_eq_some.1 hrun
    obtain ⟨-, rfl⟩ := Prod.mk.inj (Option.some.inj hload)
    exact ⟨u, hscan, rfl⟩
  · rintro ⟨u, hscan, rfl⟩
    rw [bind_of_eq_some _ hscan]
    rfl

/-- `RescanIfMod` of a servers file that has changed. -/
lemma rescanIfMod_unread (hunread : w.serversText = none) (hchanged : w.serversChanged = true)
    (hpath : (if w.configChanged then w.config else s.config).servers.head? = some '/') :
    ∃ t, t.displays = s.allMarked.displays ∧ rescanIfMod w s = some ((), t) := by
  have hrun : ∀ t : State, t.config.servers.head? = some '/' → ∃ u,
      u.displays = t.allMarked.displays ∧ (do
        let s ← get
        if s.config.servers.head? = some '/' ∧ w.serversChanged then
          forEachDisplay markDisplay
          scanServers w
        if s.config.accessFile ≠ [] ∧ w.accessChanged then loadDatabase w : M Unit) t =
          some ((), u) := by
    intro t ht
    rw [get_bind, if_pos ⟨ht, hchanged⟩, bind_of_eq_some _ (markDisplays_eq t),
      bind_of_eq_some _ (scanServers_unread (s := t.allMarked) hunread ht)]
    by_cases haccess : t.config.accessFile ≠ [] ∧ w.accessChanged = true
    · exact ⟨{ t.allMarked with database := scanAccessDatabase w t.config }, rfl, by
        rw [if_pos haccess]; rfl⟩
    · exact ⟨t.allMarked, rfl, by rw [if_neg haccess]; rfl⟩
  unfold rescanIfMod
  split_ifs at hpath ⊢
  · rw [loadConfig, modify_bind]
    exact hrun { s with config := w.config } hpath
  · exact hrun s hpath

/-- In every reachable state and for every servers file that cannot be opened: after
`RescanServers`, and after `RescanIfMod` of a file that has changed and `StartDisplays`, the
displays have been left alone if and only if all displays of the servers file were zombies.  All
others of them are stopped. -/
theorem unread_file_iff (run : DaemonRun config g h s) (i : Input) (w w' : World)
    (hunread : w.serversText = none) :
    (w.config.servers.head? = some '/' →
      ∀ s', rescanServers w (s.begin i) = some ((), s') →
        (LeftAlone s s' ↔
          ∀ d ∈ s.displays, d.displayType.origin = .fromFile → d.status = .zombie)) ∧
    ((if w.configChanged then w.config else s.config).servers.head? = some '/' →
      w.serversChanged = true →
      ∀ s', (do rescanIfMod w; startDisplays w') (s.begin i) = some ((), s') →
        (LeftAlone s s' ↔
          ∀ d ∈ s.displays, d.displayType.origin = .fromFile → d.status = .zombie)) := by
  have hs := (run_sound run).begin i
  constructor
  · intro hpath s' hrun
    rw [rescanServers_eq] at hrun
    obtain ⟨_, t, hscan, hstart⟩ := bind_eq_some.1 hrun
    have ht := sound_perform (.rescan w) hs _ _ hscan
    obtain ⟨u, hread, rfl⟩ := rescan_some.1 hscan
    rw [scanServers_unread hunread hpath] at hread
    obtain ⟨-, rfl⟩ := Prod.mk.inj (Option.some.inj hread)
    exact leftAlone_iff (s := s.begin i) hs ht rfl hstart
  · intro hpath hchanged s' hrun
    obtain ⟨t, ht, heq⟩ := rescanIfMod_unread (s := s.begin i) hunread hchanged hpath
    rw [bind_of_eq_some _ heq] at hrun
    exact leftAlone_iff (s := s.begin i) hs (keeps_rescanIfMod w _ hs _ _ heq).1 ht hrun

/-- A servers file that has changed and cannot be opened. -/
def World.unread : World :=
  { World.listing false [] with serversText := none, serversChanged := true }

/-- The local display runs; it is stopped. -/
theorem unread_file_stops : ∃ h s, DaemonRun Config.plain 0 h s ∧
    s.displays.map Display.status = [.running] ∧
    (∃ s', rescanServers World.unread (s.begin (.rescanServers World.unread)) = some ((), s') ∧
      s'.displays.map Display.status = [.zombie] ∧ ¬ LeftAlone s s') ∧
    ∃ s', (do rescanIfMod World.unread; startDisplays World.unread)
        (s.begin (.waitForChild World.unread [])) = some ((), s') ∧
      s'.displays.map Display.status = [.zombie] ∧ ¬ LeftAlone s s' := by
  obtain ⟨h, s, run, hstatus, hrescan, hmodified⟩ : ∃ h s, DaemonRun Config.plain 0 h s ∧
      s.displays.map Display.status = [.running] ∧
      (rescanServers World.unread (s.begin (.rescanServers World.unread))).any (fun p =>
        decide (p.2.displays.map Display.status = [.zombie] ∧ ¬ LeftAlone s p.2)) = true ∧
      ((do rescanIfMod World.unread; startDisplays World.unread : M Unit)
        (s.begin (.waitForChild World.unread []))).any (fun p =>
          decide (p.2.displays.map Display.status = [.zombie] ∧ ¬ LeftAlone s p.2)) = true :=
    exists_run_of_exec [.startUp (World.listing true [some 10, some 11])] (by decide +kernel)
  obtain ⟨⟨_, t⟩, ht, htest⟩ := (Option.any_eq_true _ _).1 hrescan
  obtain ⟨⟨_, u⟩, hu, hutest⟩ := (Option.any_eq_true _ _).1 hmodified
  exact ⟨h, s, run, hstatus, ⟨t, ht, of_decide_eq_true htest⟩, u, hu, of_decide_eq_true hutest⟩

/-- A host whose displays are all remote. -/
theorem unread_file_harmless : ∃ h s, DaemonRun Config.open 0 h s ∧
    s.displays.map Display.status = [.running] ∧
    ∃ s', rescanServers World.unread (s.begin (.rescanServers World.unread)) = some ((), s') ∧
      LeftAlone s s' := by
  obtain ⟨h, s, run, hstatus, hremote, hrescan⟩ : ∃ h s, DaemonRun Config.open 0 h s ∧
      s.displays.map Display.status = [.running] ∧
      (∀ d ∈ s.displays, d.displayType.origin = .fromXDMCP) ∧
      (rescanServers World.unread (s.begin (.rescanServers World.unread))).isSome = true :=
    exists_run_of_exec [.request (World.lan 20 7) Netaddr.guest (Request.plain 0 []),
      .manage (World.lan 21 7) Netaddr.guest ⟨1, 0, []⟩] (by decide +kernel)
  obtain ⟨⟨_, t⟩, ht⟩ := Option.isSome_iff_exists.1 hrescan
  refine ⟨h, s, run, hstatus, t, ht, ?_⟩
  refine ((unread_file_iff run (.rescanServers World.unread) World.unread World.unread rfl).1 rfl
    t ht).2 fun d hd horigin => ?_
  rw [hremote d hd] at horigin
  cases horigin

end Xdm
