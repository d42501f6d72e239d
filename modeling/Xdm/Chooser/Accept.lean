/-
# Accepting a host

`DoAccept` (`chooser/chooser.c`) looks in `hostNamedb` for the text of the highlighted line, and
goes on when it has found a host.  Whatever has happened before, it reports the host on this line
and no other one if and only if no other line has the same text (`doAccept_reports_iff`).
-/
import Mathlib.Data.List.NodupEquivFin
import Xdm.Chooser.Selection
import Xdm.Dm
import Xdm.Lib.Run

namespace Xdm

open Prog

/-! ### What the chooser does -/

/-- A packet, or something that the user does. -/
inductive ChooserEvent
  | packet (w : World) (d : HostDatagram)
  | ping
  /-- the action of the list widget that highlights the line under the pointer, if there is one -/
  | set (line : Option Nat)
  | store
  | setold
  | checkWilling
  | key (keysym : Nat)
  | button (event : Nat)

/-- `DoPing`, but for the queries. -/
def Chooser.doPing {W : Type} (L : ListWidget W) : Prog (Chooser W) Unit := emptyHostnames L

def ChooserEvent.perform {W : Type} (L : ListWidget W) : ChooserEvent → Prog (Chooser W) Unit
  | .packet w d => Chooser.receivePacket L w d
  | .ping => Chooser.doPing L
  | .set none => modify fun c => { c with list := L.unhighlight c.list }
  | .set (some line) => modify fun c => { c with list := L.highlight line c.list }
  | .store => Chooser.storeold L
  | .setold => Chooser.setold L
  | .checkWilling => Chooser.doCheckWilling L
  | .key keysym => Chooser.switchKey L keysym
  | .button event => Chooser.switchBtn L event

/-! ### `Choose` -/

/-- What `Choose` makes known: to `xdm`, or on its output if it has no address to answer to. -/
inductive ChooserReport
  | answer (answer : Answer)
  | printed (text : Str)
deriving DecidableEq

/-- What `Choose` depends on besides the host. -/
structure ChooseEnv where
  app : AppResources
  writer : Writer UInt8 answerSize
  /-- whether the socket for the answer can be created and connected, for each call -/
  connects : Nat → Bool

/-- The two lines that `Choose` prints. -/
def printedChoice (h : HostName) : Str :=
  Nat.toDigits 10 h.connectionType.toNat ++ ['\n'] ++
    ((h.hostaddr.map fun b => Nat.toDigits 10 b.toNat).intersperse [' ']).flatten ++
    if h.hostaddr = [] then [] else ['\n']

/-- `xdmAddress` has the number of a family, and `Choose` takes no address of this family. -/
def OtherFamily : ARRAY8 → Prop
  | hi :: lo :: _ => charValue hi * 256 + charValue lo ≠ AddrFamily.inet.number ∧
      charValue hi * 256 + charValue lo ≠ AddrFamily.inet6.number
  | _ => False

instance : DecidablePred OtherFamily
  | _ :: _ :: _ => inferInstanceAs (Decidable (_ ∧ _))
  | [_] => inferInstanceAs (Decidable False)
  | [] => inferInstanceAs (Decidable False)

/-- `Choose`, called for the `n`-th time: it exits, or reports the host.  It has no outcome if it
reads behind `xdmAddress`, or has this address and none of the client. -/
def chooseHost (env : ChooseEnv) (n : Nat) (h : HostName) : Option (Except Int ChooserReport) :=
  match env.app.xdmAddress with
  | none => some (.ok (.printed (printedChoice h)))
  | some xdm =>
    match answerAddress xdm with
    | none =>
      -- there is no socket of another family, or it cannot be connected to a null pointer
      if OtherFamily xdm then some (.error remanageDisplay) else none
    | some _ =>
      if env.connects n then
        (choose env.writer env.app h).map fun answer => .ok (.answer answer)
      else some (.error remanageDisplay)

/-! ### `DoAccept` -/

/-- The loop of `DoAccept`, and the exit: what has been reported, and the exit status. -/
def acceptLoop (env : ChooseEnv) (string : ARRAY8) :
    Nat → List HostName → Option (List ChooserReport × Int)
  | _, [] => some ([], obeysessDisplay)
  | n, h :: hosts =>
    if string = h.fullname then
      match chooseHost env n h with
      | none => none
      | some (.error status) => some ([], status)
      | some (.ok report) =>
        (acceptLoop env string (n + 1) hosts).map fun r => (report :: r.1, r.2)
    else acceptLoop env string n hosts

/-- `DoAccept`; without a line that is highlighted it rings the bell and does not exit. -/
def doAccept {W : Type} (L : ListWidget W) (env : ChooseEnv) (c : Chooser W) :
    Option (List ChooserReport × Option Int) :=
  if L.current c.list = none then some ([], none)
  else (acceptLoop env (L.string c.list) 0 c.hostNamedb).map fun r => (r.1, some r.2)

/-- The chooser can report a host: it prints it, or it has all it needs and gets a connection. -/
def ChooseEnv.Reaches (env : ChooseEnv) (n : Nat) : Prop :=
  env.app.xdmAddress = none ∨ (env.app.xdmAddress.bind answerAddress).isSome = true ∧
    env.app.clientAddress.isSome = true ∧ env.connects n = true

/-- `DoAccept` reports one host, which is shown on the line, and then the chooser is done. -/
def Chooser.ReportsLine {W : Type} (L : ListWidget W) (env : ChooseEnv) (c : Chooser W)
    (line : Nat) : Prop :=
  ∃ h ∈ c.hostNamedb, h.fullname = lineText L c line ∧ ∃ report,
    chooseHost env 0 h = some (.ok report) ∧
      doAccept L env c = some ([report], some obeysessDisplay)

variable {W : Type} {L : ListWidget W} {c c' : Chooser W} {list : W} {env : ChooseEnv}
variable {string : ARRAY8} {hosts : List HostName} {n : Nat} {h : HostName}

/-! ### The loop -/

lemma chooseHost_ok_iff : (∃ report, chooseHost env n h = some (.ok report)) ↔ env.Reaches n := by
  unfold chooseHost ChooseEnv.Reaches choose
  cases hxdm : env.app.xdmAddress with
  | none => simp
  | some xdm =>
    cases hclient : env.app.clientAddress with
    | none => cases hdest : answerAddress xdm <;> simp [hdest]
    | some clientAddress =>
      cases hdest : answerAddress xdm with
      | none =>
        simp only [hdest]
        split_ifs <;> simp [hdest]
      | some dest => cases hconnects : env.connects n <;> simp [hdest]

lemma chooseHost_error {status : Int} (herror : chooseHost env n h = some (.error status)) :
    status = remanageDisplay := by
  unfold chooseHost at herror
  split at herror
  · simp at herror
  · split at herror
    · split_ifs at herror
      simpa using herror.symm
    · split_ifs at herror
      · simp at herror
      · simpa using herror.symm

/-- Hosts with another text are passed over. -/
lemma acceptLoop_filter (env : ChooseEnv) (string : ARRAY8) (n : Nat) (hosts : List HostName) :
    acceptLoop env string n hosts =
      acceptLoop env string n (hosts.filter fun h => string = h.fullname) := by
  induction hosts generalizing n with
  | nil => rfl
  | cons h hosts ih =>
    by_cases hstring : string = h.fullname
    · rw [List.filter_cons_of_pos (by simpa using hstring), acceptLoop, acceptLoop, if_pos hstring,
        if_pos hstring, ih]
    · rw [List.filter_cons_of_neg (by simpa using hstring), acceptLoop, if_neg hstring, ih]

/-- If the chooser is done, each host with the text has been reported. -/
lemma length_acceptLoop {reports : List ChooserReport}
    (hdone : acceptLoop env string n hosts = some (reports, obeysessDisplay)) :
    reports.length = (hosts.filter fun h => string = h.fullname).length := by
  induction hosts generalizing n reports with
  | nil =>
    obtain ⟨rfl, -⟩ := Prod.mk.inj (Option.some.inj hdone)
    rfl
  | cons h hosts ih =>
    rw [acceptLoop] at hdone
    by_cases hstring : string = h.fullname
    · rw [if_pos hstring] at hdone
      rw [List.filter_cons_of_pos (by simpa using hstring)]
      cases hchoose : chooseHost env n h with
      | none => simp [hchoose] at hdone
      | some result =>
        cases result with
        | error status =>
          rw [hchoose, chooseHost_error hchoose] at hdone
          simp [obeysessDisplay, remanageDisplay] at hdone
        | ok report =>
          rw [hchoose] at hdone
          obtain ⟨⟨reports', status⟩, hrest, hcons⟩ := Option.map_eq_some_iff.1 hdone
          obtain ⟨rfl, rfl⟩ := Prod.mk.inj hcons
          rw [List.length_cons, List.length_cons, ih hrest]
    · rw [if_neg hstring] at hdone
      rw [List.filter_cons_of_neg (by simpa using hstring)]
      exact ih hdone

/-- With one host there is one report, if it can be made. -/
lemma acceptLoop_singleton {report : ChooserReport} (hstring : string = h.fullname)
    (hchoose : chooseHost env n h = some (.ok report)) :
    acceptLoop env string n [h] = some ([report], obeysessDisplay) := by
  rw [acceptLoop, if_pos hstring, hchoose]
  rfl

/-! ### Every run -/

namespace Chooser

lemma Consistent.sameHosts (h : c.Consistent L) (hsame : SameHosts L c c') : c'.Consistent L where
  size := by rw [hsame.nameTableSize, hsame.hostNamedb, h.size]
  table := by rw [hsame.nameTable, hsame.hostNamedb, h.table]
  shown := by rw [hsame.nameTable, hsame.items]; exact h.shown

/-- Whatever happens, the table has the lines of the hosts. -/
lemma consistent_perform (e : ChooserEvent) (h : c.Consistent L) :
    Wlp (e.perform L) (fun _ c' => c'.Consistent L) c := by
  have hkeeps {m : Prog (Chooser W) Unit} (hm : Respects (SameHosts L) m) :
      Wlp m (fun _ c' => c'.Consistent L) c :=
    (hm c trivial).mono fun _ _ hsame => h.sameHosts hsame.2
  cases e with
  | packet w d => exact (wp_receivePacket h d).wlp.mono fun _ _ h' => h'.1
  | ping =>
    refine Wp.wlp (wp_bind (wp_modify ?_))
    exact (wp_rebuildTable (c := { c with hostNamedb := [], nameTableSize := 0 }) rfl).mono
      fun _ _ h' => h'.1
  | set line =>
    cases line with
    | none => exact hkeeps sameHosts_unhighlight
    | some line => exact hkeeps (sameHosts_highlight line)
  | store => exact hkeeps sameHosts_storeold
  | setold => exact hkeeps sameHosts_setold
  | checkWilling => exact hkeeps sameHosts_doCheckWilling
  | key keysym => exact hkeeps (sameHosts_switchKey keysym)
  | button event => exact hkeeps (sameHosts_switchLine event)

theorem run_consistent {history : List (Step (Chooser W) ChooserEvent)}
    (run : Run (ChooserEvent.perform L) (start list) history c) : c.Consistent L :=
  run.invariant (I := fun c => c.Consistent L) (consistent_start list)
    fun _ e _ hs hstep => consistent_perform e hs _ _ hstep

/-- The texts of the lines are those of the hosts. -/
lemma Consistent.perm (h : c.Consistent L) :
    c.nameTable.Perm (c.hostNamedb.map HostName.fullname) := by
  rw [h.table]
  exact List.perm_insertionSort _ _

lemma Consistent.length_nameTable (h : c.Consistent L) : c.nameTable.length = c.nameTableSize := by
  rw [h.perm.length_eq, List.length_map, h.size]

lemma Consistent.items (h : c.Consistent L) {line : Nat} (hline : line < c.nameTableSize) :
    L.items c.list = c.nameTable := by
  refine h.shown fun hnil => ?_
  rw [← h.length_nameTable, hnil] at hline
  exact absurd hline (Nat.not_lt_zero _)

/-- A text that occurs once is at one place. -/
lemma length_filter_eq_one_iff {l : List ARRAY8} {i : Nat} (hi : i < l.length) :
    (l.filter fun text => text = l.getD i []).length = 1 ↔
      ∀ j < l.length, l.getD j [] = l.getD i [] → j = i := by
  have hget {j : Nat} (hj : j < l.length) : l.getD j [] = l.get ⟨j, hj⟩ := by
    rw [List.getD_eq_getElem?_getD, List.getElem?_eq_getElem hj]
    rfl
  have hpos : 0 < (l.filter fun text => text = l.getD i []).length := by
    refine List.length_pos_of_mem (List.mem_filter.2 ⟨?_, decide_eq_true rfl⟩)
    rw [hget hi]
    exact List.get_mem _ _
  have htwice : l.Duplicate (l.getD i []) ↔
      2 ≤ (l.filter fun text => text = l.getD i []).length := by
    rw [List.duplicate_iff_two_le_count, ← List.countP_eq_length_filter]
    rfl
  have hone : (l.filter fun text => text = l.getD i []).length = 1 ↔
      ¬ l.Duplicate (l.getD i []) := by
    rw [htwice]
    omega
  rw [hone, List.duplicate_iff_exists_distinct_get]
  constructor
  · intro h j hj heq
    by_contra hne
    rcases Nat.lt_or_gt_of_ne hne with hlt | hlt
    · exact h ⟨⟨j, hj⟩, ⟨i, hi⟩, hlt, by rw [← heq, hget hj], hget hi⟩
    · exact h ⟨⟨i, hi⟩, ⟨j, hj⟩, hlt, hget hi, by rw [← heq, hget hj]⟩
  · rintro h ⟨m, k, hlt, hm, hk⟩
    have hm' := h m m.2 (by rw [hget m.2, ← hm])
    have hk' := h k k.2 (by rw [hget k.2, ← hk])
    have hmk : (m : Nat) < k := hlt
    omega

/-- So many hosts have the text of the line. -/
lemma Consistent.length_filter (h : c.Consistent L) {line : Nat} (hline : line < c.nameTableSize) :
    (c.hostNamedb.filter fun h => lineText L c line = h.fullname).length = 1 ↔
      ∀ other < c.nameTableSize, lineText L c other = lineText L c line → other = line := by
  have hline' : line < c.nameTable.length := h.length_nameTable ▸ hline
  have htable : (c.hostNamedb.filter fun h => lineText L c line = h.fullname).length =
      (c.nameTable.filter fun text => text = lineText L c line).length := by
    rw [(h.perm.filter _).length_eq, List.filter_map, List.length_map]
    congr 2
    funext host
    exact decide_eq_decide.2 eq_comm
  have htext (other : Nat) : lineText L c other = c.nameTable.getD other [] := by
    rw [lineText, h.items hline]
  rw [htable]
  simp only [htext]
  rw [length_filter_eq_one_iff hline', h.length_nameTable]

/-- After packets with any contents from any senders, and whatever the user has done, for every
highlighted line: `DoAccept` reports one host, the one on this line, and the chooser is done, if
and only if no other line has the same text and the host can be reported at all. -/
theorem doAccept_reports_iff {history : List (Step (Chooser W) ChooserEvent)} {line : Nat}
    (run : Run (ChooserEvent.perform L) (start list) history c)
    (hline : line < c.nameTableSize) (hcurrent : L.current c.list = some line)
    (env : ChooseEnv) : c.ReportsLine L env line ↔
      (∀ other < c.nameTableSize, lineText L c other = lineText L c line → other = line) ∧
        env.Reaches 0 := by
  have hconsistent := run_consistent run
  have hstring : L.string c.list = lineText L c line := by
    rw [ListWidget.string, hcurrent, lineText]
  have haccept : doAccept L env c =
      (acceptLoop env (lineText L c line) 0 c.hostNamedb).map fun r => (r.1, some r.2) := by
    rw [doAccept, hcurrent, hstring, if_neg (by simp)]
  rw [← hconsistent.length_filter hline]
  constructor
  · rintro ⟨host, hhost, htext, report, hchoose, hdone⟩
    rw [haccept] at hdone
    obtain ⟨⟨reports, status⟩, hloop, heq⟩ := Option.map_eq_some_iff.1 hdone
    simp only [Prod.mk.injEq, Option.some.injEq] at heq
    obtain ⟨rfl, rfl⟩ := heq
    exact ⟨(length_acceptLoop hloop).symm, chooseHost_ok_iff.1 ⟨report, hchoose⟩⟩
  · rintro ⟨hone, hreaches⟩
    obtain ⟨host, hhost⟩ := List.length_eq_one_iff.1 hone
    have hmem : host ∈ c.hostNamedb.filter fun h => lineText L c line = h.fullname :=
      hhost ▸ List.mem_singleton_self host
    obtain ⟨hmem, htext⟩ := List.mem_filter.1 hmem
    have htext : lineText L c line = host.fullname := of_decide_eq_true htext
    obtain ⟨report, hchoose⟩ := (chooseHost_ok_iff (h := host)).2 hreaches
    refine ⟨host, hmem, htext.symm, report, hchoose, ?_⟩
    rw [haccept, acceptLoop_filter, hhost, acceptLoop_singleton htext hchoose]
    rfl

/-- A `WILLING` packet from a host `h` with the status `OK`. -/
def willingFrom (addr : SockAddr) : ChooserEvent :=
  .packet World.silent ⟨[0, 1, 0, 5, 0, 9, 0, 0, 0, 1, 104, 0, 2, 79, 75], addr⟩

/-- The runs of a chooser with a plain list. -/
abbrev PlainRun : List (Step (Chooser (List ARRAY8 × Option Nat)) ChooserEvent) →
    Chooser (List ARRAY8 × Option Nat) → Prop :=
  Run (ChooserEvent.perform ListWidget.plain) (start ([], none))

/-- A chooser whose answers reach the daemon. -/
def connected : ChooseEnv where
  app := ⟨some [0, 2, 4, 1, 127, 0, 0, 1], some [10, 0, 0, 9], 0⟩
  writer := Writer.cutting UInt8 answerSize
  connects _ := true

/-- Two hosts answer with the same name and status, and the user accepts the first line. -/
def twins : List ChooserEvent :=
  [willingFrom (hostAt 1), willingFrom (hostAt 2), .set (some 0)]

/-- Both of them are reported. -/
theorem twins_both_reported : ∃ history c, PlainRun history c ∧ history.map Step.input = twins ∧
    0 < c.nameTableSize ∧ ListWidget.plain.current c.list = some 0 ∧
    (doAccept ListWidget.plain connected c).map (fun r => r.1.length) = some 2 ∧
    ¬ c.ReportsLine ListWidget.plain connected 0 := by
  obtain ⟨history, c, run, hinput, hsize, hcurrent, htwo⟩ :
      ∃ history c, PlainRun history c ∧ history.map Step.input = twins ∧ c.nameTableSize = 2 ∧
        ListWidget.plain.current c.list = some 0 ∧
        (doAccept ListWidget.plain connected c).map (fun r => r.1.length) = some 2 :=
    exists_run_on twins (by decide +kernel)
  refine ⟨history, c, run, hinput, hsize ▸ Nat.two_pos, hcurrent, htwo, ?_⟩
  rintro ⟨host, -, -, report, -, hdone⟩
  rw [hdone] at htwo
  exact absurd htwo (by simp)

/-- If only one of them has answered, it is reported. -/
theorem doAccept_reports_one : ∃ history c, PlainRun history c ∧
    history.map Step.input = [willingFrom (hostAt 1), .set (some 0)] ∧
    c.ReportsLine ListWidget.plain connected 0 := by
  obtain ⟨history, c, run, hinput, hsize, hcurrent⟩ :
      ∃ history c, PlainRun history c ∧
        history.map Step.input = [willingFrom (hostAt 1), .set (some 0)] ∧
        c.nameTableSize = 1 ∧ ListWidget.plain.current c.list = some 0 :=
    exists_run_on _ (by decide +kernel)
  refine ⟨history, c, run, hinput,
    (doAccept_reports_iff run (hsize ▸ Nat.one_pos) hcurrent connected).2
      ⟨fun other hother _ => by omega, Or.inr ⟨rfl, rfl, rfl⟩⟩⟩

end Chooser

end Xdm
