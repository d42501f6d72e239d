/-
# The list of hosts

`AddHostname` (`chooser/chooser.c`) keeps the hosts that have answered in `hostNamedb`, one entry
for each address, and shows them in a list widget.  An answer whose status is that of the entry
changes nothing, so the flag of the entry is that of the first answer with this status:
`tracks_iff` says of every sequence of packets whether the list is right in the end.
-/
import Mathlib.Data.List.DropRight
import Mathlib.Data.List.Sort
import Xdm.Chooser.Answer
import Xdm.Lib.Keyed
import Xdm.Xdmcp.Query

namespace Xdm

open Prog

/-! ### The line of a host -/

/-- The conversion `%.*s`: no more than the precision, and nothing from a NUL on. -/
def cutString (precision : Nat) (s : ARRAY8) : ARRAY8 := (s.take precision).takeWhile (· ≠ 0)

/-- The conversion `%-*s` -/
def padRight (width : Nat) (s : ARRAY8) : ARRAY8 := s ++ List.replicate (width - s.length) 0x20

/-- The conversion `%*s` -/
def padLeft (width : Nat) (s : ARRAY8) : ARRAY8 := List.replicate (width - s.length) 0x20 ++ s

/-- The size of the line that `AddHostname` allocates. -/
def fulllen (hostname status : ARRAY8) : Nat := max hostname.length 30 + status.length + 10

/-- The address of a host, and its family. -/
def HostName.key (h : HostName) : ARRAY8 × CARD16 := (h.hostaddr, h.connectionType)

/-- The line that `AddHostname` writes for a host, without its NUL. -/
def HostName.fullname (h : HostName) : ARRAY8 :=
  (padRight 30 (cutString h.hostname.length h.hostname) ++ [0x20] ++
    padLeft h.status.length (cutString h.status.length h.status)).take
      (fulllen h.hostname h.status - 1)

/-! ### The list widget -/

/-- The list widget, with what its manual says of the functions that the chooser calls. -/
structure ListWidget (W : Type) where
  items : W → List ARRAY8
  /-- the line that is highlighted, `none` for `XAW_LIST_NONE` -/
  current : W → Option Nat
  change : List ARRAY8 → W → W
  highlight : Nat → W → W
  unhighlight : W → W
  items_change : ∀ {table} w, table ≠ [] → items (change table w) = table
  items_highlight : ∀ line w, items (highlight line w) = items w
  items_unhighlight : ∀ w, items (unhighlight w) = items w
  current_highlight : ∀ {line w}, line < (items w).length → current (highlight line w) = some line
  current_unhighlight : ∀ w, current (unhighlight w) = none

/-- A widget that has a table and a line, and nothing else. -/
def ListWidget.plain : ListWidget (List ARRAY8 × Option Nat) where
  items := Prod.fst
  current := Prod.snd
  change table _ := (table, none)
  highlight line w := (w.1, some line)
  unhighlight w := (w.1, none)
  items_change _ _ := rfl
  items_highlight _ _ := rfl
  items_unhighlight _ := rfl
  current_highlight _ := rfl
  current_unhighlight _ := rfl

/-- The variables of the chooser.  A table of more than `INT_MAX` names cannot be allocated, so
`NameTableSize` is a number. -/
structure Chooser (W : Type) where
  hostNamedb : List HostName
  nameTable : List ARRAY8
  nameTableSize : Nat
  oldline : Option Nat
  list : W
deriving DecidableEq

namespace Chooser

variable {W : Type} (L : ListWidget W)

/-- The chooser before any packet. -/
def start (list : W) : Chooser W := ⟨[], [], 0, some 0, list⟩

/-- `RebuildTable`, if the new table can be allocated.  There is no outcome if it has other
places than there are names: the loop writes behind it, or null pointers are compared. -/
def rebuildTable (size : Nat) : Prog (Chooser W) Unit := do
  let c ← get
  if size ≠ 0 ∧ size ≠ c.hostNamedb.length then failure
  else
    let newTable :=
      if size = 0 then [] else (c.hostNamedb.map HostName.fullname).insertionSort (· ≤ ·)
    set { c with
      nameTable := newTable
      nameTableSize := size
      list := L.change newTable c.list }

/-- `AddHostname`, and whether the packet is saved. -/
def addHostname (w : World) (report : HostReport) (addr : SockAddr) :
    Prog (Chooser W) Bool := do
  let c ← get
  match Keyed.find HostName.key (hostAddress addr) c.hostNamedb with
  | some name =>
    if report.status = name.status then pure false
    else
      set { c with hostNamedb := Xdm.addHostname w report addr c.hostNamedb }
      rebuildTable L c.nameTableSize
      pure true
  | none =>
    set { c with
      hostNamedb := Xdm.addHostname w report addr c.hostNamedb
      nameTableSize := c.nameTableSize + 1 }
    rebuildTable L (c.nameTableSize + 1)
    pure true

/-- `EmptyHostnames` -/
def emptyHostnames : Prog (Chooser W) Unit := do
  modify fun c => { c with hostNamedb := [], nameTableSize := 0 }
  rebuildTable L 0

end Chooser

/-- What is read from one of the sockets. -/
structure HostDatagram where
  data : ARRAY8
  addr : SockAddr

/-- What a packet tells the chooser, unless it is dropped. -/
def HostDatagram.answer (d : HostDatagram) : Option HostPacket :=
  (receivePacket d.data).map fun report => ⟨report, d.addr⟩

/-- `ReceivePacket` -/
def Chooser.receivePacket {W : Type} (L : ListWidget W) (w : World) (d : HostDatagram) :
    Prog (Chooser W) Unit :=
  match d.answer with
  | none => pure ()
  | some p => discard (addHostname L w p.report p.addr)

/-! ### What the list should be -/

/-- What an address has answered, oldest first. -/
def reportsFrom (a : ARRAY8 × CARD16) (packets : List HostPacket) : List HostReport :=
  (packets.filter fun p => hostAddress p.addr = a).map HostPacket.report

/-- The list of hosts after some answers: one entry for each address, and the table is sorted
and shown. -/
structure Chooser.Lists {W : Type} (L : ListWidget W) (packets : List HostPacket)
    (c : Chooser W) : Prop where
  distinct : Keyed.Distinct HostName.key c.hostNamedb
  mem_keys : ∀ a, a ∈ c.hostNamedb.map HostName.key ↔ ∃ p ∈ packets, hostAddress p.addr = a
  size : c.nameTableSize = c.hostNamedb.length
  sorted : c.nameTable.Pairwise (· ≤ ·)
  perm : c.nameTable.Perm (c.hostNamedb.map HostName.fullname)
  shown : c.nameTable ≠ [] → L.items c.list = c.nameTable

/-- It is such a list, and each entry says what the last answer from its address has said. -/
structure Chooser.Tracks {W : Type} (L : ListWidget W) (packets : List HostPacket)
    (c : Chooser W) : Prop where
  lists : c.Lists L packets
  last : ∀ h ∈ c.hostNamedb, ∃ r, (reportsFrom h.key packets).getLast? = some r ∧
    h.willing = r.willing ∧ h.status = r.status

/-- The last reports, as far back as they have the same status. -/
def lastStretch (rs : List HostReport) : List HostReport :=
  match rs.getLast? with
  | none => []
  | some last => rs.rtakeWhile fun r => r.status = last.status

/-- The first one of them has the flag of the last one. -/
def KeepsFlag (rs : List HostReport) : Prop :=
  (lastStretch rs).head?.map HostReport.willing = rs.getLast?.map HostReport.willing

instance (rs : List HostReport) : Decidable (KeepsFlag rs) := inferInstanceAs (Decidable (_ = _))

/-! ### One answer -/

variable {W : Type} {L : ListWidget W} {w : World} {c : Chooser W} {p : HostPacket}
variable {packets : List HostPacket} {rs : List HostReport} {r : HostReport}

/-- The entry for the sender of a packet after `AddHostname`. -/
def HostPacket.stored (w : World) (p : HostPacket) : Option HostName → HostName
  | none => ⟨p.report.willing, newHostname w p.report.hostname p.addr, p.report.status,
      (hostAddress p.addr).2, (hostAddress p.addr).1⟩
  | some name => if p.report.status = name.status then name
      else { name with willing := p.report.willing, status := p.report.status }

lemma HostPacket.key_stored (p : HostPacket) (o : Option HostName)
    (ho : ∀ h ∈ o, h.key = hostAddress p.addr) : (p.stored w o).key = hostAddress p.addr := by
  cases o with
  | none => rfl
  | some name =>
    have hname := ho name rfl
    rw [HostPacket.stored]
    split_ifs
    · exact hname
    · exact hname

lemma addHostname_eq (w : World) (p : HostPacket) (names : List HostName) :
    addHostname w p.report p.addr names =
      Keyed.upsert HostName.key (hostAddress p.addr) (p.stored w) names := by
  induction names with
  | nil => rfl
  | cons name names ih =>
    have hkey : (hostAddress p.addr).2 = name.connectionType ∧
        (hostAddress p.addr).1 = name.hostaddr ↔ name.key = hostAddress p.addr := by
      rw [HostName.key, Prod.ext_iff, and_comm, eq_comm, eq_comm (b := name.connectionType)]
    rw [addHostname, Keyed.upsert, ih]
    by_cases hname : name.key = hostAddress p.addr
    · rw [if_pos (hkey.2 hname), if_pos hname, HostPacket.stored]
      split_ifs <;> rfl
    · rw [if_neg (mt hkey.1 hname), if_neg hname]

lemma hostNamedb_eq (w : World) (packets : List HostPacket) : hostNamedb w packets =
    packets.foldl (fun names p => Keyed.upsert HostName.key (hostAddress p.addr) (p.stored w) names)
      [] := by
  simp only [hostNamedb, addHostname_eq]

/-! ### The last stretch -/

lemma lastStretch_snoc : lastStretch (rs ++ [r]) =
    if rs.getLast?.map HostReport.status = some r.status then lastStretch rs ++ [r] else [r] := by
  have hself : decide (r.status = r.status) = true := decide_eq_true rfl
  rw [lastStretch, List.getLast?_concat]
  change List.rtakeWhile (fun q => decide (q.status = r.status)) (rs ++ [r]) = _
  rw [List.rtakeWhile_concat, if_pos hself]
  split_ifs with hsame
  · obtain ⟨last, hlast, hstatus⟩ := Option.map_eq_some_iff.1 hsame
    rw [lastStretch, hlast, ← hstatus]
  · rw [List.rtakeWhile_eq_nil_iff.2 fun hne => ?_]
    · rfl
    · rw [List.getLast?_eq_some_getLast hne] at hsame
      simpa using hsame

lemma lastStretch_ne_nil (hrs : rs ≠ []) : lastStretch rs ≠ [] := by
  obtain ⟨rs, last, rfl⟩ := List.eq_nil_or_concat rs |>.resolve_left hrs
  rw [List.concat_eq_append, lastStretch_snoc]
  split_ifs <;> simp

/-- The entry has the status of the last answer, and the flag of the first one with this
status. -/
lemma foldl_stored {ps : List HostPacket} (hps : ps ≠ []) :
    ∃ h, ps.foldl (fun o p => some (p.stored w o)) none = some h ∧
      (ps.map HostPacket.report).getLast?.map HostReport.status = some h.status ∧
      (lastStretch (ps.map HostPacket.report)).head?.map HostReport.willing = some h.willing := by
  induction ps using List.reverseRecOn with
  | nil => exact absurd rfl hps
  | append_singleton ps p ih =>
    rw [List.foldl_concat, List.map_append, List.map_singleton, lastStretch_snoc,
      List.getLast?_concat]
    by_cases hnil : ps = []
    · subst hnil
      exact ⟨_, rfl, rfl, rfl⟩
    · obtain ⟨h, hfold, hstatus, hwilling⟩ := ih hnil
      rw [hfold, hstatus]
      by_cases hsame : p.report.status = h.status
      · have hne : lastStretch (ps.map HostPacket.report) ≠ [] :=
          lastStretch_ne_nil (by simpa using hnil)
        refine ⟨h, by rw [HostPacket.stored, if_pos hsame], by rw [← hsame]; rfl, ?_⟩
        rw [if_pos (congrArg some hsame.symm), List.head?_append_of_ne_nil _ hne, hwilling]
      · rw [if_neg fun heq => hsame (Option.some.inj heq).symm]
        refine ⟨_, rfl, ?_, ?_⟩
        · rw [HostPacket.stored, if_neg hsame]
          rfl
        · rw [HostPacket.stored, if_neg hsame]
          rfl

/-- What the entry for an address has to do with the answers from it. -/
lemma entry_of_mem {h : HostName} (hh : h ∈ hostNamedb w packets) :
    (∃ last, (reportsFrom h.key packets).getLast? = some last ∧ h.status = last.status) ∧
      (lastStretch (reportsFrom h.key packets)).head?.map HostReport.willing = some h.willing := by
  have hdistinct : Keyed.Distinct HostName.key (hostNamedb w packets) := by
    rw [hostNamedb_eq]
    exact Keyed.Distinct.foldl_upsert (l := []) List.nodup_nil (fun p => p.key_stored) packets
  have hfind := hdistinct.find_of_mem hh
  rw [hostNamedb_eq, Keyed.find_foldl_upsert fun p => p.key_stored] at hfind
  have hne : packets.filter (fun p => hostAddress p.addr = h.key) ≠ [] := by
    intro hnil
    rw [hnil] at hfind
    exact nomatch hfind
  obtain ⟨h', hfold, hstatus, hwilling⟩ := foldl_stored (w := w) hne
  obtain rfl : h' = h := Option.some.inj (hfold.symm.trans hfind)
  obtain ⟨last, hlast, hls⟩ := Option.map_eq_some_iff.1 hstatus
  exact ⟨⟨last, hlast, hls.symm⟩, hwilling⟩

/-! ### The table -/

/-- The table has the lines of the hosts. -/
structure Chooser.Consistent (L : ListWidget W) (c : Chooser W) : Prop where
  size : c.nameTableSize = c.hostNamedb.length
  table : c.nameTable = (c.hostNamedb.map HostName.fullname).insertionSort (· ≤ ·)
  shown : c.nameTable ≠ [] → L.items c.list = c.nameTable

namespace Chooser

lemma consistent_start (list : W) : (start list).Consistent L :=
  ⟨rfl, rfl, fun hne => absurd rfl hne⟩

/-- Another table for the same widget. -/
lemma wp_rebuildTable {size : Nat} {c : Chooser W} (hsize : size = c.hostNamedb.length) :
    Wp (rebuildTable L size) (fun _ c' => c'.Consistent L ∧ c'.hostNamedb = c.hostNamedb) c := by
  subst hsize
  refine wp_bind (wp_get ?_)
  rw [if_neg (by simp)]
  refine wp_set ⟨⟨rfl, ?_, fun hne => L.items_change _ hne⟩, rfl⟩
  change (if c.hostNamedb.length = 0 then [] else _) = List.insertionSort _ _
  split_ifs with hnil
  · rw [List.length_eq_zero_iff.1 hnil]
    rfl
  · rfl

lemma wp_addHostname (h : c.Consistent L) (p : HostPacket) :
    Wp (addHostname L w p.report p.addr) (fun _ c' => c'.Consistent L ∧
      c'.hostNamedb = Xdm.addHostname w p.report p.addr c.hostNamedb) c := by
  have hkeys := congrArg List.length
    (Keyed.keys_upsert (l := c.hostNamedb) (p.key_stored (w := w)))
  rw [List.length_map, ← addHostname_eq] at hkeys
  refine wp_bind (wp_get ?_)
  cases hfind : Keyed.find HostName.key (hostAddress p.addr) c.hostNamedb with
  | some name =>
    have hmem : hostAddress p.addr ∈ c.hostNamedb.map HostName.key :=
      List.mem_map.2 ⟨name, Keyed.mem_of_find hfind, Keyed.key_of_find hfind⟩
    rw [if_pos hmem, List.length_map, ← h.size] at hkeys
    refine wp_ite (fun hsame => wp_pure ⟨h, ?_⟩) fun _ => ?_
    · rw [addHostname_eq]
      refine (Keyed.upsert_eq_self hfind ?_).symm
      rw [HostPacket.stored, if_pos hsame]
    · exact wp_bind (wp_set (wp_bind ((wp_rebuildTable hkeys.symm).mono fun _ _ h' => wp_pure h')))
  | none =>
    have hmem : hostAddress p.addr ∉ c.hostNamedb.map HostName.key := by
      intro hmem
      obtain ⟨name, hname, hkey⟩ := List.mem_map.1 hmem
      exact Keyed.find_eq_none.1 hfind name hname hkey
    rw [if_neg hmem, List.length_append, List.length_map, ← h.size] at hkeys
    exact wp_bind (wp_set (wp_bind ((wp_rebuildTable hkeys.symm).mono fun _ _ h' => wp_pure h')))

lemma wp_receivePacket (h : c.Consistent L) (d : HostDatagram) :
    Wp (receivePacket L w d) (fun _ c' => c'.Consistent L ∧ c'.hostNamedb = d.answer.toList.foldl
      (fun names p => Xdm.addHostname w p.report p.addr names) c.hostNamedb) c := by
  unfold receivePacket
  cases d.answer with
  | none => exact wp_pure ⟨h, rfl⟩
  | some p => exact wp_bind ((wp_addHostname h p).mono fun _ _ h' => wp_pure h')

/-- The table is right after every sequence of packets, whatever is in them. -/
lemma wp_receivePackets (h : c.Consistent L) (ds : List HostDatagram) :
    Wp (ds.forM (receivePacket L w)) (fun _ c' => c'.Consistent L ∧
      c'.hostNamedb = (ds.filterMap HostDatagram.answer).foldl
        (fun names p => Xdm.addHostname w p.report p.addr names) c.hostNamedb) c := by
  induction ds generalizing c with
  | nil => exact wp_pure ⟨h, rfl⟩
  | cons d ds ih =>
    refine wp_bind ((wp_receivePacket h d).mono fun _ c' hc' => (ih hc'.1).mono fun _ c'' h'' => ?_)
    refine ⟨h''.1, ?_⟩
    rw [h''.2, hc'.2, List.filterMap_cons]
    cases d.answer <;> rfl

/-- The hosts have been collected from these answers. -/
lemma Consistent.lists (h : c.Consistent L) (hdb : c.hostNamedb = Xdm.hostNamedb w packets) :
    c.Lists L packets where
  distinct := by
    rw [hdb, hostNamedb_eq]
    exact Keyed.Distinct.foldl_upsert (l := []) List.nodup_nil (fun p => p.key_stored) packets
  mem_keys a := by
    rw [hdb, hostNamedb_eq, Keyed.mem_keys_foldl_upsert fun p => p.key_stored]
    simp
  size := h.size
  sorted := by
    rw [h.table]
    exact List.pairwise_insertionSort _ _
  perm := by
    rw [h.table]
    exact List.perm_insertionSort _ _
  shown := h.shown

/-- Every sequence of packets leaves a list with one entry for each address that has answered,
in a sorted table; and the entries say what the last answers have said if and only if, for each
address, the first of its last answers with one status has the flag of the last one. -/
theorem tracks_iff (L : ListWidget W) (w : World) (list : W) (ds : List HostDatagram) :
    ∃ c, ds.forM (receivePacket L w) (start list) = some ((), c) ∧
      c.Lists L (ds.filterMap HostDatagram.answer) ∧
      (c.Tracks L (ds.filterMap HostDatagram.answer) ↔
        ∀ a, KeepsFlag (reportsFrom a (ds.filterMap HostDatagram.answer))) := by
  obtain ⟨_, c, hrun, hconsistent, hdb⟩ := wp_receivePackets (w := w) (consistent_start list) ds
  generalize ds.filterMap HostDatagram.answer = packets at hdb ⊢
  have hlists : c.Lists L packets := hconsistent.lists hdb
  refine ⟨c, hrun, hlists, fun h a => ?_, fun h => ⟨hlists, fun host hhost => ?_⟩⟩
  · by_cases hanswered : a ∈ c.hostNamedb.map HostName.key
    · obtain ⟨host, hhost, rfl⟩ := List.mem_map.1 hanswered
      obtain ⟨last, hlast, hwilling, -⟩ := h.last host hhost
      rw [KeepsFlag, hlast, (entry_of_mem (hdb ▸ hhost)).2, hwilling]
      rfl
    · have hnone : reportsFrom a packets = [] := by
        rw [reportsFrom, List.map_eq_nil_iff, List.filter_eq_nil_iff]
        intro p hp hsender
        exact hanswered ((hlists.mem_keys a).2 ⟨p, hp, by simpa using hsender⟩)
      rw [hnone]
      rfl
  · obtain ⟨⟨last, hlast, hstatus⟩, hwilling⟩ := entry_of_mem (hdb ▸ hhost)
    refine ⟨last, hlast, Option.some.inj ?_, hstatus⟩
    rw [← hwilling, h host.key, hlast]
    rfl

/-- The address of a host in the net of the chooser. -/
def hostAt (n : UInt8) : SockAddr := .inet xdmUdpPort ⟨[192, 168, 0, n], rfl⟩

/-- A host that is willing, and then is not, with the same status `OK`. -/
def flipped : List HostDatagram :=
  [⟨[0, 1, 0, 5, 0, 9, 0, 0, 0, 1, 104, 0, 2, 79, 75], hostAt 1⟩,
    ⟨[0, 1, 0, 6, 0, 7, 0, 1, 104, 0, 2, 79, 75], hostAt 1⟩]

/-- It stays willing. -/
theorem flipped_not_tracked : ∃ c : Chooser (List ARRAY8 × Option Nat),
    flipped.forM (receivePacket ListWidget.plain World.silent) (start ([], none)) = some ((), c) ∧
      c.hostNamedb.map HostName.willing = [true] ∧
      ¬ c.Tracks ListWidget.plain (flipped.filterMap HostDatagram.answer) := by
  let host : HostName := ⟨true, [104], [79, 75], familyInternet, [192, 168, 0, 1]⟩
  refine ⟨⟨[host], [host.fullname], 1, some 0, ([host.fullname], none)⟩, ?_, rfl, fun h => ?_⟩
  · decide +kernel
  · have hlast : (reportsFrom host.key (flipped.filterMap HostDatagram.answer)).getLast? =
        some ⟨[104], [79, 75], false⟩ := by decide +kernel
    obtain ⟨r, hr, hwilling, -⟩ := h.last host (List.mem_singleton_self host)
    obtain rfl := Option.some.inj (hlast.symm.trans hr)
    exact Bool.noConfusion hwilling

end Chooser

end Xdm
