/-
# The hosts that macros reach

A host list refers to macros, and these to others, in cycles if the file says so.  `Reaches` is
what can be reached through references, whatever the order in which `scanHostlist` and
`indirectAlias` (`xdm/access.c`) follow them; the scan finds what is at most `MAX_DEPTH`
references away.
-/
import Xdm.Access.Scans

namespace Xdm

variable {w : World} {database : List DisplayEntry} {hosts : List HostEntry} {n depth fuel : Nat}
variable {connectionType : CARD16} {broadcast : Bool} {h h' : HostEntry} {name : Str}

/-! ### References -/

/-- The definition of a macro that a reference means. -/
def DisplayEntry.defines (w : World) (reference : Str) (d : DisplayEntry) : Bool :=
  match d.entry with
  | .alias aliasName => patternMatch w aliasName reference
  | _ => false

/-- The host is reached from the list through `n` nested references. -/
inductive Reaches (w : World) (database : List DisplayEntry) :
    List HostEntry → Nat → HostEntry → Prop
  | here {hosts : List HostEntry} {h : HostEntry} : h ∈ hosts → Reaches w database hosts 0 h
  | through {hosts : List HostEntry} {r h : HostEntry} {reference : Str} {d : DisplayEntry}
      {n : Nat} : r ∈ hosts → r.entry = .alias reference → d ∈ database →
      d.defines w reference = true → Reaches w database d.hosts n h →
      Reaches w database hosts (n + 1) h

/-- The host is no reference. -/
def HostEntry.plain (h : HostEntry) : Prop := ∀ reference, h.entry ≠ .alias reference

/-! ### The scan as the source writes it -/

/-- `indirectAlias`; `scan` is `scanHostlist` one level deeper. -/
def indirectAlias (w : World) (database : List DisplayEntry)
    (scan : List HostEntry → Option HostScan) (depth : Nat) (reference : Str) : Option HostScan :=
  if depth = maxDepth then some ⟨false, []⟩
  else ((database.filter (DisplayEntry.defines w reference)).mapM fun d => scan d.hosts).map
    HostScan.join

/-- One turn of the loop of `scanHostlist`. -/
def scanHostFrom (w : World) (database : List DisplayEntry) (connectionType : CARD16)
    (broadcast : Bool) (scan : List HostEntry → Option HostScan) (depth : Nat)
    (h : HostEntry) : Option HostScan :=
  match h.entry with
  | .alias reference => indirectAlias w database scan depth reference
  | .address address =>
    if isLocalAddress w address connectionType then some ⟨true, []⟩ else some ⟨false, [address]⟩
  | .broadcast => some ⟨false, if broadcast then [bytesOf broadcastString] else []⟩
  | _ => some ⟨false, []⟩

/-- `scanHostlist`: the depth is counted up, and the fuel bounds the nested calls; there is no
result if it is used up. -/
def scanHostlistFrom (w : World) (database : List DisplayEntry) (connectionType : CARD16)
    (broadcast : Bool) : Nat → Nat → List HostEntry → Option HostScan
  | 0, _, _ => none
  | fuel + 1, depth, hosts =>
    (hosts.mapM (scanHostFrom w database connectionType broadcast
      (scanHostlistFrom w database connectionType broadcast fuel (depth + 1)) depth)).map
        HostScan.join

lemma mapM_eq_some {α β : Type} {f : α → Option β} {g : α → β} {l : List α}
    (h : ∀ x ∈ l, f x = some (g x)) : l.mapM f = some (l.map g) := by
  induction l with
  | nil => rfl
  | cons x l ih =>
    rw [List.mapM_cons, h x (List.mem_cons_self ..),
      ih fun y hy => h y (List.mem_cons_of_mem _ hy)]
    rfl

/-- From a depth of at most `MAX_DEPTH` the calls come back. -/
lemma scanHostlistFrom_eq (hdepth : depth ≤ maxDepth) (hfuel : maxDepth - depth < fuel) :
    scanHostlistFrom w database connectionType broadcast fuel depth hosts =
      some (scanHostlist w database connectionType depth broadcast hosts) := by
  induction fuel generalizing depth hosts with
  | zero => omega
  | succ fuel ih =>
    unfold scanHostlistFrom scanHostlist
    rw [mapM_eq_some (g := scanHost w database connectionType broadcast (maxDepth - depth))]
    · rfl
    intro h _
    obtain ⟨entry, hopCount⟩ := h
    rcases entry with reference | address | _ | _ | _ | _
    · change indirectAlias w database _ depth reference = _
      unfold indirectAlias
      split_ifs with hmax
      · rw [hmax, Nat.sub_self]
        rfl
      · obtain ⟨n, hn⟩ : ∃ n, maxDepth - depth = n + 1 := ⟨maxDepth - depth - 1, by omega⟩
        have hnext : maxDepth - (depth + 1) = n := by omega
        have hscan : ∀ d : DisplayEntry,
            scanHostlistFrom w database connectionType broadcast fuel (depth + 1) d.hosts =
              some (scanHostlist w database connectionType (depth + 1) broadcast d.hosts) :=
          fun d => ih (by omega) (by omega)
        rw [mapM_eq_some fun d _ => hscan d, hn]
        simp only [scanHostlist, hnext]
        rfl
    · unfold scanHostFrom scanHost
      dsimp only
      split_ifs <;> rfl
    all_goals cases maxDepth - depth <;> rfl

/-! ### What the scan finds -/

lemma expandHost_plain (hplain : h.plain) : expandHost w database n h = [h] := by
  obtain ⟨entry, hopCount⟩ := h
  rcases entry with name | _ | _ | _ | _ | _
  · exact absurd rfl (hplain name)
  all_goals cases n <;> rfl

lemma exists_alias (hplain : ¬ h.plain) : ∃ name, h.entry = .alias name := by
  simpa [HostEntry.plain] using hplain

lemma mem_expandHost_alias (hname : h.entry = .alias name) :
    h' ∈ expandHost w database (n + 1) h ↔
      ∃ d ∈ database, d.defines w name = true ∧ h' ∈ d.hosts.flatMap (expandHost w database n) := by
  obtain ⟨entry, hopCount⟩ := h
  obtain rfl : entry = .alias name := hname
  change h' ∈ (database.filter (DisplayEntry.defines w name)).flatMap _ ↔ _
  simp only [List.mem_flatMap, List.mem_filter, and_assoc]

/-- With `n` levels left a host list expands to what is at most `n` references away.  Induction
on the levels; a reference takes one. -/
lemma mem_expand : h ∈ hosts.flatMap (expandHost w database n) ↔
    h.plain ∧ ∃ k ≤ n, Reaches w database hosts k h := by
  induction n generalizing hosts with
  | zero =>
    rw [List.mem_flatMap]
    constructor
    · rintro ⟨r, hr, hh⟩
      by_cases hplain : r.plain
      · rw [expandHost_plain hplain, List.mem_singleton] at hh
        subst hh
        exact ⟨hplain, 0, Nat.le_refl _, .here hr⟩
      · obtain ⟨name, hname⟩ := exists_alias hplain
        unfold expandHost at hh
        rw [hname] at hh
        exact absurd hh List.not_mem_nil
    · rintro ⟨hplain, k, hk, hreaches⟩
      cases hreaches with
      | here hh => exact ⟨h, hh, by simp [expandHost_plain hplain]⟩
      | through => omega
  | succ n ih =>
    rw [List.mem_flatMap]
    constructor
    · rintro ⟨r, hr, hh⟩
      by_cases hplain : r.plain
      · rw [expandHost_plain hplain, List.mem_singleton] at hh
        subst hh
        exact ⟨hplain, 0, Nat.zero_le _, .here hr⟩
      · obtain ⟨name, hname⟩ := exists_alias hplain
        obtain ⟨d, hd, hdefines, hh⟩ := (mem_expandHost_alias hname).1 hh
        obtain ⟨hplain, k, hk, hreaches⟩ := ih.1 hh
        exact ⟨hplain, k + 1, by omega, .through hr hname hd hdefines hreaches⟩
    · rintro ⟨hplain, k, hk, hreaches⟩
      cases hreaches with
      | here hh => exact ⟨h, hh, by simp [expandHost_plain hplain]⟩
      | through hr hname hd hdefines hreaches =>
        exact ⟨_, hr, (mem_expandHost_alias hname).2
          ⟨_, hd, hdefines, ih.2 ⟨hplain, _, by omega, hreaches⟩⟩⟩

/-- The host can be reached through at most `MAX_DEPTH` nested references. -/
def Reachable (w : World) (database : List DisplayEntry) (hosts : List HostEntry)
    (entry : HostOrAlias) : Prop :=
  ∃ k ≤ maxDepth, ∃ h, Reaches w database hosts k h ∧ h.entry = entry

/-- For every database and host list: the calls come back, they pass to the callback the
addresses that can be reached and are not local, and `BROADCAST` if that can be reached and is
asked for, and they report a local host if and only if a local address can be reached. -/
theorem scanHostlist_reaches (w : World) (database : List DisplayEntry) (connectionType : CARD16)
    (broadcast : Bool) (hosts : List HostEntry) : ∃ scan : HostScan,
    (∀ fuel, maxDepth < fuel →
      scanHostlistFrom w database connectionType broadcast fuel 0 hosts = some scan) ∧
    (∀ address, address ∈ scan.calls ↔
      (Reachable w database hosts (.address address) ∧
        isLocalAddress w address connectionType = false) ∨
      (broadcast = true ∧ Reachable w database hosts .broadcast ∧
        address = bytesOf broadcastString)) ∧
    (scan.haveLocalhost = true ↔ ∃ address, Reachable w database hosts (.address address) ∧
      isLocalAddress w address connectionType = true) := by
  refine ⟨scanHostlist w database connectionType 0 broadcast hosts,
    fun fuel hfuel => scanHostlistFrom_eq (Nat.zero_le _) (by omega), fun address => ?_, ?_⟩
  all_goals rw [scanHostlist, HostScan.join_ofHosts fun h _ => scanHost_eq _ h, HostScan.ofHosts]
  · simp only [List.mem_filterMap, Nat.sub_zero, mem_expand]
    constructor
    · rintro ⟨⟨entry, hopCount⟩, ⟨-, k, hk, hreaches⟩, hoffered⟩
      rcases entry with _ | a | _ | _ | _ | _
      · cases hoffered
      · simp only [HostEntry.offered, Option.ite_none_left_eq_some, Option.some.injEq] at hoffered
        obtain ⟨hlocal, rfl⟩ := hoffered
        exact Or.inl ⟨⟨k, hk, _, hreaches, rfl⟩, by simpa using hlocal⟩
      · simp only [HostEntry.offered, Option.ite_none_right_eq_some, Option.some.injEq] at hoffered
        obtain ⟨hbroadcast, rfl⟩ := hoffered
        exact Or.inr ⟨hbroadcast, ⟨k, hk, _, hreaches, rfl⟩, rfl⟩
      all_goals cases hoffered
    · rintro (⟨⟨k, hk, ⟨_, hopCount⟩, hreaches, rfl⟩, hlocal⟩ |
        ⟨hbroadcast, ⟨k, hk, ⟨_, hopCount⟩, hreaches, rfl⟩, rfl⟩)
      · exact ⟨_, ⟨by simp [HostEntry.plain], k, hk, hreaches⟩, by simp [HostEntry.offered, hlocal]⟩
      · exact ⟨_, ⟨by simp [HostEntry.plain], k, hk, hreaches⟩,
          by simp [HostEntry.offered, hbroadcast]⟩
  · simp only [List.any_eq_true, Nat.sub_zero, mem_expand]
    constructor
    · rintro ⟨⟨entry, hopCount⟩, ⟨-, k, hk, hreaches⟩, hlocal⟩
      rcases entry with _ | a | _ | _ | _ | _
      · cases hlocal
      · exact ⟨a, ⟨k, hk, _, hreaches, rfl⟩, hlocal⟩
      all_goals cases hlocal
    · rintro ⟨a, ⟨k, hk, ⟨_, hopCount⟩, hreaches, rfl⟩, hlocal⟩
      exact ⟨_, ⟨by simp [HostEntry.plain], k, hk, hreaches⟩, hlocal⟩

end Xdm
