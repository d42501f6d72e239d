/-
# Selecting a host

The keys and the buttons of the chooser (`chooser/chooser.c`) move the highlighted line over the
hosts that are willing.  The list widget knows strings only, so a line is looked up by its text:
it is willing if a host with this text is.  `hostCycle_goes_round` says what `HostCycle` does in
a list of any size.
-/
import Xdm.Chooser.Hosts
import Xdm.Lib.Round

namespace Xdm

open Prog Round

/-- The string that `XawListShowCurrent` returns. -/
def ListWidget.string {W : Type} (L : ListWidget W) (list : W) : ARRAY8 :=
  match L.current list with
  | none => []
  | some line => (L.items list).getD line []

def button4 : Nat := 4
def button5 : Nat := 5
def xkUp : Nat := 0xff52
def xkDown : Nat := 0xff54

/-- The remainder of unsigned numbers; a division by zero is trapped. -/
def remainder (a b : UInt32) : Option UInt32 := if b = 0 then none else some (a % b)

/-- `next_line`, which returns an `int`. -/
def nextLine (current size : UInt32) (event : Nat) : Option Int32 :=
  if event = button5 then (remainder (current + 1) size).map UInt32.toInt32
  else if event = button4 then (remainder (current + size - 1) size).map UInt32.toInt32
  else if event = xkDown then (remainder (current + 1) size).map UInt32.toInt32
  else if event = xkUp then (remainder (current + size - 1) size).map UInt32.toInt32
  else some (-1)

namespace Chooser

variable {W : Type} (L : ListWidget W)

/-- The search of `Hostselect` for the string that is shown.  The scrolling is left out, but for
the height of a line: it is a quotient by `NameTableSize`. -/
def hostselectLoop (string : ARRAY8) : List HostName → Prog (Chooser W) Bool
  | [] => pure false
  | h :: hosts =>
    if string = h.fullname then
      if h.willing = false then do
        modify fun c => { c with list := L.unhighlight c.list }
        hostselectLoop string hosts
      else do
        let c ← get
        if c.nameTableSize = 0 then failure else pure true
    else hostselectLoop string hosts

/-- `Hostselect` -/
def hostselect (line : Nat) : Prog (Chooser W) Bool := do
  modify fun c => { c with list := L.highlight line c.list }
  let c ← get
  hostselectLoop L (L.string c.list) c.hostNamedb

/-- The loop of `Selectfirst`, with so many lines still to try. -/
def selectfirstLoop : Nat → Nat → Prog (Chooser W) Unit
  | 0, _ => pure ()
  | n + 1, line => do
    if ← hostselect L line then pure () else selectfirstLoop n (line + 1)

/-- `Selectfirst` -/
def selectfirst : Prog (Chooser W) Unit := do
  let c ← get
  selectfirstLoop L c.nameTableSize 0

/-- The loop of `HostCycle`, from `newline` on, and what follows it.  The result is the list of
the lines that have been tried. -/
def hostCycleLoop (line size : UInt32) (keysym : Nat) :
    Nat → UInt32 → Prog (Chooser W) (List UInt32)
  | 0, _ => failure
  | fuel + 1, newline =>
    match nextLine newline size keysym with
    | none => failure
    | some next => do
      let newline := next.toUInt32
      if newline ≠ line ∧ newline ≠ (-1 : Int32).toUInt32 then
        if ← hostselect L newline.toNat then pure [newline]
        else
          let tried ← hostCycleLoop line size keysym fuel newline
          pure (newline :: tried)
      else
        modify fun c => { c with list := L.highlight line.toNat c.list }
        pure []

/-- `HostCycle` -/
def hostCycle (line size : UInt32) (keysym : Nat) (fuel : Nat) :
    Prog (Chooser W) (List UInt32) :=
  hostCycleLoop L line size keysym fuel line

/-! ### The actions -/

/-- `Storeold` -/
def storeold : Prog (Chooser W) Unit :=
  modify fun c => { c with oldline := L.current c.list }

/-- `Setold` -/
def setold : Prog (Chooser W) Unit :=
  modify fun c =>
    match L.current c.list, c.oldline with
    | none, some line => { c with list := L.highlight line c.list }
    | _, _ => c

/-- The hosts that `DoCheckWilling` goes through. -/
def checkWillingLoop (string : ARRAY8) : List HostName → Prog (Chooser W) Unit
  | [] => pure ()
  | h :: hosts =>
    if string = h.fullname ∧ h.willing = false then do
      modify fun c => { c with list := L.unhighlight c.list }
      checkWillingLoop string hosts
    else checkWillingLoop string hosts

/-- `DoCheckWilling` -/
def doCheckWilling : Prog (Chooser W) Unit := do
  let c ← get
  if L.current c.list = none then pure ()
  else checkWillingLoop L (L.string c.list) c.hostNamedb

/-- What `Switch_Key` and `Switch_Btn` do with their key or button.  The loop of `HostCycle` has
no more rounds than this, or goes on for ever. -/
def switchLine (event : Nat) : Prog (Chooser W) Unit := do
  let c ← get
  match L.current c.list with
  | none => selectfirst L
  | some line =>
    discard (hostCycle L (UInt32.ofNat line) (UInt32.ofNat c.nameTableSize) event
      (c.nameTableSize + 1))

/-- `Switch_Key`, for the symbol of the key. -/
def switchKey (keysym : Nat) : Prog (Chooser W) Unit :=
  if keysym ≠ xkUp ∧ keysym ≠ xkDown then pure () else switchLine L keysym

/-- `Switch_Btn` -/
def switchBtn (button : Nat) : Prog (Chooser W) Unit := switchLine L button

end Chooser

variable {W : Type} {L : ListWidget W} {c c' : Chooser W} {line size : UInt32} {keysym : Nat}

/-! ### `next_line` -/

/-- One of the keys and buttons that go down. -/
def IsForward (keysym : Nat) : Prop := keysym = button5 ∨ keysym = xkDown

instance (keysym : Nat) : Decidable (IsForward keysym) := inferInstanceAs (Decidable (_ ∨ _))

/-- One of the keys and buttons that move the line. -/
def MovesLine (keysym : Nat) : Prop := IsForward keysym ∨ keysym = button4 ∨ keysym = xkUp

/-- By how much the line moves, up to multiples of the number of lines. -/
def stride (size keysym : Nat) : Nat := if IsForward keysym then 1 else size - 1

/-- Neither the addition nor the subtraction wraps. -/
lemma nextLine_eq {current : UInt32} (hkey : MovesLine keysym) (hsize : size.toNat < 2 ^ 31)
    (hcurrent : current < size) :
    ∃ next : UInt32, nextLine current size keysym = some next.toInt32 ∧
      next.toNat = (current.toNat + stride size.toNat keysym) % size.toNat := by
  rw [UInt32.lt_iff_toNat_lt] at hcurrent
  have hne : size ≠ 0 := by
    rintro rfl
    exact absurd hcurrent (Nat.not_lt_zero _)
  have hone : (1 : UInt32).toNat = 1 := rfl
  have hup : (current + 1).toNat = current.toNat + 1 := by
    rw [UInt32.toNat_add, hone]
    omega
  have hdown : (current + size - 1).toNat = current.toNat + (size.toNat - 1) := by
    rw [UInt32.toNat_sub, UInt32.toNat_add, hone]
    omega
  unfold nextLine remainder
  simp only [if_neg hne, Option.map_some]
  by_cases hforward : IsForward keysym
  · refine ⟨(current + 1) % size, ?_, ?_⟩
    · rcases hforward with rfl | rfl <;> rfl
    · rw [UInt32.toNat_mod, hup, stride, if_pos hforward]
  · refine ⟨(current + size - 1) % size, ?_, ?_⟩
    · rcases hkey.resolve_left hforward with rfl | rfl <;> rfl
    · rw [UInt32.toNat_mod, hdown, stride, if_neg hforward]

/-- Where the key leads from a line. -/
def nextOf (size : UInt32) (keysym : Nat) (x : UInt32) : UInt32 :=
  UInt32.ofNat ((x.toNat + stride size.toNat keysym) % size.toNat)

lemma toNat_nextOf (hsize : 0 < size.toNat) (x : UInt32) :
    (nextOf size keysym x).toNat = (x.toNat + stride size.toNat keysym) % size.toNat := by
  have hlt := Nat.mod_lt (x.toNat + stride size.toNat keysym) hsize
  have hsize' := size.toNat_lt
  rw [nextOf, UInt32.toNat_ofNat', Nat.mod_eq_of_lt (by omega)]

lemma nextLine_nextOf {current : UInt32} (hkey : MovesLine keysym) (hsize : size.toNat < 2 ^ 31)
    (hcurrent : current < size) :
    nextLine current size keysym = some (nextOf size keysym current).toInt32 := by
  have hpos : 0 < size.toNat := Nat.lt_of_le_of_lt (Nat.zero_le _) hcurrent
  obtain ⟨next, hnext, hvalue⟩ := nextLine_eq hkey hsize hcurrent
  rw [hnext, UInt32.toNat_inj.1 (hvalue.trans (toNat_nextOf hpos current).symm)]

/-! ### The other lines -/

/-- The other lines in the order of the key, up to the one it comes from. -/
def otherLines (keysym line size : Nat) : List Nat :=
  (List.range' 1 (size - 1)).map fun k =>
    if IsForward keysym then (line + k) % size else (line + size - k) % size

lemma coprime_stride {size keysym : Nat} (hsize : 0 < size) :
    Nat.Coprime size (stride size keysym) := by
  unfold stride
  split_ifs
  · exact Nat.coprime_one_right size
  · obtain ⟨n, rfl⟩ := Nat.exists_eq_succ_of_ne_zero hsize.ne'
    exact Nat.coprime_self_add_left.2 (Nat.coprime_one_left n)

lemma minimalPeriod_nextOf (hline : line < size) :
    Function.minimalPeriod (nextOf size keysym) line = size.toNat := by
  have hpos : 0 < size.toNat := Nat.lt_of_le_of_lt (Nat.zero_le _) hline
  exact minimalPeriod_stride (fun x _ => toNat_nextOf hpos x) (fun _ _ => UInt32.toNat_inj.1)
    hline (coprime_stride hpos)

/-- The lines on the way round are the other lines. -/
lemma map_others (hline : line < size) :
    (others (nextOf size keysym) line).map UInt32.toNat =
      otherLines keysym line.toNat size.toNat := by
  have hpos : 0 < size.toNat := Nat.lt_of_le_of_lt (Nat.zero_le _) hline
  rw [others, minimalPeriod_nextOf hline, otherLines, List.map_map]
  refine List.map_congr_left fun k hk => ?_
  rw [List.mem_range'_1] at hk
  rw [Function.comp_apply, num_iterate (n := size.toNat) (fun x _ => toNat_nextOf hpos x) hline,
    stride]
  split_ifs
  · rw [Nat.mul_one]
  · -- each step is one back and one time round
    have hround : line.toNat + k * (size.toNat - 1) =
        line.toNat + size.toNat - k + (k - 1) * size.toNat := by
      obtain ⟨j, rfl⟩ := Nat.exists_eq_add_of_le' hk.1
      obtain ⟨n, hn⟩ := Nat.exists_eq_succ_of_ne_zero hpos.ne'
      rw [hn, Nat.succ_sub_one, Nat.add_sub_cancel, Nat.mul_succ, Nat.succ_mul]
      omega
    rw [hround, Nat.add_mul_mod_self_right]

lemma lt_of_mem_others {x : UInt32} (hline : line < size)
    (hx : x ∈ others (nextOf size keysym) line) : x < size := by
  have hpos : 0 < size.toNat := Nat.lt_of_le_of_lt (Nat.zero_le _) hline
  obtain ⟨k, -, -, rfl⟩ := mem_others.1 hx
  rw [UInt32.lt_iff_toNat_lt, num_iterate (n := size.toNat) (fun x _ => toNat_nextOf hpos x) hline]
  exact Nat.mod_lt _ hpos

lemma nodup_otherLines (hline : line < size) :
    (otherLines keysym line.toNat size.toNat).Nodup := by
  rw [← map_others hline]
  exact nodup_others.map fun _ _ => UInt32.toNat_inj.1

/-- All lines but the one that the key comes from. -/
lemma mem_otherLines {keysym line size x : Nat} (hline : line < size) :
    x ∈ otherLines keysym line size ↔ x < size ∧ x ≠ line := by
  -- `x` is `k` lines on, without the end of the list between them or with it
  have hmod {a : Nat} (ha : a < 2 * size) : a % size = if a < size then a else a - size := by
    split_ifs with hlt
    · exact Nat.mod_eq_of_lt hlt
    · rw [Nat.mod_eq_sub_mod (by omega), Nat.mod_eq_of_lt (by omega)]
  simp only [otherLines, List.mem_map, List.mem_range'_1]
  constructor
  · rintro ⟨k, hk, rfl⟩
    rw [hmod (by omega), hmod (by omega)]
    split_ifs <;> omega
  · rintro ⟨hx, hne⟩
    by_cases hforward : IsForward keysym
    · refine ⟨if line < x then x - line else x + size - line, ?_, ?_⟩
      · split_ifs <;> omega
      · rw [if_pos hforward, hmod (by split_ifs <;> omega)]
        split_ifs <;> omega
    · refine ⟨if x < line then line - x else line + size - x, ?_, ?_⟩
      · split_ifs <;> omega
      · rw [if_neg hforward, hmod (by split_ifs <;> omega)]
        split_ifs <;> omega

/-! ### What the functions leave alone -/

namespace Chooser

/-- The hosts and what is shown are the same. -/
structure SameHosts (L : ListWidget W) (c c' : Chooser W) : Prop where
  hostNamedb : c'.hostNamedb = c.hostNamedb
  nameTable : c'.nameTable = c.nameTable
  nameTableSize : c'.nameTableSize = c.nameTableSize
  items : L.items c'.list = L.items c.list

instance : Std.Refl (SameHosts L) := ⟨fun _ => ⟨rfl, rfl, rfl, rfl⟩⟩

instance : IsTrans (Chooser W) (SameHosts L) := ⟨fun _ _ _ h h' =>
  ⟨h'.hostNamedb.trans h.hostNamedb, h'.nameTable.trans h.nameTable,
    h'.nameTableSize.trans h.nameTableSize, h'.items.trans h.items⟩⟩

lemma sameHosts_highlight (line : Nat) :
    Respects (SameHosts L) (modify fun c => { c with list := L.highlight line c.list }) :=
  Keeps.modify fun _ _ => ⟨trivial, rfl, rfl, rfl, L.items_highlight _ _⟩

lemma sameHosts_unhighlight :
    Respects (SameHosts L) (modify fun c => { c with list := L.unhighlight c.list }) :=
  Keeps.modify fun _ _ => ⟨trivial, rfl, rfl, rfl, L.items_unhighlight _⟩

lemma sameHosts_hostselectLoop (string : ARRAY8) (hosts : List HostName) :
    Respects (SameHosts L) (hostselectLoop L string hosts) := by
  induction hosts with
  | nil => exact Keeps.pure _
  | cons h hosts ih =>
    refine Keeps.ite (fun _ => Keeps.ite (fun _ => ?_) fun _ => ?_) fun _ => ih
    · exact Keeps.bind sameHosts_unhighlight fun _ => ih
    · exact Keeps.bind Keeps.get fun _ => Keeps.ite (fun _ => Keeps.failure) fun _ => Keeps.pure _

lemma sameHosts_hostselect (line : Nat) : Respects (SameHosts L) (hostselect L line) :=
  Keeps.bind (sameHosts_highlight line) fun _ =>
    Keeps.bind Keeps.get fun _ => sameHosts_hostselectLoop _ _

lemma sameHosts_selectfirst : Respects (SameHosts L) (selectfirst L) := by
  have hloop (n : Nat) : ∀ line, Respects (SameHosts L) (selectfirstLoop L n line) := by
    induction n with
    | zero => exact fun _ => Keeps.pure _
    | succ n ih =>
      refine fun line => Keeps.bind (sameHosts_hostselect line) fun r => ?_
      exact Keeps.ite (fun _ => Keeps.pure _) fun _ => ih _
  exact Keeps.bind Keeps.get fun _ => hloop _ _

lemma sameHosts_hostCycle (line size : UInt32) (keysym fuel : Nat) :
    Respects (SameHosts L) (hostCycle L line size keysym fuel) := by
  suffices ∀ newline, Respects (SameHosts L) (hostCycleLoop L line size keysym fuel newline) from
    this line
  induction fuel with
  | zero => exact fun _ => Keeps.failure
  | succ fuel ih =>
    intro newline
    unfold hostCycleLoop
    split
    · exact Keeps.failure
    · refine Keeps.ite (fun _ => ?_) fun _ => ?_
      · refine Keeps.bind (sameHosts_hostselect _) fun r => Keeps.ite (fun _ => Keeps.pure _) ?_
        exact fun _ => Keeps.bind (ih _) fun _ => Keeps.pure _
      · exact Keeps.bind (sameHosts_highlight _) fun _ => Keeps.pure _

lemma sameHosts_switchLine (event : Nat) : Respects (SameHosts L) (switchLine L event) := by
  refine Keeps.bind Keeps.get fun c => ?_
  cases L.current c.list with
  | none => exact sameHosts_selectfirst
  | some line => exact Keeps.bind (sameHosts_hostCycle _ _ _ _) fun _ => Keeps.pure _

lemma sameHosts_switchKey (keysym : Nat) : Respects (SameHosts L) (switchKey L keysym) :=
  Keeps.ite (fun _ => Keeps.pure _) fun _ => sameHosts_switchLine _

lemma sameHosts_storeold : Respects (SameHosts L) (storeold L) :=
  Keeps.modify fun _ _ => ⟨trivial, rfl, rfl, rfl, rfl⟩

lemma sameHosts_setold : Respects (SameHosts L) (setold L) := by
  refine Keeps.modify fun c _ => ⟨trivial, ?_⟩
  split
  · exact ⟨rfl, rfl, rfl, L.items_highlight _ _⟩
  · exact refl c

lemma sameHosts_doCheckWilling : Respects (SameHosts L) (doCheckWilling L) := by
  have hloop (string : ARRAY8) (hosts : List HostName) :
      Respects (SameHosts L) (checkWillingLoop L string hosts) := by
    induction hosts with
    | nil => exact Keeps.pure _
    | cons h hosts ih =>
      exact Keeps.ite (fun _ => Keeps.bind sameHosts_unhighlight fun _ => ih) fun _ => ih
  exact Keeps.bind Keeps.get fun _ => Keeps.ite (fun _ => Keeps.pure _) fun _ => hloop _ _

/-! ### `Hostselect` -/

/-- What is shown on a line. -/
def lineText (L : ListWidget W) (c : Chooser W) (line : Nat) : ARRAY8 :=
  (L.items c.list).getD line []

/-- A host that is shown like the line is willing. -/
def IsWilling (L : ListWidget W) (c : Chooser W) (line : Nat) : Prop :=
  ∃ h ∈ c.hostNamedb, h.fullname = lineText L c line ∧ h.willing = true

/-- All of them are. -/
def AllWilling (L : ListWidget W) (c : Chooser W) (line : Nat) : Prop :=
  ∀ h ∈ c.hostNamedb, h.fullname = lineText L c line → h.willing = true

lemma SameHosts.lineText (h : SameHosts L c c') (line : Nat) :
    lineText L c' line = lineText L c line := by
  rw [Chooser.lineText, Chooser.lineText, h.items]

lemma SameHosts.isWilling (h : SameHosts L c c') (line : Nat) :
    IsWilling L c' line ↔ IsWilling L c line := by
  rw [IsWilling, IsWilling, h.lineText, h.hostNamedb]

lemma SameHosts.allWilling (h : SameHosts L c c') (line : Nat) :
    AllWilling L c' line ↔ AllWilling L c line := by
  rw [AllWilling, AllWilling, h.lineText, h.hostNamedb]

/-- The search finds a willing host, if there is one with this text; if all are willing the line
stays highlighted. -/
lemma wp_hostselectLoop (string : ARRAY8) (hosts : List HostName) (hsize : c.nameTableSize ≠ 0) :
    Wp (hostselectLoop L string hosts) (fun r c' =>
      (r = true ↔ ∃ h ∈ hosts, h.fullname = string ∧ h.willing = true) ∧
      ((∀ h ∈ hosts, h.fullname = string → h.willing = true) → c' = c)) c := by
  induction hosts generalizing c with
  | nil => exact wp_pure ⟨by simp, fun _ => rfl⟩
  | cons h hosts ih =>
    rw [hostselectLoop]
    by_cases hstring : string = h.fullname
    · subst hstring
      rw [if_pos rfl]
      cases hwilling : h.willing with
      | false =>
        refine wp_bind (wp_modify ((ih (c := { c with list := L.unhighlight c.list })
          hsize).mono fun r c' h' => ⟨?_, fun hall => ?_⟩))
        · rw [h'.1, List.exists_mem_cons_iff, hwilling]
          simp
        · exact absurd (hall h (List.mem_cons_self ..) rfl) (by simp [hwilling])
      | true =>
        refine wp_bind (wp_get ?_)
        rw [if_neg hsize]
        refine wp_pure ⟨?_, fun _ => rfl⟩
        simp [hwilling]
    · rw [if_neg hstring]
      refine (ih hsize).mono fun r c' h' => ⟨?_, fun hall => h'.2 fun g hg => ?_⟩
      · rw [h'.1, List.exists_mem_cons_iff]
        simp [Ne.symm hstring]
      · exact hall g (List.mem_cons_of_mem _ hg)

/-- `Hostselect` says whether the line is willing, and highlights it then. -/
lemma wp_hostselect {line : Nat} (hline : line < (L.items c.list).length)
    (hsize : c.nameTableSize ≠ 0) :
    Wp (hostselect L line) (fun r c' => SameHosts L c c' ∧ (r = true ↔ IsWilling L c line) ∧
      (AllWilling L c line → L.current c'.list = some line)) c := by
  have hcurrent := L.current_highlight hline
  have hstring : L.string (L.highlight line c.list) = lineText L c line := by
    rw [ListWidget.string, hcurrent, L.items_highlight, lineText]
  have hwp : Wp (hostselect L line) (fun r c' => (r = true ↔ IsWilling L c line) ∧
      (AllWilling L c line → L.current c'.list = some line)) c := by
    refine wp_bind (wp_modify (wp_bind (wp_get ?_)))
    rw [hstring]
    refine (wp_hostselectLoop (c := { c with list := L.highlight line c.list }) _ _ hsize).mono
      fun r c' h => ⟨h.1, fun hall => ?_⟩
    rw [h.2 hall]
    exact hcurrent
  obtain ⟨r, c', hrun, h⟩ := hwp
  exact ⟨r, c', hrun, (sameHosts_hostselect line c trivial r c' hrun).2, h⟩

/-! ### `HostCycle` -/

/-- For the four keys and buttons the loop goes round the lines. -/
lemma hostCycleLoop_eq (hkey : MovesLine keysym) (hsize : size.toNat < 2 ^ 31)
    (hline : line < size) (fuel : Nat) {newline : UInt32} (hnewline : newline < size) :
    hostCycleLoop L line size keysym fuel newline =
      goRound (nextOf size keysym) line (fun x => hostselect L x.toNat)
        (modify fun c => { c with list := L.highlight line.toNat c.list }) fuel newline := by
  have hpos : 0 < size.toNat := Nat.lt_of_le_of_lt (Nat.zero_le _) hline
  induction fuel generalizing newline with
  | zero => rfl
  | succ fuel ih =>
    have hlt : nextOf size keysym newline < size := by
      rw [UInt32.lt_iff_toNat_lt, toNat_nextOf hpos]
      exact Nat.mod_lt _ hpos
    have hvalid : nextOf size keysym newline ≠ (-1 : Int32).toUInt32 := by
      intro heq
      rw [heq] at hlt
      have hmax : (-1 : Int32).toUInt32.toNat < size.toNat := hlt
      exact absurd (hmax.trans hsize) (by decide)
    have hnext : (nextOf size keysym newline).toInt32.toUInt32 = nextOf size keysym newline := rfl
    rw [hostCycleLoop, goRound, nextLine_nextOf hkey hsize hnewline]
    simp only [hnext, ih hlt]
    by_cases hback : nextOf size keysym newline = line
    · rw [if_pos hback, if_neg fun h => h.1 hback]
    · rw [if_neg hback, if_pos ⟨hback, hvalid⟩]

/-- `next_line` returns one of the lines. -/
lemma nextLine_mem {current : UInt32} (hkey : MovesLine keysym) (hsize : size.toNat < 2 ^ 31)
    (hcurrent : current < size) :
    ∃ next, nextLine current size keysym = some next ∧ 0 ≤ next.toInt ∧
      next.toInt < size.toNat := by
  have hpos : 0 < size.toNat := Nat.lt_of_le_of_lt (Nat.zero_le _) hcurrent
  have hlt : (nextOf size keysym current).toNat < size.toNat := by
    rw [toNat_nextOf hpos]
    exact Nat.mod_lt _ hpos
  have hvalue : (nextOf size keysym current).toInt32.toInt =
      ((nextOf size keysym current).toNat : Int) :=
    BitVec.toInt_eq_toNat_of_lt (x := (nextOf size keysym current).toBitVec)
      (by rw [UInt32.toNat_toBitVec]; omega)
  exact ⟨_, nextLine_nextOf hkey hsize hcurrent, by omega, by omega⟩

/-- How `HostCycle` ends: it has tried the other lines up to the first one that is willing, and
this one is highlighted unless it shares its text with a host that is not; or it has tried all of
them, and the line where it started is highlighted again. -/
def Cycled (L : ListWidget W) (c : Chooser W) (keysym line size : Nat) (tried : List Nat)
    (c' : Chooser W) : Prop :=
  Ends (IsWilling L c) (fun x c' => AllWilling L c x → L.current c'.list = some x)
    (fun c' => L.current c'.list = some line) (otherLines keysym line size) tried c'

lemma wp_hostCycle (hkey : MovesLine keysym) (hsize : size.toNat < 2 ^ 31) (hline : line < size)
    (hitems : (L.items c.list).length = size.toNat) (htable : c.nameTableSize = size.toNat)
    {fuel : Nat} (hfuel : size.toNat ≤ fuel) :
    Wp (hostCycle L line size keysym fuel) (fun tried c' =>
      Cycled L c keysym line.toNat size.toNat (tried.map UInt32.toNat) c') c := by
  have hpos : 0 < size.toNat := Nat.lt_of_le_of_lt (Nat.zero_le _) hline
  have hperiod : Function.minimalPeriod (nextOf size keysym) line = size.toNat :=
    minimalPeriod_nextOf hline
  rw [hostCycle, hostCycleLoop_eq hkey hsize hline fuel hline]
  refine (wp_goRound (SameHosts L c) (fun x => IsWilling L c x.toNat)
    (fun x c' => AllWilling L c x.toNat → L.current c'.list = some x.toNat)
    (fun c' => L.current c'.list = some line.toNat) (hperiod ▸ hpos) (hperiod ▸ hfuel)
    (refl c) (fun x hx s hs => ?_) fun s hs => ?_).mono fun tried c' h => ?_
  · have hlt : x.toNat < (L.items s.list).length := by
      rw [hs.items, hitems]
      exact lt_of_mem_others hline hx
    have hne : s.nameTableSize ≠ 0 := by
      rw [hs.nameTableSize, htable]
      exact hpos.ne'
    refine (wp_hostselect hlt hne).mono fun r s' h => ?_
    rw [hs.isWilling, hs.allWilling] at h
    cases r with
    | true => exact Or.inl ⟨rfl, h.2.1.1 rfl, h.2.2⟩
    | false =>
      have hbad : ¬ IsWilling L c x.toNat := fun hw => nomatch h.2.1.2 hw
      exact Or.inr ⟨rfl, hbad, IsTrans.trans _ _ _ hs h.1⟩
  · refine wp_modify (L.current_highlight ?_)
    rw [hs.items, hitems]
    exact hline
  · rw [Cycled, ← map_others hline]
    exact h.map (fun _ => Iff.rfl) (fun _ => id) id

/-- In a list of `size` lines, at most `INT_MAX`, with any hosts, and from every line of it:
`HostCycle` returns for each of the four keys and buttons, after no more rounds than there are
lines; it has tried the other lines in cyclic order, each of them at most once, up to the first
one that is willing; and `next_line` stays among the lines. -/
theorem hostCycle_goes_round (L : ListWidget W) (c : Chooser W) (line size : UInt32)
    (keysym : Nat) (hkey : MovesLine keysym) (hsize : size.toNat < 2 ^ 31) (hline : line < size)
    (hitems : (L.items c.list).length = size.toNat) (htable : c.nameTableSize = size.toNat) :
    (∀ fuel, size.toNat ≤ fuel → ∃ tried c',
      hostCycle L line size keysym fuel c = some (tried, c') ∧ SameHosts L c c' ∧
        Cycled L c keysym line.toNat size.toNat (tried.map UInt32.toNat) c') ∧
    (otherLines keysym line.toNat size.toNat).Nodup ∧
    (∀ x, x ∈ otherLines keysym line.toNat size.toNat ↔ x < size.toNat ∧ x ≠ line.toNat) ∧
    ∀ current < size, ∃ next, nextLine current size keysym = some next ∧ 0 ≤ next.toInt ∧
      next.toInt < size.toNat := by
  refine ⟨fun fuel hfuel => ?_, nodup_otherLines hline, fun x => mem_otherLines hline,
    fun current hcurrent => nextLine_mem hkey hsize hcurrent⟩
  obtain ⟨tried, c', hrun, h⟩ := wp_hostCycle hkey hsize hline hitems htable hfuel
  exact ⟨tried, c', hrun, (sameHosts_hostCycle line size keysym fuel c trivial _ _ hrun).2, h⟩

/-- Three hosts, the second of which is not willing. -/
def three : Chooser (List ARRAY8 × Option Nat) :=
  let host (n : UInt8) (willing : Bool) : HostName :=
    ⟨willing, [n], [], familyInternet, [10, 0, 0, n]⟩
  let hosts := [host 97 true, host 98 false, host 99 true]
  ⟨hosts, hosts.map HostName.fullname, 3, none, (hosts.map HostName.fullname, some 0)⟩

/-- Down from the first of them, in three rounds at most. -/
theorem hostCycle_goes_round_three : ∃ tried c',
    hostCycle ListWidget.plain 0 3 xkDown 3 three = some (tried, c') ∧
      Cycled ListWidget.plain three xkDown 0 3 (tried.map UInt32.toNat) c' := by
  obtain ⟨tried, c', hrun, -, hcycled⟩ := (hostCycle_goes_round ListWidget.plain three 0 3 xkDown
    (Or.inl (Or.inr rfl)) (by decide) (by decide) rfl rfl).1 3 (Nat.le_refl 3)
  exact ⟨tried, c', hrun, hcycled⟩

end Chooser

end Xdm
