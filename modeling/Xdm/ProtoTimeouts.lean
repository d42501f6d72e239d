/-
# Proto-displays that time out

`TimeoutProtoDisplays` unlinks nodes from the list that it walks along.  The walk is written
here with the pointers that it follows, and it leaves what `timeoutProtoDisplays` leaves.  What
it compares a creation date with is a difference without a sign: during the first half hour of
the clock this is greater than every date, and nothing is kept.
-/
import Xdm.Daemon

namespace Xdm

variable {s : State} {now : Time} {p : ProtoDisplay}

/-! ### The walk along the list -/

/-- The loop of `TimeoutProtoDisplays` from the node `pdpy` on, with `pdpy->next` read before
the node can be freed. -/
def timeoutFrom (now : Time) : Nat → Option ProtoDisplay → M Unit
  | _, none => pure ()
  | 0, some _ => failure
  | fuel + 1, some pdpy => do
    let s ← get
    let next := Keyed.next ProtoDisplay.addr pdpy.addr s.protoDisplays
    if timedOut now pdpy then disposeProtoDisplay pdpy.addr
    timeoutFrom now fuel next

/-- `TimeoutProtoDisplays`, node by node.  The list cannot have more turns than nodes. -/
def timeoutWalk (now : Time) : M Unit := do
  let s ← get
  timeoutFrom now s.protoDisplays.length s.protoDisplays.head?

/-- Everything before the node has been looked at already. -/
lemma timeoutFrom_eq {l₂ : List ProtoDisplay} : ∀ {l₁ : List ProtoDisplay} {s : State},
    s.protoDisplays = l₁ ++ l₂ → Keyed.Distinct ProtoDisplay.addr (l₁ ++ l₂) →
    timeoutFrom now l₂.length l₂.head? s =
      some ((), { s with protoDisplays := l₁ ++ l₂.filter fun p => !timedOut now p }) := by
  induction l₂ with
  | nil =>
    intro l₁ s hs _
    rw [List.filter_nil, ← hs]
    rfl
  | cons pdpy l₂ ih =>
    intro l₁ s hs hd
    have hnext : Keyed.next ProtoDisplay.addr pdpy.addr s.protoDisplays = l₂.head? := by
      rw [hs]
      exact hd.next_split
    by_cases ht : timedOut now pdpy = true
    · -- the node is unlinked, and the walk goes on behind it
      have herase : Keyed.erase ProtoDisplay.addr pdpy.addr s.protoDisplays = l₁ ++ l₂ := by
        rw [hs]
        exact hd.erase_split
      have hrest := ih (s := { s with
          protoDisplays := Keyed.erase ProtoDisplay.addr pdpy.addr s.protoDisplays }) herase
        (herase ▸ hs ▸ hd.erase)
      rw [List.filter_cons_of_neg (by simp [ht]), ← hrest, ← hnext]
      simp only [List.length_cons, List.head?_cons, timeoutFrom, ht, if_true]
      rfl
    · have happ : l₁ ++ pdpy :: l₂ = (l₁ ++ [pdpy]) ++ l₂ := by simp
      have hrest := ih (hs.trans happ) (happ ▸ hd)
      rw [List.filter_cons_of_pos (by simp [ht]), List.append_cons, ← hrest, ← hnext]
      simp only [List.length_cons, List.head?_cons, timeoutFrom, ht]
      rfl

/-- Unlinking nodes on the way does no harm. -/
theorem timeoutWalk_eq (hd : Keyed.Distinct ProtoDisplay.addr s.protoDisplays) :
    timeoutWalk now s = timeoutProtoDisplays now s :=
  timeoutFrom_eq (show s.protoDisplays = [] ++ s.protoDisplays from rfl) hd

/-! ### The dates -/

/-- After the first half hour of the clock the comparison is the intended one. -/
lemma timedOut_iff (hnow : protoTimeout ≤ now) (hmax : now < 2 ^ 63)
    (hdate : 0 ≤ p.date ∧ p.date ≤ now) :
    timedOut now p = true ↔ protoTimeout < now - p.date := by
  have hcompare : ∀ d n : Int, 1800 ≤ n → n < 2 ^ 63 → 0 ≤ d → d ≤ n →
      (d % 2 ^ 64 < (n - 1800) % 2 ^ 64 ↔ 1800 < n - d) := by
    intro d n hn hn' hd hdn
    rw [Int.emod_eq_of_lt hd (by omega), Int.emod_eq_of_lt (by omega) (by omega)]
    omega
  rw [timedOut, decide_eq_true_iff]
  exact hcompare p.date now hnow hmax hdate.1 hdate.2

/-- Before that the difference wraps round to a date far ahead. -/
lemma timedOut_early (h₀ : 0 ≤ now) (hnow : now < protoTimeout)
    (hdate : 0 ≤ p.date ∧ p.date ≤ now) : timedOut now p = true := by
  have hcompare : ∀ d n : Int, 0 ≤ n → n < 1800 → 0 ≤ d → d ≤ n →
      d % 2 ^ 64 < (n - 1800) % 2 ^ 64 := by
    intro d n hn hn' hd hdn
    have hwrap : (n - 1800) % 2 ^ 64 = n - 1800 + 2 ^ 64 := by omega
    rw [hwrap, Int.emod_eq_of_lt hd (by omega)]
    omega
  rw [timedOut, decide_eq_true_iff]
  exact hcompare p.date now h₀ hnow hdate.1 hdate.2

/-- The proto-displays that were created at most `PROTO_TIMEOUT` seconds ago. -/
def State.recentProtoDisplays (s : State) (now : Time) : List ProtoDisplay :=
  s.protoDisplays.filter fun p => decide (now - p.date ≤ protoTimeout)

lemma timeoutProtoDisplays_late (hnow : protoTimeout ≤ now) (hmax : now < 2 ^ 63)
    (hdates : ∀ p ∈ s.protoDisplays, 0 ≤ p.date ∧ p.date ≤ now) :
    timeoutProtoDisplays now s =
      some ((), { s with protoDisplays := s.recentProtoDisplays now }) := by
  have hfilter : (s.protoDisplays.filter fun p => !timedOut now p) =
      s.recentProtoDisplays now := by
    refine List.filter_congr fun p hp => ?_
    rw [Bool.eq_iff_iff, Bool.not_eq_true', decide_eq_true_iff, Bool.eq_false_iff, Ne,
      timedOut_iff hnow hmax (hdates p hp)]
    exact Int.not_lt
  rw [← hfilter]
  rfl

lemma timeoutProtoDisplays_early (h₀ : 0 ≤ now) (hnow : now < protoTimeout)
    (hdates : ∀ p ∈ s.protoDisplays, 0 ≤ p.date ∧ p.date ≤ now) :
    timeoutProtoDisplays now s = some ((), { s with protoDisplays := [] }) := by
  have hnil : (s.protoDisplays.filter fun p => !timedOut now p) = [] :=
    List.filter_eq_nil_iff.2 fun p hp => by simp [timedOut_early h₀ hnow (hdates p hp)]
  rw [← hnil]
  rfl

/-- Nothing is recent enough to stay, or the clock has run for half an hour: then the walk
leaves the recent proto-displays, in their order, and otherwise it does not. -/
theorem timeoutWalk_exact_iff (hd : Keyed.Distinct ProtoDisplay.addr s.protoDisplays)
    (h₀ : 0 ≤ now) (hmax : now < 2 ^ 63)
    (hdates : ∀ p ∈ s.protoDisplays, 0 ≤ p.date ∧ p.date ≤ now) :
    timeoutWalk now s = some ((), { s with protoDisplays := s.recentProtoDisplays now }) ↔
      protoTimeout ≤ now ∨ s.protoDisplays = [] := by
  rw [timeoutWalk_eq hd]
  constructor
  · intro hwalk
    by_contra hcon
    obtain ⟨hnow, hne⟩ := not_or.1 hcon
    rw [timeoutProtoDisplays_early h₀ (Int.not_le.1 hnow) hdates] at hwalk
    have hnil : s.recentProtoDisplays now = [] :=
      (congrArg (fun r => (r.elim s Prod.snd).protoDisplays) hwalk).symm
    -- all of them are recent
    obtain ⟨p, hp⟩ := List.exists_mem_of_ne_nil _ hne
    have hrecent := List.filter_eq_nil_iff.1 hnil p hp
    rw [decide_eq_true_iff] at hrecent
    exact hrecent (Int.le_trans (Int.sub_le_self now (hdates p hp).1)
      (Int.le_of_lt (Int.not_le.1 hnow)))
  · rintro (hnow | hnil)
    · exact timeoutProtoDisplays_late hnow hmax hdates
    · have hrecent : s.recentProtoDisplays now = s.protoDisplays := by
        rw [State.recentProtoDisplays, hnil, List.filter_nil]
      rw [hrecent]
      change some ((), { s with protoDisplays := s.protoDisplays.filter _ }) = _
      rw [hnil, List.filter_nil]

/-! ### At two times of the clock -/

/-- The proto-displays of a client, one for each of its displays, created at these dates. -/
def created (dates : List Time) : List ProtoDisplay :=
  dates.zipIdx.map fun x =>
    { addr := x.2
      address := Netaddr.guest
      date := x.1
      displayNumber := .ofNat x.2
      connectionType := familyInternet
      connectionAddress := [10, 0, 0, 2]
      sessionID := .ofNat x.2
      fileAuthorization := none
      xdmcpAuthorization := none
      authenticationData := []
      key := [] }

/-- A daemon with these proto-displays. -/
def State.waiting (dates : List Time) : State :=
  { State.initial Config.open 0 with protoDisplays := created dates }

/-- Two hours after the epoch one proto-display of three has waited for too long. -/
theorem timeoutWalk_exact :
    timeoutWalk 7200 (State.waiting [7200, 5399, 5400]) =
        some ((), { State.waiting [7200, 5399, 5400] with
          protoDisplays := (State.waiting [7200, 5399, 5400]).recentProtoDisplays 7200 }) ∧
      ((State.waiting [7200, 5399, 5400]).recentProtoDisplays 7200).map ProtoDisplay.date =
        [7200, 5400] :=
  ⟨(timeoutWalk_exact_iff (by decide) (by decide) (by decide) (by decide)).2
    (Or.inl (by decide)), by decide⟩

/-- One minute after the epoch a proto-display that has just been created is removed, and
one that has waited for half a minute. -/
theorem timeoutWalk_astray :
    Keyed.Distinct ProtoDisplay.addr (State.waiting [60, 30]).protoDisplays ∧
      (∀ p ∈ (State.waiting [60, 30]).protoDisplays, 0 ≤ p.date ∧ p.date ≤ 60) ∧
      ((State.waiting [60, 30]).recentProtoDisplays 60).map ProtoDisplay.date = [60, 30] ∧
      (timeoutWalk 60 (State.waiting [60, 30])).map (fun r => r.2.protoDisplays.length) = some 0 :=
  ⟨by decide, by decide, by decide, by decide⟩

end Xdm
