/-
# Choices are remembered until they expire

`IndirectChoice` frees the records that have expired as it comes across them, and stops at the
first that is asked for; `RegisterIndirectChoice` may find a record that has expired and is
still there, and gives it a new time.  For calls at times that do not go back the two
functions do what a timed map does, whose keys are the address and the connection type of a
client.
-/
import Xdm.Choose
import Xdm.Daemon
import Xdm.Lib.Timed

namespace Xdm

variable {now timeout : Time} {a : ARRAY8} {n : CARD16} {choice : ARRAY8} {w : World}
variable {s : State} {c : Choice} {l : List Choice}

/-! ### The records -/

/-- Who has made the choice. -/
def Choice.key (c : Choice) : ARRAY8 × CARD16 := (c.client, c.connectionType)

/-- What has been chosen, and when. -/
def Choice.entry (c : Choice) : ARRAY8 × Time := (c.choice, c.time)

lemma Choice.isFor_iff : c.isFor a n = true ↔ c.key = (a, n) := by
  rw [Choice.isFor, Choice.key, decide_eq_true_iff, Prod.mk.injEq]
  exact ⟨fun h => ⟨h.1.symm, h.2.symm⟩, fun h => ⟨h.1.symm, h.2.symm⟩⟩

/-- What the loop of `IndirectChoice` leaves, and what it has found. -/
structure Searched (now timeout : Time) (a : ARRAY8) (n : CARD16) (l l' : List Choice)
    (found : Option ARRAY8) : Prop where
  sublist : l'.Sublist l
  out : ∀ c ∈ l, c ∈ l' ∨ timeout < now - c.time
  missing : found = none → ∀ c ∈ l', c.key ≠ (a, n)
  hit : ∀ v, found = some v → ∃ c ∈ l', c.key = (a, n) ∧ ¬ timeout < now - c.time ∧
    c.choice = v

lemma searched_indirectChoiceLoop : ∀ l : List Choice,
    Searched now timeout a n l (indirectChoiceLoop now timeout a n l).1
      (indirectChoiceLoop now timeout a n l).2
  | [] => ⟨.slnil, List.forall_mem_nil _, fun _ => List.forall_mem_nil _, nofun⟩
  | c :: l => by
    have ih := searched_indirectChoiceLoop l
    simp only [indirectChoiceLoop]
    split_ifs with hlapsed hfor
    · -- the record has expired
      refine ⟨ih.sublist.cons _, fun c' hc' => ?_, ih.missing, ih.hit⟩
      rcases List.mem_cons.1 hc' with rfl | hc'
      · exact Or.inr hlapsed
      · exact ih.out c' hc'
    · -- it is the one that is asked for
      refine ⟨List.Sublist.refl _, fun c' hc' => Or.inl hc', nofun, fun v hv => ?_⟩
      exact ⟨c, List.mem_cons_self .., Choice.isFor_iff.1 hfor, hlapsed, Option.some.inj hv⟩
    · refine ⟨ih.sublist.cons_cons _, fun c' hc' => ?_, fun hnone c' hc' => ?_, fun v hv => ?_⟩
      · rcases List.mem_cons.1 hc' with rfl | hc'
        · exact Or.inl (List.mem_cons_self ..)
        · exact (ih.out c' hc').imp_left (List.mem_cons_of_mem _)
      · rcases List.mem_cons.1 hc' with rfl | hc'
        · exact fun hkey => hfor (Choice.isFor_iff.2 hkey)
        · exact ih.missing hnone c' hc'
      · obtain ⟨c', hc', hspec⟩ := ih.hit v hv
        exact ⟨c', List.mem_cons_of_mem _ hc', hspec⟩

/-- With one record for a key, the first match is all that there is to change. -/
lemma update_eq (hd : Keyed.Distinct Choice.key l) :
    registerIndirectChoice.update w a n choice l =
      Keyed.modify Choice.key (a, n) (fun c => { c with choice := choice, time := w.time }) l := by
  induction l with
  | nil => rfl
  | cons c l ih =>
    obtain ⟨hc, hl⟩ := List.nodup_cons.1 hd
    rw [registerIndirectChoice.update]
    split_ifs with hfor
    · have hkey := Choice.isFor_iff.1 hfor
      have habsent : ∀ c' ∈ l, c'.key ≠ (a, n) := fun c' hc' heq =>
        hc (List.mem_map.2 ⟨c', hc', heq.trans hkey.symm⟩)
      change _ = (if c.key = (a, n) then _ else c) :: Keyed.modify Choice.key (a, n) _ l
      rw [if_pos hkey, Keyed.modify_of_absent habsent]
    · change _ = (if c.key = (a, n) then _ else c) :: Keyed.modify Choice.key (a, n) _ l
      rw [if_neg fun hkey => hfor (Choice.isFor_iff.2 hkey), ih hl]

/-! ### One call -/

/-- A call of one of the two functions. -/
inductive ChoiceUse
  | indirectChoice (clientAddress : ARRAY8) (connectionType : CARD16)
  | registerIndirectChoice (clientAddress : ARRAY8) (connectionType : CARD16) (choice : ARRAY8)

namespace ChoiceUse

/-- The client that the call is about. -/
def key : ChoiceUse → ARRAY8 × CARD16
  | indirectChoice a n => (a, n)
  | registerIndirectChoice a n _ => (a, n)

/-- Make the call; only `IndirectChoice` returns a choice. -/
def perform (w : World) : ChoiceUse → M (Option ARRAY8)
  | indirectChoice a n => Xdm.indirectChoice w a n
  | registerIndirectChoice a n choice => do
    Xdm.registerIndirectChoice w a n choice
    pure none

/-- What the call returns when the choices are those of the map. -/
def answer (timeout : Time) (w : World) (m : TimedMap (ARRAY8 × CARD16) ARRAY8) :
    ChoiceUse → Option ARRAY8
  | indirectChoice a n => m.get timeout w.time (a, n)
  | registerIndirectChoice _ _ _ => none

end ChoiceUse

/-- The choices that the calls of the past have left, the last call first: for each client
the one registered last. -/
def registeredLast : List (World × ChoiceUse) → TimedMap (ARRAY8 × CARD16) ARRAY8
  | [] => TimedMap.empty
  | (w, .registerIndirectChoice a n choice) :: past =>
    (registeredLast past).put (a, n) choice w.time
  | (_, .indirectChoice _ _) :: past => registeredLast past

/-- The list of records does for the choices that have been registered. -/
def State.Remembers (s : State) (now : Time) (past : List (World × ChoiceUse)) : Prop :=
  TimedMap.Holds Choice.key Choice.entry s.config.choiceTimeout now s.choices
    (registeredLast past)

lemma remembers_indirectChoice {past : List (World × ChoiceUse)}
    (h : s.Remembers w.time past) :
    ∃ s', (ChoiceUse.indirectChoice a n).perform w s =
        some ((registeredLast past).get s.config.choiceTimeout w.time (a, n), s') ∧
      s'.config = s.config ∧ s'.Remembers w.time past := by
  have hsearch : Searched w.time s.config.choiceTimeout a n s.choices _ _ :=
    searched_indirectChoiceLoop s.choices
  have hswept := h.sweep hsearch.sublist hsearch.out
  have hget : (registeredLast past).get s.config.choiceTimeout w.time (a, n) =
      (indirectChoiceLoop w.time s.config.choiceTimeout a n s.choices).2 := by
    cases hfound : (indirectChoiceLoop w.time s.config.choiceTimeout a n s.choices).2 with
    | none => exact hswept.get_missing (hsearch.missing hfound)
    | some v =>
      obtain ⟨c, hc, hkey, hfresh, rfl⟩ := hsearch.hit v hfound
      rw [← hkey]
      exact hswept.get_found hc hfresh
  refine ⟨{ s with choices :=
    (indirectChoiceLoop w.time s.config.choiceTimeout a n s.choices).1 }, ?_, rfl, hswept⟩
  rw [hget]
  rfl

lemma remembers_registerIndirectChoice {past : List (World × ChoiceUse)}
    (h : s.Remembers w.time past) :
    ∃ s', (ChoiceUse.registerIndirectChoice a n choice).perform w s = some (none, s') ∧
      s'.config = s.config ∧
      s'.Remembers w.time ((w, .registerIndirectChoice a n choice) :: past) := by
  refine ⟨_, rfl, ?_⟩
  beta_reduce
  by_cases hany : s.choices.any (Choice.isFor a n) = true
  · -- a record is there, expired or not
    rw [if_pos hany, update_eq h.distinct]
    obtain ⟨c, hc, hfor⟩ := List.any_eq_true.1 hany
    have hkey := Choice.isFor_iff.1 hfor
    have hmodify := h.modify (f := fun c => { c with choice := choice, time := w.time })
      (v := choice) hc (fun _ => rfl) (fun _ => rfl)
    rw [hkey] at hmodify
    exact ⟨rfl, hmodify⟩
  · rw [if_neg hany]
    have hnew : ∀ c ∈ s.choices, c.key ≠ (a, n) := fun c hc hkey =>
      hany (List.any_eq_true.2 ⟨c, hc, Choice.isFor_iff.2 hkey⟩)
    exact ⟨rfl, TimedMap.Holds.cons (r := (⟨a, n, choice, w.time⟩ : Choice)) h hnew⟩

/-- A call returns what the map has, and the list does for the map after the call. -/
lemma remembers_perform {past : List (World × ChoiceUse)} (call : ChoiceUse)
    (h : s.Remembers w.time past) :
    ∃ s', call.perform w s =
        some (call.answer s.config.choiceTimeout w (registeredLast past), s') ∧
      s'.config = s.config ∧ s'.Remembers w.time ((w, call) :: past) := by
  cases call with
  | indirectChoice a n => exact remembers_indirectChoice h
  | registerIndirectChoice a n choice => exact remembers_registerIndirectChoice h

/-! ### All calls -/

/-- Make all the calls; what each of them returns. -/
def performAll : List (World × ChoiceUse) → M (List (Option ARRAY8))
  | [] => pure []
  | (w, call) :: calls => do
    let found ← call.perform w
    let rest ← performAll calls
    pure (found :: rest)

/-- What the calls return if every choice is remembered until it expires. -/
def answers (timeout : Time) (past : List (World × ChoiceUse)) :
    List (World × ChoiceUse) → List (Option ARRAY8)
  | [] => []
  | (w, call) :: calls =>
    call.answer timeout w (registeredLast past) :: answers timeout ((w, call) :: past) calls

/-- The clock does not go back. -/
def InOrder (calls : List (World × ChoiceUse)) : Prop :=
  calls.Pairwise fun x y => x.1.time ≤ y.1.time

instance (calls : List (World × ChoiceUse)) : Decidable (InOrder calls) :=
  inferInstanceAs (Decidable (calls.Pairwise _))

lemma performAll_eq {calls : List (World × ChoiceUse)} : ∀ {s : State} {now : Time}
    {past : List (World × ChoiceUse)}, s.Remembers now past → InOrder calls →
    (∀ x ∈ calls, now ≤ x.1.time) →
    ∃ s', performAll calls s = some (answers s.config.choiceTimeout past calls, s') ∧
      Keyed.Distinct Choice.key s'.choices := by
  induction calls with
  | nil =>
    intro s now past h _ _
    exact ⟨s, rfl, h.distinct⟩
  | cons x calls ih =>
    obtain ⟨w, call⟩ := x
    intro s now past h horder hnow
    obtain ⟨hfirst, horder⟩ := List.pairwise_cons.1 horder
    have hw : s.Remembers w.time past := h.later (hnow _ (List.mem_cons_self ..))
    obtain ⟨t, hcall, hconfig, ht⟩ := remembers_perform call hw
    obtain ⟨s', hrest, hdistinct⟩ := ih ht horder hfirst
    refine ⟨s', ?_, hdistinct⟩
    rw [hconfig] at hrest
    change (call.perform w s).bind _ = _
    rw [hcall]
    change (performAll calls t).bind _ = _
    rw [hrest]
    rfl

/-! ### Other clients -/

/-- The calls about one client. -/
def callsFor (k : ARRAY8 × CARD16) (calls : List (World × ChoiceUse)) :
    List (World × ChoiceUse) :=
  calls.filter fun x => x.2.key = k

/-- What the calls about one client have returned. -/
def answersFor (k : ARRAY8 × CARD16) (calls : List (World × ChoiceUse))
    (found : List (Option ARRAY8)) : List (Option ARRAY8) :=
  ((calls.zip found).filter fun x => x.1.2.key = k).map Prod.snd

lemma registeredLast_callsFor (k : ARRAY8 × CARD16) : ∀ past : List (World × ChoiceUse),
    registeredLast (callsFor k past) k = registeredLast past k
  | [] => rfl
  | (w, call) :: past => by
    have ih := registeredLast_callsFor k past
    by_cases hk : call.key = k
    · rw [callsFor, List.filter_cons_of_pos (by simpa using hk)]
      cases call with
      | indirectChoice a n => exact ih
      | registerIndirectChoice a n choice =>
        change (if k = (a, n) then _ else registeredLast (callsFor k past) k) = _
        rw [ih]
        rfl
    · rw [callsFor, List.filter_cons_of_neg (by simpa using hk)]
      refine ih.trans ?_
      cases call with
      | indirectChoice a n => rfl
      | registerIndirectChoice a n choice => exact (if_neg fun h => hk h.symm).symm

/-- A call returns what it would if nobody else had called. -/
lemma answer_callsFor (call : ChoiceUse) (past : List (World × ChoiceUse)) :
    call.answer timeout w (registeredLast (callsFor call.key past)) =
      call.answer timeout w (registeredLast past) := by
  cases call with
  | indirectChoice a n =>
    change ((registeredLast (callsFor (a, n) past) (a, n)).bind _) = _
    rw [registeredLast_callsFor]
    rfl
  | registerIndirectChoice a n choice => rfl

lemma answersFor_answers (k : ARRAY8 × CARD16) {calls : List (World × ChoiceUse)} :
    ∀ past : List (World × ChoiceUse),
    answersFor k calls (answers timeout past calls) =
      answers timeout (callsFor k past) (callsFor k calls) := by
  induction calls with
  | nil => exact fun _ => rfl
  | cons x calls ih =>
    obtain ⟨w, call⟩ := x
    intro past
    have hrest := ih ((w, call) :: past)
    rw [answersFor] at hrest ⊢
    rw [answers, List.zip_cons_cons]
    by_cases hk : call.key = k
    · have hpast : callsFor k ((w, call) :: past) = (w, call) :: callsFor k past :=
        List.filter_cons_of_pos (by simpa using hk)
      have hcalls : callsFor k ((w, call) :: calls) = (w, call) :: callsFor k calls :=
        List.filter_cons_of_pos (by simpa using hk)
      rw [List.filter_cons_of_pos (by simpa using hk), List.map_cons, hrest, hpast, hcalls,
        answers]
      subst hk
      rw [answer_callsFor]
    · have hpast : callsFor k ((w, call) :: past) = callsFor k past :=
        List.filter_cons_of_neg (by simpa using hk)
      have hcalls : callsFor k ((w, call) :: calls) = callsFor k calls :=
        List.filter_cons_of_neg (by simpa using hk)
      rw [List.filter_cons_of_neg (by simpa using hk), hrest, hpast, hcalls]

/-- Started without choices, the calls return what has been registered last, as long as it
has not expired.  There is one record at most for a client, and what the calls about a client
return they would also return without all the others. -/
theorem choices_remembered {calls : List (World × ChoiceUse)} (hs : s.choices = [])
    (horder : InOrder calls) :
    ∃ s', performAll calls s = some (answers s.config.choiceTimeout [] calls, s') ∧
      Keyed.Distinct Choice.key s'.choices ∧
      ∀ k, ∃ t, performAll (callsFor k calls) s =
        some (answersFor k calls (answers s.config.choiceTimeout [] calls), t) := by
  have hall : ∀ calls, InOrder calls →
      ∃ s', performAll calls s = some (answers s.config.choiceTimeout [] calls, s') ∧
        Keyed.Distinct Choice.key s'.choices := by
    intro calls horder
    have hnil : ∀ now, s.Remembers now [] := by
      intro now
      rw [State.Remembers, hs]
      exact TimedMap.Holds.nil
    cases calls with
    | nil => exact performAll_eq (hnil 0) horder (List.forall_mem_nil _)
    | cons x calls =>
      refine performAll_eq (hnil x.1.time) horder fun y hy => ?_
      rcases List.mem_cons.1 hy with rfl | hy
      · exact Int.le_refl _
      · exact (List.pairwise_cons.1 horder).1 y hy
  obtain ⟨s', hrun, hdistinct⟩ := hall calls horder
  refine ⟨s', hrun, hdistinct, fun k => ?_⟩
  obtain ⟨t, hrunk, -⟩ := hall (callsFor k calls) (horder.filter _)
  exact ⟨t, by rw [hrunk, answersFor_answers]; rfl⟩

/-- Make the call at `t`, with nothing else happening. -/
def ChoiceUse.atTime (t : Time) (call : ChoiceUse) : World × ChoiceUse :=
  ({ World.silent with time := t }, call)

/-- A choice is found at first and has expired later, while its record is still there; the
client chooses again, and the choice of another client expires in the meantime. -/
def reviving : List (World × ChoiceUse) :=
  [ChoiceUse.atTime 0 (.registerIndirectChoice [1] familyInternet [10]),
   ChoiceUse.atTime 15 (.indirectChoice [1] familyInternet),
   ChoiceUse.atTime 15 (.registerIndirectChoice [2] familyInternet [11]),
   ChoiceUse.atTime 20 (.indirectChoice [2] familyInternet),
   ChoiceUse.atTime 40 (.registerIndirectChoice [1] familyInternet [12]),
   ChoiceUse.atTime 41 (.indirectChoice [1] familyInternet),
   ChoiceUse.atTime 41 (.indirectChoice [2] familyInternet)]

/-- A daemon that remembers choices for so long. -/
def State.remembering (choiceTimeout : Time) : State :=
  State.initial { Config.plain with choiceTimeout := choiceTimeout } 0

theorem choices_remembered_revived :
    (∃ s', performAll reviving (State.remembering 15) =
      some (answers 15 [] reviving, s') ∧ Keyed.Distinct Choice.key s'.choices ∧
      ∀ k, ∃ t, performAll (callsFor k reviving) (State.remembering 15) =
        some (answersFor k reviving (answers 15 [] reviving), t)) ∧
    answers 15 [] reviving = [none, some [10], none, some [11], none, some [12], none] :=
  ⟨choices_remembered rfl (by decide), by decide⟩

end Xdm
