/-
# The login loop

The loop of `GreetUser` (`greeter/greet.c`) in a build with PAM.  Each pass starts a PAM handle,
authenticates a user with it, and asks `Verify`; when the user is refused it ends the handle and
the next pass starts.  The machine here makes one PAM call in each step, with what the call
answers as the input.
-/
import Xdm.Greeter.Verify
import Xdm.Lib.Run

namespace Xdm.Greeter

/-! ### PAM -/

/-- What a PAM function returns. -/
inductive PamResult
  | success
  | newAuthtokReqd
  | authtokErr
  | tryAgain
  | other (n : Nat)
deriving DecidableEq

/-- The items of a handle that are set. -/
inductive Item
  | userPrompt
  | rhost
  | tty
deriving DecidableEq

/-- The calls in `GreetUser`, with their arguments but the handle.  The flags of
`pam_authenticate` and `pam_acct_mgmt` are `PAM_DISALLOW_NULL_AUTHTOK` or none. -/
inductive Call
  | pamStart (serviceName : Str)
  | pamSetItem (item : Item) (value : Str)
  | pamAuthenticate (disallowNull : Bool)
  | pamAcctMgmt (disallowNull : Bool)
  | pamChauthtok
  | pamSetcred
  | pamGetUser
  | pamEnd (status : PamResult)
deriving DecidableEq

/-- The modules of PAM are run, which may set `PAM_USER`. -/
def Call.runsModules : Call → Bool
  | pamAuthenticate _ | pamAcctMgmt _ | pamChauthtok | pamSetcred => true
  | _ => false

/-- What a call answers, and what there is after it: the item `PAM_USER` if modules have been
run, the exit code and the session argument of the greeter, the login prompt, whether `strdup`
succeeds, and the databases. -/
structure Answer where
  result : PamResult
  user : Option Str
  code : Int
  string : Option Str
  loginPrompt : Option Str
  strdup : Bool
  accounts : Accounts

/-! ### The state -/

/-- The places in the loop where PAM is called, and its two ends. -/
inductive Point
  | start
  | setPrompt (loginPrompt : Str)
  | setHost
  | authenticate
  | acctMgmt
  | chauthtok
  | setcred
  | getUser
  | getFailed
  | finish
  | sessionExit (code : Int)
  | loggedIn (verify : VerifyInfo)

/-- A name that `Verify` has accepted or `FailedLogin` has logged, with the pass, the pass whose
handle the name is from, and the item `PAM_USER` of the handle of the pass. -/
structure Use where
  accepted : Bool
  name : Option Str
  pass : Nat
  namedIn : Nat
  item : Option Str
deriving DecidableEq

/-- `namedIn` is the pass that has set `greet->name`; the code has no such variable, and neither
the number `pass` nor the list `uses`. -/
structure State where
  point : Point
  pamError : PamResult
  user : Option Str
  greet : GreetInfo
  pass : Nat
  namedIn : Nat
  uses : List Use

/-- `greet` is a static variable of `xdm/session.c`. -/
def State.initial (allowNullPasswd allowRootLogin : Bool) : State where
  point := .start
  pamError := .success
  user := none
  greet := ⟨none, none, none, allowNullPasswd, allowRootLogin⟩
  pass := 0
  namedIn := 0
  uses := []

namespace State

def goto (s : State) (point : Point) : State := { s with point := point }

def use (s : State) (accepted : Bool) (name : Option Str) (namedIn : Nat) : State :=
  { s with uses := s.uses ++ [⟨accepted, name, s.pass, namedIn, s.user⟩] }

/-- The name of the user is a string of the handle. -/
def takeName (s : State) : State :=
  match s.user with
  | none => s
  | some name =>
    { s with greet := { s.greet with name := some name, password := none }, namedIn := s.pass }

end State

/-! ### The loop -/

/-- What is before the last colon of the name of a display. -/
def hostname (name : Str) : Str :=
  if ':' ∈ name then ((name.reverse.dropWhile (· ≠ ':')).drop 1).reverse else name

/-- Whether a display is remote is told by its name. -/
def isRemote (d : Dpy) : Bool := d.name.head? ≠ some ':'

/-- The call that is made at a point of the loop. -/
def Point.call (d : Dpy) (s : State) : Point → Option Call
  | start => some (.pamStart "xdm".toList)
  | setPrompt loginPrompt => some (.pamSetItem .userPrompt loginPrompt)
  | setHost => some (if isRemote d then .pamSetItem .rhost (hostname d.name)
      else .pamSetItem .tty d.name)
  | authenticate => some (.pamAuthenticate !s.greet.allowNullPasswd)
  | acctMgmt => some (.pamAcctMgmt !s.greet.allowNullPasswd)
  | chauthtok => some .pamChauthtok
  | setcred => some .pamSetcred
  | getUser => some .pamGetUser
  | getFailed => some .pamGetUser
  | finish => some (.pamEnd s.pamError)
  | sessionExit _ => none
  | loggedIn _ => none

/-- The call has come back. -/
def State.answered (s : State) (c : Call) (a : Answer) : State :=
  { s with
    pamError := a.result
    user := if c.runsModules then a.user else s.user
    greet := { s.greet with string := a.string } }

/-- What comes before `pam_authenticate`; for a remote display nothing if there is no memory for
its host name. -/
def hostPoint (d : Dpy) (a : Answer) : Point :=
  if isRemote d ∧ !a.strdup then .authenticate else .setHost

/-- The code at `pam_done`, up to the next call. -/
def State.pamDone (d : Dpy) (a : Answer) (s : State) : State :=
  if a.code ≠ 0 then s.goto (.sessionExit a.code)
  else
    let verified := if s.pamError = .success then verifyPam a.accounts d s.greet
      else (none, s.greet)
    let s := { s with greet := verified.2 }
    match verified.1 with
    | some verify => (s.use true s.greet.name s.namedIn).goto (.loggedIn verify)
    | none =>
      match s.greet.name with
      | none => s.goto .getFailed
      | some name => (s.use false (some name) s.namedIn).goto .finish

/-- `RUN_AND_CHECK_PAM_ERROR`, after the call. -/
def State.runAndCheck (d : Dpy) (a : Answer) (s : State) (next : State → State) : State :=
  if s.pamError ≠ .success then s.pamDone d a else next s

/-- The code between the call at this point and the next call. -/
def Point.resume (d : Dpy) (a : Answer) (s : State) : Point → State
  | start => s.runAndCheck d a fun s => s.goto <| match a.loginPrompt with
    | some loginPrompt => .setPrompt loginPrompt
    | none => hostPoint d a
  | setPrompt _ => s.runAndCheck d a fun s => s.goto (hostPoint d a)
  | setHost => s.runAndCheck d a fun s => s.goto .authenticate
  | authenticate => s.runAndCheck d a fun s => s.goto .acctMgmt
  | acctMgmt =>
    if s.pamError = .newAuthtokReqd then s.goto .chauthtok
    else s.runAndCheck d a fun s => s.goto .setcred
  | chauthtok =>
    if s.pamError = .authtokErr ∨ s.pamError = .tryAgain then s.goto .chauthtok
    else s.runAndCheck d a fun s => s.goto .setcred
  | setcred => s.runAndCheck d a fun s => s.goto .getUser
  | getUser => s.runAndCheck d a fun s => s.takeName.pamDone d a
  | getFailed => s.runAndCheck d a fun s => (s.use false s.user s.pass).goto .finish
  | finish => s.runAndCheck d a fun s =>
    { s with point := .start, user := none, pass := s.pass + 1 }
  | sessionExit _ => s
  | loggedIn _ => s

def step (d : Dpy) (a : Answer) : Prog State Unit := fun s =>
  (s.point.call d s).map fun c => ((), s.point.resume d a (s.answered c a))

/-! ### Whose name it is -/

variable {d : Dpy} {a : Answer} {s s' : State} {h : List (Prog.Step State Answer)}

/-- The name is the item of the handle of the pass, or there is none. -/
def Use.Fresh (u : Use) : Prop := u.name = none ∨ u.namedIn = u.pass ∧ u.name = u.item

instance (u : Use) : Decidable u.Fresh :=
  inferInstanceAs (Decidable (u.name = none ∨ u.namedIn = u.pass ∧ u.name = u.item))

/-- All names so far have been. -/
def State.AllFresh (s : State) : Prop := ∀ u ∈ s.uses, u.Fresh

instance (s : State) : Decidable s.AllFresh := inferInstanceAs (Decidable (∀ u ∈ s.uses, u.Fresh))

/-- `greet->name` is. -/
def State.NameFresh (s : State) : Prop :=
  s.greet.name = none ∨ s.namedIn = s.pass ∧ s.greet.name = s.user

/-- The pass has not been at `pam_done`. -/
def Point.isEarly : Point → Bool
  | start | setPrompt _ | setHost | authenticate | acctMgmt | chauthtok | setcred | getUser => true
  | _ => false

/-- The pass has been at `pam_done` and is not over. -/
def Point.isLate : Point → Bool
  | getFailed | finish => true
  | _ => false

/-- The pass comes to `pam_done` without a name: a call has failed, or there is no `PAM_USER`. -/
def State.givesUp (s : State) (a : Answer) : Bool :=
  match s.point with
  | .start | .setPrompt _ | .setHost | .authenticate | .setcred => a.result ≠ .success
  | .acctMgmt => a.result ≠ .success ∧ a.result ≠ .newAuthtokReqd
  | .chauthtok => a.result ≠ .success ∧ a.result ≠ .authtokErr ∧ a.result ≠ .tryAgain
  | .getUser => a.result ≠ .success ∨ s.user = none
  | _ => false

/-- A pass that gives up, without the greeter being about to exit, is none after a pass that has
set `greet->name`. -/
def NoLeftover (x : Prog.Step State Answer) : Prop :=
  x.pre.givesUp x.input = true → x.input.code = 0 → x.pre.greet.name = none

instance (x : Prog.Step State Answer) : Decidable (NoLeftover x) :=
  inferInstanceAs (Decidable (x.pre.givesUp x.input = true → x.input.code = 0 →
    x.pre.greet.name = none))

/-- What is known of `greet->name`: before `pam_done` it is from an earlier pass, and after it
from this one, unless a name from an earlier pass has been used. -/
structure State.Tracked (s : State) : Prop where
  bound : s.greet.name ≠ none → s.namedIn ≤ s.pass
  early : s.point.isEarly = true → s.greet.name ≠ none → s.namedIn < s.pass
  late : s.point.isLate = true → s.AllFresh → s.NameFresh

/-- `Verify` does not change the name, and accepts nobody without one. -/
lemma verifyPam_name (acc : Accounts) (d : Dpy) (greet : GreetInfo) :
    (verifyPam acc d greet).2.name = greet.name ∧
      (greet.name = none → (verifyPam acc d greet).1 = none) := by
  unfold verifyPam
  cases hknown : knownUser acc greet with
  | none => exact ⟨rfl, fun _ => rfl⟩
  | some known =>
    dsimp only
    split_ifs
    · exact ⟨rfl, fun _ => rfl⟩
    · refine ⟨rfl, fun hname => ?_⟩
      simp only [knownUser, hname] at hknown
      cases hknown

/-- What the code at `pam_done` does: it uses the name if there is one and the greeter is not
about to exit. -/
structure Done (a : Answer) (s s' : State) : Prop where
  name : s'.greet.name = s.greet.name
  namedIn : s'.namedIn = s.namedIn
  pass : s'.pass = s.pass
  user : s'.user = s.user
  early : s'.point.isEarly = false
  late : s'.point.isLate = true → a.code = 0
  uses : ∃ l, s'.uses = s.uses ++ l ∧ (l = [] ↔ a.code ≠ 0 ∨ s.greet.name = none) ∧
    ∀ u ∈ l, u.name = s.greet.name ∧ u.namedIn = s.namedIn ∧ u.pass = s.pass ∧ u.item = s.user

lemma done_pamDone (d : Dpy) (a : Answer) (s : State) : Done a s (s.pamDone d a) := by
  unfold State.pamDone
  by_cases hcode : a.code ≠ 0
  · rw [if_pos hcode]
    exact ⟨rfl, rfl, rfl, rfl, rfl, nofun, [], (List.append_nil _).symm,
      iff_of_true rfl (Or.inl hcode), nofun⟩
  · rw [if_neg hcode]
    -- what is verified, and how
    obtain ⟨hname, hnone⟩ : (if s.pamError = .success then verifyPam a.accounts d s.greet
        else (none, s.greet)).2.name = s.greet.name ∧ (s.greet.name = none →
          (if s.pamError = .success then verifyPam a.accounts d s.greet
            else (none, s.greet)).1 = none) := by
      split_ifs
      · exact verifyPam_name a.accounts d s.greet
      · exact ⟨rfl, fun _ => rfl⟩
    generalize (if s.pamError = .success then verifyPam a.accounts d s.greet
      else (none, s.greet)) = verified at hname hnone
    obtain ⟨verify, greet⟩ := verified
    dsimp only at hname hnone ⊢
    cases verify with
    | some verify =>
      refine ⟨hname, rfl, rfl, rfl, rfl, nofun, [⟨true, greet.name, s.pass, s.namedIn, s.user⟩],
        rfl, iff_of_false (by simp) ?_, ?_⟩
      · rintro (h | h)
        · exact hcode h
        · exact nomatch hnone h
      · simp [hname]
    | none =>
      dsimp only
      rw [hname]
      cases huser : s.greet.name with
      | none =>
        refine ⟨hname, rfl, rfl, rfl, rfl, fun _ => not_not.1 hcode, [],
          (List.append_nil _).symm, iff_of_true rfl (Or.inr huser), nofun⟩
      | some name =>
        refine ⟨hname, rfl, rfl, rfl, rfl, fun _ => not_not.1 hcode,
          [⟨false, some name, s.pass, s.namedIn, s.user⟩], rfl, iff_of_false (by simp) ?_, ?_⟩
        · rintro (h | h)
          · exact hcode h
          · cases huser.symm.trans h
        · simp [huser]

namespace Done

lemma nameFresh (h : Done a s s') : s'.NameFresh ↔ s.NameFresh := by
  unfold State.NameFresh
  rw [h.name, h.namedIn, h.pass, h.user]

lemma allFresh (h : Done a s s') :
    s'.AllFresh ↔ s.AllFresh ∧ (a.code ≠ 0 ∨ s.NameFresh) := by
  obtain ⟨l, huses, hl, hmem⟩ := h.uses
  have hfresh : (∀ u ∈ l, u.Fresh) ↔ a.code ≠ 0 ∨ s.NameFresh := by
    have huse : ∀ u ∈ l, (u.Fresh ↔ s.NameFresh) := by
      intro u hu
      obtain ⟨hname, hnamed, hpass, hitem⟩ := hmem u hu
      unfold Use.Fresh State.NameFresh
      rw [hname, hnamed, hpass, hitem]
    cases l with
    | nil =>
      refine iff_of_true nofun ((hl.1 rfl).imp_right fun h => Or.inl h)
    | cons u l =>
      constructor
      · intro hall
        exact Or.inr ((huse u (List.mem_cons_self ..)).1 (hall u (List.mem_cons_self ..)))
      · rintro (hcode | hname)
        · exact nomatch hl.2 (Or.inl hcode)
        · exact fun u hu => (huse u hu).2 hname
  unfold State.AllFresh
  rw [huses, ← hfresh]
  simp only [List.mem_append, or_imp, forall_and]

lemma tracked (h : Done a s s') (hbound : s.greet.name ≠ none → s.namedIn ≤ s.pass) :
    s'.Tracked := by
  refine ⟨?_, fun hearly => ?_, fun hlate hall => ?_⟩
  · rw [h.name, h.namedIn, h.pass]
    exact hbound
  · rw [h.early] at hearly
    cases hearly
  · exact h.nameFresh.2 ((h.allFresh.1 hall).2.resolve_left fun hcode => hcode (h.late hlate))

end Done

/-! ### One call -/

/-- What one call and the code after it do. -/
def Next (a : Answer) (s s' : State) : Prop :=
  s'.Tracked ∧ (s'.AllFresh ↔ s.AllFresh ∧ NoLeftover ⟨s, a, s'⟩)

lemma not_isLate {point : Point} (h : point.isEarly = true) : point.isLate = false := by
  cases point with
  | getFailed => cases h
  | finish => cases h
  | _ => rfl

/-- A step before `pam_done` that does not give up leaves nothing over. -/
lemma noLeftover_of_not (hgives : s.givesUp a = false) : NoLeftover ⟨s, a, s'⟩ := by
  intro h
  exact nomatch hgives.symm.trans h

/-- The pass goes on to another early point. -/
lemma next_goto (hs : s.Tracked) (hearly : s.point.isEarly = true)
    (hgives : s.givesUp a = false) (c : Call) {point : Point} (hpoint : point.isEarly = true) :
    Next a s ((s.answered c a).goto point) := by
  refine ⟨⟨hs.bound, fun _ => hs.early hearly, fun hlate => ?_⟩,
    (and_iff_left (noLeftover_of_not hgives)).symm⟩
  exact nomatch hlate.symm.trans (not_isLate hpoint)

/-- The pass gives up. -/
lemma next_failed (d : Dpy) (hs : s.Tracked) (hearly : s.point.isEarly = true)
    (hgives : s.givesUp a = true) (c : Call) : Next a s ((s.answered c a).pamDone d a) := by
  have hdone := done_pamDone d a (s.answered c a)
  -- a name can only be left over
  have hfresh : (s.answered c a).NameFresh ↔ s.greet.name = none := by
    refine or_iff_left_of_imp fun hsame => ?_
    by_contra hname
    exact Nat.ne_of_lt (hs.early hearly hname) hsame.1
  refine ⟨hdone.tracked hs.bound, hdone.allFresh.trans (and_congr_right fun _ => ?_)⟩
  rw [hfresh]
  constructor
  · exact fun h _ hcode => h.resolve_left fun hne => hne hcode
  · intro h
    by_cases hcode : a.code = 0
    · exact Or.inr (h hgives hcode)
    · exact Or.inl hcode

/-- A call that is checked, before `pam_done`. -/
lemma next_check (d : Dpy) (hs : s.Tracked) (hearly : s.point.isEarly = true)
    (hgives : s.givesUp a = true ↔ a.result ≠ .success) (c : Call) {point : Point}
    (hpoint : point.isEarly = true) :
    Next a s ((s.answered c a).runAndCheck d a fun s => s.goto point) := by
  unfold State.runAndCheck
  split_ifs with hresult
  · exact next_failed d hs hearly (hgives.2 hresult) c
  · refine next_goto hs hearly ?_ c hpoint
    rw [Bool.eq_false_iff]
    exact fun h => hresult (hgives.1 h)

lemma givesUp_of_late (hlate : s.point.isLate = true) (a : Answer) : s.givesUp a = false := by
  cases hpoint : s.point with
  | getFailed => simp only [State.givesUp, hpoint]
  | finish => simp only [State.givesUp, hpoint]
  | _ =>
    rw [hpoint] at hlate
    cases hlate

/-- A call after `pam_done` fails. -/
lemma next_again (d : Dpy) (hs : s.Tracked) (hlate : s.point.isLate = true) {c : Call}
    (hc : c.runsModules = false) : Next a s ((s.answered c a).pamDone d a) := by
  have hdone := done_pamDone d a (s.answered c a)
  have huser : (s.answered c a).user = s.user := by
    simp only [State.answered, hc, Bool.false_eq_true, if_false]
  refine ⟨hdone.tracked hs.bound, hdone.allFresh.trans (and_congr_right fun hall => ?_)⟩
  refine iff_of_true (Or.inr ?_) (noLeftover_of_not (givesUp_of_late hlate a))
  unfold State.NameFresh
  rw [huser]
  exact hs.late hlate hall

/-- One call keeps track of the name, and a name that is not fresh is used exactly if the pass
gives up while there is one left over. -/
theorem next_step (hs : s.Tracked) (hstep : step d a s = some ((), s')) : Next a s s' := by
  unfold step at hstep
  obtain ⟨c, hc, heq⟩ := Option.map_eq_some_iff.1 hstep
  obtain rfl := (Prod.mk.inj heq).2
  have hhost : (hostPoint d a).isEarly = true := by
    unfold hostPoint
    split_ifs <;> rfl
  cases hpoint : s.point with
  | start =>
    refine next_check d hs (by rw [hpoint]; rfl) (by simp [State.givesUp, hpoint]) c ?_
    cases a.loginPrompt with
    | some loginPrompt => rfl
    | none => exact hhost
  | setPrompt loginPrompt =>
    exact next_check d hs (by rw [hpoint]; rfl) (by simp [State.givesUp, hpoint]) c hhost
  | setHost => exact next_check d hs (by rw [hpoint]; rfl) (by simp [State.givesUp, hpoint]) c rfl
  | authenticate =>
    exact next_check d hs (by rw [hpoint]; rfl) (by simp [State.givesUp, hpoint]) c rfl
  | acctMgmt =>
    simp only [Point.resume]
    split_ifs with hresult
    · have hresult : a.result = .newAuthtokReqd := hresult
      exact next_goto hs (by rw [hpoint]; rfl) (by simp [State.givesUp, hpoint, hresult]) c rfl
    · have hresult : a.result ≠ .newAuthtokReqd := hresult
      exact next_check d hs (by rw [hpoint]; rfl) (by simp [State.givesUp, hpoint, hresult]) c rfl
  | chauthtok =>
    simp only [Point.resume]
    split_ifs with hresult
    · have hresult : a.result = .authtokErr ∨ a.result = .tryAgain := hresult
      refine next_goto hs (by rw [hpoint]; rfl) ?_ c rfl
      rcases hresult with hresult | hresult <;> simp [State.givesUp, hpoint, hresult]
    · have hresult : ¬ (a.result = .authtokErr ∨ a.result = .tryAgain) := hresult
      rw [not_or] at hresult
      refine next_check d hs (by rw [hpoint]; rfl) ?_ c rfl
      simp [State.givesUp, hpoint, hresult.1, hresult.2]
  | setcred => exact next_check d hs (by rw [hpoint]; rfl) (by simp [State.givesUp, hpoint]) c rfl
  | getUser =>
    rw [hpoint] at hc
    obtain rfl := Option.some.inj hc
    have hearly : s.point.isEarly = true := by rw [hpoint]; rfl
    simp only [Point.resume, State.runAndCheck]
    split_ifs with hresult
    · have hresult : a.result ≠ .success := hresult
      exact next_failed d hs hearly (by simp [State.givesUp, hpoint, hresult]) _
    · have hresult : a.result = .success := not_not.1 hresult
      cases huser : s.user with
      | none =>
        have hsame : (s.answered .pamGetUser a).takeName = s.answered .pamGetUser a := by
          simp [State.takeName, State.answered, Call.runsModules, huser]
        rw [hsame]
        exact next_failed d hs hearly (by simp [State.givesUp, hpoint, huser]) _
      | some name =>
        -- the name is from this pass now
        have hdone := done_pamDone d a (s.answered .pamGetUser a).takeName
        have htaken : (s.answered .pamGetUser a).takeName.greet.name = some name ∧
            (s.answered .pamGetUser a).takeName.namedIn =
              (s.answered .pamGetUser a).takeName.pass ∧
            (s.answered .pamGetUser a).takeName.user = some name ∧
            (s.answered .pamGetUser a).takeName.uses = s.uses := by
          simp [State.takeName, State.answered, Call.runsModules, huser]
        obtain ⟨hname, hnamed, hitem, huses⟩ := htaken
        have hsame : (s.answered .pamGetUser a).takeName.AllFresh ↔ s.AllFresh := by
          unfold State.AllFresh
          rw [huses]
        refine ⟨hdone.tracked fun _ => Nat.le_of_eq hnamed, hdone.allFresh.trans ?_⟩
        refine and_congr hsame (iff_of_true (Or.inr (Or.inr ⟨hnamed, hname.trans hitem.symm⟩)) ?_)
        exact noLeftover_of_not (by simp [State.givesUp, hpoint, hresult, huser])
  | getFailed =>
    rw [hpoint] at hc
    obtain rfl := Option.some.inj hc
    have hlate : s.point.isLate = true := by rw [hpoint]; rfl
    simp only [Point.resume, State.runAndCheck]
    split_ifs with hresult
    · exact next_again d hs hlate rfl
    · -- the name comes from the handle
      have hall : ((s.answered .pamGetUser a).use false s.user s.pass).AllFresh ↔ s.AllFresh := by
        unfold State.AllFresh State.use
        simp only [List.forall_mem_append, List.forall_mem_singleton]
        exact and_iff_left (Or.inr ⟨rfl, rfl⟩)
      refine ⟨⟨hs.bound, nofun, fun _ h => hs.late hlate (hall.1 h)⟩, hall.trans ?_⟩
      exact (and_iff_left (noLeftover_of_not (givesUp_of_late hlate a))).symm
  | finish =>
    rw [hpoint] at hc
    obtain rfl := Option.some.inj hc
    have hlate : s.point.isLate = true := by rw [hpoint]; rfl
    simp only [Point.resume, State.runAndCheck]
    split_ifs with hresult
    · exact next_again d hs hlate rfl
    · refine ⟨⟨fun hname => Nat.le_succ_of_le (hs.bound hname),
        fun _ hname => Nat.lt_succ_of_le (hs.bound hname), nofun⟩, ?_⟩
      exact (and_iff_left (noLeftover_of_not (givesUp_of_late hlate a))).symm
  | sessionExit code =>
    rw [hpoint] at hc
    cases hc
  | loggedIn verify =>
    rw [hpoint] at hc
    cases hc

lemma tracked_initial (allowNullPasswd allowRootLogin : Bool) :
    (State.initial allowNullPasswd allowRootLogin).Tracked := by
  have hname : (State.initial allowNullPasswd allowRootLogin).greet.name = none := rfl
  exact ⟨fun h => absurd hname h, fun _ h => absurd hname h, fun _ _ => Or.inl hname⟩

/-- For every run of the loop, that is any number of passes with any answers of PAM and any
databases: each name that `Verify` has accepted or `FailedLogin` has logged is the item `PAM_USER`
of the handle of its pass, if and only if no pass has come to `pam_done` without a name after an
earlier one that has come there with one, unless the greeter was about to exit. -/
theorem names_fresh_iff {allowNullPasswd allowRootLogin : Bool}
    (run : Prog.Run (step d) (State.initial allowNullPasswd allowRootLogin) h s) :
    s.AllFresh ↔ ∀ x ∈ h, NoLeftover x := by
  have hboth : s.Tracked ∧ (s.AllFresh ↔ ∀ x ∈ h, NoLeftover x) := by
    induction run with
    | nil =>
      refine ⟨tracked_initial allowNullPasswd allowRootLogin, iff_of_true ?_ (by simp)⟩
      exact List.forall_mem_nil Use.Fresh
    | snoc _ hstep ih =>
      obtain ⟨hs, hiff⟩ := ih
      obtain ⟨hs', hnext⟩ := next_step hs hstep
      refine ⟨hs', hnext.trans ?_⟩
      rw [hiff, List.forall_mem_append, List.forall_mem_singleton]
  exact hboth.2

/-- Every call succeeds, and the user is this one. -/
def Answer.named (name : Str) (accounts : Accounts) : Answer :=
  ⟨.success, some name, 0, none, none, true, accounts⟩

/-- This call fails. -/
def Answer.failed (name : Str) : Answer :=
  ⟨.other 7, some name, 0, none, none, true, oneUser [] none⟩

/-- A pass in which PAM authenticates the user. -/
def namedPass (name : Str) : List Answer := List.replicate 6 (.named name (oneUser [] none))

/-- Somebody who is not known, and then the user. -/
theorem names_of_two_users : ∃ h s, Prog.Run (step consoleDpy) (State.initial false false) h s ∧
    s.uses.map Use.name = [some ['v'], some ['u']] ∧ s.AllFresh := by
  obtain ⟨h, s, run, huses, hall⟩ : ∃ h s,
      Prog.Run (step consoleDpy) (State.initial false false) h s ∧
        s.uses.map Use.name = [some ['v'], some ['u']] ∧ ∀ x ∈ h, NoLeftover x :=
    Prog.exists_run_of_exec
      (namedPass ['v'] ++ [.named ['v'] (oneUser [] none)] ++ namedPass ['u']) (by decide +kernel)
  exact ⟨h, s, run, huses, (names_fresh_iff run).2 hall⟩

/-- Somebody who is not known, and then another one whose password is wrong: the first name is
logged again. -/
theorem stale_name_logged : ∃ h s, Prog.Run (step consoleDpy) (State.initial false false) h s ∧
    s.uses = [⟨false, some ['v'], 0, 0, some ['v']⟩, ⟨false, some ['v'], 1, 0, some ['u']⟩] ∧
      ¬ s.AllFresh :=
  Prog.exists_run_of_exec (namedPass ['v'] ++ [.named ['v'] (oneUser [] none)] ++
    [.named ['u'] (oneUser [] none), .named ['u'] (oneUser [] none), .failed ['u']])
      (by decide +kernel)

end Xdm.Greeter
