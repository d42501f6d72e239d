/-
# Links that fail

When `link` fails at the login, the only copy of the entries is the new file, and `XAUTHORITY`
names it; the logout begins by unlinking the new file.  When `link` fails at the logout, nothing
names the new file.  Here are the answers of the kernel, at the login and at the logout, that
cost the user the other entries of `.Xauthority`.
-/
import Xdm.UserAuth.Authority

namespace Xdm.UserAuth

variable {w : World} {d : Dpy} {auths auths' old kept x : List Xauth} {verify : VerifyInfo}
variable {home : Str} {fs fs₁ : Dir} {ask : SetAnswers} {out : Files.Answers} {e : Xauth}

/-! ### What is kept -/

/-- The entry is in `.Xauthority`, or in the file that `XAUTHORITY` names. -/
def Survives (fs : Dir) (verify : VerifyInfo) (home : Str) (e : Xauth) : Prop :=
  ∃ name contents, (name = homeName home ∨
    getEnv verify.userEnviron "XAUTHORITY".toList = some name) ∧
      fs name = some contents ∧ e ∈ contents

/-- The new file for this name can be made. -/
def MakesNew (answers : Files.Answers) (fs : Dir) (name : Str) : Prop :=
  fs (newName name) = none ∨ answers.unlinkTemp = true

/-- `SetUserAuthorization` can work on `.Xauthority`. -/
def WorksHome (ask : SetAnswers) (home : Str) (fs : Dir) : Prop :=
  ask.lockHome = true ∧ MakesNew ask.home fs (homeName home)

/-- `SetUserAuthorization` can work on a backup file. -/
def WorksBackup (ask : SetAnswers) (d : Dpy) (fs : Dir) : Prop :=
  ask.lockBackup = true ∧ ∃ suffix, ask.mkstemp = some suffix ∧
    fs (backupName d.userAuthDir suffix) = none ∧
      MakesNew ask.backup fs (backupName d.userAuthDir suffix)

/-- Before the login `XAUTHORITY` names the new file, or another one with these entries. -/
def NamedElsewhere (verify : VerifyInfo) (home : Str) (fs : Dir) (kept : List Xauth) : Prop :=
  ∃ name, getEnv verify.userEnviron "XAUTHORITY".toList = some name ∧
    (name = newName (homeName home) ∨
      name ≠ homeName home ∧ ∃ contents, fs name = some contents ∧ ∀ e ∈ kept, e ∈ contents)

/-- With these answers at the login and (`out`) at the logout a copy of the entries is kept. -/
structure KeepsCopy (ask : SetAnswers) (out : Files.Answers) (d : Dpy) (verify : VerifyInfo)
    (home : Str) (fs : Dir) (kept : List Xauth) : Prop where
  /-- The login has left the entries in the new file only: the logout cannot unlink it. -/
  stranded : WorksHome ask home fs → ask.home.strands = true → out.unlinkTemp = false
  /-- The login has replaced `.Xauthority`, and the logout leaves the entries in the new file
  only. -/
  replaced : WorksHome ask home fs → ask.home.unlinkOld = true → ask.home.link = true →
    ask.home.unlinkNew = true ∨ out.unlinkTemp = true → out.strands = true →
      NamedElsewhere verify home fs kept
  /-- The login has not worked on `.Xauthority`, and the logout does and leaves the entries in
  the new file only. -/
  aside : ¬ WorksHome ask home fs → MakesNew out fs (homeName home) → out.strands = true →
    ¬ WorksBackup ask d fs ∧ NamedElsewhere verify home fs kept

/-! ### The logout -/

lemma foreign_subset : e ∈ d.foreign w auths old → e ∈ old ∧ ¬ d.Owns w auths e := by
  intro he
  simpa using List.mem_filter.1 he

/-- What the logout makes of an `.Xauthority` with the other entries in it. -/
structure LoggedOut (out : Files.Answers) (home : Str) (fs₁ fs' : Dir) (kept : List Xauth) :
    Prop where
  other : ∀ name, name ≠ homeName home → name ≠ newName (homeName home) → fs' name = fs₁ name
  stranded : MakesNew out fs₁ (homeName home) → out.strands = true →
    fs' (homeName home) = none ∧ fs' (newName (homeName home)) = some kept
  kept : ¬ (MakesNew out fs₁ (homeName home) ∧ out.strands = true) →
    ∃ contents, fs' (homeName home) = some contents ∧ ∀ e ∈ kept, e ∈ contents

lemma strands_iff : out.strands = true ↔ out.unlinkOld = true ∧ out.link = false := by
  simp [Files.Answers.strands]

lemma loggedOut (hhome : getEnv verify.userEnviron "HOME".toList = some home)
    (hused : AllUsed d.name auths auths') (hx : fs₁ (homeName home) = some x)
    (hkept : d.foreign w auths x = kept) : LoggedOut out home fs₁
      (removeUserAuthorization w true out { d with authorizations := some auths' } verify fs₁)
      kept := by
  have hne : homeName home ≠ newName (homeName home) := (newName_ne _).symm
  have hsub : ∀ e ∈ kept, e ∈ x := fun e he => (foreign_subset (hkept ▸ he)).1
  by_cases hnew : MakesNew out fs₁ (homeName home)
  · have hremoved := (removeEntries_new (w := w) (d := { d with authorizations := some auths' })
      hused x).trans hkept
    rw [removeUserAuthorization_made (d := { d with authorizations := some auths' }) rfl hhome hnew,
      hx, Option.getD_some, hremoved]
    have hx' : fs₁.put (newName (homeName home)) [] (homeName home) = some x := by
      rw [Files.put_of_ne hne, hx]
    refine ⟨fun name hname hname' => ?_, fun _ hstrands => ?_, fun hno => ?_⟩
    · rw [Files.replace_other hne hname hname', Files.put_of_ne hname']
    · obtain ⟨hunlink, hlink⟩ := strands_iff.1 hstrands
      exact (Files.replace_stranded _ _ hne hlink (Or.inr hunlink)).2
    · cases hunlink : out.unlinkOld with
      | false =>
        have hthere : fs₁.put (newName (homeName home)) [] (homeName home) ≠ none := by
          rw [hx']
          simp
        obtain ⟨-, hname, -⟩ := Files.replace_stuck kept hne hthere hunlink
        exact ⟨x, hname.trans hx', hsub⟩
      | true =>
        have hlink : out.link = true := by
          by_contra hlink
          exact hno ⟨hnew, strands_iff.2 ⟨hunlink, by simpa using hlink⟩⟩
        exact ⟨kept, (Files.replace_linked _ _ hne hlink (Or.inr hunlink)).2.1, fun _ he => he⟩
  · have hsame : removeUserAuthorization w true out { d with authorizations := some auths' }
        verify fs₁ = fs₁ := by
      unfold MakesNew at hnew
      rw [not_or, Bool.not_eq_true] at hnew
      simp only [removeUserAuthorization, hhome, if_true, hnew.2, openFiles_stuck hnew.1]
    rw [hsame]
    exact ⟨fun _ _ _ => rfl, fun h => absurd h hnew, fun _ => ⟨x, hx, hsub⟩⟩

/-! ### After the logout -/

/-- The entries that are kept in `.Xauthority` survive. -/
lemma survives_home {fs' : Dir} (h : ∃ contents, fs' (homeName home) = some contents ∧
    ∀ e ∈ kept, e ∈ contents) : ∀ e ∈ kept, Survives fs' verify home e := by
  obtain ⟨contents, hcontents, hall⟩ := h
  exact fun e he => ⟨homeName home, contents, Or.inl rfl, hcontents, hall e he⟩

/-- Nobody has touched `XAUTHORITY`: if the logout strands the entries, they survive if they are
where that pointed before. -/
lemma survives_iff_elsewhere {fs' : Dir} (hlogout : LoggedOut out home fs₁ fs' kept)
    (hfiles : ∀ name, name ≠ homeName home → name ≠ newName (homeName home) →
      fs₁ name = fs name ∨ fs₁ name = some [] ∧ fs name = none) :
    (∀ e ∈ kept, Survives fs' verify home e) ↔ kept = [] ∨
      (MakesNew out fs₁ (homeName home) → out.strands = true →
        NamedElsewhere verify home fs kept) := by
  by_cases hstrand : MakesNew out fs₁ (homeName home) ∧ out.strands = true
  · obtain ⟨hhome, htemp⟩ := hlogout.stranded hstrand.1 hstrand.2
    constructor
    · intro hall
      rcases kept with _ | ⟨e₀, kept⟩
      · exact Or.inl rfl
      · refine Or.inr fun _ _ => ?_
        -- an entry that survives does so where `XAUTHORITY` points
        have hwhere : ∀ e ∈ e₀ :: kept, ∃ name contents,
            getEnv verify.userEnviron "XAUTHORITY".toList = some name ∧
              fs' name = some contents ∧ e ∈ contents := by
          intro e he
          obtain ⟨name, contents, rfl | hname, hcontents, hmem⟩ := hall e he
          · rw [hhome] at hcontents
            cases hcontents
          · exact ⟨name, contents, hname, hcontents, hmem⟩
        obtain ⟨name, contents, hname, hcontents, hmem⟩ := hwhere e₀ (List.mem_cons_self ..)
        refine ⟨name, hname, ?_⟩
        by_cases hnew : name = newName (homeName home)
        · exact Or.inl hnew
        · have hne : name ≠ homeName home := by
            rintro rfl
            rw [hhome] at hcontents
            cases hcontents
          refine Or.inr ⟨hne, contents, ?_, fun e he => ?_⟩
          · rw [hlogout.other name hne hnew] at hcontents
            rcases hfiles name hne hnew with h | ⟨h, -⟩
            · exact h ▸ hcontents
            · rw [h] at hcontents
              obtain rfl := Option.some.inj hcontents
              cases hmem
          · obtain ⟨name', contents', hname', hcontents', hmem'⟩ := hwhere e he
            obtain rfl := Option.some.inj (hname.symm.trans hname')
            obtain rfl := Option.some.inj (hcontents.symm.trans hcontents')
            exact hmem'
    · rintro (rfl | h)
      · exact fun e he => nomatch he
      · obtain ⟨name, hname, rfl | ⟨hne, contents, hcontents, hall⟩⟩ := h hstrand.1 hstrand.2
        · exact fun e he => ⟨_, kept, Or.inr hname, htemp, he⟩
        · by_cases hnew : name = newName (homeName home)
          · exact fun e he => ⟨name, kept, Or.inr hname, hnew ▸ htemp, he⟩
          · have hfile : fs' name = some contents := by
              rw [hlogout.other name hne hnew]
              rcases hfiles name hne hnew with h | ⟨-, h⟩
              · exact h.trans hcontents
              · exact nomatch h.symm.trans hcontents
            exact fun e he => ⟨name, contents, Or.inr hname, hfile, hall e he⟩
  · refine iff_of_true (survives_home (hlogout.kept hstrand)) (Or.inr fun h h' => ?_)
    exact absurd ⟨h, h'⟩ hstrand

/-! ### The login -/

/-- A backup file that can be used. -/
lemma openBackup_made {suffix : { suffix : Str // suffix.length = 6 }}
    (hlock : ask.lockBackup = true) (hmkstemp : ask.mkstemp = some suffix)
    (hfree : fs (backupName d.userAuthDir suffix) = none)
    (hnew : MakesNew ask.backup fs (backupName d.userAuthDir suffix)) :
    openBackup ask d fs =
      (some ⟨backupName d.userAuthDir suffix, [], true, ask.backup⟩,
        (fs.put (backupName d.userAuthDir suffix) []).put
          (newName (backupName d.userAuthDir suffix)) []) := by
  have hnew' : MakesNew ask.backup (fs.put (backupName d.userAuthDir suffix) [])
      (backupName d.userAuthDir suffix) :=
    hnew.imp_left fun h => (Files.put_of_ne (newName_ne _)).trans h
  simp only [openBackup, hmkstemp, hfree, hlock, Option.isSome_none, Bool.false_eq_true, if_false,
    if_true, openFiles_made hnew', Option.some_or, Option.join_some, Option.map_some]

/-- Otherwise at most an empty file of such a name is left. -/
lemma openBackup_none (hno : ¬ WorksBackup ask d fs) :
    ∃ fs', openBackup ask d fs = (none, fs') ∧
      ∀ name, fs' name = fs name ∨ fs' name = some [] ∧ fs name = none ∧
        ∃ suffix : { suffix : Str // suffix.length = 6 },
          name = backupName d.userAuthDir suffix := by
  cases hmkstemp : ask.mkstemp with
  | none => exact ⟨fs, by simp only [openBackup, hmkstemp], fun _ => Or.inl rfl⟩
  | some suffix =>
    cases hfree : fs (backupName d.userAuthDir suffix) with
    | some contents =>
      refine ⟨fs, ?_, fun _ => Or.inl rfl⟩
      simp only [openBackup, hmkstemp, hfree, Option.isSome_some, if_true]
    | none =>
      refine ⟨fs.put (backupName d.userAuthDir suffix) [], ?_, fun name => ?_⟩
      · cases hlock : ask.lockBackup with
        | false =>
          simp only [openBackup, hmkstemp, hfree, hlock, Option.isSome_none, Bool.false_eq_true,
            if_false]
        | true =>
          obtain ⟨hthere, hunlink⟩ :=
            not_or.1 fun hnew => hno ⟨hlock, suffix, hmkstemp, hfree, hnew⟩
          have hthere' : fs.put (backupName d.userAuthDir suffix) []
              (newName (backupName d.userAuthDir suffix)) ≠ none := by
            rwa [Files.put_of_ne (newName_ne _)]
          simp only [openBackup, hmkstemp, hfree, hlock, Option.isSome_none, Bool.false_eq_true,
            if_false, if_true, Bool.eq_false_iff.2 hunlink, openFiles_stuck hthere',
            Option.join_none, Option.map_none]
      · by_cases hname : name = backupName d.userAuthDir suffix
        · subst hname
          exact Or.inr ⟨Files.put_same .., hfree, suffix, rfl⟩
        · exact Or.inl (Files.put_of_ne hname)

/-- `.Xauthority` is not opened. -/
lemma openHome_none (hhome : getEnv verify.userEnviron "HOME".toList = some home)
    (hno : ¬ WorksHome ask home fs) : openHome ask verify fs = (none, fs) := by
  cases hlock : ask.lockHome with
  | false => simp only [openHome, hhome, hlock, Bool.false_eq_true, if_false]
  | true =>
    obtain ⟨hthere, hunlink⟩ := not_or.1 fun hnew => hno ⟨hlock, hnew⟩
    simp only [openHome, hhome, hlock, if_true, Bool.eq_false_iff.2 hunlink,
      openFiles_stuck hthere, Option.join_none, Option.map_none]

/-- A login with a backup file: `XAUTHORITY` names the one or the other of its names, with the
entries of the display. -/
lemma setOpened_backup (w : World) (d : Dpy) (verify : VerifyInfo) (auths : List Xauth)
    (name : Str) (answers : Files.Answers) (fs : Dir) :
    ∃ target, (target = name ∨ target = newName name) ∧
      (setOpened w d verify auths ⟨name, [], true, answers⟩ fs).verify =
        verify.setXauthority target ∧
      (setOpened w d verify auths ⟨name, [], true, answers⟩ fs).files target =
        some (d.allEntries w auths) ∧
      ∀ other, other ≠ name → other ≠ newName name →
        (setOpened w d verify auths ⟨name, [], true, answers⟩ fs).files other = fs other := by
  have hne : name ≠ newName name := (newName_ne name).symm
  have hentries : (setEntries w d auths []).1.new = d.allEntries w auths := by
    rw [(setEntries_spec w d auths []).1]
    exact List.append_nil _
  have hholds := Files.replace_holds fs answers (d.allEntries w auths) hne
  simp only [setOpened, hentries]
  cases hlinked : (fs.replace answers name (newName name) (d.allEntries w auths)).2 with
  | true =>
    rw [hlinked, if_pos rfl] at hholds
    exact ⟨name, Or.inl rfl, rfl, hholds, fun other h h' => Files.replace_other hne h h'⟩
  | false =>
    rw [hlinked, if_neg (by simp)] at hholds
    exact ⟨newName name, Or.inr rfl, rfl, hholds, fun other h h' => Files.replace_other hne h h'⟩

@[simp] lemma getEnv_setXauthority (verify : VerifyInfo) (name : Str) :
    getEnv (verify.setXauthority name).userEnviron "XAUTHORITY".toList = some name :=
  getEnv_setEnv ..

section Login

variable (hd : d.authorizations = some auths)
  (hhome : getEnv verify.userEnviron "HOME".toList = some home)
  (hold : fs (homeName home) = some old)

/-- What the login writes if it works on `.Xauthority`. -/
abbrev loginEntries (w : World) (d : Dpy) (auths old : List Xauth) : List Xauth :=
  d.allEntries w auths ++ d.foreign w auths old

include hd hhome hold

/-- The login works on `.Xauthority`. -/
lemma login_home (hworks : WorksHome ask home fs) :
    (setUserAuthorization w ask d verify fs).files =
      ((fs.put (newName (homeName home)) []).replace ask.home (homeName home)
        (newName (homeName home)) (loginEntries w d auths old)).1 ∧
    (setUserAuthorization w ask d verify fs).verify =
      (if ((fs.put (newName (homeName home)) []).replace ask.home (homeName home)
        (newName (homeName home)) (loginEntries w d auths old)).2 = true then verify
      else verify.setXauthority (newName (homeName home))) := by
  rw [setUserAuthorization_home hd hhome hworks.1 hold hworks.2]
  simp only [setOpened, (setEntries_spec w d auths old).1]
  refine ⟨trivial, ?_⟩
  cases ((fs.put (newName (homeName home)) []).replace ask.home (homeName home)
    (newName (homeName home)) (d.allEntries w auths ++ d.foreign w auths old)).2 <;> rfl

/-- The login works on a backup file, or on none.  A backup file has entries of the display
only. -/
lemma login_aside (hno : ¬ WorksHome ask home fs) :
    (setUserAuthorization w ask d verify fs).files (homeName home) = some old ∧
    (setUserAuthorization w ask d verify fs).files (newName (homeName home)) =
      fs (newName (homeName home)) ∧
    (WorksBackup ask d fs ∧ (∃ name contents, name ≠ homeName home ∧
        name ≠ newName (homeName home) ∧
        (setUserAuthorization w ask d verify fs).verify = verify.setXauthority name ∧
        (setUserAuthorization w ask d verify fs).files name = some contents ∧
        ∀ e ∈ contents, d.Owns w auths e) ∨
      ¬ WorksBackup ask d fs ∧ (setUserAuthorization w ask d verify fs).verify = verify ∧
        ∀ name, (setUserAuthorization w ask d verify fs).files name = fs name ∨
          (setUserAuthorization w ask d verify fs).files name = some [] ∧ fs name = none) := by
  have hopen := openHome_none hhome hno
  by_cases hbackup : WorksBackup ask d fs
  · obtain ⟨hlock, suffix, hmkstemp, hfree, hmakes⟩ := hbackup
    obtain ⟨hhomeName, hnewName, hnewBackup⟩ := backupName_ne d.userAuthDir suffix home
    have hnewnew : newName (backupName d.userAuthDir suffix) ≠ newName (homeName home) :=
      fun h => hhomeName (newName_injective h)
    have hset : setUserAuthorization w ask d verify fs =
        setOpened w d verify auths ⟨backupName d.userAuthDir suffix, [], true, ask.backup⟩
          ((fs.put (backupName d.userAuthDir suffix) []).put
            (newName (backupName d.userAuthDir suffix)) []) := by
      simp only [setUserAuthorization, hd, hopen, openBackup_made hlock hmkstemp hfree hmakes]
    obtain ⟨target, htarget, hverify, hfile, hother⟩ := setOpened_backup w d verify auths
      (backupName d.userAuthDir suffix) ask.backup
        ((fs.put (backupName d.userAuthDir suffix) []).put
          (newName (backupName d.userAuthDir suffix)) [])
    rw [hset, hother _ hhomeName.symm hnewBackup.symm, hother _ hnewName.symm hnewnew.symm,
      Files.put_of_ne hnewBackup.symm, Files.put_of_ne hhomeName.symm,
      Files.put_of_ne hnewnew.symm, Files.put_of_ne hnewName.symm]
    refine ⟨hold, rfl, Or.inl ⟨⟨hlock, suffix, hmkstemp, hfree, hmakes⟩, target, _, ?_, ?_,
      hverify, hfile, fun e he => ⟨e, he, rfl⟩⟩⟩
    · rcases htarget with rfl | rfl
      · exact hhomeName
      · exact hnewBackup
    · rcases htarget with rfl | rfl
      · exact hnewName
      · exact hnewnew
  · obtain ⟨fs', hopened, hfiles⟩ := openBackup_none hbackup
    have hset : setUserAuthorization w ask d verify fs = ⟨fs', verify, some auths⟩ := by
      simp only [setUserAuthorization, hd, hopen, hopened]
    have hsame : ∀ name, (∀ suffix : { suffix : Str // suffix.length = 6 },
        name ≠ backupName d.userAuthDir suffix) → fs' name = fs name := by
      intro name hname
      refine (hfiles name).resolve_right fun h => ?_
      obtain ⟨-, -, suffix, h⟩ := h
      exact hname suffix h
    rw [hset]
    refine ⟨?_, ?_, Or.inr ⟨hbackup, rfl, fun name => ?_⟩⟩
    · exact (hsame _ fun suffix => (backupName_ne _ suffix home).1.symm).trans hold
    · exact hsame _ fun suffix => (backupName_ne _ suffix home).2.1.symm
    · exact (hfiles name).imp_right fun h => ⟨h.1, h.2.1⟩

/-- After the login nothing is lost. -/
lemma survives_login : ∀ e ∈ d.foreign w auths old, Survives
    (setUserAuthorization w ask d verify fs).files
    (setUserAuthorization w ask d verify fs).verify home e := by
  by_cases hworks : WorksHome ask home fs
  · obtain ⟨hfiles, hverify⟩ := login_home (w := w) hd hhome hold hworks
    have hholds := Files.replace_holds (fs.put (newName (homeName home)) []) ask.home
      (loginEntries w d auths old) (newName_ne (homeName home)).symm
    rw [← hfiles] at hholds
    split_ifs at hholds hverify with hlinked
    · exact fun e he => ⟨_, _, Or.inl rfl, hholds, List.mem_append_right _ he⟩
    · exact fun e he => ⟨_, _, Or.inr (hverify ▸ getEnv_setXauthority ..), hholds,
        List.mem_append_right _ he⟩
  · obtain ⟨hname, -⟩ := login_aside (w := w) hd hhome hold hworks
    exact fun e he => ⟨_, _, Or.inl rfl, hname, (foreign_subset he).1⟩

end Login

/-! ### Login and logout -/

section Session

variable (hd : d.authorizations = some auths)
  (hhome : getEnv verify.userEnviron "HOME".toList = some home)
  (hold : fs (homeName home) = some old)
  (hused : AllUsed d.name auths auths')

/-- The new file is there, and the logout cannot unlink it. -/
lemma logout_stuck (hhome : getEnv verify.userEnviron "HOME".toList = some home)
    (hthere : fs₁ (newName (homeName home)) ≠ none) (hunlink : out.unlinkTemp = false) :
    removeUserAuthorization w true out { d with authorizations := some auths' } verify fs₁ =
      fs₁ := by
  simp only [removeUserAuthorization, hhome, if_true, hunlink, openFiles_stuck hthere]

include hd hhome hold hused

/-- The login has left the entries in the new file only, and the logout reads `.Xauthority`,
which is not there. -/
lemma survives_stranded (hworks : WorksHome ask home fs)
    (hstrands : ask.home.strands = true) :
    (∀ e ∈ d.foreign w auths old, Survives
        (removeUserAuthorization w true out { d with authorizations := some auths' } verify
          (setUserAuthorization w ask d verify fs).files)
        (setUserAuthorization w ask d verify fs).verify home e) ↔
      d.foreign w auths old = [] ∨ out.unlinkTemp = false := by
  obtain ⟨hfiles, hverify⟩ := login_home (w := w) hd hhome hold hworks
  have hne : homeName home ≠ newName (homeName home) := (newName_ne _).symm
  obtain ⟨hunlink, hlink⟩ := strands_iff.1 hstrands
  obtain ⟨hlinked, hname, htemp⟩ := Files.replace_stranded
    (fs.put (newName (homeName home)) []) (loginEntries w d auths old) hne hlink (Or.inr hunlink)
  rw [← hfiles] at hname htemp
  rw [hlinked, if_neg (by simp)] at hverify
  cases hout : out.unlinkTemp with
  | false =>
    rw [logout_stuck hhome (by simp [htemp]) hout]
    refine iff_of_true (fun e he => ?_) (Or.inr rfl)
    exact ⟨_, _, Or.inr (by rw [hverify, getEnv_setXauthority]), htemp,
      List.mem_append_right _ he⟩
  | true =>
    have hremoved := removeEntries_new (w := w) (d := { d with authorizations := some auths' })
      hused []
    rw [removeUserAuthorization_made (d := { d with authorizations := some auths' }) rfl hhome
      (Or.inr hout), hname, Option.getD_none, hremoved]
    have hfree : (setUserAuthorization w ask d verify fs).files.put (newName (homeName home)) []
        (homeName home) = none := by
      rw [Files.put_of_ne hne, hname]
    -- the logout has written a file without entries
    have hlost : ∀ e, ¬ Survives (((setUserAuthorization w ask d verify fs).files.put
        (newName (homeName home)) []).replace out (homeName home) (newName (homeName home)) []).1
          (setUserAuthorization w ask d verify fs).verify home e := by
      rintro e ⟨name, contents, hwhere, hcontents, hmem⟩
      rw [hverify, getEnv_setXauthority] at hwhere
      have hwhere : name = homeName home ∨ name = newName (homeName home) :=
        hwhere.imp_right fun h => (Option.some.inj h).symm
      rcases Files.replace_fresh out [] hne hfree hwhere with h | h
      · cases h.symm.trans hcontents
      · obtain rfl := Option.some.inj (h.symm.trans hcontents)
        cases hmem
    constructor
    · intro hall
      refine Or.inl (List.eq_nil_iff_forall_not_mem.2 fun e he => ?_)
      exact hlost e (hall e he)
    · rintro (h | h)
      · simp [h]
      · cases h

/-- The login could not unlink `.Xauthority`: the entries are in it and in the new file, which
`XAUTHORITY` names. -/
lemma survives_stuck (hworks : WorksHome ask home fs) (hunlink : ask.home.unlinkOld = false) :
    ∀ e ∈ d.foreign w auths old, Survives
      (removeUserAuthorization w true out { d with authorizations := some auths' } verify
        (setUserAuthorization w ask d verify fs).files)
      (setUserAuthorization w ask d verify fs).verify home e := by
  obtain ⟨hfiles, hverify⟩ := login_home (w := w) hd hhome hold hworks
  have hne : homeName home ≠ newName (homeName home) := (newName_ne _).symm
  have hold' : fs.put (newName (homeName home)) [] (homeName home) = some old := by
    rw [Files.put_of_ne hne, hold]
  have hthere : fs.put (newName (homeName home)) [] (homeName home) ≠ none := by
    simp [hold']
  obtain ⟨hlinked, hname, -⟩ := Files.replace_stuck (loginEntries w d auths old) hne hthere hunlink
  rw [← hfiles, hold'] at hname
  rw [hlinked, if_neg (by simp)] at hverify
  have hlogout : LoggedOut out home _ _ _ := loggedOut (w := w) hhome hused hname rfl
  by_cases hstrand : MakesNew out (setUserAuthorization w ask d verify fs).files (homeName home) ∧
      out.strands = true
  · obtain ⟨-, htemp⟩ := hlogout.stranded hstrand.1 hstrand.2
    exact fun e he => ⟨_, _, Or.inr (by rw [hverify, getEnv_setXauthority]), htemp, he⟩
  · exact survives_home (hlogout.kept hstrand)

/-- The login has replaced `.Xauthority`. -/
lemma survives_replaced (hworks : WorksHome ask home fs)
    (hunlink : ask.home.unlinkOld = true) (hlink : ask.home.link = true) :
    (∀ e ∈ d.foreign w auths old, Survives
        (removeUserAuthorization w true out { d with authorizations := some auths' } verify
          (setUserAuthorization w ask d verify fs).files)
        (setUserAuthorization w ask d verify fs).verify home e) ↔
      d.foreign w auths old = [] ∨
        (ask.home.unlinkNew = true ∨ out.unlinkTemp = true → out.strands = true →
          NamedElsewhere verify home fs (d.foreign w auths old)) := by
  obtain ⟨hfiles, hverify⟩ := login_home (w := w) hd hhome hold hworks
  have hne : homeName home ≠ newName (homeName home) := (newName_ne _).symm
  obtain ⟨hlinked, hname, htemp⟩ := Files.replace_linked
    (fs.put (newName (homeName home)) []) (loginEntries w d auths old) hne hlink (Or.inr hunlink)
  have hother : ∀ name, name ≠ homeName home → name ≠ newName (homeName home) →
      (setUserAuthorization w ask d verify fs).files name = fs name := fun name h h' => by
    rw [hfiles, Files.replace_other hne h h', Files.put_of_ne h']
  rw [← hfiles] at hname htemp
  rw [hlinked, if_pos rfl] at hverify
  have hmakes : MakesNew out (setUserAuthorization w ask d verify fs).files (homeName home) ↔
      ask.home.unlinkNew = true ∨ out.unlinkTemp = true := by
    unfold MakesNew
    rw [htemp]
    cases ask.home.unlinkNew <;> simp
  rw [← hmakes, hverify]
  exact survives_iff_elsewhere
    (loggedOut (w := w) hhome hused hname (foreign_allEntries w d auths old))
    fun name h h' => Or.inl (hother name h h')

/-- The login has not worked on `.Xauthority`. -/
lemma survives_aside (hno : ¬ WorksHome ask home fs) :
    (∀ e ∈ d.foreign w auths old, Survives
        (removeUserAuthorization w true out { d with authorizations := some auths' } verify
          (setUserAuthorization w ask d verify fs).files)
        (setUserAuthorization w ask d verify fs).verify home e) ↔
      d.foreign w auths old = [] ∨ (MakesNew out fs (homeName home) → out.strands = true →
        ¬ WorksBackup ask d fs ∧ NamedElsewhere verify home fs (d.foreign w auths old)) := by
  obtain ⟨hname, htemp, hcase⟩ := login_aside (w := w) hd hhome hold hno
  have hmakes : MakesNew out (setUserAuthorization w ask d verify fs).files (homeName home) ↔
      MakesNew out fs (homeName home) := by
    unfold MakesNew
    rw [htemp]
  have hlogout : LoggedOut out home _ _ _ := loggedOut (w := w) hhome hused hname rfl
  rcases hcase with ⟨hbackup, target, contents, hne, hne', hverify, hfile, howned⟩ |
    ⟨hnone, hverify, hfiles⟩
  · by_cases hstrand : MakesNew out (setUserAuthorization w ask d verify fs).files
        (homeName home) ∧ out.strands = true
    · obtain ⟨hgone, -⟩ := hlogout.stranded hstrand.1 hstrand.2
      constructor
      · intro hall
        refine Or.inl (List.eq_nil_iff_forall_not_mem.2 fun e he => ?_)
        -- `XAUTHORITY` names the backup file, which has entries of the display only
        obtain ⟨name, contents', hwhere, hcontents, hmem⟩ := hall e he
        rw [hverify, getEnv_setXauthority] at hwhere
        rcases hwhere with rfl | hwhere
        · cases hgone.symm.trans hcontents
        · obtain rfl := Option.some.inj hwhere
          rw [hlogout.other _ hne hne', hfile] at hcontents
          obtain rfl := Option.some.inj hcontents
          exact (foreign_subset he).2 (howned e hmem)
      · rintro (h | h)
        · simp [h]
        · exact absurd hbackup (h (hmakes.1 hstrand.1) hstrand.2).1
    · refine iff_of_true (survives_home (hlogout.kept hstrand)) (Or.inr fun h h' => ?_)
      exact absurd ⟨hmakes.2 h, h'⟩ hstrand
  · rw [hverify, survives_iff_elsewhere hlogout fun name _ _ => hfiles name, hmakes]
    simp only [hnone, not_false_eq_true, true_and]

end Session

/-- The login leaves authorizations that have been used for the display. -/
lemma allUsed_login (hd : d.authorizations = some auths)
    (h : some auths' = (setUserAuthorization w ask d verify fs).authorizations) :
    AllUsed d.name auths auths' := by
  simp only [setUserAuthorization, hd] at h
  split at h
  · rw [Option.some.inj h]
    exact (setEntries_spec ..).2
  · split at h
    · rw [Option.some.inj h]
      exact (setEntries_spec ..).2
    · rw [Option.some.inj h]
      exact allUsed_refl ..

/-- For every display with authorizations, every `.Xauthority`, every answer of the kernel and of
the locks at the login and at the logout, and with the authorizations at the logout as they were
before or as the login has left them: the entries that are not the display's survive login and
logout if and only if there are none, the logout does not get the lock, or the answers keep a
copy. -/
theorem entries_survive_iff (w : World) (lock : Bool) (out : Files.Answers)
    (hd : d.authorizations = some auths)
    (hhome : getEnv verify.userEnviron "HOME".toList = some home)
    (hold : fs (homeName home) = some old)
    (hauths : auths' = auths ∨
      some auths' = (setUserAuthorization w ask d verify fs).authorizations) :
    (∀ e ∈ d.foreign w auths old, Survives
        (removeUserAuthorization w lock out { d with authorizations := some auths' } verify
          (setUserAuthorization w ask d verify fs).files)
        (setUserAuthorization w ask d verify fs).verify home e) ↔
      d.foreign w auths old = [] ∨ lock = false ∨
        KeepsCopy ask out d verify home fs (d.foreign w auths old) := by
  have hused : AllUsed d.name auths auths' := by
    rcases hauths with rfl | hauths
    · exact allUsed_refl d.name auths'
    · exact allUsed_login hd hauths
  cases lock with
  | false =>
    have hsame : removeUserAuthorization w false out { d with authorizations := some auths' }
        verify (setUserAuthorization w ask d verify fs).files =
          (setUserAuthorization w ask d verify fs).files := by
      simp only [removeUserAuthorization, hhome, Bool.false_eq_true, if_false]
    rw [hsame]
    exact iff_of_true (survives_login hd hhome hold) (Or.inr (Or.inl rfl))
  | true =>
    simp only [Bool.true_eq_false, false_or]
    by_cases hworks : WorksHome ask home fs
    · cases hunlink : ask.home.unlinkOld with
      | false =>
        refine iff_of_true (survives_stuck hd hhome hold hused hworks hunlink)
          (Or.inr ⟨fun _ h => ?_, fun _ h => ?_, fun h => absurd hworks h⟩)
        · cases hunlink.symm.trans (strands_iff.1 h).1
        · cases hunlink.symm.trans h
      | true =>
        cases hlink : ask.home.link with
        | false =>
          have hstrands : ask.home.strands = true := strands_iff.2 ⟨hunlink, hlink⟩
          rw [survives_stranded hd hhome hold hused hworks hstrands]
          refine or_congr_right ⟨fun h => ⟨fun _ _ => h, fun _ _ h' => ?_,
            fun h' => absurd hworks h'⟩, fun h => h.stranded hworks hstrands⟩
          cases hlink.symm.trans h'
        | true =>
          rw [survives_replaced hd hhome hold hused hworks hunlink hlink]
          refine or_congr_right ⟨fun h => ⟨fun _ h' => ?_, fun _ _ _ => h,
            fun h' => absurd hworks h'⟩, fun h => h.replaced hworks hunlink hlink⟩
          cases hlink.symm.trans (strands_iff.1 h').2
    · rw [survives_aside hd hhome hold hused hworks]
      exact or_congr_right ⟨fun h => ⟨fun h' => absurd h' hworks, fun h' => absurd h' hworks,
        fun _ => h⟩, fun h => h.aside hworks⟩

/-- The authorizations of `Dpy.console`. -/
def consoleAuths : List Xauth := [⟨familyWild, [], [], mitMagicCookie1, [7]⟩]

/-- Everything is granted at the login but `link`. -/
def SetAnswers.noLink : SetAnswers :=
  { SetAnswers.granted with home := { Files.Answers.granted with link := false } }

/-- A new file is not lost as long as it cannot be unlinked. -/
theorem cookie_kept : Survives
    (removeUserAuthorization World.silent true { Files.Answers.granted with unlinkTemp := false }
      Dpy.console .user
        (setUserAuthorization World.silent .noLink Dpy.console .user (.withCookies cookies)).files)
    (setUserAuthorization World.silent .noLink Dpy.console .user (.withCookies cookies)).verify
    "/home/u".toList ⟨familyLocal, bytesOf "localhost".toList, bytesOf "1".toList,
      mitMagicCookie1, [1]⟩ := by
  have hhome : getEnv VerifyInfo.user.userEnviron "HOME".toList = some "/home/u".toList := by
    decide
  have hold : Dir.withCookies cookies (homeName "/home/u".toList) = some cookies :=
    Files.put_same ..
  have hworks : WorksHome .noLink "/home/u".toList (.withCookies cookies) := ⟨rfl, Or.inr rfl⟩
  refine (entries_survive_iff (d := Dpy.console) World.silent true
    { Files.Answers.granted with unlinkTemp := false } rfl hhome hold (Or.inl rfl)).2
      (Or.inr (Or.inr ⟨fun _ _ => rfl, fun _ _ h => ?_, fun h => absurd hworks h⟩)) _ (by decide)
  cases h

/-- Of two cookies, that of the other display is lost when `link` has failed at the login. -/
theorem cookie_lost : ∃ e ∈ Dpy.console.foreign World.silent consoleAuths cookies, ¬ Survives
    (removeUserAuthorization World.silent true .granted Dpy.console .user
      (setUserAuthorization World.silent .noLink Dpy.console .user (.withCookies cookies)).files)
    (setUserAuthorization World.silent .noLink Dpy.console .user (.withCookies cookies)).verify
    "/home/u".toList e := by
  have hhome : getEnv VerifyInfo.user.userEnviron "HOME".toList = some "/home/u".toList := by
    decide
  have hold : Dir.withCookies cookies (homeName "/home/u".toList) = some cookies :=
    Files.put_same ..
  have hworks : WorksHome .noLink "/home/u".toList (.withCookies cookies) := ⟨rfl, Or.inr rfl⟩
  by_contra hall
  push Not at hall
  rcases (survives_stranded (d := Dpy.console) rfl hhome hold (allUsed_refl _ _) hworks rfl).1 hall
    with h | h
  · exact absurd h (by decide)
  · cases h

end Xdm.UserAuth
