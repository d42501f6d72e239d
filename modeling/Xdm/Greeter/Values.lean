/-
# The values of the login widget in a run

All calls keep the buffers and the cursors as they should be, but three kinds of them: a value that
is set, a NUL that is put into a value, and a prompt that is set while its value is not shown from
the start.
-/
import Xdm.Greeter.Editing

namespace Xdm.Greeter

variable {c : Screen} {w w' : Login} {n m : PromptNum} {p p' : LoginPrompt} {l l' : Line Char}

/-- Each value is a line, what is shown of it begins at or in front of the cursor if something can
be typed, and nothing has been written or read where it should not be. -/
structure Login.Sound (w : Login) : Prop where
  line : ∀ n, ∃ l, (w.prompts n).Sound l
  start_le : ∀ n,
    (w.prompts n).state.takesInput = true ∨ w.state = .prompting ∧ w.activePrompt = n →
    (w.prompts n).valueShownStart ≤ (w.prompts n).cursor
  written : w.writtenOutside = false
  read : w.readBehind = false
  state : w.state ≠ .initializing

namespace Login.Sound

variable (h : w.Sound)
include h

lemma ready (hw : w.state = .prompting) : ∃ l, w.Ready l := by
  obtain ⟨l, hl⟩ := h.line w.activePrompt
  exact ⟨l, hw, hl, h.start_le w.activePrompt (Or.inr ⟨hw, rfl⟩)⟩

/-- A change of one prompt. -/
lemma set (hp : p.Sound l) (hstart : p.valueShownStart ≤ p.cursor) : (w.set n p).Sound where
  line m := by
    by_cases hm : m = n
    · rw [hm, set_prompts_self]
      exact ⟨l, hp⟩
    · rw [set_prompts_of_ne hm]
      exact h.line m
  start_le m hinput := by
    by_cases hm : m = n
    · rwa [hm, set_prompts_self]
    · rw [set_prompts_of_ne hm] at hinput ⊢
      exact h.start_le m hinput
  written := h.written
  read := h.read
  state := h.state

lemma edits (he : w.Edits l' w') : w'.Sound := by
  rw [he.eq]
  exact h.set he.ready.sound he.ready.start_le

lemma passes (hp : w.Passes w') : w'.Sound where
  line n := by
    rw [hp.prompts]
    exact h.line n
  start_le n hinput := by
    have hinput' : (w.prompts n).state.takesInput = true ∨
        w.state = .prompting ∧ w.activePrompt = n := by
      rcases hinput with hinput | ⟨hprompting, rfl⟩
      · rw [hp.prompts] at hinput
        exact Or.inl hinput
      rcases hp.state with hdone | ⟨hstate, hactive | hinput⟩
      · rw [hdone] at hprompting
        cases hprompting
      · exact Or.inr ⟨hstate ▸ hprompting, hactive.symm⟩
      · rw [current, hp.prompts] at hinput
        exact Or.inl hinput
    rw [hp.prompts]
    exact h.start_le n hinput'
  written := hp.written.trans h.written
  read := hp.read.trans h.read
  state := by
    rcases hp.state with hdone | ⟨hstate, -⟩
    · rw [hdone]
      exact fun h => by cases h
    · rw [hstate]
      exact h.state

/-- Drawing keeps it also for a prompt whose cursor is in front of what is shown. -/
lemma redrawn (hp : (w.prompts n).Redrawn p) : (w.set n p).Sound where
  line m := by
    by_cases hm : m = n
    · obtain ⟨l, hl⟩ := h.line n
      rw [hm, set_prompts_self]
      exact ⟨l, hp.sound hl⟩
    · rw [set_prompts_of_ne hm]
      exact h.line m
  start_le m hinput := by
    by_cases hm : m = n
    · rw [hm, set_prompts_self] at hinput ⊢
      rw [hp.state_eq] at hinput
      exact hp.start_le (h.start_le n hinput)
    · rw [set_prompts_of_ne hm] at hinput ⊢
      exact h.start_le m hinput
  written := h.written
  read := h.read
  state := h.state

lemma drawPrompt : (w.drawPrompt c n).Sound := by
  rw [Login.drawPrompt]
  split_ifs
  · exact h
  · obtain ⟨l, hl⟩ := h.line n
    obtain ⟨p', hdrawn, heq⟩ := drawValue_redrawn (c := c) hl (Nat.zero_le _)
    rw [heq]
    exact h.redrawn hdrawn

lemma drawIt : (w.drawIt c).Sound := h.drawPrompt.drawPrompt

/-- The buffer of a prompt is cleared, and shown from the start. -/
lemma clear (htext : p.valueText = Line.overwrite (w.prompts n).valueText 0
    (List.replicate (w.prompts n).valueText.length nul)) (hstart : p.valueShownStart = 0)
    (hcursor : p.cursor = 0) : (w.set n p).Sound := by
  obtain ⟨l, hl⟩ := h.line n
  have hroom := hl.room
  have hne : (w.prompts n).valueText ≠ [] := by
    intro hnil
    rw [hnil, List.length_nil] at hroom
    omega
  refine h.set (l := .empty) ⟨?_, ?_, ?_⟩ ?_
  · rw [htext, hcursor]
    exact Line.holdsAt_empty hne
  · rw [htext, Line.length_overwrite]
    exact Nat.le_trans (Nat.le_add_left 2 _) hroom
  · rw [hstart]
    exact Nat.zero_le _
  · rw [hstart]
    exact Nat.zero_le _

end Login.Sound

/-- The write of as many NULs as the buffer has characters. -/
lemma Login.clear_eq : w.write n 0 (List.replicate (w.prompts n).valueText.length nul) =
    w.set n { w.prompts n with
      valueText := Line.overwrite (w.prompts n).valueText 0
        (List.replicate (w.prompts n).valueText.length nul) } :=
  write_eq (by rw [List.length_replicate, Nat.zero_add])

/-- The widget prompts only if the prompt that becomes active takes input. -/
lemma Login.setActive_kept {state : PromptState} (hstate : state ≠ .notShown) :
    (w.setActive n state).prompts = w.prompts ∧
      (w.setActive n state).writtenOutside = w.writtenOutside ∧
      (w.setActive n state).readBehind = w.readBehind ∧
      (w.setActive n state).state ≠ .initializing ∧
      ((w.setActive n state).state = .prompting →
        (w.setActive n state).activePrompt = n ∧ state.takesInput = true) := by
  rw [setActive]
  cases state with
  | notShown => exact absurd rfl hstate
  | textInfo => exact ⟨rfl, rfl, rfl, fun h => (by cases h), fun h => (by cases h)⟩
  | echoOn => exact ⟨rfl, rfl, rfl, fun h => (by cases h), fun _ => ⟨rfl, rfl⟩⟩
  | echoOff => exact ⟨rfl, rfl, rfl, fun h => (by cases h), fun _ => ⟨rfl, rfl⟩⟩

/-- Without a prompt that is active nothing is edited. -/
lemma Login.act_of_not_prompting (hw : w.state ≠ .prompting) (a : LoginAction) :
    w.act c a = some w := by
  have hkept : ∀ action : Login → Login, w.whenPrompting action = w := fun _ => if_pos hw
  cases a with
  | insertChar key =>
    obtain ⟨keysym, strbuf, hlength⟩ := key
    cases keysym <;> simp only [act, insertChar, finishField, deleteBackwardChar,
      deleteForwardChar, moveBackwardChar, moveForwardChar, moveToEnd, moveToBegining, insertText,
      hkept, ite_self]
  | tabField => exact if_pos hw
  | eraseLine => simp only [act, eraseLine, moveToBegining, eraseToEndOfLine, hkept]
  | _ => exact congrArg some (hkept _)

lemma Login.resetPrompt_eq (hl : (w.prompts n).Sound l) :
    ∃ p, p.valueText = Line.overwrite (w.prompts n).valueText 0
        (List.replicate (w.prompts n).valueText.length nul) ∧
      p.valueShownStart = 0 ∧ p.cursor = 0 ∧ w.resetPrompt c n = w.set n p := by
  rw [Login.resetPrompt, Login.eraseValue_eq hl (Nat.zero_le _), clear_eq, set_setShownStart,
    set_setCursor]
  exact ⟨_, rfl, rfl, rfl, rfl⟩

namespace Login.Sound

variable (h : w.Sound)
include h

theorem setValue : (w.setValue n none).Sound := by
  rw [Login.setValue, storeValue]
  rw [clear_eq, set_prompts_self, set_set]
  exact h.clear rfl rfl rfl

theorem resetLogin : (w.resetLogin c).Sound := by
  obtain ⟨l, hl⟩ := h.line .username
  obtain ⟨p, htext, hstart, hcursor, heq⟩ := resetPrompt_eq (c := c) hl
  have hp := h.clear htext hstart hcursor
  obtain ⟨l', hl'⟩ := hp.line .password
  obtain ⟨p', htext', hstart', hcursor', heq'⟩ := resetPrompt_eq (c := c) hl'
  have hp' := hp.clear htext' hstart' hcursor'
  rw [Login.resetLogin, heq, heq']
  refine ⟨hp'.line, ?_, hp'.written, hp'.read, fun h => by cases h⟩
  rintro n (hinput | ⟨-, rfl⟩)
  · exact hp'.start_le n (Or.inl hinput)
  · show (((w.set .username p).set .password p').prompts .username).valueShownStart ≤ _
    rw [set_prompts_of_ne (by decide), set_prompts_self, hstart]
    exact Nat.zero_le _

/-- A prompt that is no longer shown. -/
lemma setPromptText_notShown {message : Option Str} :
    (w.setPromptText c n message .notShown).Sound := by
  refine ⟨fun m => ?_, fun m hinput => ?_, h.written, h.read, h.state⟩
  · by_cases hm : m = n
    · obtain ⟨l, hl⟩ := h.line n
      rw [hm, setPromptText, set_prompts_self]
      exact ⟨l, hl.holds, hl.room, hl.start⟩
    · rw [setPromptText, set_prompts_of_ne hm]
      exact h.line m
  · by_cases hm : m = n
    · subst hm
      rw [setPromptText, set_prompts_self] at hinput ⊢
      exact h.start_le m (Or.inr (hinput.resolve_left fun hinput => by cases hinput))
    · rw [setPromptText, set_prompts_of_ne hm] at hinput ⊢
      exact h.start_le m hinput

/-- A prompt that is shown, with the cursor at the start of its value. -/
lemma setPromptText_shown {message : Option Str} {state : PromptState}
    (hstart : state.takesInput = true → (w.prompts n).valueShownStart = 0)
    (hstate : state ≠ .notShown) :
    (((w.setPromptText c n message state).setActive n state).setCursor n 0).Sound := by
  have hset (p : LoginPrompt) : (w.set n p).setActive n state = (w.setActive n state).set n p := by
    rw [Login.setActive, Login.setActive]
    split_ifs <;> rfl
  obtain ⟨hprompts, hwritten, hread, hinit, hactive⟩ := setActive_kept (w := w) (n := n) hstate
  rw [setPromptText, hset, set_setCursor]
  refine ⟨fun m => ?_, fun m hinput => ?_, hwritten.trans h.written, hread.trans h.read, hinit⟩
  · by_cases hm : m = n
    · obtain ⟨l, hl⟩ := h.line n
      rw [hm, set_prompts_self]
      exact ⟨l.first, hl.holds.first, hl.room, hl.start⟩
    · rw [set_prompts_of_ne hm, hprompts]
      exact h.line m
  · rw [set_state, set_activePrompt] at hinput
    by_cases hm : m = n
    · subst hm
      rw [set_prompts_self] at hinput ⊢
      have hinput : state.takesInput = true := hinput.elim id fun h => (hactive h.1).2
      exact Nat.le_of_eq (hstart hinput)
    · rw [set_prompts_of_ne hm, hprompts] at hinput ⊢
      have hother : ¬ ((w.setActive n state).state = .prompting ∧
          (w.setActive n state).activePrompt = m) :=
        fun h => hm (h.2.symm.trans (hactive h.1).1)
      exact h.start_le m (Or.inl (hinput.resolve_right hother))

theorem setPrompt {message : Option Str} {state : PromptState}
    (hstart : state.takesInput = true → (w.prompts n).valueShownStart = 0) :
    (w.setPrompt c n message state).Sound := by
  rw [Login.setPrompt]
  by_cases hstate : state = .notShown
  · subst hstate
    exact h.setPromptText_notShown
  · have hrun : ¬ (state = .notShown ∨
        (w.setPromptText c n message state).state = .initializing) := by
      rintro (h' | h')
      · exact hstate h'
      · exact h.state h'
    rw [if_neg hrun]
    exact (h.setPromptText_shown hstart hstate).drawIt

theorem act {a : LoginAction} (htext : w.TypesText a) (hact : w.act c a = some w') : w'.Sound := by
  by_cases hw : w.state = .prompting
  · obtain ⟨l, hready⟩ := h.ready hw
    rcases hready.act_edits htext hact with hedits | ⟨-, hpasses⟩
    · exact h.edits hedits
    · exact h.passes hpasses
  · rw [act_of_not_prompting hw] at hact
    rwa [← Option.some.inj hact]

end Login.Sound

/-- The initial buffers are empty strings. -/
lemma Login.initial_sound (c : Screen) (namePrompt passwdPrompt : Str) (data : LoginData) :
    (Login.initial c namePrompt passwdPrompt data).Sound := by
  have hempty : ∀ buf : List Char, 2 ≤ buf.length → Line.empty.HoldsAt nul (buf.set 0 nul) 0 := by
    rintro (_ | ⟨b, buf⟩) hlength
    · simp at hlength
    · exact ⟨⟨⟨buf, rfl⟩, List.not_mem_nil⟩, rfl⟩
  refine ⟨fun n => ⟨.empty, ?_⟩, fun n _ => ?_, rfl, rfl, fun h => by cases h⟩
  · cases n with
    | username =>
      refine ⟨hempty data.name data.name_length, ?_, Nat.le_refl 0⟩
      show 2 ≤ (data.name.set 0 nul).length
      rw [List.length_set]
      exact data.name_length
    | password =>
      refine ⟨hempty data.passwd data.passwd_length, ?_, Nat.le_refl 0⟩
      show 2 ≤ (data.passwd.set 0 nul).length
      rw [List.length_set]
      exact data.passwd_length
  · cases n with
    | username => exact Nat.le_refl 0
    | password => exact Nat.le_refl 0

/-- What is expected of the values while the widget prompts: their buffers hold strings, nothing is
written outside them, what is shown of the active one begins in front of the cursor, and nothing is
read behind its end. -/
structure Login.Good (w : Login) : Prop where
  ended : ∀ n, nul ∈ (w.prompts n).valueText
  written : w.writtenOutside = false
  start_le : w.current.valueShownStart ≤ w.current.cursor
  cursor_le : w.current.cursor ≤ strlen w.current.valueText
  read : w.readBehind = false

/-- No value is set, no NUL is put into a value, and no prompt for input is set while its value is
not shown from the start. -/
structure Login.Harmless (w : Login) (call : LoginCall) : Prop where
  setsNone : ∀ n value, call = .setValue n value → value = none
  typesText : ∀ a, call = .action a → w.TypesText a
  fromStart : ∀ n message state, call = .setPrompt n message state → state.takesInput = true →
    (w.prompts n).valueShownStart = 0

namespace Login.Sound

variable {call : LoginCall} (h : w.Sound)
include h

lemma good (hw : w.state = .prompting) : w.Good := by
  obtain ⟨l, hready⟩ := h.ready hw
  refine ⟨fun n => ?_, h.written, hready.start_le, ?_, h.read⟩
  · obtain ⟨l, hl⟩ := h.line n
    exact hl.holds.holds.mem
  · rw [hready.sound.strlen_eq]
    exact hready.sound.cursor_le

theorem step (hharmless : w.Harmless call) (hstep : Login.step c call w = some ((), w')) :
    w'.Sound := by
  cases call with
  | action a =>
    obtain ⟨w₁, hact, heq⟩ := Option.map_eq_some_iff.1 hstep
    obtain ⟨-, rfl⟩ := Prod.mk.inj heq
    exact h.act (hharmless.typesText a rfl) hact
  | setPrompt n message state =>
    obtain ⟨-, rfl⟩ := Prod.mk.inj (Option.some.inj hstep)
    exact h.setPrompt (hharmless.fromStart n message state rfl)
  | setValue n value =>
    obtain ⟨-, rfl⟩ := Prod.mk.inj (Option.some.inj hstep)
    rw [hharmless.setsNone n value rfl]
    exact h.setValue
  | resetLogin =>
    obtain ⟨-, rfl⟩ := Prod.mk.inj (Option.some.inj hstep)
    exact h.resetLogin
  | redisplay =>
    obtain ⟨-, rfl⟩ := Prod.mk.inj (Option.some.inj hstep)
    exact h.drawIt
  | endSession =>
    obtain ⟨-, rfl⟩ := Prod.mk.inj (Option.some.inj hstep)
    refine ⟨h.line, fun n hinput => h.start_le n (Or.inl ?_), h.written, h.read,
      fun h => by cases h⟩
    exact hinput.resolve_right fun h => by cases h.1

end Login.Sound

/-! ### The other calls -/

/-- The NUL that is put behind a value is outside the buffer. -/
lemma Login.setValue_written (w : Login) (n : PromptNum) (value : Str) :
    (w.setValue n (some value)).writtenOutside = true := by
  show (_ || decide (_ < _)) = true
  rw [Bool.or_eq_true, decide_eq_true_eq]
  refine Or.inr ?_
  rw [write, set_prompts_self, Line.length_overwrite]
  exact Nat.lt_succ_self _

/-- A NUL is put into the value. -/
lemma Login.Sound.not_good_of_nul (h : w.Sound) {a : LoginAction} (htext : ¬ w.TypesText a)
    (hact : w.act c a = some w') : ¬ w'.Good := by
  rw [TypesText] at htext
  push Not at htext
  obtain ⟨key, rfl, hprompting, hother, hnul⟩ := htext
  obtain ⟨l, hready⟩ := h.ready hprompting
  have hne : key.strbuf.length ≠ 0 := by
    intro hlength
    rw [LoginPrompt.fitting, List.length_eq_zero_iff.1 hlength, List.take_nil] at hnul
    cases hnul
  have hinsert : w.insertChar c key = w.insertText c key.strbuf := by
    rw [insertChar, hother]
    exact if_neg hne
  obtain rfl := Option.some.inj hact
  rw [hinsert]
  exact fun hgood => absurd hgood.cursor_le (Nat.not_le.2 (hready.insertText_nul hnul))

lemma Login.redrawn_drawPrompt (c : Screen) (w : Login) (n m : PromptNum) :
    (w.prompts n).Redrawn ((w.drawPrompt c m).prompts n) := by
  rw [drawPrompt]
  split_ifs
  · exact .refl _
  · by_cases hn : n = m
    · rw [hn]
      exact redrawn_drawValue c w 0 m
    · have hprompt : (w.drawValue c 0 m).prompts n = w.prompts n := set_prompts_of_ne hn
      rw [hprompt]
      exact .refl _

lemma Login.drawIt_activePrompt : (w.drawIt c).activePrompt = w.activePrompt := by
  have hprompt (w : Login) (n : PromptNum) : (w.drawPrompt c n).activePrompt = w.activePrompt := by
    rw [drawPrompt]
    split_ifs <;> rfl
  rw [drawIt, hprompt, hprompt]

/-- With the cursor at its start a value is drawn as it has been shown. -/
lemma Login.drawIt_setCursor (c : Screen) (w : Login) (n : PromptNum) (p : LoginPrompt) :
    (((w.set n (p.setCursor 0)).drawIt c).prompts n).valueShownStart = p.valueShownStart ∧
      (((w.set n (p.setCursor 0)).drawIt c).prompts n).cursor = 0 := by
  have hfirst := redrawn_drawPrompt c (w.set n (p.setCursor 0)) n .username
  rw [set_prompts_self] at hfirst
  have hsecond := redrawn_drawPrompt c ((w.set n (p.setCursor 0)).drawPrompt c .username) n
    .password
  have hstart := hfirst.start_eq (Nat.zero_le _)
  have hcursor := hfirst.cursor_eq
  exact ⟨(hsecond.start_eq (hcursor ▸ Nat.zero_le _)).trans hstart, hsecond.cursor_eq.trans hcursor⟩

/-- The cursor is put to the start of a value that is not shown from there. -/
lemma Login.Sound.not_good_of_shown (h : w.Sound) {message : Option Str} {state : PromptState}
    (hinput : state.takesInput = true) (hstart : (w.prompts n).valueShownStart ≠ 0) :
    ¬ (w.setPrompt c n message state).Good := by
  have hshown : state ≠ .notShown ∧ state ≠ .textInfo := by
    constructor <;> rintro rfl <;> cases hinput
  have hrun : ¬ (state = .notShown ∨
      (w.setPromptText c n message state).state = .initializing) := by
    rintro (h' | h')
    · exact hshown.1 h'
    · exact h.state h'
  have hactive (p : LoginPrompt) : (w.set n p).setActive n state =
      { w with activePrompt := n, state := .prompting }.set n p := if_neg hshown.2
  rw [Login.setPrompt, if_neg hrun, setPromptText, hactive, set_setCursor]
  intro hgood
  have hle := hgood.start_le
  rw [Login.current, drawIt_activePrompt, set_activePrompt, (drawIt_setCursor ..).1,
    (drawIt_setCursor ..).2] at hle
  exact hstart (Nat.le_zero.1 hle)

/-- The calls that are not harmless are those after which the values are not as they should be. -/
theorem Login.Sound.good_iff {call : LoginCall} (h : w.Sound)
    (hstep : Login.step c call w = some ((), w')) (hw' : w'.state = .prompting) :
    w'.Good ↔ w.Harmless call := by
  refine ⟨fun hgood => ⟨?_, ?_, ?_⟩, fun hharmless => (h.step hharmless hstep).good hw'⟩
  · rintro n value rfl
    obtain ⟨-, rfl⟩ := Prod.mk.inj (Option.some.inj hstep)
    cases value with
    | none => rfl
    | some value =>
      have hwritten := hgood.written
      rw [setValue_written] at hwritten
      cases hwritten
  · rintro a rfl
    obtain ⟨w₁, hact, heq⟩ := Option.map_eq_some_iff.1 hstep
    obtain ⟨-, rfl⟩ := Prod.mk.inj heq
    by_contra htext
    exact h.not_good_of_nul htext hact hgood
  · rintro n message state rfl hinput
    obtain ⟨-, rfl⟩ := Prod.mk.inj (Option.some.inj hstep)
    by_contra hstart
    exact h.not_good_of_shown hinput hstart hgood

/-! ### From the start -/

lemma Login.Sound.act_prompts (h : w.Sound) {a : LoginAction} (htext : w.TypesText a)
    (hact : w.act c a = some w') (hne : n ≠ w.activePrompt) : w'.prompts n = w.prompts n := by
  by_cases hw : w.state = .prompting
  · obtain ⟨l, hready⟩ := h.ready hw
    rcases hready.act_edits htext hact with hedits | ⟨-, hpasses⟩
    · rw [hedits.eq, set_prompts_of_ne hne]
    · rw [hpasses.prompts]
  · rw [act_of_not_prompting hw] at hact
    rw [← Option.some.inj hact]

lemma Login.run_sound {namePrompt passwdPrompt : Str} {data : LoginData}
    {h : List (Prog.Step Login LoginCall)}
    (run : Prog.Run (Login.step c) (.initial c namePrompt passwdPrompt data) h w)
    (hharmless : ∀ x ∈ h, x.pre.Harmless x.input) : w.Sound :=
  run.invariant_of (I := fun _ w => w.Sound) (initial_sound c namePrompt passwdPrompt data)
    (fun _ _ _ _ _ hsound hstep hcall => hsound.step hcall hstep) hharmless

/-- For every run whose calls are harmless: the values are as they should be whenever the widget
prompts, and no action has changed the value of a prompt that is not active.  They stay so with
another call, if the widget prompts then, if and only if it is harmless too. -/
theorem Login.values_good_iff {namePrompt passwdPrompt : Str} {data : LoginData}
    {h : List (Prog.Step Login LoginCall)}
    (run : Prog.Run (Login.step c) (.initial c namePrompt passwdPrompt data) h w)
    (hharmless : ∀ x ∈ h, x.pre.Harmless x.input) :
    (w.state = .prompting → w.Good) ∧
      (∀ x ∈ h, ∀ a, x.input = .action a → ∀ n, n ≠ x.pre.activePrompt →
        (x.post.prompts n).valueText = (x.pre.prompts n).valueText) ∧
      ∀ call w', Login.step c call w = some ((), w') → w'.state = .prompting →
        (w'.Good ↔ w.Harmless call) := by
  have hsound := run_sound run hharmless
  refine ⟨hsound.good, fun x hx a ha n hne => ?_, fun call w' => hsound.good_iff⟩
  obtain ⟨h₁, h₂, rfl, hbefore, hstep⟩ := run.split hx
  have hpre := run_sound hbefore fun y hy => hharmless y (List.mem_append_left _ hy)
  rw [ha] at hstep
  obtain ⟨w₁, hact, heq⟩ := Option.map_eq_some_iff.1 hstep
  obtain ⟨-, rfl⟩ := Prod.mk.inj heq
  rw [hpre.act_prompts ((hharmless x hx).typesText a ha) hact hne]

/-- A font of one unit for each character, and room for three of them. -/
def narrowScreen : Screen where
  textWidth := fun text => text.length
  maxValueW := fun _ _ => 3
  echoPasswd := true
  echoPasswdChar := '*'
  before := fun _ => ' '

def smallData : LoginData := ⟨List.replicate 8 'x', List.replicate 8 'x', by decide, by decide⟩

def smallLogin : Login := .initial narrowScreen "Login: ".toList "Password: ".toList smallData

def typedText (text : Str) (h : text.length < 128) : LoginCall :=
  .action (.insertChar ⟨.other, text, h⟩)

theorem Login.values_good_iff_typed :
    strlen ((smallLogin.insertChar narrowScreen
      ⟨.other, "root".toList, by decide⟩).prompts .username).valueText = 4 ∧
      (smallLogin.insertChar narrowScreen ⟨.other, "root".toList, by decide⟩).Good := by
  have run : Prog.Run (Login.step narrowScreen) smallLogin
      [⟨smallLogin, typedText "root".toList (by decide), _⟩] _ := .snoc .nil rfl
  refine ⟨by decide, (values_good_iff run ?_).1 rfl⟩
  intro x hx
  obtain rfl := List.mem_singleton.1 hx
  refine ⟨fun n value hcall => (by cases hcall), ?_, fun n message state hcall => (by cases hcall)⟩
  rintro a hcall key rfl - -
  obtain rfl : (⟨.other, "root".toList, by decide⟩ : LookedUp) = key := by
    simpa [typedText] using hcall
  decide

/-- A key whose string has a NUL, a value that is set, and a prompt that is set again when the start
of its value is not shown. -/
theorem Login.values_lost :
    (∃ h w, Prog.Run (Login.step narrowScreen) smallLogin h w ∧
      h.map Prog.Step.input = [typedText ['a', nul] (by decide)] ∧
      w.state = .prompting ∧ ¬ w.Good) ∧
    (∃ h w, Prog.Run (Login.step narrowScreen) smallLogin h w ∧
      h.map Prog.Step.input = [.setValue .username (some "root".toList)] ∧
      w.state = .prompting ∧ ¬ w.Good) ∧
    ∃ h w, Prog.Run (Login.step narrowScreen) smallLogin h w ∧
      h.map Prog.Step.input = [typedText "roo".toList (by decide), typedText "t".toList (by decide),
        .setPrompt .username none .echoOn] ∧
      w.state = .prompting ∧ ¬ w.Good := by
  refine ⟨?_, ?_, ?_⟩
  · obtain ⟨h, w, run, hinputs, hw, hlt⟩ :
        ∃ h w, Prog.Run (Login.step narrowScreen) smallLogin h w ∧ h.map Prog.Step.input = _ ∧
          w.state = .prompting ∧ strlen w.current.valueText < w.current.cursor :=
      Prog.exists_run_on [typedText ['a', nul] (by decide)] (by decide +kernel)
    exact ⟨h, w, run, hinputs, hw, fun hgood => absurd hgood.cursor_le (Nat.not_le.2 hlt)⟩
  · obtain ⟨h, w, run, hinputs, hw, hwritten⟩ :
        ∃ h w, Prog.Run (Login.step narrowScreen) smallLogin h w ∧ h.map Prog.Step.input = _ ∧
          w.state = .prompting ∧ w.writtenOutside = true :=
      Prog.exists_run_on [.setValue .username (some "root".toList)] (by decide +kernel)
    exact ⟨h, w, run, hinputs, hw, fun hgood => absurd hgood.written (by simp [hwritten])⟩
  · obtain ⟨h, w, run, hinputs, hw, hlt⟩ :
        ∃ h w, Prog.Run (Login.step narrowScreen) smallLogin h w ∧ h.map Prog.Step.input = _ ∧
          w.state = .prompting ∧ w.current.cursor < w.current.valueShownStart :=
      Prog.exists_run_on [typedText "roo".toList (by decide), typedText "t".toList (by decide),
        .setPrompt .username none .echoOn] (by decide +kernel)
    exact ⟨h, w, run, hinputs, hw, fun hgood => absurd hgood.start_le (Nat.not_le.2 hlt)⟩

end Xdm.Greeter
