/-
# Editing the values of the login widget

Each value is a line with a cursor, and each action is an operation on the line of the active
prompt.  The part of the value that is shown begins at or in front of the cursor.  The exception is
a NUL that is put into a value.
-/
import Xdm.Greeter.Login

namespace Xdm.Greeter

variable {c : Screen} {w w' : Login} {n m : PromptNum} {p p' : LoginPrompt} {l l' : Line Char}
  {cursor : ℕ}

/-! ### Prompts of the widget -/

@[simp] lemma Login.set_prompts_self : (w.set n p).prompts n = p := Function.update_self ..

lemma Login.set_prompts_of_ne (hne : m ≠ n) : (w.set n p).prompts m = w.prompts m :=
  Function.update_of_ne hne ..

@[simp] lemma Login.set_set : (w.set n p).set n p' = w.set n p' := by
  simp only [Login.set, Function.update_idem]

@[simp] lemma Login.set_self : w.set n (w.prompts n) = w := by
  simp only [Login.set, Function.update_eq_self]

@[simp] lemma Login.set_state : (w.set n p).state = w.state := rfl

@[simp] lemma Login.set_activePrompt : (w.set n p).activePrompt = w.activePrompt := rfl

@[simp] lemma Login.set_current : (w.set w.activePrompt p).current = p := set_prompts_self

@[simp] lemma Login.set_setCursor :
    (w.set n p).setCursor n cursor = w.set n (p.setCursor cursor) := by
  rw [Login.setCursor, set_prompts_self, set_set]

@[simp] lemma Login.set_setShownStart :
    (w.set n p).setShownStart n cursor = w.set n (p.setShownStart cursor) := by
  rw [Login.setShownStart, set_prompts_self, set_set]

/-- A write that is inside the buffer. -/
lemma Login.write_eq {i : ℕ} {cells : List Char}
    (h : i + cells.length ≤ (w.prompts n).valueText.length) :
    w.write n i cells = w.set n { w.prompts n with
      valueText := Line.overwrite (w.prompts n).valueText i cells } := by
  have hinside : decide ((w.prompts n).valueText.length < i + cells.length) = false :=
    decide_eq_false (by omega)
  simp only [Login.write, Login.set, hinside, Bool.or_false]

/-! ### Lines -/

/-- The value of the prompt is this line, there is room behind it, and what is shown of it begins
in it. -/
structure LoginPrompt.Sound (p : LoginPrompt) (l : Line Char) : Prop where
  holds : l.HoldsAt nul p.valueText p.cursor
  room : l.text.length + 2 ≤ p.valueText.length
  start : p.valueShownStart ≤ l.text.length

namespace LoginPrompt.Sound

variable (h : p.Sound l)
include h

lemma stringAt_eq {a b : Str} (htext : l.text = a ++ b) : stringAt p.valueText a.length = b := by
  have hholds := h.holds.holds
  rw [htext] at hholds
  exact hholds.takeWhile_drop

lemma strlen_eq : strlen p.valueText = l.text.length :=
  congrArg List.length (h.stringAt_eq (a := []) rfl)

lemma stringAt_cursor : stringAt p.valueText p.cursor = l.back := by
  rw [h.holds.cursor]
  exact h.stringAt_eq rfl

/-- What is moved back when the character behind the cursor is deleted. -/
lemma stringAt_next (hlt : p.cursor < l.text.length) :
    stringAt p.valueText (p.cursor + 1) = l.back.tail := by
  obtain ⟨b, hback⟩ : ∃ b, l.back = b :: l.back.tail := by
    cases hback : l.back with
    | nil => exact absurd hlt (h.holds.back_eq_nil.1 hback)
    | cons b back => exact ⟨b, rfl⟩
  have htext : l.text = (l.front ++ [b]) ++ l.back.tail := by
    rw [List.append_assoc, List.singleton_append, ← hback]
    rfl
  rw [← h.stringAt_eq htext, List.length_append, List.length_singleton, h.holds.cursor]

lemma cursor_le : p.cursor ≤ l.text.length := h.holds.cursor_le

/-- The cursor is moved. -/
lemma setCursor (hl' : l'.HoldsAt nul p.valueText cursor) (htext : l'.text = l.text) :
    (p.setCursor cursor).Sound l' where
  holds := hl'
  room := htext ▸ h.room
  start := htext ▸ h.start

lemma setShownStart (hcursor : cursor ≤ l.text.length) : (p.setShownStart cursor).Sound l :=
  ⟨h.holds, h.room, hcursor⟩

end LoginPrompt.Sound

/-! ### Drawing -/

/-- Of the prompt only what is shown has changed, and that not behind the cursor. -/
structure LoginPrompt.Redrawn (p p' : LoginPrompt) : Prop where
  eq : ∃ valueShownEnd, p' = { p with
    valueShownStart := p'.valueShownStart, valueShownEnd := valueShownEnd }
  le : p.valueShownStart ≤ p'.valueShownStart
  le_max : p'.valueShownStart ≤ max p.valueShownStart p.cursor

lemma fitText_offset (textWidth : List Char → Int) (width : Int) (text : List Char)
    (cursor textlen offset : ℕ) :
    offset ≤ (fitText textWidth width text cursor textlen offset).2 ∧
      (fitText textWidth width text cursor textlen offset).2 ≤ max offset cursor := by
  induction textlen generalizing offset with
  | zero => exact ⟨Nat.le_refl _, Nat.le_max_left ..⟩
  | succ textlen ih =>
    rw [fitText]
    split_ifs with hwide hbefore
    · have := ih (offset + 1)
      omega
    · exact ih offset
    · exact ⟨Nat.le_refl _, Nat.le_max_left ..⟩

namespace LoginPrompt.Redrawn

lemma refl (p : LoginPrompt) : p.Redrawn p := ⟨⟨_, rfl⟩, Nat.le_refl _, Nat.le_max_left ..⟩

lemma shown (c : Screen) (n : PromptNum) (p : LoginPrompt) (cursor : ℕ) :
    p.Redrawn (c.shown n p cursor) := by
  simp only [Screen.shown]
  generalize (if p.valueShownStart < cursor then c.textWidth ((c.text p).take cursor) else 0) =
    curoff
  split_ifs
  · obtain ⟨hle, hmax⟩ := fitText_offset c.textWidth (c.maxValueW n p.promptText) (c.text p)
      p.cursor (stringAt (c.text p) p.valueShownStart).length p.valueShownStart
    exact ⟨⟨_, rfl⟩, hle, hmax⟩
  · exact refl p

variable (h : p.Redrawn p')
include h

lemma valueText_eq : p'.valueText = p.valueText := by
  obtain ⟨_, heq⟩ := h.eq
  rw [heq]

lemma cursor_eq : p'.cursor = p.cursor := by
  obtain ⟨_, heq⟩ := h.eq
  rw [heq]

lemma state_eq : p'.state = p.state := by
  obtain ⟨_, heq⟩ := h.eq
  rw [heq]

lemma sound (hp : p.Sound l) : p'.Sound l where
  holds := by
    rw [h.valueText_eq, h.cursor_eq]
    exact hp.holds
  room := by
    rw [h.valueText_eq]
    exact hp.room
  start := Nat.le_trans h.le_max (Nat.max_le.2 ⟨hp.start, hp.cursor_le⟩)

/-- What is shown still begins at or in front of the cursor. -/
lemma start_le (hp : p.valueShownStart ≤ p.cursor) : p'.valueShownStart ≤ p'.cursor := by
  rw [h.cursor_eq]
  exact Nat.le_trans h.le_max (Nat.max_le.2 ⟨hp, Nat.le_refl _⟩)

/-- What is shown behind the cursor stays. -/
lemma start_eq (hp : p.cursor ≤ p.valueShownStart) : p'.valueShownStart = p.valueShownStart :=
  Nat.le_antisymm (Nat.max_eq_left hp ▸ h.le_max) h.le

end LoginPrompt.Redrawn

lemma readsBehind_eq_false (h : p.Sound l) (hcursor : cursor ≤ l.text.length) (gc : GC) :
    c.readsBehind p cursor gc = false := by
  have hnul : nul ∈ p.valueText := h.holds.holds.mem
  have hmax : max cursor p.valueShownStart ≤ l.text.length := Nat.max_le.2 ⟨hcursor, h.start⟩
  refine decide_eq_false ?_
  rw [h.strlen_eq]
  rintro (⟨-, h⟩ | ⟨-, h⟩ | ⟨-, h | h⟩)
  · exact h hnul
  · omega
  · exact h hnul
  · omega

/-- Erasing a part of the value changes nothing. -/
lemma Login.eraseValue_eq (h : (w.prompts n).Sound l) (hcursor : cursor ≤ l.text.length) :
    w.eraseValue c cursor n = w := by
  have hdraws : c.draws (w.prompts n) .bgGC = false := decide_eq_false fun h => h.1 rfl
  rw [eraseValue, realizeValue, readsBehind_eq_false h hcursor, hdraws, Bool.or_false]
  simp

lemma LoginPrompt.redrawn_drawn (c : Screen) (n : PromptNum) (p : LoginPrompt) (cursor : ℕ) :
    p.Redrawn (if c.draws p .textGC then c.shown n p cursor else p) := by
  split_ifs
  · exact .shown ..
  · exact .refl p

/-- Drawing changes only what is shown of the value. -/
lemma Login.redrawn_drawValue (c : Screen) (w : Login) (cursor : ℕ) (n : PromptNum) :
    (w.prompts n).Redrawn ((w.drawValue c cursor n).prompts n) := by
  rw [show (w.drawValue c cursor n).prompts n = _ from set_prompts_self (w := w)]
  exact LoginPrompt.redrawn_drawn c n _ cursor

lemma Login.drawValue_redrawn (h : (w.prompts n).Sound l) (hcursor : cursor ≤ l.text.length) :
    ∃ p', (w.prompts n).Redrawn p' ∧ w.drawValue c cursor n = w.set n p' := by
  refine ⟨_, LoginPrompt.redrawn_drawn c n _ cursor, ?_⟩
  rw [drawValue, realizeValue, readsBehind_eq_false h hcursor, Bool.or_false]
  rfl

/-! ### Actions -/

/-- The value of the active prompt can be edited, and is this line. -/
structure Login.Ready (w : Login) (l : Line Char) : Prop where
  prompting : w.state = .prompting
  sound : w.current.Sound l
  start_le : w.current.valueShownStart ≤ w.current.cursor

/-- The value of the active prompt has become this line, and only its prompt has changed. -/
structure Login.Edits (w : Login) (l' : Line Char) (w' : Login) : Prop where
  eq : w' = w.set w.activePrompt w'.current
  ready : w'.Ready l'
  state_eq : w'.current.state = w.current.state

lemma Login.whenPrompting_eq {action : Login → Login} (h : w.state = .prompting) :
    w.whenPrompting action = action w := if_neg (not_not_intro h)

namespace Login.Edits

lemma refl (h : w.Ready l) : w.Edits l w := ⟨w.set_self.symm, h, rfl⟩

lemma trans {w₁ : Login} {l₁ : Line Char} (h₁ : w.Edits l₁ w₁) (h : w₁.Edits l' w') :
    w.Edits l' w' := by
  have hactive : w₁.activePrompt = w.activePrompt := by rw [h₁.eq, set_activePrompt]
  refine ⟨?_, h.ready, h.state_eq.trans h₁.state_eq⟩
  have heq := h.eq
  rw [hactive] at heq
  rw [heq]
  nth_rewrite 1 [h₁.eq]
  rw [set_set, ← heq]

/-- A last change of the prompt. -/
lemma of_set (hw : w.state = .prompting) (hsound : p.Sound l)
    (hstart : p.valueShownStart ≤ p.cursor) (hstate : p.state = w.current.state) :
    w.Edits l (w.set w.activePrompt p) where
  eq := by rw [set_current]
  ready := ⟨hw, by rwa [set_current], by rwa [set_current]⟩
  state_eq := by rwa [set_current]

/-- A last change, after which the value is drawn. -/
lemma of_draw (hw : w.state = .prompting) (hsound : p.Sound l)
    (hstart : p.valueShownStart ≤ p.cursor) (hstate : p.state = w.current.state)
    (hcursor : cursor ≤ l.text.length) :
    w.Edits l ((w.set w.activePrompt p).drawValue c cursor w.activePrompt) := by
  obtain ⟨p', hdrawn, heq⟩ :=
    drawValue_redrawn (c := c) (w := w.set w.activePrompt p) (n := w.activePrompt)
      (by rwa [set_prompts_self]) hcursor
  rw [set_prompts_self] at hdrawn
  rw [heq, set_set]
  exact of_set hw (hdrawn.sound hsound) (hdrawn.start_le hstart) (hdrawn.state_eq.trans hstate)

end Login.Edits

namespace Login.Ready

variable (h : w.Ready l)
include h

lemma eraseValue_eq (hcursor : cursor ≤ l.text.length) :
    w.eraseValue c cursor w.activePrompt = w :=
  Login.eraseValue_eq (c := c) (n := w.activePrompt) h.sound hcursor

/-- The cursor goes back by one, or stays at the start. -/
lemma setCursor_left :
    (if 0 < w.current.cursor then w.setCursor w.activePrompt (w.current.cursor - 1) else w) =
        w.set w.activePrompt (w.current.setCursor (w.current.cursor - 1)) ∧
      (w.current.setCursor (w.current.cursor - 1)).Sound l.left := by
  refine ⟨?_, h.sound.setCursor h.sound.holds.left Line.text_left⟩
  split_ifs with hcursor
  · rfl
  · have hzero : w.current.cursor - 1 = w.current.cursor := by omega
    rw [hzero]
    exact w.set_self.symm

theorem moveBackwardChar_edits : w.Edits l.left (w.moveBackwardChar c) := by
  obtain ⟨hset, hleft⟩ := h.setCursor_left
  rw [moveBackwardChar, whenPrompting_eq h.prompting]
  dsimp only
  rw [hset, set_current]
  split_ifs with hbefore
  · rw [Login.eraseValue_eq (by rwa [set_prompts_self]) (Nat.zero_le _), set_setShownStart]
    exact .of_draw h.prompting (hleft.setShownStart hleft.cursor_le) (Nat.le_refl _) rfl
      (Nat.zero_le _)
  · exact .of_set h.prompting hleft (by omega) rfl

lemma redrawBehind_edits : w.Edits l (w.redrawBehind c) := by
  rw [redrawBehind]
  split_ifs
  · rw [h.eraseValue_eq (Nat.zero_le _)]
    have hdraw := Edits.of_draw (c := c) h.prompting h.sound h.start_le rfl (Nat.zero_le _)
    have hself : w.set w.activePrompt w.current = w := w.set_self
    rwa [hself] at hdraw
  · exact .refl h

/-- The cursor is put somewhere behind what is shown. -/
lemma redrawBehind_setCursor (hl' : l'.HoldsAt nul w.current.valueText cursor)
    (htext : l'.text = l.text) (hstart : w.current.valueShownStart ≤ cursor) :
    w.Edits l' ((w.setCursor w.activePrompt cursor).redrawBehind c) := by
  have hset := Edits.of_set h.prompting (h.sound.setCursor hl' htext) hstart rfl
  exact hset.trans hset.ready.redrawBehind_edits

theorem moveForwardChar_edits : w.Edits l.right (w.moveForwardChar c) := by
  rw [moveForwardChar, whenPrompting_eq h.prompting, h.sound.strlen_eq]
  split_ifs with hlt
  · exact h.redrawBehind_setCursor (h.sound.holds.right hlt) Line.text_right
      (Nat.le_succ_of_le h.start_le)
  · rw [Line.right_of_back_nil (h.sound.holds.back_eq_nil.2 hlt)]
    exact .refl h

theorem moveToEnd_edits : w.Edits l.last (w.moveToEnd c) := by
  rw [moveToEnd, whenPrompting_eq h.prompting, h.sound.strlen_eq]
  exact h.redrawBehind_setCursor h.sound.holds.last Line.text_last h.sound.start

theorem moveToBegining_edits : w.Edits l.first (w.moveToBegining c) := by
  have hfirst := h.sound.setCursor h.sound.holds.first Line.text_first
  rw [moveToBegining, whenPrompting_eq h.prompting]
  dsimp only
  rw [show w.setCursor w.activePrompt 0 = w.set w.activePrompt (w.current.setCursor 0) from rfl,
    set_current]
  split_ifs with hstart
  · rw [Login.eraseValue_eq (by rwa [set_prompts_self]) (Nat.zero_le _), set_setShownStart]
    exact .of_draw h.prompting (hfirst.setShownStart (Nat.zero_le _)) (Nat.le_refl _) rfl
      (Nat.zero_le _)
  · exact .of_set h.prompting hfirst (by omega) rfl

theorem eraseToEndOfLine_edits : w.Edits l.truncate (w.eraseToEndOfLine c) := by
  have hsize : w.current.cursor ≤ w.current.valueText.length :=
    Nat.le_trans h.sound.cursor_le (Nat.le_trans (Nat.le_add_right _ 2) h.sound.room)
  rw [eraseToEndOfLine, whenPrompting_eq h.prompting]
  dsimp only
  rw [h.eraseValue_eq h.sound.cursor_le, Login.write_eq (by
    rw [List.length_replicate]
    exact Nat.le_of_eq (Nat.add_sub_cancel' hsize))]
  have hline := h.sound.holds.truncate
  have hstart : w.current.valueShownStart ≤ l.truncate.text.length :=
    Nat.le_trans h.start_le hline.cursor_le
  refine .of_set h.prompting ⟨hline, ?_, hstart⟩ h.start_le rfl
  rw [Line.length_overwrite, Line.text_truncate]
  exact Nat.le_trans (Nat.add_le_add_right Line.length_front_le 2) h.sound.room

theorem eraseLine_edits : w.Edits l.first.truncate (w.eraseLine c) :=
  h.moveToBegining_edits.trans h.moveToBegining_edits.ready.eraseToEndOfLine_edits

end Login.Ready

/-- The value is shown from the cursor if that is in front of what is shown. -/
lemma Login.showCursor_eq (h : w.current.Sound l) (hcursor : cursor ≤ l.text.length) :
    ∃ start ≤ w.current.cursor,
      w.showCursor c cursor = w.set w.activePrompt (w.current.setShownStart start) := by
  rw [showCursor]
  split_ifs with hbefore
  · rw [Login.eraseValue_eq h (Nat.zero_le _)]
    exact ⟨w.current.cursor, Nat.le_refl _, rfl⟩
  · rw [Login.eraseValue_eq h hcursor]
    exact ⟨w.current.valueShownStart, Nat.le_of_not_lt hbefore, w.set_self.symm⟩

/-- Here the cursor may be in front of what is shown. -/
lemma Login.realizeDeleteChar_edits (hw : w.state = .prompting) (h : w.current.Sound l)
    (hlt : w.current.cursor < l.text.length) : w.Edits l.delete (w.realizeDeleteChar c) := by
  rw [realizeDeleteChar, whenPrompting_eq hw]
  dsimp only
  rw [h.strlen_eq, if_pos hlt, h.stringAt_next hlt]
  generalize hfrom : (if w.current.cursor < w.current.valueShownStart then 0 else
    w.current.cursor) = redrawFrom
  have hle : redrawFrom ≤ w.current.cursor := by
    rw [← hfrom]
    split_ifs
    · exact Nat.zero_le _
    · exact Nat.le_refl _
  have hdelete := h.holds.delete
  have hlength : l.delete.text.length = l.text.length - 1 := by
    have := h.holds.length_back
    rw [Line.length_text_delete, ← h.holds.cursor]
    omega
  have hroom := h.room
  obtain ⟨start, hstart, heq⟩ :=
    showCursor_eq (c := c) h (Nat.le_trans hle (Nat.le_of_lt hlt))
  rw [heq, write_eq, set_prompts_self, set_set]
  · refine .of_draw hw ⟨hdelete, ?_, ?_⟩ hstart rfl ?_
    · show _ ≤ (Line.overwrite _ _ _).length
      rw [Line.length_overwrite]
      exact Nat.le_trans (by omega) hroom
    · exact Nat.le_trans hstart hdelete.cursor_le
    · exact Nat.le_trans hle hdelete.cursor_le
  · have hback := h.holds.length_back
    rw [set_prompts_self, List.length_append, List.length_tail, List.length_singleton]
    show _ ≤ w.current.valueText.length
    omega

namespace Login.Ready

variable (h : w.Ready l)
include h

theorem deleteForwardChar_edits : w.Edits l.delete (w.deleteForwardChar c) := by
  rw [deleteForwardChar, whenPrompting_eq h.prompting]
  by_cases hlt : w.current.cursor < l.text.length
  · exact realizeDeleteChar_edits h.prompting h.sound hlt
  · rw [realizeDeleteChar, whenPrompting_eq h.prompting]
    dsimp only
    rw [h.sound.strlen_eq, if_neg hlt, Line.delete_of_back_nil (h.sound.holds.back_eq_nil.2 hlt)]
    exact .refl h

theorem deleteBackwardChar_edits : w.Edits l.backspace (w.deleteBackwardChar c) := by
  rw [deleteBackwardChar, whenPrompting_eq h.prompting]
  have hcursor := h.sound.holds.cursor
  split_ifs with hpos
  · have hleft := h.setCursor_left.2
    have hfront : l.front ≠ [] := by
      intro hfront
      rw [hfront, List.length_nil] at hcursor
      omega
    have hdelete := realizeDeleteChar_edits (c := c)
      (w := w.set w.activePrompt (w.current.setCursor (w.current.cursor - 1))) (l := l.left)
      h.prompting (by rwa [set_current]) (by
        have hle := h.sound.cursor_le
        rw [set_current, Line.text_left]
        show w.current.cursor - 1 < _
        omega)
    rw [Line.delete_left hfront] at hdelete
    refine ⟨?_, hdelete.ready, ?_⟩
    · have heq := hdelete.eq
      rwa [set_activePrompt, set_set] at heq
    · exact hdelete.state_eq.trans (by rw [set_current]; rfl)
  · rw [Line.backspace_of_front_nil (List.length_eq_zero_iff.1 (by omega))]
    exact .refl h

end Login.Ready

/-- The characters that are put into the value, as many as there is room for. -/
def LoginPrompt.fitting (p : LoginPrompt) (strbuf : Str) : Str :=
  strbuf.take (p.valueText.length - strlen p.valueText - 2)

lemma LoginPrompt.Sound.insertLength_eq (h : p.Sound l) (strbuf : Str) :
    p.insertLength strbuf.length = (p.fitting strbuf).length := by
  have hroom := h.room
  rw [LoginPrompt.insertLength, LoginPrompt.fitting, List.length_take, h.strlen_eq]
  split_ifs <;> omega

lemma LoginPrompt.Sound.fitting_length (h : p.Sound l) (strbuf : Str) :
    l.text.length + (p.fitting strbuf).length + 2 ≤ p.valueText.length := by
  have hroom := h.room
  rw [LoginPrompt.fitting, List.length_take, h.strlen_eq]
  omega

lemma LoginPrompt.take_insertLength (strbuf : Str) :
    strbuf.take (p.fitting strbuf).length = p.fitting strbuf := by
  rw [LoginPrompt.fitting, List.length_take, ← List.take_take, List.take_length]

/-- The buffer in which what is behind the cursor has been moved on, and the gap filled. -/
def LoginPrompt.fill (p : LoginPrompt) (s : Str) : LoginPrompt :=
  { p with
    valueText := Line.overwrite (Line.overwrite p.valueText (p.cursor + s.length)
      (stringAt p.valueText p.cursor ++ [nul])) p.cursor s }

/-- What is written for a key, which may be a NUL. -/
lemma Login.Ready.insertText_eq (h : w.Ready l) {strbuf : Str}
    (hne : w.current.fitting strbuf ≠ []) :
    w.insertText c strbuf =
      ((w.set w.activePrompt (w.current.fill (w.current.fitting strbuf))).drawValue c
        w.current.cursor w.activePrompt).setCursor w.activePrompt
        (w.current.cursor + (w.current.fitting strbuf).length) := by
  have hpos : 0 < (w.current.fitting strbuf).length := List.length_pos_of_ne_nil hne
  have hlength := h.sound.fitting_length strbuf
  have hback := h.sound.holds.length_back
  have hzero : ¬ ((w.current.fitting strbuf).length : Int) = 0 := by omega
  have hneg : ¬ ((w.current.fitting strbuf).length : Int) < 0 := by omega
  have hmove : w.current.cursor + (w.current.fitting strbuf).length +
      (stringAt w.current.valueText w.current.cursor ++ [nul]).length ≤
        w.current.valueText.length := by
    rw [h.sound.stringAt_cursor, List.length_append, List.length_singleton]
    omega
  have hfill : w.current.cursor + (w.current.fitting strbuf).length ≤
      w.current.valueText.length := by omega
  rw [insertText, whenPrompting_eq h.prompting]
  dsimp only
  rw [h.sound.insertLength_eq, if_neg hzero, if_neg hneg, Int.toNat_natCast,
    LoginPrompt.take_insertLength, h.eraseValue_eq h.sound.cursor_le, write_eq (i := _ + _) hmove,
    write_eq, set_prompts_self, set_set]
  · rfl
  · rw [set_prompts_self, Line.length_overwrite]
    exact hfill

lemma Login.Ready.insertText_of_nil (h : w.Ready l) {strbuf : Str}
    (hnil : w.current.fitting strbuf = []) : w.insertText c strbuf = w := by
  rw [insertText, whenPrompting_eq h.prompting]
  dsimp only
  rw [h.sound.insertLength_eq, hnil]
  exact if_pos rfl

/-- Before the cursor is moved it is in front of what has been put in. -/
lemma LoginPrompt.Sound.fill (h : p.Sound l) {s : Str} (hnul : nul ∉ s)
    (hroom : l.text.length + s.length + 2 ≤ p.valueText.length) :
    (p.fill s).Sound ⟨l.front, s ++ l.back⟩ := by
  have hinsert := h.holds.insert hnul (by omega)
  rw [← h.stringAt_cursor] at hinsert
  have htext : (⟨l.front, s ++ l.back⟩ : Line Char).text = (l.insert s).text :=
    (List.append_assoc ..).symm
  have hholds := hinsert.moved htext
  rw [← h.holds.cursor] at hholds
  refine ⟨hholds, ?_, ?_⟩
  · rw [htext, Line.length_text_insert, LoginPrompt.fill, Line.length_overwrite,
      Line.length_overwrite]
    exact hroom
  · rw [htext, Line.length_text_insert]
    exact Nat.le_trans h.start (Nat.le_add_right ..)

theorem Login.Ready.insertText_edits (h : w.Ready l) {strbuf : Str}
    (hnul : nul ∉ w.current.fitting strbuf) :
    w.Edits (l.insert (w.current.fitting strbuf)) (w.insertText c strbuf) := by
  by_cases hne : w.current.fitting strbuf = []
  · have hinsert : l.insert [] = l := by rw [Line.insert, List.append_nil]
    rw [h.insertText_of_nil hne, hne, hinsert]
    exact .refl h
  rw [h.insertText_eq hne]
  have hfill := h.sound.fill hnul (h.sound.fitting_length strbuf)
  generalize w.current.fitting strbuf = s at hfill
  have hdraw : w.Edits _ ((w.set w.activePrompt (w.current.fill s)).drawValue c w.current.cursor
      w.activePrompt) :=
    .of_draw h.prompting hfill h.start_le rfl hfill.cursor_le
  have htext : (l.insert s).text = (⟨l.front, s ++ l.back⟩ : Line Char).text :=
    List.append_assoc ..
  have hfront : w.current.cursor + s.length = (l.insert s).front.length := by
    rw [Line.insert, List.length_append, h.sound.holds.cursor]
  refine hdraw.trans (.of_set hdraw.ready.prompting (hdraw.ready.sound.setCursor ?_ htext) ?_ rfl)
  · rw [hfront]
    exact hdraw.ready.sound.holds.moved htext
  · refine Nat.le_trans hdraw.ready.start_le ?_
    rw [hdraw.ready.sound.holds.cursor, ← h.sound.holds.cursor]
    exact Nat.le_add_right ..

/-- A NUL that is put in ends the value in front of the cursor. -/
lemma Login.Ready.insertText_nul (h : w.Ready l) {strbuf : Str}
    (hnul : nul ∈ w.current.fitting strbuf) :
    strlen (w.insertText c strbuf).current.valueText < (w.insertText c strbuf).current.cursor := by
  rw [h.insertText_eq (List.ne_nil_of_mem hnul)]
  have hlength := h.sound.fitting_length strbuf
  generalize w.current.fitting strbuf = s at hnul hlength
  have hdrawn := redrawn_drawValue c (w.set w.activePrompt (w.current.fill s)) w.current.cursor
    w.activePrompt
  have hactive : ((w.set w.activePrompt (w.current.fill s)).drawValue c w.current.cursor
    w.activePrompt).activePrompt = w.activePrompt := rfl
  generalize (w.set w.activePrompt (w.current.fill s)).drawValue c w.current.cursor
    w.activePrompt = w₁ at hdrawn hactive
  rw [set_prompts_self, ← hactive] at hdrawn
  rw [← hactive, Login.setCursor, set_current]
  obtain ⟨junk, hfill⟩ := h.sound.holds.overwrite_gap (s := s) (by omega)
  rw [← h.sound.stringAt_cursor] at hfill
  show strlen (w₁.prompts w₁.activePrompt).valueText < w.current.cursor + s.length
  rw [hdrawn.valueText_eq, LoginPrompt.fill, hfill, ← List.append_assoc, h.sound.holds.cursor,
    ← List.length_append]
  exact Line.length_takeWhile_lt (List.mem_append_right _ hnul)

/-- What a key does to the line of the active prompt. -/
def LookedUp.edit (p : LoginPrompt) (key : LookedUp) (l : Line Char) : Line Char :=
  match key.keysym with
  | .enter => l
  | .backSpace => l.backspace
  | .delete => l.delete
  | .left => l.left
  | .right => l.right
  | .toEnd => l.last
  | .home => l.first
  | .other => l.insert (p.fitting key.strbuf)

/-- What an action does to the line of the active prompt. -/
def LoginAction.edit (p : LoginPrompt) (l : Line Char) : LoginAction → Line Char
  | .insertChar key => key.edit p l
  | .deleteBackwardChar => l.backspace
  | .deleteForwardChar => l.delete
  | .moveBackwardChar => l.left
  | .moveForwardChar => l.right
  | .moveToBegining => l.first
  | .moveToEnd => l.last
  | .eraseToEndOfLine => l.truncate
  | .eraseLine => l.first.truncate
  | .finishField => l
  | .tabField => l

/-- Another prompt has become active, which takes input, or the widget is done. -/
structure Login.Passes (w w' : Login) : Prop where
  prompts : w'.prompts = w.prompts
  written : w'.writtenOutside = w.writtenOutside
  read : w'.readBehind = w.readBehind
  state : w'.state = .done ∨ w'.state = w.state ∧
    (w'.activePrompt = w.activePrompt ∨ w'.current.state.takesInput = true)

theorem Login.finishField_passes (w : Login) : w.Passes w.finishField := by
  rw [finishField, whenPrompting]
  split_ifs
  · exact ⟨rfl, rfl, rfl, Or.inr ⟨rfl, Or.inl rfl⟩⟩
  · split
    · next n hn =>
      have hinput := List.find?_some hn
      exact ⟨rfl, rfl, rfl, Or.inr ⟨rfl, Or.inr hinput⟩⟩
    · exact ⟨rfl, rfl, rfl, Or.inl rfl⟩

/-- The loop ends at a prompt that takes input. -/
lemma Login.tabLoop_some {promptNum fuel nextPrompt : ℕ}
    (h : w.tabLoop promptNum fuel nextPrompt = some (some n)) :
    (w.prompts n).state.takesInput = true := by
  induction fuel generalizing nextPrompt with
  | zero => cases h
  | succ fuel ih =>
    rw [tabLoop] at h
    dsimp only at h
    split_ifs at h with hback hinput
    · cases Option.some.inj h
    · obtain rfl := Option.some.inj (Option.some.inj h)
      exact hinput
    · exact ih h

theorem Login.tabField_passes (h : w.tabField = some w') : w.Passes w' := by
  rw [tabField] at h
  split_ifs at h
  · obtain rfl := Option.some.inj h
    exact ⟨rfl, rfl, rfl, Or.inr ⟨rfl, Or.inl rfl⟩⟩
  · obtain ⟨nextPrompt, hloop, rfl⟩ := Option.map_eq_some_iff.1 h
    cases nextPrompt with
    | none => exact ⟨rfl, rfl, rfl, Or.inr ⟨rfl, Or.inl rfl⟩⟩
    | some n =>
      have hinput := tabLoop_some hloop
      exact ⟨rfl, rfl, rfl, Or.inr ⟨rfl, Or.inr hinput⟩⟩

/-- No NUL is put into a value. -/
def Login.TypesText (w : Login) (a : LoginAction) : Prop :=
  ∀ key, a = .insertChar key → w.state = .prompting → key.keysym = .other →
    nul ∉ w.current.fitting key.strbuf

lemma Login.Ready.insertChar_edits (h : w.Ready l) {key : LookedUp}
    (htext : w.TypesText (.insertChar key)) :
    w.Edits (key.edit w.current l) (w.insertChar c key) ∨
      key.edit w.current l = l ∧ w.Passes (w.insertChar c key) := by
  have hnul := htext key rfl h.prompting
  obtain ⟨keysym, strbuf, hlength⟩ := key
  cases keysym with
  | enter => exact Or.inr ⟨rfl, w.finishField_passes⟩
  | backSpace => exact Or.inl h.deleteBackwardChar_edits
  | delete => exact Or.inl h.deleteForwardChar_edits
  | left => exact Or.inl h.moveBackwardChar_edits
  | right => exact Or.inl h.moveForwardChar_edits
  | toEnd => exact Or.inl h.moveToEnd_edits
  | home => exact Or.inl h.moveToBegining_edits
  | other =>
    have hedits := h.insertText_edits (c := c) (hnul rfl)
    refine Or.inl ?_
    rw [insertChar]
    dsimp only
    split_ifs with hempty
    · have hnil : w.current.fitting strbuf = [] := by
        rw [LoginPrompt.fitting, List.length_eq_zero_iff.1 hempty, List.take_nil]
      rwa [h.insertText_of_nil hnil] at hedits
    · exact hedits

/-- Each action does to the value of the active prompt what it does to the line. -/
theorem Login.Ready.act_edits (h : w.Ready l) {a : LoginAction} (htext : w.TypesText a)
    (hact : w.act c a = some w') :
    w.Edits (a.edit w.current l) w' ∨ a.edit w.current l = l ∧ w.Passes w' := by
  cases a with
  | tabField => exact Or.inr ⟨rfl, tabField_passes hact⟩
  | finishField =>
    obtain rfl := Option.some.inj hact
    exact Or.inr ⟨rfl, w.finishField_passes⟩
  | insertChar key =>
    obtain rfl := Option.some.inj hact
    exact h.insertChar_edits htext
  | deleteBackwardChar =>
    obtain rfl := Option.some.inj hact
    exact Or.inl h.deleteBackwardChar_edits
  | deleteForwardChar =>
    obtain rfl := Option.some.inj hact
    exact Or.inl h.deleteForwardChar_edits
  | moveBackwardChar =>
    obtain rfl := Option.some.inj hact
    exact Or.inl h.moveBackwardChar_edits
  | moveForwardChar =>
    obtain rfl := Option.some.inj hact
    exact Or.inl h.moveForwardChar_edits
  | moveToBegining =>
    obtain rfl := Option.some.inj hact
    exact Or.inl h.moveToBegining_edits
  | moveToEnd =>
    obtain rfl := Option.some.inj hact
    exact Or.inl h.moveToEnd_edits
  | eraseToEndOfLine =>
    obtain rfl := Option.some.inj hact
    exact Or.inl h.eraseToEndOfLine_edits
  | eraseLine =>
    obtain rfl := Option.some.inj hact
    exact Or.inl h.eraseLine_edits

end Xdm.Greeter
