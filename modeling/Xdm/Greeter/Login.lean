/-
# The values of the login widget

The prompts of `greeter/Login.c` and what it does to the values that are typed for them: the
actions of the translation table, `SetPrompt`, `SetValue` and `ResetLogin`.  The build is the one
with PAM, in which `GreetDone` leaves the values alone.  Of the drawing there is what sets the part
of a value that is shown, and what `realizeValue` reads for it.
-/
import Xdm.Greeter.Fail
import Xdm.Greeter.Prompt
import Xdm.Lib.LineEdit
import Xdm.Lib.Run
import Mathlib.Logic.Function.Basic

namespace Xdm.Greeter

/-! ### The widget (`greeter/LoginP.h`) -/

inductive PromptNum
  | username
  | password
deriving DecidableEq

/-- The number of a prompt. -/
def PromptNum.number : PromptNum → ℕ
  | username => 0
  | password => 1

/-- The prompt with this number, if it is not greater than `LAST_PROMPT`. -/
def PromptNum.numbered : ℕ → Option PromptNum
  | 0 => some username
  | 1 => some password
  | _ + 2 => none

inductive PromptState
  | notShown
  | echoOn
  | echoOff
  | textInfo
deriving DecidableEq

/-- Something can be typed. -/
def PromptState.takesInput (state : PromptState) : Bool := state = .echoOn ∨ state = .echoOff

/-- `valueTextMax` is the size of `valueText`, which is the length of the list. -/
structure LoginPrompt where
  promptText : Option Str
  defaultPrompt : Str
  valueText : List Char
  valueShownStart : ℕ
  valueShownEnd : ℕ
  cursor : ℕ
  state : PromptState

inductive LoginState
  | initializing
  | prompting
  | showMessage
  | done
deriving DecidableEq

/-- Besides the fields of the widget there is whether something has been written outside a value
buffer, and whether `realizeValue` has read behind the end of a value. -/
structure Login where
  state : LoginState
  activePrompt : PromptNum
  prompts : PromptNum → LoginPrompt
  writtenOutside : Bool
  readBehind : Bool

/-- What the widget has been given: the widths in the font of the text, the width that there is for
the value behind a prompt, the resources for echoed passwords, and the memory in front of a
message. -/
structure Screen where
  textWidth : List Char → Int
  maxValueW : PromptNum → Option Str → Int
  echoPasswd : Bool
  echoPasswdChar : Char
  before : Int → Char

def strlen (text : List Char) : ℕ := (stringAt text 0).length

/-! ### Changes to the widget -/

def Login.set (w : Login) (n : PromptNum) (p : LoginPrompt) : Login :=
  { w with prompts := Function.update w.prompts n p }

def LoginPrompt.setCursor (p : LoginPrompt) (cursor : ℕ) : LoginPrompt :=
  { p with cursor := cursor }

def LoginPrompt.setShownStart (p : LoginPrompt) (start : ℕ) : LoginPrompt :=
  { p with valueShownStart := start }

def Login.setCursor (w : Login) (n : PromptNum) (cursor : ℕ) : Login :=
  w.set n ((w.prompts n).setCursor cursor)

def Login.setShownStart (w : Login) (n : PromptNum) (start : ℕ) : Login :=
  w.set n ((w.prompts n).setShownStart start)

/-- `memmove`, `strcpy`, `strncpy` and `bzero` to a value buffer. -/
def Login.write (w : Login) (n : PromptNum) (i : ℕ) (cells : List Char) : Login :=
  let p := w.prompts n
  { w.set n { p with valueText := Line.overwrite p.valueText i cells } with
    writtenOutside := w.writtenOutside || decide (p.valueText.length < i + cells.length) }

/-! ### Drawing -/

/-- `bgGC` erases. -/
inductive GC
  | bgGC
  | textGC
deriving DecidableEq

/-- The value is drawn as a copy of password characters. -/
def Screen.isMasked (c : Screen) (p : LoginPrompt) : Bool := p.state = .echoOff ∧ c.echoPasswd

/-- Where `text` points to in `realizeValue`. -/
def Screen.text (c : Screen) (p : LoginPrompt) : List Char :=
  if c.isMasked p then List.replicate (strlen p.valueText) c.echoPasswdChar ++ [nul]
  else p.valueText

/-- The value is drawn, not only erased. -/
def Screen.draws (c : Screen) (p : LoginPrompt) (gc : GC) : Bool :=
  gc ≠ .bgGC ∧ (p.state = .echoOn ∨ p.state = .textInfo ∨ c.isMasked p)

/-- Something is read that is not in front of the end of the value. -/
def Screen.readsBehind (c : Screen) (p : LoginPrompt) (cursor : ℕ) (gc : GC) : Bool :=
  c.isMasked p ∧ nul ∉ p.valueText ∨
    p.valueShownStart < cursor ∧ strlen p.valueText < cursor ∨
    c.draws p gc ∧ (nul ∉ p.valueText ∨ strlen p.valueText < max cursor p.valueShownStart)

/-- The loop that finds the part which fits, by its length and its offset. -/
def fitText (textWidth : List Char → Int) (width : Int) (text : List Char) (cursor : ℕ) :
    ℕ → ℕ → ℕ × ℕ
  | 0, offset => (0, offset)
  | textlen + 1, offset =>
    if width < textWidth ((text.drop offset).take (textlen + 1)) then
      fitText textWidth width text cursor textlen
        (if offset < cursor then offset + 1 else offset)
    else (textlen + 1, offset)

/-- The part of the value that is shown afterwards. -/
def Screen.shown (c : Screen) (n : PromptNum) (p : LoginPrompt) (cursor : ℕ) : LoginPrompt :=
  let text := c.text p
  let width := c.maxValueW n p.promptText
  let curoff := if p.valueShownStart < cursor then c.textWidth (text.take cursor) else 0
  if width - curoff < c.textWidth (stringAt text (max cursor p.valueShownStart)) then
    let (textlen, offset) := fitText c.textWidth width text p.cursor
      (stringAt text p.valueShownStart).length p.valueShownStart
    { p with valueShownStart := offset, valueShownEnd := offset + textlen }
  else p

def Login.realizeValue (c : Screen) (w : Login) (cursor : ℕ) (n : PromptNum) (gc : GC) : Login :=
  let p := w.prompts n
  { w.set n (if c.draws p gc then c.shown n p cursor else p) with
    readBehind := w.readBehind || c.readsBehind p cursor gc }

def Login.eraseValue (c : Screen) (w : Login) (cursor : ℕ) (n : PromptNum) : Login :=
  w.realizeValue c cursor n .bgGC

def Login.drawValue (c : Screen) (w : Login) (cursor : ℕ) (n : PromptNum) : Login :=
  w.realizeValue c cursor n .textGC

def Login.drawPrompt (c : Screen) (w : Login) (n : PromptNum) : Login :=
  if (w.prompts n).state = .notShown then w else w.drawValue c 0 n

/-- What `draw_it` does to the values. -/
def Login.drawIt (c : Screen) (w : Login) : Login :=
  (w.drawPrompt c .username).drawPrompt c .password

/-! ### Setting prompts and values -/

/-- The text of a prompt that is shown, a copy of the message or of the default. -/
def Login.setPromptText (c : Screen) (w : Login) (n : PromptNum) (message : Option Str)
    (state : PromptState) : Login :=
  let p := w.prompts n
  w.set n { p with
    promptText :=
      if state = .notShown then none
      else some (copyPrompt c.before (message.getD p.defaultPrompt)).text
    state := state }

/-- The state of the widget after `SetPrompt` with a prompt that is shown. -/
def Login.setActive (w : Login) (n : PromptNum) (state : PromptState) : Login :=
  if state = .textInfo then { w with state := .showMessage }
  else { w with activePrompt := n, state := .prompting }

def Login.setPrompt (c : Screen) (w : Login) (n : PromptNum) (message : Option Str)
    (state : PromptState) : Login :=
  let w := w.setPromptText c n message state
  if state = .notShown ∨ w.state = .initializing then w
  else ((w.setActive n state).setCursor n 0).drawIt c

/-- The value, with NULs up to `size` characters. -/
def strncpy (value : Str) (size : ℕ) : List Char :=
  value.take size ++ List.replicate (size - value.length) nul

/-- Clears the buffer if there is no value.  Otherwise a NUL is put behind what has been copied. -/
def Login.storeValue (w : Login) (n : PromptNum) (value : Option Str) : Login :=
  let valueTextMax := (w.prompts n).valueText.length
  match value with
  | none => w.write n 0 (List.replicate valueTextMax nul)
  | some value => (w.write n 0 (strncpy value valueTextMax)).write n valueTextMax [nul]

def LoginPrompt.showFromStart (p : LoginPrompt) : LoginPrompt :=
  { p with valueShownStart := 0, valueShownEnd := 0, cursor := 0 }

def Login.setValue (w : Login) (n : PromptNum) (value : Option Str) : Login :=
  let w := w.storeValue n value
  w.set n (w.prompts n).showFromStart

/-- `ResetLogin`, for one prompt. -/
def Login.resetPrompt (c : Screen) (w : Login) (n : PromptNum) : Login :=
  let w := (w.eraseValue c 0 n).write n 0 (List.replicate (w.prompts n).valueText.length nul)
  (w.setShownStart n 0).setCursor n 0

def Login.resetLogin (c : Screen) (w : Login) : Login :=
  { (w.resetPrompt c .username).resetPrompt c .password with
    state := .prompting, activePrompt := .username }

/-! ### Actions -/

/-- The prompt that is edited. -/
def Login.current (w : Login) : LoginPrompt := w.prompts w.activePrompt

/-- What the actions that edit begin with. -/
def Login.whenPrompting (w : Login) (action : Login → Login) : Login :=
  if w.state ≠ .prompting then w else action w

/-- If the cursor has been moved in front of what is shown, the value is shown from there. -/
def Login.showCursor (c : Screen) (w : Login) (redrawFrom : ℕ) : Login :=
  let n := w.activePrompt
  let p := w.current
  if p.cursor < p.valueShownStart then (w.eraseValue c 0 n).setShownStart n p.cursor
  else w.eraseValue c redrawFrom n

def Login.realizeDeleteChar (c : Screen) (w : Login) : Login :=
  w.whenPrompting fun w =>
    let n := w.activePrompt
    let p := w.current
    let redrawFrom := if p.cursor < p.valueShownStart then 0 else p.cursor
    if p.cursor < strlen p.valueText then
      ((w.showCursor c redrawFrom).write n p.cursor
        (stringAt p.valueText (p.cursor + 1) ++ [nul])).drawValue c redrawFrom n
    else w

def Login.deleteBackwardChar (c : Screen) (w : Login) : Login :=
  w.whenPrompting fun w =>
    if 0 < w.current.cursor then
      (w.setCursor w.activePrompt (w.current.cursor - 1)).realizeDeleteChar c
    else w

def Login.deleteForwardChar (c : Screen) (w : Login) : Login :=
  w.whenPrompting fun w => w.realizeDeleteChar c

def Login.moveBackwardChar (c : Screen) (w : Login) : Login :=
  w.whenPrompting fun w =>
    let n := w.activePrompt
    let w := if 0 < w.current.cursor then w.setCursor n (w.current.cursor - 1) else w
    if w.current.cursor < w.current.valueShownStart then
      ((w.eraseValue c 0 n).setShownStart n w.current.cursor).drawValue c 0 n
    else w

/-- The value is drawn from its start if the cursor is behind what is shown. -/
def Login.redrawBehind (c : Screen) (w : Login) : Login :=
  if w.current.valueShownEnd < w.current.cursor then
    (w.eraseValue c 0 w.activePrompt).drawValue c 0 w.activePrompt
  else w

def Login.moveForwardChar (c : Screen) (w : Login) : Login :=
  w.whenPrompting fun w =>
    if w.current.cursor < strlen w.current.valueText then
      (w.setCursor w.activePrompt (w.current.cursor + 1)).redrawBehind c
    else w

def Login.moveToBegining (c : Screen) (w : Login) : Login :=
  w.whenPrompting fun w =>
    let n := w.activePrompt
    let w := w.setCursor n 0
    if 0 < w.current.valueShownStart then
      ((w.eraseValue c 0 n).setShownStart n 0).drawValue c 0 n
    else w

def Login.moveToEnd (c : Screen) (w : Login) : Login :=
  w.whenPrompting fun w =>
    (w.setCursor w.activePrompt (strlen w.current.valueText)).redrawBehind c

def Login.eraseToEndOfLine (c : Screen) (w : Login) : Login :=
  w.whenPrompting fun w =>
    let p := w.current
    (w.eraseValue c p.cursor w.activePrompt).write w.activePrompt p.cursor
      (List.replicate (p.valueText.length - p.cursor) nul)

def Login.eraseLine (c : Screen) (w : Login) : Login := (w.moveToBegining c).eraseToEndOfLine c

/-- The prompts behind one, up to `LAST_PROMPT`. -/
def PromptNum.behind : PromptNum → List PromptNum
  | username => [password]
  | password => []

def Login.finishField (w : Login) : Login :=
  w.whenPrompting fun w =>
    match w.activePrompt.behind.find? fun n => (w.prompts n).state.takesInput with
    | some nextPrompt => { w with activePrompt := nextPrompt }
    | none => { w with state := .done }

/-- The loop of `TabField`, with the fuel for its passes.  It ends with the next prompt, or with
none if it has come back to the one it has started at. -/
def Login.tabLoop (w : Login) (promptNum : ℕ) : ℕ → ℕ → Option (Option PromptNum)
  | 0, _ => none
  | fuel + 1, nextPrompt =>
    if nextPrompt = promptNum then some none
    else
      let n := (PromptNum.numbered nextPrompt).getD .username
      if (w.prompts n).state.takesInput then some (some n)
      else w.tabLoop promptNum fuel (n.number + 1)

/-- If no prompt takes input, the loop does not come back to the first prompt.  There is no outcome
then. -/
def Login.tabField (w : Login) : Option Login :=
  if w.state ≠ .prompting then some w
  else
    (w.tabLoop w.activePrompt.number 3 (w.activePrompt.number + 1)).map fun nextPrompt =>
      { w with activePrompt := nextPrompt.getD w.activePrompt }

/-- How many characters are put into a value.  The sizes are unsigned, the length is not. -/
def LoginPrompt.insertLength (p : LoginPrompt) (len : ℕ) : Int :=
  if (p.valueText.length : Int) - 1 ≤ len + strlen p.valueText then
    p.valueText.length - strlen p.valueText - 2
  else len

/-- The end of `InsertChar`.  Of a negative length `memmove` makes a size that is greater than any
buffer. -/
def Login.insertText (c : Screen) (w : Login) (strbuf : Str) : Login :=
  w.whenPrompting fun w =>
    let n := w.activePrompt
    let p := w.current
    let len := p.insertLength strbuf.length
    if len = 0 then w
    else if len < 0 then { w with writtenOutside := true }
    else
      ((((w.eraseValue c p.cursor n).write n (p.cursor + len.toNat)
        (stringAt p.valueText p.cursor ++ [nul])).write n p.cursor
        (strbuf.take len.toNat)).drawValue c p.cursor n).setCursor n (p.cursor + len.toNat)

/-- The keys that `InsertChar` knows, those with the same meaning as one. -/
inductive Keysym
  | enter
  | backSpace
  | delete
  | left
  | right
  | toEnd
  | home
  | other
deriving DecidableEq

/-- What is looked up for a key: its symbol, and the characters in `strbuf`, which are ended by a
NUL that is put behind them. -/
structure LookedUp where
  keysym : Keysym
  strbuf : Str
  length_lt : strbuf.length < 128

def Login.insertChar (c : Screen) (w : Login) (key : LookedUp) : Login :=
  match key.keysym with
  | .enter => w.finishField
  | .backSpace => w.deleteBackwardChar c
  | .delete => w.deleteForwardChar c
  | .left => w.moveBackwardChar c
  | .right => w.moveForwardChar c
  | .toEnd => w.moveToEnd c
  | .home => w.moveToBegining c
  | .other => if key.strbuf.length = 0 then w else w.insertText c key.strbuf

/-- The actions that edit the values (`loginActionsTable`). -/
inductive LoginAction
  | insertChar (key : LookedUp)
  | deleteBackwardChar
  | deleteForwardChar
  | moveBackwardChar
  | moveForwardChar
  | moveToBegining
  | moveToEnd
  | eraseToEndOfLine
  | eraseLine
  | finishField
  | tabField

def Login.act (c : Screen) (w : Login) : LoginAction → Option Login
  | .insertChar key => some (w.insertChar c key)
  | .deleteBackwardChar => some (w.deleteBackwardChar c)
  | .deleteForwardChar => some (w.deleteForwardChar c)
  | .moveBackwardChar => some (w.moveBackwardChar c)
  | .moveForwardChar => some (w.moveForwardChar c)
  | .moveToBegining => some (w.moveToBegining c)
  | .moveToEnd => some (w.moveToEnd c)
  | .eraseToEndOfLine => some (w.eraseToEndOfLine c)
  | .eraseLine => some (w.eraseLine c)
  | .finishField => some w.finishField
  | .tabField => w.tabField

/-! ### Runs -/

/-- What is done with the widget.  `endSession` stands for the actions `RestartSession`,
`AbortSession` and `AbortDisplay`, and `redisplay` for an expose event. -/
inductive LoginCall
  | action (a : LoginAction)
  | setPrompt (n : PromptNum) (message : Option Str) (state : PromptState)
  | setValue (n : PromptNum) (value : Option Str)
  | resetLogin
  | redisplay
  | endSession

def Login.step (c : Screen) (call : LoginCall) : Prog Login Unit := fun w =>
  match call with
  | .action a => (w.act c a).map ((), ·)
  | .setPrompt n message state => some ((), w.setPrompt c n message state)
  | .setValue n value => some ((), w.setValue n value)
  | .resetLogin => some ((), w.resetLogin c)
  | .redisplay => some ((), w.drawIt c)
  | .endSession => some ((), { w with state := .done })

/-- The buffers of the values (`greeter/Login.h`), of `NAME_LEN` and `PASSWORD_LEN` characters.
These are 32 or what the system has for them. -/
structure LoginData where
  name : List Char
  passwd : List Char
  name_length : 2 ≤ name.length
  passwd_length : 2 ≤ passwd.length

/-- The memory of a widget is cleared before `Initialize`. -/
def LoginPrompt.initial (defaultPrompt : Str) (valueText : List Char) : LoginPrompt where
  promptText := none
  defaultPrompt := defaultPrompt
  valueText := valueText
  valueShownStart := 0
  valueShownEnd := 0
  cursor := 0
  state := .notShown

/-- `Initialize`, of a widget whose buffers are in some memory. -/
def Login.initial (c : Screen) (namePrompt passwdPrompt : Str) (data : LoginData) : Login :=
  let w : Login := {
    state := .initializing
    activePrompt := .username
    prompts := Function.update (fun _ => .initial passwdPrompt (data.passwd.set 0 nul)) .username
      (.initial namePrompt (data.name.set 0 nul))
    writtenOutside := false
    readBehind := false }
  { (w.setPrompt c .password none .echoOff).setPrompt c .username none .echoOn with
    state := .prompting }

end Xdm.Greeter
