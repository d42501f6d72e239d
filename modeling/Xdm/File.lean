/-
Lines of the servers file (`xdm/file.c`).
-/
import Xdm.Dpylist

namespace Xdm

/-! ### Words -/

/-- `isspace` in the C locale. -/
def isSpace (c : Char) : Bool := c = ' ' ∨ ('\t' ≤ c ∧ c ≤ '\r')

/-- The words of a line up to a comment; `word` is what has been read of the first. -/
def splitIntoWordsLoop (word : Str) : Str → List Str
  | [] => if word = [] then [] else [word]
  | c :: cs =>
    if isSpace c then
      if word = [] then splitIntoWordsLoop [] cs else word :: splitIntoWordsLoop [] cs
    else if c = '#' then if word = [] then [] else [word]
    else splitIntoWordsLoop (word ++ [c]) cs

def splitIntoWords (s : Str) : List Str := splitIntoWordsLoop [] s

/-! ### Display types -/

def displayTypes : List (Str × DisplayType) :=
  [("local".toList, ⟨.localHost, .permanent, .fromFile⟩),
    ("foreign".toList, ⟨.foreign, .permanent, .fromFile⟩),
    ("dynamic".toList, ⟨.localHost, .transient, .fromFile⟩)]

/-- The display type of a word, and whether it is the default for a word that names
none. -/
def parseDisplayType (string : Str) : DisplayType × Bool :=
  match displayTypes.find? fun t => t.1 = string with
  | some t => (t.2, false)
  | none => (⟨.localHost, .permanent, .fromFile⟩, true)

/-- The display type, the class and the arguments of a line, from its words after the
name: if the second word is no display type and the third one is, the second is the
class. -/
def parseTypeWords (type : Str) (rest : List Str) :
    DisplayType × Option Str × List Str :=
  let (displayType, usedDefault) := parseDisplayType type
  match rest with
  | type' :: argv =>
    if usedDefault then
      let (displayType', usedDefault') := parseDisplayType type'
      if usedDefault' then (displayType', none, rest) else (displayType', some type, argv)
    else (displayType, none, rest)
  | [] => (displayType, none, [])

/-! ### `ParseDisplay` -/

/-- Enter one line of the servers file.  A display type that is not among the acceptable
ones is only logged.  The program has no outcome where the source follows a null pointer:
`strcmp` with a missing class, `freeFileArgs` of a missing argument vector. -/
def parseDisplay (source : Str) : M Unit := do
  match splitIntoWords source with
  | name :: type :: rest =>
    let (displayType, className, argv) := parseTypeWords type rest
    let s ← get
    match findDisplayByName name s.displays with
    | some d =>
      if (className.isSome ∧ d.className = none) ∨ d.argv = none then failure
      else
        writeDisplay d.addr fun display => { display with
          state := .oldEntry
          className := className.or display.className
          displayType := displayType
          argv := some argv }
    | none =>
      let d ← newDisplay name className
      writeDisplay d fun display => { display with
        displayType := displayType
        argv := some argv }
  | _ => pure ()

end Xdm
