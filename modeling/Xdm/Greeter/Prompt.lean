/-
# The text of a prompt

`SetPrompt` (`greeter/Login.c`) copies a message and puts spaces behind it.  The copy is described
here with the bytes that are read and written for it.
-/
import Xdm.File

namespace Xdm.Greeter

/-- A length as an `int`. -/
def toInt (n : ℕ) : Int := (n + 2 ^ 31) % 2 ^ 32 - 2 ^ 31

/-- The copy in `prompt`, the bytes that have been allocated for it, the first offset in the
message that has been read, and the first one in `prompt` behind what has been written. -/
structure PromptCopy where
  text : Str
  size : ℕ
  readFrom : Int
  writtenTo : ℕ

/-- A character of the message.  What is in front of it is not known. -/
def charAt (before : Int → Char) (message : Str) (i : Int) : Char :=
  if i < 0 then before i else message.getD i.toNat '\x00'

/-- The space that is written if the character is none. -/
def spaceUnless (c : Char) : Str := if isSpace c then [] else [' ']

/-- The part of `SetPrompt` between `strlen` and the end of the copy.  `XtMalloc` is given a 32 bit
number and `strncpy` one of 64 bits. -/
def copyPrompt (before : Int → Char) (message : Str) : PromptCopy :=
  let messageLen := toInt message.length
  let n := (messageLen % 2 ^ 64).toNat
  let spaces := spaceUnless (charAt before message (messageLen - 2)) ++
    spaceUnless (charAt before message (messageLen - 1))
  { text := message.take n ++ spaces
    size := ((messageLen + 3) % 2 ^ 32).toNat
    readFrom := min 0 (messageLen - 2)
    writtenTo := max n (messageLen + spaces.length + 1).toNat }

variable {before : Int → Char} {message : Str} {c c' : Char}

end Xdm.Greeter
