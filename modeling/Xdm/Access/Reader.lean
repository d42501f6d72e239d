/-
Reading the access file (`xdm/access.c`): words, host entries, display entries.

`readWord` reads characters with one character of push-back; a reader is what is left of
the file together with the flag `nextIsEOF`.  All allocations are taken to succeed.
-/
import Xdm.Netaddr

namespace Xdm

/-! ### The database -/

/-- What a host entry stands for: the field `type` of `HostEntry` and the member of the
union that goes with it. -/
inductive HostOrAlias
  | alias (aliasName : Str)
  | address (hostAddress : ARRAY8)
  | broadcast
  | chooser
  | noBroadcast
  | anyAddr
deriving DecidableEq

structure HostEntry where
  entry : HostOrAlias
  hopCount : Int
deriving DecidableEq

/-- What a display entry stands for: `type` and `entry` of `DisplayEntry`. -/
inductive DisplayOrAlias
  | alias (aliasName : Str)
  | pattern (displayPattern : Str)
  | address (clientAddress : ARRAY8) (connectionType : CARD16)
  | listen
deriving DecidableEq

structure DisplayEntry where
  entry : DisplayOrAlias
  notAllowed : Bool
  notBroadcast : Bool
  chooser : Bool
  hosts : List HostEntry
deriving DecidableEq

def chooserString : Str := "CHOOSER".toList
def broadcastString : Str := "BROADCAST".toList
def noBroadcastString : Str := "NOBROADCAST".toList
def listenString : Str := "LISTEN".toList
def wildcardString : Str := "*".toList

/-! ### Words -/

/-- How many characters `wordBuffer` takes before `ReadWord` gives up. -/
def wordMax : Nat := 254

/-- The state of `getc` on the access file: the characters still to come, and the flag
`nextIsEOF` that makes the next `ReadWord` return at once. -/
structure Reader where
  input : Str
  nextIsEOF : Bool
deriving DecidableEq

/-- Where the loop of `ReadWord` stands: between characters, after a backslash, or inside
a comment. -/
inductive WordMode
  | plain
  | quoted
  | comment
deriving DecidableEq

/-- The end of a line or of the file, if that ends a word list: the newline goes back. -/
def endOfList (buf input : Str) : Option Str × Reader :=
  if buf = [] then (none, ⟨input, false⟩) else (some buf, ⟨input, true⟩)

/-- The loop of `ReadWord`; `buf` is what `wordBuffer` holds so far. -/
def readWordLoop (eofAtEOL : Bool) : WordMode → Str → Str → Option Str × Reader
  | .comment, buf, [] => endOfList buf []
  | .comment, buf, c :: cs =>
    if c = '\n' then
      if eofAtEOL then endOfList buf (c :: cs)
      else if buf ≠ [] then (some buf, ⟨c :: cs, false⟩)
      else readWordLoop eofAtEOL .plain buf cs
    else readWordLoop eofAtEOL .comment buf cs
  | _, buf, [] =>
    if wordMax ≤ buf.length then (none, ⟨[], false⟩) else endOfList buf []
  | mode, buf, c :: cs =>
    if wordMax ≤ buf.length then (none, ⟨c :: cs, false⟩)
    else if c = '#' then
      if mode = .quoted then readWordLoop eofAtEOL .plain (buf ++ [c]) cs
      else readWordLoop eofAtEOL .comment buf cs
    else if c = '\n' ∧ eofAtEOL = true ∧ mode ≠ .quoted then endOfList buf (c :: cs)
    else if c = '\n' ∨ c = ' ' ∨ c = '\t' then
      if buf ≠ [] then (some buf, ⟨c :: cs, false⟩)
      else readWordLoop eofAtEOL .plain buf cs
    else if c = '\\' ∧ mode ≠ .quoted then readWordLoop eofAtEOL .quoted buf cs
    else readWordLoop eofAtEOL .plain (buf ++ [c]) cs

def readWord (eofAtEOL : Bool) (file : Reader) : Option Str × Reader :=
  if file.nextIsEOF then (none, { file with nextIsEOF := false })
  else readWordLoop eofAtEOL .plain [] file.input

/-! ### Host entries -/

/-- `strtol (s, NULL, 10)`. -/
def strtol (s : Str) : Int :=
  let s := s.dropWhile fun c => c = ' ' ∨ ('\t' ≤ c ∧ c ≤ '\r')
  let (neg, s) := match s with
    | '-' :: s => (true, s)
    | '+' :: s => (false, s)
    | s => (false, s)
  let n : Int := (s.takeWhile Char.isDigit).foldl (fun n c => 10 * n + (c.toNat - 48)) 0
  if neg then max (-n) (-2 ^ 63) else min n (2 ^ 63 - 1)

/-- The address a name stands for in the access file: the first one it resolves to. -/
def firstAddress (resolver : Str → List SockAddr) (name : Str) :
    Option (ARRAY8 × CARD16) :=
  match resolver name with
  | .inet _ addr :: _ => some (addr.1, familyInternet)
  | .inet6 _ addr _ :: _ => some (addr.1, familyInternet6)
  | _ => none

/-- The host name and the hop count of a word, which a slash separates. -/
def splitHops (word : Str) : Str × Int :=
  if '/' ∈ word then
    let hops := (strtol (word.reverse.takeWhile (· ≠ '/')).reverse).bmod (2 ^ 32)
    ((word.reverse.dropWhile (· ≠ '/')).tail.reverse, if hops < 1 then 1 else hops)
  else (word, 1)

/-- The host entry of a word; none for a name that does not resolve. -/
def hostEntryOf (resolver : Str → List SockAddr) (word : Str) : Option HostEntry :=
  if word.head? = some '%' then some ⟨.alias word, 1⟩
  else if word = chooserString then some ⟨.chooser, 1⟩
  else if word = broadcastString then some ⟨.broadcast, 1⟩
  else if word = noBroadcastString then some ⟨.noBroadcast, 1⟩
  else if word = wildcardString then some ⟨.anyAddr, 1⟩
  else
    let (name, hopCount) := splitHops word
    (firstAddress resolver name).map fun addr => ⟨.address addr.1, hopCount⟩

/-- `n` bounds the number of words that may be tried; it is never reached when it is
larger than the number of characters to read. -/
def readHostEntry (resolver : Str → List SockAddr) : Nat → Reader →
    Option HostEntry × Reader
  | 0, file => (none, file)
  | n + 1, file =>
    match readWord true file with
    | (none, file) => (none, file)
    | (some word, file) =>
      match hostEntryOf resolver word with
      | some h => (some h, file)
      | none => readHostEntry resolver n file

/-! ### Display entries -/

def hasGlobCharacters (s : Str) : Bool :=
  s.any fun c => c = '?' ∨ c = '*'

/-- What the first word of a line stands for, and whether it is negated; none for a name
that does not resolve. -/
def displayOf (resolver : Str → List SockAddr) (word : Str) :
    Option (DisplayOrAlias × Bool) :=
  if word.head? = some '%' then some (.alias word, false)
  else if word = listenString then some (.listen, false)
  else
    let notAllowed : Bool := word.head? = some '!'
    let name := if notAllowed then word.tail else word
    if hasGlobCharacters name then some (.pattern name, notAllowed)
    else (firstAddress resolver name).map fun addr => (.address addr.1 addr.2, notAllowed)

/-- Put a host entry in front of those that follow it on its line. -/
def DisplayEntry.addHost (h : HostEntry) (d : DisplayEntry) : DisplayEntry :=
  match h.entry with
  | .chooser => { d with chooser := true }
  | .noBroadcast => { d with notBroadcast := true }
  | .anyAddr => if d.entry = .listen then { d with hosts := h :: d.hosts } else d
  | _ => { d with hosts := h :: d.hosts }

/-- The loop of `ReadDisplayEntry` over the host entries of `d`. -/
def readHosts (resolver : Str → List SockAddr) (d : DisplayEntry) : Nat → Reader →
    DisplayEntry × Reader
  | 0, file => (d, file)
  | n + 1, file =>
    match readHostEntry resolver (file.input.length + 1) file with
    | (none, file) => (d, file)
    | (some h, file) =>
      let (d, file) := readHosts resolver d n file
      (d.addHost h, file)

def readDisplayEntry (resolver : Str → List SockAddr) : Nat → Reader →
    Option DisplayEntry × Reader
  | 0, file => (none, file)
  | n + 1, file =>
    match readWord false file with
    | (none, file) => (none, file)
    | (some word, file) =>
      match displayOf resolver word with
      | none => readDisplayEntry resolver n file
      | some (entry, notAllowed) =>
        let (d, file) :=
          readHosts resolver ⟨entry, notAllowed, false, false, []⟩ (file.input.length + 1) file
        (some d, file)

def readAccessDatabase (resolver : Str → List SockAddr) : Nat → Reader → List DisplayEntry
  | 0, _ => []
  | n + 1, file =>
    match readDisplayEntry resolver (file.input.length + 1) file with
    | (none, _) => []
    | (some d, file) => d :: readAccessDatabase resolver n file

/-- The database that `ScanAccessDatabase` leaves.  It is empty when there is no access
file or the file cannot be opened. -/
def scanAccessDatabase (w : World) (cfg : Config) : List DisplayEntry :=
  if cfg.accessFile = [] then []
  else match w.accessText with
    | none => []
    | some text => readAccessDatabase w.getaddrinfo (text.length + 1) ⟨text, false⟩

end Xdm
