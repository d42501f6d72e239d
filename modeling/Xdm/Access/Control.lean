/-
Access control for XDMCP (`xdm/access.c`): which clients the database admits, and to which
hosts the indirect queries of a client go.
-/
import Xdm.Names
import Xdm.Access.Reader

namespace Xdm

/-! ### Patterns -/

/-- The loop of `patternMatch` over the non-empty rests of the string after a star. -/
def matchRests (f : Str → Bool) : Str → Bool
  | [] => false
  | c :: cs => f (c :: cs) || matchRests f cs

/-- `patternMatch (string, pattern)`.  A backslash at the end of the pattern stands for
its terminating NUL; where it meets the NUL of the string the function goes on reading
behind both of them. -/
def patternMatch (w : World) : (pattern string : Str) → Bool
  | [], s => s == []
  | '*' :: ps, s => if ps = [] then true else matchRests (patternMatch w ps) s
  | '?' :: _, [] => false
  | '?' :: ps, _ :: s => patternMatch w ps s
  | ['\\'], [] => w.strayMatch
  | ['\\'], _ :: _ => false
  | '\\' :: _ :: _, [] => false
  | '\\' :: p :: ps, c :: s => p.toLower == c.toLower && patternMatch w ps s
  | _ :: _, [] => false
  | p :: ps, c :: s => p.toLower == c.toLower && patternMatch w ps s

/-! ### The entry for a client -/

/-- Whether an entry is about a client: the `switch` that all scans of the database
share.  Macros and `LISTEN` lines are about none. -/
def matchesClient (w : World) (clientAddress : ARRAY8) (connectionType : CARD16)
    (d : DisplayEntry) : Bool :=
  match d.entry with
  | .alias _ => false
  | .listen => false
  | .pattern displayPattern =>
    patternMatch w displayPattern
      ((networkAddressToHostname w connectionType clientAddress).getD [])
  | .address address ct => ct == connectionType && address == clientAddress

/-- The entry that decides on direct service: the first one for the client that has no
host list. -/
def directEntry (w : World) (database : List DisplayEntry) (clientAddress : ARRAY8)
    (connectionType : CARD16) : Option DisplayEntry :=
  database.find? fun d => d.hosts = [] ∧ matchesClient w clientAddress connectionType d

/-- Returns true if the given client is acceptable to the local host: if it occurs
without a host list. -/
def acceptableDisplayAddress (w : World) (cfg : Config) (database : List DisplayEntry)
    (clientAddress : ARRAY8) (connectionType : CARD16) (type : XdmOpCode) : Bool :=
  if cfg.accessFile = [] then true
  else if type = .indirectQuery then true
  else match directEntry w database clientAddress connectionType with
    | none => false
    | some d => !d.notAllowed && (if type = .broadcastQuery then !d.notBroadcast else true)

/-- The entry at which the scans for indirect queries stop: the first one for the client
that has a host list. -/
def indirectEntry (w : World) (database : List DisplayEntry) (clientAddress : ARRAY8)
    (connectionType : CARD16) : Option DisplayEntry :=
  database.find? fun d => d.hosts ≠ [] ∧ matchesClient w clientAddress connectionType d

/-! ### Expanding host lists -/

def maxDepth : Nat := 32

/-- What a scan of a host list comes to: whether it met a local address, and the
addresses it passed to the callback, in order. -/
structure HostScan where
  haveLocalhost : Bool
  calls : List ARRAY8

def HostScan.append (a b : HostScan) : HostScan :=
  ⟨a.haveLocalhost || b.haveLocalhost, a.calls ++ b.calls⟩

def HostScan.join (scans : List HostScan) : HostScan :=
  scans.foldr HostScan.append ⟨false, []⟩

/-- One turn of the loop of `scanHostlist`; `n` is the number of macro levels that may
still be entered, `MAX_DEPTH - depth`.  A macro goes through `indirectAlias`. -/
def scanHost (w : World) (database : List DisplayEntry) (connectionType : CARD16)
    (broadcast : Bool) : Nat → HostEntry → HostScan
  | n, h =>
    match h.entry, n with
    | .alias _, 0 => ⟨false, []⟩
    | .alias aliasName, n + 1 =>
      HostScan.join ((database.filter fun d => match d.entry with
        | .alias name => patternMatch w name aliasName
        | _ => false).map fun d =>
          HostScan.join (d.hosts.map (scanHost w database connectionType broadcast n)))
    | .address address, _ =>
      if isLocalAddress w address connectionType then ⟨true, []⟩ else ⟨false, [address]⟩
    | .broadcast, _ => ⟨false, if broadcast then [bytesOf broadcastString] else []⟩
    | _, _ => ⟨false, []⟩

def scanHostlist (w : World) (database : List DisplayEntry) (connectionType : CARD16)
    (depth : Nat) (broadcast : Bool) (hosts : List HostEntry) : HostScan :=
  HostScan.join (hosts.map (scanHost w database connectionType broadcast (maxDepth - depth)))

/-- The hosts to which an indirect query goes, and whether the local host is one.  The
argument `choice` is what `IndirectChoice` returns for the client. -/
def forEachMatchingIndirectHost (w : World) (database : List DisplayEntry)
    (choice : Option ARRAY8) (clientAddress : ARRAY8) (connectionType : CARD16) : HostScan :=
  match indirectEntry w database clientAddress connectionType with
  | none => ⟨false, []⟩
  | some d =>
    if d.notAllowed then ⟨false, []⟩
    else if d.chooser then
      match choice with
      | none => ⟨true, []⟩
      | some choice =>
        if isLocalAddress w choice connectionType then ⟨true, []⟩ else ⟨false, [choice]⟩
    else scanHostlist w database connectionType 0 false d.hosts

def useChooser (w : World) (database : List DisplayEntry) (choice : Option ARRAY8)
    (clientAddress : ARRAY8) (connectionType : CARD16) : Bool :=
  match indirectEntry w database clientAddress connectionType with
  | none => false
  | some d => !d.notAllowed && d.chooser && choice.isNone

/-- Whether a scan for the client asks `IndirectChoice`, which drops choices that have
timed out. -/
def asksChoice (w : World) (database : List DisplayEntry) (clientAddress : ARRAY8)
    (connectionType : CARD16) : Bool :=
  match indirectEntry w database clientAddress connectionType with
  | none => false
  | some d => !d.notAllowed && d.chooser

end Xdm
