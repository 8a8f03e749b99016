import Rulebook.Constraint
import Rulebook.Rule

/-!
Presence groups: fields of which so many have to be there, or may be there. A group is written as
the paths of its fields, and among them, wherever it suits, a threshold and a message; the first of
each counts, but a later threshold has to be well formed too.
-/

namespace Rulebook

/-- A group of fields of which so many are to be there at least, or at most. -/
structure PresenceGroup where
  fields : List String
  threshold : Nat
  message : Option String
  deriving DecidableEq, Repr

inductive PresenceToken where
  | field (path : String)
  | size (count : Nat)
  | message (text : String)
  deriving DecidableEq, Repr

namespace PresenceToken

def read (group token : String) : Except Fault PresenceToken :=
  match Text.after? "size:".toList token.toList with
  | some argument => (Constraint.readCount "size" argument).map .size
  | none =>
    match Text.after? "error:".toList token.toList with
    | some text => .ok (.message (String.ofList text))
    | none => if token.isEmpty then .error (.malformedPresence group) else .ok (.field token)

def field? : PresenceToken → Option String
  | .field path => some path
  | _ => none

def size? : PresenceToken → Option Nat
  | .size count => some count
  | _ => none

def message? : PresenceToken → Option String
  | .message text => some text
  | _ => none

end PresenceToken

namespace PresenceGroup

/-- The group that tokens make: its fields in order, and the first threshold and message. -/
def ofTokens (tokens : List PresenceToken) : PresenceGroup :=
  { fields := tokens.filterMap PresenceToken.field?
    threshold := (tokens.findSome? PresenceToken.size?).getD 1
    message := tokens.findSome? PresenceToken.message? }

def read (group : String) : Except Fault PresenceGroup := do
  let tokens ← (splitText '|' group).mapM (PresenceToken.read group)
  let parsed := ofTokens tokens
  if parsed.fields.isEmpty then throw (.malformedPresence group) else return parsed

end PresenceGroup

def Rule.groups? : Rule → Option (List String)
  | .text group => some [group]
  | .list groups => some groups
  | .nested _ | .each _ => none

end Rulebook
