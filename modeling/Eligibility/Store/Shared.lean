/-
# A store behind a client

Every key of the store starts with the name of its space.  The members of a tag are kept beside
the values, in a set under a key of the same space.  A fault of the client is noted and becomes
a failure that names the operation.
-/

import Eligibility.Store.Basic
import Eligibility.Store.Client

namespace Eligibility

/-- A store behind a client, once there is one. -/
structure Shared where
  space : String := "eligibility"
  client : Option Client

namespace Shared

/-- The client's key for a key. -/
def keyOf (s : Shared) (key : String) : String := s.space ++ ":" ++ key

/-- The client's key for a tag. -/
def tagKeyOf (s : Shared) (tag : String) : String := s.space ++ ":tag:" ++ tag

/-- How many keys a page of a scan is asked to have. -/
def scanCount : Nat := 500

/-- An exchange with the client, and its result as a value. There has to be a client. -/
def onClient {α : Type} (x : Shared → Exchange α) : Step Shared (Except ClientFault α) := fun s =>
  match s.client with
  | none => ⟨.error .storeNotStarted, s, []⟩
  | some client =>
    let outcome := x s client
    ⟨.ok outcome.result, { s with client := some outcome.state }, outcome.events⟩

/-- What becomes of a fault: one of the client's own is noted and becomes a failure of the
store. -/
def raise {α : Type} (event : Event) (operation : Option String) (fault : ClientFault) :
    Step Shared α :=
  if fault.own then do
    Action.note event
    Action.fail (.storeFailed fault.message operation)
  else Action.fail (.clientFailed fault.kind fault.message)

/-- An exchange with the client as an operation of the store. -/
def operation {α : Type} (name : String) (x : Shared → Exchange α) : Step Shared α := do
  match ← onClient x with
  | .ok a => return a
  | .error fault => raise .clientFailed (some name) fault

/-- Put a key under tags. -/
def tagAll (s : Shared) (key : String) (lifetime : Int) : List String → Exchange Unit
  | [] => pure ()
  | tag :: rest => do
    Client.addMember (s.tagKeyOf tag) (s.keyOf key)
    Client.expire (s.tagKeyOf tag) lifetime
    tagAll s key lifetime rest

/-- Remove keys, when there are any, and tell how many there were. -/
def removeAny (keys : List String) : Exchange Nat :=
  if keys.isEmpty then pure 0 else Client.remove keys

/-- Remove the members of a tag and the tag itself. -/
def dropMembers (tag : String) (s : Shared) : Exchange Nat := do
  let members ← Client.members (s.tagKeyOf tag)
  let count ← removeAny members
  let _ ← Client.remove [s.tagKeyOf tag]
  return count

/-- Remove the keys of the space from a cursor on, page by page. `fuel` bounds the pages. -/
def sweep (start : String) : (fuel cursor : Nat) → Exchange Nat
  | 0, _ => pure 0
  | fuel + 1, cursor => do
    let (next, keys) ← Client.scan cursor start scanCount
    let count ← removeAny keys
    if next = 0 then return count
    else return count + (← sweep start fuel next)

/-- Remove every key of the space. A scan has no more pages than there are keys, or one. -/
def sweepAll (s : Shared) : Exchange Nat := do
  let c ← Action.current
  sweep (s.keyOf "") (c.keys.length + 1) 0

/-- Start the store. -/
def start : Step Shared Unit := do
  match ← onClient fun _ => Client.ping with
  | .ok _ => Action.note .clientStarted
  | .error fault => raise .clientStartFailed none fault

/-- Stop the store, when it was ever started. -/
def stop : Step Shared Unit := do
  if (← Action.current).client.isSome then
    match ← onClient fun _ => Client.close with
    | .ok _ => Action.note .clientStopped
    | .error fault => Action.fail (.clientFailed fault.kind fault.message)

/-- The value under a key. -/
def get (key : String) : Step Shared (Option String) := do
  let found ← operation "get" fun s => Client.value (s.keyOf key)
  if found.isSome then Action.note .clientHit
  return found

/-- Put a value under a key and tags. -/
def put (key value : String) (lifetime : Int) (tags : List String) : Step Shared Unit := do
  operation "put" fun s => do
    Client.keep (s.keyOf key) lifetime value
    s.tagAll key lifetime tags
  Action.note .clientStored

/-- Remove a key, and tell whether there was one. -/
def delete (key : String) : Step Shared Bool := do
  return (← operation "delete" fun s => Client.remove [s.keyOf key]) > 0

/-- Whether there is something under a key. -/
def holds (key : String) : Step Shared Bool :=
  operation "exists" fun s => Client.holds (s.keyOf key)

/-- Remove the keys of a tag, and tell how many there were. -/
def dropTag (tag : String) : Step Shared Nat := do
  let count ← operation "invalidate_tag" (dropMembers tag)
  Action.note (.clientTagDropped count)
  return count

/-- Remove every key of the space, and tell how many there were. -/
def flush : Step Shared Nat := do
  let count ← operation "flush_namespace" sweepAll
  Action.note (.clientFlushed count)
  return count

/-- A description of the store. -/
def stats : Step Shared (List (String × Value)) := do
  let usage ← operation "stats" fun _ => Client.usage
  return [("backend", .text "redis"), ("namespace", .text (← Action.current).space),
    ("used_memory", .text usage), ("supports_tags", .bool true)]

instance : Store Shared where
  supportsTags _ := true
  yields _ := false
  start := start
  stop := stop
  get := get
  put := put
  delete := delete
  holds := holds
  dropTag := dropTag
  flush := flush
  stats := stats

end Shared
end Eligibility
