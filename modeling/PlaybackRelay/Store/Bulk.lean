import PlaybackRelay.Event.Basic

/-!
Bulk requests to the store: for each event a line that names the index and a line with the document.
-/
namespace PlaybackRelay.Store

/-- Heartbeats have an index of their own. -/
structure Indexes where
  core : String
  heartbeat : String
deriving DecidableEq, Repr

namespace Indexes

def indexOf (i : Indexes) (e : Event) : String := if e.isHeartbeat then i.heartbeat else i.core

end Indexes

/-- The store chooses the identifier of a document that it creates. -/
def directive (index : String) : Json :=
  .object [("create", .object [("_index", .string index)])]

def entry (indexes : Indexes) (e : Event) : List Char :=
  (directive (indexes.indexOf e)).text ++ '\n' :: e.document ++ ['\n']

def bulkBody (indexes : Indexes) (batch : List Event) : List Char := batch.flatMap (entry indexes)

end PlaybackRelay.Store
