import ClusterInfra.Http.Message
/-!
A scripted peer: what answers requests where there is no network.

The peer plays its answers one after the other, and when none is left it answers with an empty
document. It remembers what it received, and how long the sender paused after a response before it
sent again.
-/

namespace ClusterInfra.Http

/-- What a peer does with a request. -/
inductive Play
  | respond (response : Response)
  /-- It never answers. -/
  | hang
  /-- It closes the connection without an answer. -/
  | close
  deriving DecidableEq, Repr

/-- A request that arrived, and the pause since the response before it. -/
structure Receipt where
  request : Request
  pause : Option Nat
  deriving DecidableEq

/-- A scripted peer. -/
structure Peer where
  /-- Whether nothing listens. -/
  isAbsent : Bool := false
  plays : List Play := []
  receipts : List Receipt := []
  hasResponded : Bool := false
  pause : Option Nat := none

namespace Peer

/-- The answer to a request for which nothing is left to play. -/
def emptyDocument : Response := ⟨200, "\x7b\x7d"⟩

/-- A response as it arrives: some statuses come without a body. -/
def delivered (response : Response) : Response :=
  if response.status = 204 ∨ response.status = 304 then { response with body := "" } else response

/-- Takes a request and plays the next answer. -/
def receive (request : Request) (peer : Peer) : Except TransportError Response × Peer :=
  if peer.isAbsent then (.error .unreachable, { peer with hasResponded := false })
  else
    let next : Peer := { peer with
      receipts := peer.receipts ++ [⟨request, peer.pause⟩]
      plays := peer.plays.drop 1
      pause := none }
    let silent : Peer := { next with hasResponded := false }
    let heard : Peer := { next with hasResponded := true }
    match peer.plays.head? with
    | none => (.ok emptyDocument, heard)
    | some (.respond response) => (.ok (delivered response), heard)
    | some .hang => (.error .timeout, silent)
    | some .close => (.error .broken, silent)

/-- The peer with other answers to play, before anything was received. -/
def playing (peer : Peer) (plays : List Play) : Peer := { isAbsent := peer.isAbsent, plays }

/-- The transport to a scripted peer. -/
def transport : Transport Peer where
  send := receive
  pause millis peer := { peer with pause := if peer.hasResponded then some millis else none }

end Peer

end ClusterInfra.Http
