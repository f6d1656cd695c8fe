/-
# PartitionedRollout.Rehearsal.Network -- a simulated network of HTTP servers

Every server has a list of answers, one for each connection, and keeps giving the last one. A
server that cannot be reached gets no request at all. A status code is understood if it has
three digits and does not start with a zero.
-/

import PartitionedRollout.Health.Endpoint

namespace PartitionedRollout

/-- What a server does with a request. -/
inductive ServerAnswer where
  /-- Answer with a status code. -/
  | status (code : Nat)
  /-- Never answer. -/
  | hang
  /-- Close the connection. -/
  | close
  /-- Answer with something that is not HTTP. -/
  | garbage
  deriving DecidableEq, Repr

/-- The status code that the client understands. -/
def ServerAnswer.code? : ServerAnswer → Option UInt16
  | .status n => if 100 ≤ n ∧ n < 1000 then some (UInt16.ofNat n) else none
  | _ => none

/-- A server. -/
structure Server where
  /-- Its address. -/
  address : String
  /-- Its answers to come. -/
  answers : List ServerAnswer
  /-- The requests that it got, latest first. -/
  requests : List HttpRequest
  deriving Repr

/-- The server after a request, and its answer. -/
def Server.receive (s : Server) (r : HttpRequest) : Option ServerAnswer × Server :=
  let requests := r :: s.requests
  match s.answers with
  | [] => (none, { s with requests := requests })
  | [a] => (some a, { s with requests := requests })
  | a :: rest => (some a, { s with answers := rest, requests := requests })

/-- A network. -/
structure Network where
  /-- The servers can be reached. -/
  reachable : Bool
  /-- The servers. -/
  servers : List Server
  deriving Repr

namespace Network

/-- The network without servers. -/
def empty : Network :=
  ⟨true, []⟩

/-- Hand a request to the first of some servers that has its address. -/
def deliver (r : HttpRequest) : List Server → Option ServerAnswer × List Server
  | [] => (none, [])
  | s :: rest =>
    if s.address = r.address then
      let (a, s) := s.receive r
      (a, s :: rest)
    else
      let (a, rest) := deliver r rest
      (a, s :: rest)

/-- Send a request: the answer, if there is a server, and the network after it. -/
def send (n : Network) (r : HttpRequest) : Option ServerAnswer × Network :=
  if n.reachable then
    let (a, servers) := deliver r n.servers
    (a, { n with servers := servers })
  else (none, n)

end Network

end PartitionedRollout
