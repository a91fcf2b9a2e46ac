import RobotAdmin.Http

namespace RobotAdmin.Http

/-- What the requests of a run meet. While the network is online, a request in the clear reaches the peer,
    and any other one does where encrypted connections come about. The peer gives its answers in order; a
    missing answer is a connection that closes at once, or an answer that does not come in time. -/
structure Network where
  online : Bool := true
  encrypted : Bool := false
  answers : List (Option Response) := []
  requests : List Request := []
  deriving Repr

/-- Whether a request gets through to the peer. -/
def Network.reaches (network : Network) (request : Request) : Bool :=
  network.online && (network.encrypted || request.url.scheme == "http")

/-- Sends one request. The peer remembers each that gets through. -/
def Network.exchange (network : Network) (request : Request) : Option Response × Network :=
  if network.reaches request then
    (network.answers.head?.join,
      { network with answers := network.answers.tail, requests := network.requests ++ [request] })
  else (none, network)

end RobotAdmin.Http
