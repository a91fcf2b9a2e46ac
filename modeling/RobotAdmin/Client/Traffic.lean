import RobotAdmin.Client.Delivery
import RobotAdmin.Http.Turn

namespace RobotAdmin

/-- Gives orders to a client. It only knows which one that is, and shares it with all its copies. -/
structure Dispatcher where
  client : Nat
  deriving DecidableEq, Repr

/-- What a client is wanted for: an order that a dispatcher was given, or a post whose outcome is the
    caller's own affair. -/
inductive Errand where
  | order (dispatcher : Dispatcher) (command : Command)
  | post (client : Nat) (route : String) (command : Command)
  deriving DecidableEq, Repr

namespace Errand

def client : Errand → Nat
  | .order dispatcher _ => dispatcher.client
  | .post client _ _ => client

def route : Errand → String
  | .order _ _ => adminRoute
  | .post _ route _ => route

def command : Errand → Command
  | .order _ command => command
  | .post _ _ command => command

end Errand

/-- How far an errand has come. -/
inductive Stage where
  | waiting
  | underway (pending : Http.Pending)
  | ended (outcome : Except PostFault Reply)

/-- An errand on its way, with what its own requests are going to meet. -/
structure Trip where
  errand : Errand
  network : Http.Network
  stage : Stage := .waiting

namespace Trip

def outcome? (trip : Trip) : Option (Except PostFault Reply) :=
  match trip.stage with
  | .ended outcome => some outcome
  | .waiting | .underway _ => none

/-- What the end of the requests says about the command. -/
def conclude (result : Except Http.NetworkFault Http.Response) : Except PostFault Reply :=
  match result with
  | .error cause => .error (.network cause)
  | .ok response => Client.confirmation response

def sent (request : Except Http.NetworkFault Http.Request) : Stage :=
  match request with
  | .error cause => .ended (.error (.network cause))
  | .ok request => .underway (.ofRequest request)

def answered (turn : Http.Turn) : Stage :=
  match turn with
  | .onward next => .underway next
  | .done result => .ended (conclude result)

/-- The next thing that happens on a trip: its request is sent, or the answer to the last one arrives. -/
def advance (client : Client) (trip : Trip) : Trip :=
  match trip.stage with
  | .waiting => { trip with stage := sent (client.request trip.errand.route trip.errand.command) }
  | .underway pending =>
    let (answer, network) := trip.network.exchange pending.request
    { trip with network, stage := answered (pending.turn answer) }
  | .ended _ => trip

/-- What is logged when a command sets out. -/
def opening (client : Client) (command : Command) : Stage → Log
  | .waiting => [command.announcement, client.departure command.order]
  | .underway _ | .ended _ => []

/-- What the next thing on a trip means for everyone else. An order is settled as soon as its outcome is
    known; nothing can come between the two. -/
def effect (client : Client) (trip : Trip) : Delivery × Client :=
  match trip.errand with
  | .post _ _ _ => ({}, client)
  | .order _ command =>
    match trip.outcome?, (trip.advance client).outcome? with
    | none, some outcome =>
      let (delivery, settled) := client.settle command.description outcome
      ({ delivery with log := opening client command trip.stage ++ delivery.log }, settled)
    | _, _ => ({ log := opening client command trip.stage }, client)

end Trip

/-- Clients and all that is going on with them: the trips, the replies that were handed on and the events
    that were logged, both with the place of the trip that they belong to. -/
structure Traffic where
  clients : Nat → Client
  trips : List Trip
  calls : List (Nat × Reply) := []
  log : List (Nat × Log.Event) := []

namespace Traffic

/-- Errands that have not yet been begun. -/
def start (clients : Nat → Client) (jobs : List (Errand × Http.Network)) : Traffic where
  clients
  trips := jobs.map fun (errand, network) => { errand, network }

/-- The trip at a place gets on. -/
def step (traffic : Traffic) (place : Nat) : Traffic :=
  match traffic.trips[place]? with
  | none => traffic
  | some trip =>
    let client := traffic.clients trip.errand.client
    let (delivery, after) := trip.effect client
    { clients := fun name => if name = trip.errand.client then after else traffic.clients name
      trips := traffic.trips.set place (trip.advance client)
      calls := traffic.calls ++ delivery.confirmations.map (place, ·)
      log := traffic.log ++ delivery.log.map (place, ·) }

/-- Trips get on in the order of a schedule. -/
def run (traffic : Traffic) (schedule : List Nat) : Traffic := schedule.foldl step traffic

def outcome? (traffic : Traffic) (place : Nat) : Option (Except PostFault Reply) :=
  traffic.trips[place]?.bind Trip.outcome?

/-- The entries with the given place, in their order. -/
def entriesAt {α : Type} (entries : List (Nat × α)) (place : Nat) : List α :=
  (entries.filter fun entry => entry.1 == place).map (·.2)

/-- The replies that were handed to whoever gave the order at a place. -/
def callsAt (traffic : Traffic) (place : Nat) : List Reply := entriesAt traffic.calls place

def logAt (traffic : Traffic) (place : Nat) : Log := entriesAt traffic.log place

end Traffic

end RobotAdmin
