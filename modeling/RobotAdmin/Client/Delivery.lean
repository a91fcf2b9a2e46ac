import RobotAdmin.Client
import RobotAdmin.Reply.Shown

namespace RobotAdmin.Client

/-- The event that tells where an order goes. -/
def departure (client : Client) (order : Order) : Log.Event :=
  ⟨.debug, order.description ++ ": POST " ++ client.address order.route⟩

/-- Ends an order once it is known what came of it. A confirmation is handed on; anything else is counted
    and logged, and whoever gave the order is not told. -/
def settle (client : Client) (description : String) (outcome : Except PostFault Reply) : Delivery × Client :=
  match outcome with
  | .ok reply => (⟨[reply], [⟨.debug, description ++ ": " ++ reply.shown⟩]⟩, client)
  | .error fault =>
    (⟨[], [⟨.error, description ++ " failed: " ++ fault.message⟩]⟩,
      { client with failures := client.failures + 1 })

/-- Carries out an order from beginning to end. -/
def deliver (order : Order) (state : Client × Http.Network) : Delivery × (Client × Http.Network) :=
  let (client, network) := state
  let (outcome, network) := client.post order.route order.command network
  let (delivery, settled) := client.settle order.description outcome
  ({ delivery with log := client.departure order :: delivery.log }, (settled, network))

end RobotAdmin.Client
