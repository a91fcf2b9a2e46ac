import RobotAdmin.Proofs.Client.Traffic

namespace RobotAdmin

namespace Client

end Client

namespace Command

variable {client : Client} {command : Command} {network after : Http.Network}

end Command

namespace Trip

variable {client : Client} {trip : Trip}

section

variable {dispatcher : Dispatcher} {command : Command} {network : Http.Network} {outcome : Except PostFault Reply}

end

end Trip

namespace Traffic

variable {name : Nat} {client : Client} {jobs : List (Errand × Http.Network)} {traffic : Traffic}

end Traffic

end RobotAdmin
