import RobotAdmin.Client.Traffic

namespace RobotAdmin

namespace Client

/-- The base of a client is all that a request depends on. -/
theorem request_of_base_eq {client other : Client} (hbase : client.base = other.base) (route : String)
    (command : Command) : client.request route command = other.request route command := by
  simp only [Client.request, address, hbase]

theorem post_eq (client : Client) (route : String) (command : Command) (network : Http.Network) :
    (client.post route command network).1 =
      match client.request route command with
      | .error cause => .error (.network cause)
      | .ok request => Trip.conclude ((Http.Pending.ofRequest request).finish network).1 := by
  unfold Client.post
  cases client.request route command with
  | error cause => rfl
  | ok request =>
    change _ = Trip.conclude (Http.fetch request network).1
    dsimp only
    rcases Http.fetch request network with ⟨_ | response, after⟩ <;> rfl

theorem base_settle (client : Client) (description : String) (outcome : Except PostFault Reply) :
    (client.settle description outcome).2.base = client.base := by
  cases outcome <;> rfl

/-- What is told of an outcome does not depend on the client. -/
theorem settle_fst (client other : Client) (description : String) (outcome : Except PostFault Reply) :
    (client.settle description outcome).1 = (other.settle description outcome).1 := by
  cases outcome <;> rfl

end Client

namespace Trip

/-- What will come of a trip. -/
def final (client : Client) (trip : Trip) : Except PostFault Reply :=
  match trip.stage with
  | .waiting => (client.post trip.errand.route trip.errand.command trip.network).1
  | .underway pending => conclude (pending.finish trip.network).1
  | .ended outcome => outcome

/-- What others have learned of a trip: for an order nothing at first, then that it has set out, and with the
    outcome whatever its delivery tells. -/
def told (client : Client) (trip : Trip) : Delivery :=
  match trip.errand, trip.stage with
  | .post _ _ _, _ => {}
  | .order _ _, .waiting => {}
  | .order _ command, .underway _ => { log := opening client command .waiting }
  | .order _ command, .ended outcome =>
    let delivery := (client.settle command.description outcome).1
    { delivery with log := opening client command .waiting ++ delivery.log }

theorem errand_advance (client : Client) (trip : Trip) : (trip.advance client).errand = trip.errand := by
  obtain ⟨errand, network, stage⟩ := trip
  cases stage <;> rfl

theorem advance_of_base_eq {client other : Client} (hbase : client.base = other.base) (trip : Trip) :
    trip.advance client = trip.advance other := by
  simp only [advance, Client.request_of_base_eq hbase]

/-- Getting on does not change what will come of a trip. -/
theorem final_advance (client : Client) (trip : Trip) : (trip.advance client).final client = trip.final client := by
  obtain ⟨errand, network, stage⟩ := trip
  cases stage with
  | waiting =>
    change final client ⟨errand, network, sent (client.request errand.route errand.command)⟩ =
      (client.post errand.route errand.command network).1
    rw [Client.post_eq]
    cases client.request errand.route errand.command <;> rfl
  | underway pending =>
    change final client ⟨errand, _, answered (pending.turn (network.exchange pending.request).1)⟩ =
      conclude (pending.finish network).1
    rw [Http.Pending.finish_eq]
    cases pending.turn (network.exchange pending.request).1 <;> rfl
  | ended outcome => rfl

/-- An outcome stays. -/
theorem advance_of_outcome? {trip : Trip} {outcome : Except PostFault Reply}
    (houtcome : trip.outcome? = some outcome) (client : Client) : trip.advance client = trip := by
  obtain ⟨errand, network, stage⟩ := trip
  cases stage with
  | ended found => rfl
  | waiting => cases houtcome
  | underway pending => cases houtcome

/-- The outcome of an order. That of a post is known to its caller alone. -/
def settled? (trip : Trip) : Option (Except PostFault Reply) :=
  match trip.errand with
  | .order _ _ => trip.outcome?
  | .post _ _ _ => none

def isConfirmed (trip : Trip) : Bool :=
  match trip.settled? with
  | some (.ok _) => true
  | _ => false

def hasFailed (trip : Trip) : Bool :=
  match trip.settled? with
  | some (.error _) => true
  | _ => false

theorem length_confirmations_told (client : Client) (trip : Trip) :
    (trip.told client).confirmations.length = if trip.isConfirmed then 1 else 0 := by
  obtain ⟨errand, network, stage⟩ := trip
  cases errand with
  | post _ route command => rfl
  | order dispatcher command =>
    rcases stage with _ | pending | fault | reply <;> rfl

/-- A trip that a client makes for an errand, with what the errand's requests meet. -/
structure Serves (client : Client) (job : Errand × Http.Network) (trip : Trip) : Prop where
  errand_eq : trip.errand = job.1
  final_eq : trip.final client = (client.post job.1.route job.1.command job.2).1

theorem Serves.advance {client : Client} {job : Errand × Http.Network} {trip : Trip}
    (hserves : Serves client job trip) : Serves client job (trip.advance client) :=
  ⟨(errand_advance client trip).trans hserves.errand_eq, (final_advance client trip).trans hserves.final_eq⟩

section

variable (client : Client) (trip : Trip)

theorem base_effect : (trip.effect client).2.base = client.base := by
  unfold effect
  split
  · rfl
  · split
    · exact Client.base_settle client _ _
    · rfl

theorem effect_of_base_eq {client other : Client} (hbase : client.base = other.base) :
    (trip.effect client).1 = (trip.effect other).1 := by
  have hopening (command : Command) (stage : Stage) : opening client command stage = opening other command stage := by
    cases stage <;> simp only [opening, Client.departure, Client.address, hbase]
  unfold effect
  rw [advance_of_base_eq hbase]
  split
  · rfl
  · split
    · simp only [hopening, Client.settle_fst client other]
    · simp only [hopening]

/-- What others learn as a trip gets on adds to what they had learned. -/
theorem told_advance :
    (trip.advance client).told client =
      ⟨(trip.told client).confirmations ++ (trip.effect client).1.confirmations,
        (trip.told client).log ++ (trip.effect client).1.log⟩ := by
  obtain ⟨errand, network, stage⟩ := trip
  cases errand with
  | post name route command =>
    cases stage <;> rfl
  | order dispatcher command =>
    cases stage with
    | waiting =>
      cases hrequest : client.request adminRoute command <;>
        simp [told, effect, advance, outcome?, opening, Errand.route, Errand.command, sent, hrequest]
    | underway pending =>
      cases hturn : pending.turn (network.exchange pending.request).1 <;>
        simp [told, effect, advance, outcome?, opening, answered, hturn]
    | ended outcome => simp [told, effect, advance, outcome?, opening]

/-- The client counts one failure when an order fails, and none otherwise. -/
theorem failures_effect :
    (trip.effect client).2.failures =
      match trip.settled?, (trip.advance client).settled? with
      | none, some (.error _) => client.failures + 1
      | _, _ => client.failures := by
  rw [settled?, settled?, errand_advance]
  unfold effect
  cases trip.errand with
  | post name route command => rfl
  | order dispatcher command =>
    rcases trip.outcome? with _ | before
    · rcases (trip.advance client).outcome? with _ | fault | reply <;> rfl
    · rfl

theorem advance_of_settled? {outcome : Except PostFault Reply} (hsettled : trip.settled? = some outcome) :
    trip.advance client = trip := by
  rw [settled?] at hsettled
  split at hsettled
  · exact advance_of_outcome? hsettled client
  · cases hsettled

/-- The failures that a trip adds to its client are what makes it a failed one. -/
theorem failures_effect_add :
    (trip.effect client).2.failures + (if trip.hasFailed then 1 else 0) =
      client.failures + (if (trip.advance client).hasFailed then 1 else 0) := by
  rw [failures_effect]
  cases hsettled : trip.settled? with
  | none =>
    rcases hnext : (trip.advance client).settled? with _ | fault | reply <;> simp [hasFailed, hsettled, hnext]
  | some outcome => rw [advance_of_settled? client trip hsettled]

end

end Trip

end RobotAdmin
