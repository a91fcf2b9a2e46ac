import RobotAdmin.Http.Redirect

namespace RobotAdmin.Http

/-- A request that has been sent and not been answered: the URL that was asked for first, the redirects that
    may still be followed, and the request itself. -/
structure Pending where
  first : Url
  room : Nat
  request : Request
  deriving DecidableEq, Repr

/-- Where an answer leads: to the request that follows a redirect, or to the end. -/
inductive Turn where
  | onward (next : Pending)
  | done (result : Except NetworkFault Response)
  deriving Repr

def Pending.ofRequest (request : Request) : Pending := ⟨request.url, maxRedirects, request⟩

/-- What a pending request does with its answer. -/
def Pending.turn (pending : Pending) : (answer : Option Response) → Turn
  | none => .done (.error (.unreachable pending.first))
  | some response =>
    match response.redirect? pending.request.url, pending.room with
    | none, _ => .done (.ok response)
    | some url, 0 => .done (.error (.tooManyRedirects url))
    | some url, room + 1 =>
      if url.isHttp then .onward { pending with room, request := pending.request.redirected response.status url }
      else .done (.error (.unsupported url))

/-- What is left to do for a pending request, done in one go. -/
def Pending.finish (pending : Pending) (network : Network) : Except NetworkFault Response × Network :=
  fetchFrom pending.first pending.room pending.request network

/-- Fetching takes one turn after the other. -/
theorem Pending.finish_eq (pending : Pending) (network : Network) :
    pending.finish network =
      match pending.turn (network.exchange pending.request).1 with
      | .onward next => next.finish (network.exchange pending.request).2
      | .done result => (result, (network.exchange pending.request).2) := by
  obtain ⟨first, room, request⟩ := pending
  rw [finish, fetchFrom]
  rcases network.exchange request with ⟨_ | response, later⟩
  · rfl
  · cases hredirect : response.redirect? request.url with
    | none => simp only [turn, hredirect]
    | some url =>
      cases room with
      | zero => simp only [turn, hredirect]
      | succ room =>
        simp only [turn, hredirect]
        split <;> rfl

end RobotAdmin.Http
