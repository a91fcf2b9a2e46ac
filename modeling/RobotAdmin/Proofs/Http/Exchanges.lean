import RobotAdmin.Http.Redirect

namespace RobotAdmin.Http

namespace Network

/-- The requests that got through since an earlier state of the network, each with the answer that it met:
    the peer gives the answers that were left then in their order. -/
def since (earlier later : Network) : List (Request × Option Response) :=
  (later.requests.drop earlier.requests.length).zipIdx.map fun (request, place) =>
    (request, earlier.answers[place]?.join)

/-- A later state of a network: more requests have got through, and as many answers are used up. -/
structure Continues (earlier later : Network) : Prop where
  requests_eq : ∃ sent, later.requests = earlier.requests ++ sent
  answers_eq : later.answers = earlier.answers.drop (later.requests.length - earlier.requests.length)

theorem Continues.refl (network : Network) : network.Continues network :=
  ⟨⟨[], by simp⟩, by simp⟩

theorem Continues.trans {first second third : Network} (hsecond : first.Continues second)
    (hthird : second.Continues third) : first.Continues third := by
  obtain ⟨⟨sent, hsent⟩, hleft⟩ := hsecond
  obtain ⟨⟨more, hmore⟩, hrest⟩ := hthird
  refine ⟨⟨sent ++ more, by simp [hmore, hsent]⟩, ?_⟩
  rw [hrest, hleft, List.drop_drop]
  congr 1
  simp only [hmore, hsent, List.length_append]
  omega

theorem since_self (network : Network) : network.since network = [] := by
  simp [since]

theorem since_trans {first second third : Network} (hsecond : first.Continues second)
    (hthird : second.Continues third) : first.since third = first.since second ++ second.since third := by
  obtain ⟨⟨sent, hsent⟩, hleft⟩ := hsecond
  obtain ⟨⟨more, hmore⟩, _⟩ := hthird
  have hcount : second.requests.length - first.requests.length = sent.length := by simp [hsent]
  rw [hcount] at hleft
  have hall : third.requests.drop first.requests.length = sent ++ more := by simp [hmore, hsent]
  have hnew : second.requests.drop first.requests.length = sent := by simp [hsent]
  have hlast : third.requests.drop second.requests.length = more := by simp [hmore]
  simp only [since, hall, hnew, hlast, List.zipIdx_append, List.map_append, hleft, List.append_cancel_left_eq]
  rw [List.zipIdx_eq_map_add, List.map_map]
  apply List.map_congr_left
  rintro ⟨request, place⟩ _
  simp [List.getElem?_drop, Nat.add_comm]

/-- The requests of the exchanges are those that the peer has come to remember. -/
theorem Continues.map_fst_since {earlier later : Network} (hlater : earlier.Continues later) :
    later.requests = earlier.requests ++ (earlier.since later).map Prod.fst := by
  obtain ⟨⟨sent, hsent⟩, _⟩ := hlater
  have hnew : later.requests.drop earlier.requests.length = sent := by simp [hsent]
  rw [since, hnew, hsent, List.map_map, List.append_cancel_left_eq]
  rw [show (Prod.fst ∘ fun (request, place) => (request, earlier.answers[place]?.join)) =
    (Prod.fst : Request × Nat → Request) from rfl, List.zipIdx_map_fst]

theorem exchange_of_not_reaches {network : Network} {request : Request}
    (hreaches : network.reaches request = false) : network.exchange request = (none, network) := by
  simp [exchange, hreaches]

theorem continues_exchange (network : Network) (request : Request) :
    network.Continues (network.exchange request).2 := by
  unfold exchange
  split
  · exact ⟨⟨[request], rfl⟩, by simp⟩
  · exact Continues.refl network

theorem since_exchange {network : Network} {request : Request} (hreaches : network.reaches request = true) :
    network.since (network.exchange request).2 = [(request, (network.exchange request).1)] := by
  simp [exchange, hreaches, since, List.head?_eq_getElem?]

/-- The first of the exchanges meets the first of the answers. -/
theorem head?_answers_of_since {earlier later : Network} {request : Request} {response : Response}
    (hfirst : (earlier.since later).head? = some (request, some response)) :
    earlier.answers.head? = some (some response) := by
  unfold since at hfirst
  cases hnew : later.requests.drop earlier.requests.length with
  | nil => simp [hnew] at hfirst
  | cons first rest =>
    have hanswer : earlier.answers[0]?.join = some response := by simp_all
    rw [List.head?_eq_getElem?]
    exact Option.join_eq_some_iff.mp hanswer

end Network

/-- The exchanges that a request can lead to: none if it does not get through, or it alone, or it and those
    of the request that follows the redirect with which it was answered. -/
inductive Redirects : Request → List (Request × Option Response) → Prop where
  | unreached (request : Request) : Redirects request []
  | last (request : Request) (answer : Option Response) : Redirects request [(request, answer)]
  | followed {request : Request} {response : Response} {url : Url} {rest : List (Request × Option Response)}
      (hurl : response.redirect? request.url = some url) (hhttp : url.isHttp = true)
      (hrest : Redirects (request.redirected response.status url) rest) :
      Redirects request ((request, some response) :: rest)

/-- One exchange of a request, on its own. -/
theorem redirects_exchange {network next : Network} {request : Request} {answer : Option Response}
    (hexchange : network.exchange request = (answer, next)) :
    network.Continues next ∧ Redirects request (network.since next) ∧
      ∀ response, answer = some response → network.since next = [(request, some response)] := by
  have hnext : next = (network.exchange request).2 := by rw [hexchange]
  have hanswer : answer = (network.exchange request).1 := by rw [hexchange]
  by_cases hreaches : network.reaches request = true
  · have hsince := Network.since_exchange hreaches
    rw [← hnext, ← hanswer] at hsince
    refine ⟨hnext ▸ network.continues_exchange request, hsince ▸ .last request answer, ?_⟩
    intro response hresponse
    rw [hsince, hresponse]
  · rw [Network.exchange_of_not_reaches (Bool.eq_false_iff.mpr hreaches)] at hnext hanswer
    rw [hnext, hanswer]
    exact ⟨.refl network, network.since_self ▸ .unreached request, by simp⟩

/-- Fetching continues the network, and its exchanges are those of a request that is redirected. A response
    that it returns is the answer to the last of them. -/
theorem fetchFrom_redirects {first : Url} {room : Nat} {request : Request} {network after : Network}
    {result : Except NetworkFault Response}
    (hfetch : fetchFrom first room request network = (result, after)) :
    network.Continues after ∧ Redirects request (network.since after) ∧
      ∀ response, result = .ok response →
        ∃ front last, network.since after = front ++ [(last, some response)] := by
  fun_induction fetchFrom first room request network with
  | case1 room request network next hexchange =>
    obtain ⟨rfl, rfl⟩ := Prod.mk.inj hfetch
    obtain ⟨hnext, hredirects, _⟩ := redirects_exchange hexchange
    exact ⟨hnext, hredirects, by simp⟩
  | case2 room request network response next hexchange =>
    obtain ⟨rfl, rfl⟩ := Prod.mk.inj hfetch
    obtain ⟨hnext, hredirects, hsince⟩ := redirects_exchange hexchange
    refine ⟨hnext, hredirects, fun found hfound => ?_⟩
    obtain rfl := Except.ok.inj hfound
    exact ⟨[], request, by simpa using hsince response rfl⟩
  | case3 request network response next hexchange | case5 request network response next hexchange =>
    obtain ⟨rfl, rfl⟩ := Prod.mk.inj hfetch
    obtain ⟨hnext, hredirects, _⟩ := redirects_exchange hexchange
    exact ⟨hnext, hredirects, by simp⟩
  | case4 request network response next hexchange url room hurl hhttp ih =>
    obtain ⟨hnext, _, hsince⟩ := redirects_exchange hexchange
    obtain ⟨hrest, hredirects, hreply⟩ := ih hfetch
    have hall := Network.since_trans hnext hrest
    rw [hsince response rfl] at hall
    refine ⟨hnext.trans hrest, hall ▸ .followed hurl hhttp hredirects, fun found hfound => ?_⟩
    obtain ⟨front, last, hfront⟩ := hreply found hfound
    exact ⟨(request, some response) :: front, last, by rw [hall, hfront]; rfl⟩

/-- The request itself comes first, and others only behind a redirect that answers it. -/
theorem Redirects.head_eq {request first : Request} {exchanges : List (Request × Option Response)}
    {rest : List Request} (hredirects : Redirects request exchanges)
    (hexchanges : exchanges.map Prod.fst = first :: rest) :
    first = request ∧ (rest ≠ [] → ∃ response url, exchanges.head? = some (request, some response) ∧
      response.redirect? request.url = some url ∧ url.isHttp = true) := by
  cases hredirects with
  | unreached => simp at hexchanges
  | last _ answer =>
    obtain ⟨rfl, rfl⟩ := List.cons.inj hexchanges
    exact ⟨rfl, by simp⟩
  | @followed _ response url _ hurl hhttp _ =>
    obtain ⟨rfl, _⟩ := List.cons.inj hexchanges
    exact ⟨rfl, fun _ => ⟨response, url, rfl, hurl, hhttp⟩⟩

/-- Whether each of the exchanges ended in a redirect that repeats the request as it was. -/
def areRepeated (exchanges : List (Request × Option Response)) : Bool :=
  exchanges.all fun exchange => exchange.2.any fun response => keepsRequest response.status

@[simp]
theorem areRepeated_cons (request : Request) (response : Response)
    (rest : List (Request × Option Response)) :
    areRepeated ((request, some response) :: rest) = (keepsRequest response.status && areRepeated rest) := rfl

/-- A request is repeated as it was as long as all redirects keep it, and from the first that does not it
    only fetches. -/
theorem Redirects.getLast_eq {request last : Request} {answer : Option Response}
    {front : List (Request × Option Response)}
    (hredirects : Redirects request (front ++ [(last, answer)])) :
    last.method = (if areRepeated front then request.method else .get) ∧
      last.body = (if areRepeated front then request.body else none) := by
  generalize hexchanges : front ++ [(last, answer)] = exchanges at hredirects
  induction hredirects generalizing front with
  | unreached request => simp at hexchanges
  | last request found =>
    cases front with
    | nil => simp_all [areRepeated]
    | cons first front => simp at hexchanges
  | @followed request response url rest hurl hhttp hrest ih =>
    cases front with
    | nil =>
      simp only [List.nil_append, List.cons.injEq, Prod.mk.injEq] at hexchanges
      obtain ⟨⟨rfl, _⟩, _⟩ := hexchanges
      simp [areRepeated]
    | cons first front =>
      simp only [List.cons_append, List.cons.injEq] at hexchanges
      obtain ⟨rfl, hfront⟩ := hexchanges
      obtain ⟨hmethod, hbody⟩ := ih hfront
      rw [hmethod, hbody]
      by_cases hkeeps : keepsRequest response.status = true <;> simp [Request.redirected, hkeeps]

end RobotAdmin.Http
