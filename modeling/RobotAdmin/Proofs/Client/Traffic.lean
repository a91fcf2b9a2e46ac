import RobotAdmin.Proofs.Client.Posting
import RobotAdmin.Proofs.Client.Trip

namespace RobotAdmin

namespace Traffic

theorem entriesAt_append {α : Type} (entries : List (Nat × α)) (values : List α) (place other : Nat) :
    entriesAt (entries ++ values.map (place, ·)) other =
      entriesAt entries other ++ if place = other then values else [] := by
  rw [entriesAt, List.filter_append, List.map_append, entriesAt, List.filter_map]
  congr 1
  by_cases hplace : place = other
  · simp [Function.comp_def, hplace]
  · simp [Function.comp_def, hplace]

theorem countP_set_add {α : Type} {p : α → Bool} {items : List α} {place : Nat} {old : α}
    (hold : items[place]? = some old) (new : α) :
    (items.set place new).countP p + (if p old then 1 else 0) = items.countP p + if p new then 1 else 0 := by
  obtain ⟨hplace, rfl⟩ := List.getElem?_eq_some_iff.mp hold
  rw [List.countP_set hplace]
  have hpositive : p items[place] = true → 0 < items.countP p :=
    fun hp => List.countP_pos_iff.mpr ⟨_, List.getElem_mem hplace, hp⟩
  by_cases hp : p items[place] = true
  · have := hpositive hp
    simp only [hp, if_true]
    omega
  · simp [hp]

theorem step_of_none {traffic : Traffic} {place : Nat} (htrip : traffic.trips[place]? = none) :
    traffic.step place = traffic := by
  simp only [step, htrip]

/-- What has been told of the trip at a place. -/
def toldAt (traffic : Traffic) (place : Nat) : Delivery := ⟨traffic.callsAt place, traffic.logAt place⟩

/-- What holds of the traffic with one client, at any time. Every trip serves its errand, those who are
    concerned have learned of it what there is to tell, and every settled order is counted once. -/
structure Accounts (name : Nat) (client : Client) (jobs : List (Errand × Http.Network)) (traffic : Traffic) :
    Prop where
  base_eq : (traffic.clients name).base = client.base
  length_eq : traffic.trips.length = jobs.length
  serves {place : Nat} {job : Errand × Http.Network} {trip : Trip} (hjob : jobs[place]? = some job)
    (htrip : traffic.trips[place]? = some trip) : Trip.Serves client job trip
  toldAt_eq (place : Nat) : traffic.toldAt place = traffic.trips[place]?.elim {} (Trip.told client)
  calls_eq : traffic.calls.length = traffic.trips.countP Trip.isConfirmed
  failures_eq : (traffic.clients name).failures = client.failures + traffic.trips.countP Trip.hasFailed

variable {name : Nat} {client : Client} {jobs : List (Errand × Http.Network)} {traffic : Traffic}

theorem Accounts.exists_job {place : Nat} {trip : Trip} (haccounts : Accounts name client jobs traffic)
    (htrip : traffic.trips[place]? = some trip) :
    ∃ job, jobs[place]? = some job ∧ job ∈ jobs ∧ Trip.Serves client job trip := by
  have hplace := (List.getElem?_eq_some_iff.mp htrip).1
  cases hjob : jobs[place]? with
  | none =>
    have := List.getElem?_eq_none_iff.mp hjob
    have := haccounts.length_eq
    omega
  | some job => exact ⟨job, rfl, List.mem_of_getElem? hjob, haccounts.serves hjob htrip⟩

/-- A step in the terms of the client that all errands are for. -/
theorem Accounts.step_eq {place : Nat} {trip : Trip} (haccounts : Accounts name client jobs traffic)
    (hjobs : ∀ job ∈ jobs, job.1.client = name) (htrip : traffic.trips[place]? = some trip) :
    traffic.step place =
      { clients := fun other => if other = name then (trip.effect (traffic.clients name)).2
          else traffic.clients other
        trips := traffic.trips.set place (trip.advance client)
        calls := traffic.calls ++ (trip.effect client).1.confirmations.map (place, ·)
        log := traffic.log ++ (trip.effect client).1.log.map (place, ·) } := by
  obtain ⟨job, _, hmem, hserves⟩ := haccounts.exists_job htrip
  have hname : trip.errand.client = name := by rw [hserves.errand_eq, hjobs job hmem]
  rw [← trip.effect_of_base_eq haccounts.base_eq, ← trip.advance_of_base_eq haccounts.base_eq]
  simp only [step, htrip, hname]

theorem Accounts.step (hjobs : ∀ job ∈ jobs, job.1.client = name)
    (haccounts : Accounts name client jobs traffic) (place : Nat) :
    Accounts name client jobs (traffic.step place) := by
  cases htrip : traffic.trips[place]? with
  | none => rwa [step_of_none htrip]
  | some trip =>
    have hplace := (List.getElem?_eq_some_iff.mp htrip).1
    have hnext : (traffic.trips.set place (trip.advance client))[place]? = some (trip.advance client) :=
      List.getElem?_set_self hplace
    have htold := Trip.told_advance client trip
    -- Only the count of failures is about the client as it is now; all else is in terms of the one at the start.
    rw [haccounts.step_eq hjobs htrip]
    constructor
    case base_eq => simpa using (trip.base_effect _).trans haccounts.base_eq
    case length_eq => simpa using haccounts.length_eq
    case serves =>
      intro other job moved hjob hmoved
      by_cases hother : place = other
      · subst hother
        obtain rfl := Option.some.inj (hnext.symm.trans hmoved)
        exact (haccounts.serves hjob htrip).advance
      · rw [List.getElem?_set_ne hother] at hmoved
        exact haccounts.serves hjob hmoved
    case toldAt_eq =>
      intro other
      simp only [toldAt, callsAt, logAt, entriesAt_append]
      by_cases hother : place = other
      · subst hother
        have hbefore := haccounts.toldAt_eq place
        rw [htrip] at hbefore
        rw [hnext, Option.elim_some, htold, if_pos rfl, if_pos rfl]
        exact congrArg (fun told : Delivery => Delivery.mk (told.confirmations ++ _) (told.log ++ _)) hbefore
      · rw [List.getElem?_set_ne hother, if_neg hother, if_neg hother, List.append_nil, List.append_nil]
        exact haccounts.toldAt_eq other
    case calls_eq =>
      have hcount := countP_set_add (p := Trip.isConfirmed) htrip (trip.advance client)
      have hbefore := Trip.length_confirmations_told client trip
      have hafter := Trip.length_confirmations_told client (trip.advance client)
      rw [htold, List.length_append] at hafter
      dsimp only
      rw [List.length_append, List.length_map, haccounts.calls_eq]
      omega
    case failures_eq =>
      have hcount := countP_set_add (p := Trip.hasFailed) htrip (trip.advance client)
      have hfailures := trip.failures_effect_add (traffic.clients name)
      rw [trip.advance_of_base_eq haccounts.base_eq, haccounts.failures_eq] at hfailures
      dsimp only
      rw [if_pos rfl]
      omega

theorem Accounts.run (hjobs : ∀ job ∈ jobs, job.1.client = name)
    (haccounts : Accounts name client jobs traffic) (schedule : List Nat) :
    Accounts name client jobs (traffic.run schedule) := by
  induction schedule generalizing traffic with
  | nil => exact haccounts
  | cons place schedule ih => exact ih (haccounts.step hjobs place)

end Traffic

end RobotAdmin
