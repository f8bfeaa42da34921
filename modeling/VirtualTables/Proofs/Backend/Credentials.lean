import VirtualTables.Proofs.Backend.Course

/-!
Name and password stay at the origin that they were meant for.

A redirect is only compared with the request before it. Since equality of origins passes on from hop
to hop and a request never gets back what it was sent without, the comparison with the first request
holds as well, however a server redirects.
-/

namespace VirtualTables

theorem Http.Request.redirected_authorize {request next : Request} {location : String}
    (redirected : request.redirected location = .ok next) :
    next.authorize =
      (request.authorize && Url.sameOrigin request.url.toList next.url.toList) := by
  unfold Request.redirected at redirected
  split at redirected
  · cases redirected
  · split at redirected
    · cases redirected
    · cases redirected
      rw [String.toList_ofList]

theorem Http.Request.onward?_authorize {request next : Request} {response : Response}
    (leads : request.onward? response = .ok (some next)) :
    next.authorize =
      (request.authorize && Url.sameOrigin request.url.toList next.url.toList) := by
  unfold onward? at leads
  split at leads
  · cases leads
  · split at leads
    · split at leads
      · cases leads
      · split at leads
        · cases leads
        · next redirected =>
            cases leads
            exact redirected_authorize redirected
    · cases leads

namespace Course

variable {limit left : Nat} {first : String} {request : Http.Request} {visits : List Visit}
  {result : Except Fault Http.Response}

/-- All requests up to one that is sent with name and password have one origin. -/
theorem authorized (course : Course limit first left request visits result) {index : Nat}
    {sent : Http.Request} (found : (visits.map Visit.request)[index + 1]? = some sent)
    (authorize : sent.authorize = true) :
    request.authorize = true ∧ ∃ origin, ∀ other ∈ (visits.map Visit.request).take (index + 2),
      Url.originOf? other.url.toList = some origin := by
  induction course generalizing index with
  | settled => cases found
  | @redirected left request response next visits result leads course inductionHypothesis =>
      rcases course.begins with ⟨others, begins⟩
      rw [List.map_cons, List.getElem?_cons_succ] at found
      have authorizeNext : next.authorize = true := by
        cases index with
        | zero =>
            rw [begins] at found
            cases found
            exact authorize
        | succ index => exact (inductionHypothesis found).1
      have passed := Http.Request.onward?_authorize leads
      rw [authorizeNext, eq_comm, Bool.and_eq_true] at passed
      obtain ⟨authorizeRequest, same⟩ := passed
      obtain ⟨origin, ofRequest, ofNext⟩ := Url.sameOrigin_iff.mp same
      refine ⟨authorizeRequest, origin, List.forall_mem_cons.mpr ⟨ofRequest, ?_⟩⟩
      cases index with
      | zero =>
          rw [begins]
          intro other inside
          obtain rfl := List.mem_singleton.mp inside
          exact ofNext
      | succ index =>
          obtain ⟨earlier, ofAll⟩ := (inductionHypothesis found).2
          have ofNextToo := ofAll next (by rw [begins]; exact List.mem_cons_self)
          obtain rfl := Option.some.inj (ofNext.symm.trans ofNextToo)
          exact ofAll

theorem unauthorized (course : Course limit first left request visits result)
    (dropped : request.authorize = false) :
    ∀ sent ∈ visits.map Visit.request, sent.authorize = false := by
  induction course with
  | settled => exact List.forall_mem_singleton.mpr dropped
  | redirected leads course inductionHypothesis =>
      have passed := Http.Request.onward?_authorize leads
      rw [dropped, Bool.false_and] at passed
      exact List.forall_mem_cons.mpr ⟨dropped, inductionHypothesis passed⟩

/-- What a request is sent without, no later one is sent with. -/
theorem pairwise_unauthorized (course : Course limit first left request visits result) :
    (visits.map Visit.request).Pairwise fun before after =>
      before.authorize = false → after.authorize = false := by
  induction course with
  | settled => exact List.pairwise_singleton _ _
  | redirected leads course inductionHypothesis =>
      refine List.pairwise_cons.mpr ⟨?_, inductionHypothesis⟩
      intro sent inside dropped
      have passed := Http.Request.onward?_authorize leads
      rw [dropped, Bool.false_and] at passed
      exact course.unauthorized passed sent inside

end Course

/-- However servers answer, a request behind the first is sent with name and password only if the
first one was and all requests up to it go to the origin of the first; and what is once sent without
them is sent without them from then on. -/
theorem Remote.credentials_stay {σ : Type} (remote : Remote σ) (initial : Http.Request)
    (state : σ) :
    (remote.sent initial state).head? = some initial ∧
    (∀ index request, (remote.sent initial state)[index + 1]? = some request →
      request.authorize = true →
        initial.authorize = true ∧ ∀ other ∈ (remote.sent initial state).take (index + 2),
          Url.sameOrigin initial.url.toList other.url.toList = true) ∧
    (remote.sent initial state).Pairwise fun before after =>
      before.authorize = false → after.authorize = false := by
  have course := (remote.course_visits initial state).1
  rcases course.begins with ⟨others, begins⟩
  refine ⟨by rw [sent, begins]; rfl, ?_, course.pairwise_unauthorized⟩
  intro index request found authorize
  rcases course.authorized found authorize with ⟨authorizeInitial, origin, same⟩
  refine ⟨authorizeInitial, ?_⟩
  intro other inside
  have ofInitial := same initial (by rw [begins]; exact List.mem_cons_self)
  exact Url.sameOrigin_iff.mpr ⟨origin, ofInitial, same other inside⟩

/-- A request that was led away and back again is sent without name and password. -/
theorem Remote.credentials_stay_on_return :
    let address : Address :=
      ⟨"jdbc:pdi://a.org:80", "a.org", "80", none, none, none, none, false, false, none, false,
        .empty, ⟨none, none⟩⟩
    let exchange : Exchange (List String) := fun _ locations =>
      (.ok ⟨302, [("location", locations.headD "/")], .ofBytes []⟩, locations.tail)
    let sent := Remote.sent ⟨address, exchange, 3⟩ (.get "http://a.org/")
      ["in", "http://b.org", "//a.org"]
    let request (url : String) (authorize : Bool) : Http.Request := ⟨.get, url, [], [], authorize⟩
    sent = [request "http://a.org/" true, request "http://a.org/in" true,
        request "http://b.org/" false, request "http://a.org/" false] ∧
      (∀ other ∈ sent.take 2, Url.sameOrigin "http://a.org/".toList other.url.toList = true) ∧
      sent.Pairwise fun before after => before.authorize = false → after.authorize = false := by
  intro address exchange sent request
  have all : sent = [request "http://a.org/" true, request "http://a.org/in" true,
      request "http://b.org/" false, request "http://a.org/" false] := by
    decide +kernel
  obtain ⟨_, authorized, dropped⟩ := Remote.credentials_stay ⟨address, exchange, 3⟩
    (.get "http://a.org/") ["in", "http://b.org", "//a.org"]
  have found : sent[1]? = some (request "http://a.org/in" true) := by
    rw [all]
    rfl
  exact ⟨all, (authorized 0 _ found rfl).2, dropped⟩

end VirtualTables
