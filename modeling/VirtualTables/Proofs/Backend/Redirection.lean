import Mathlib.Data.List.Chain
import VirtualTables.Proofs.Backend.Course

/-!
Where redirects lead and where a run of them stops.

Between two requests of a run nothing changes but the place and, perhaps, the name and password.
`Visit.Ends` lists the ways in which a request can be the last one; which of them applies is decided
by its outcome and by the number of redirects that are left, and every request in front of it is
answered with a redirect that can be followed.
-/

namespace VirtualTables

/-- The locator that a location stands for, seen from another locator. -/
def Url.resolve? (base location : String) : Option String := do
  let base ← ofText? base.toList
  let target ← base.join? location.toList
  return String.ofList target.text

namespace Http

def redirectStatuses : List Nat :=
  [301, 302, 303, 307, 308]

theorem Response.isRedirect_iff {response : Response} :
    response.isRedirect = true ↔ response.status ∈ redirectStatuses :=
  List.contains_iff_mem

theorem Response.isSuccess_iff {response : Response} :
    response.isSuccess = true ↔ 200 ≤ response.status ∧ response.status < 300 := by
  simp [isSuccess]

namespace Request

variable {request next : Request} {location : String}

/-- A request is answered with a redirect to a place that can be made out. -/
structure RedirectedTo (request : Request) (response : Response) (target : String) : Prop where
  status : response.status ∈ redirectStatuses
  resolved : ∃ location, response.headers.IsFirst "Location" location ∧
    Url.resolve? request.url location = some target

theorem redirected_eq_ok (redirected : request.redirected location = .ok next) :
    Url.resolve? request.url location = some next.url ∧
      next = { request with url := next.url, authorize := next.authorize } := by
  unfold Request.redirected at redirected
  split at redirected
  · cases redirected
  · next current read =>
      split at redirected
      · cases redirected
      · next target joined =>
          cases redirected
          exact ⟨by simp [Url.resolve?, read, joined], rfl⟩

theorem redirected_eq_error {fault : RedirectFault}
    (refused : request.redirected location = .error fault) :
    Url.resolve? request.url location = none ∧
      (fault = .invalidRequest request.url ∨ fault = .invalidTarget location) := by
  unfold Request.redirected at refused
  split at refused
  · next unread =>
      cases refused
      exact ⟨by simp [Url.resolve?, unread], .inl rfl⟩
  · next current read =>
      split at refused
      · next unjoined =>
          cases refused
          exact ⟨by simp [Url.resolve?, read, unjoined], .inr rfl⟩
      · cases refused

/-- What a response makes of a request: it settles the matter, it leads to another request, or
something is wrong with it. -/
inductive Leads (request : Request) (response : Response) :
    Except Fault (Option Request) → Prop where
  | answered (success : 200 ≤ response.status ∧ response.status < 300) :
      Leads request response (.ok none)
  | redirected {next : Request} (redirected : request.RedirectedTo response next.url)
      (kept : next = { request with url := next.url, authorize := next.authorize }) :
      Leads request response (.ok (some next))
  | unplaced (status : response.status ∈ redirectStatuses)
      (unnamed : ∀ field ∈ response.headers, Text.sameName field.1 "Location" = false) :
      Leads request response (.error (.redirect (.missingLocation response.status request.url)))
  | unresolved {location : String} {fault} (status : response.status ∈ redirectStatuses)
      (named : response.headers.IsFirst "Location" location)
      (unresolved : Url.resolve? request.url location = none)
      (faulty : fault = .invalidRequest request.url ∨ fault = .invalidTarget location) :
      Leads request response (.error (.redirect fault))
  | refused {body} (unsuccessful : ¬ (200 ≤ response.status ∧ response.status < 300))
      (status : response.status ∉ redirectStatuses) :
      Leads request response (.error (.connection (.refused response.status body)))

theorem leads_onward? (request : Request) (response : Response) :
    request.Leads response (request.onward? response) := by
  unfold onward?
  split
  · next success => exact .answered (Response.isSuccess_iff.mp success)
  · next unsuccessful =>
      rw [Response.isSuccess_iff] at unsuccessful
      split
      · next isRedirect =>
          have status := Response.isRedirect_iff.mp isRedirect
          split
          · next unnamed => exact .unplaced status (Fields.header?_eq_none_iff.mp unnamed)
          · next location named =>
              have isFirst := Fields.header?_eq_some_iff.mp named
              split
              · next fault refused =>
                  obtain ⟨unresolved, faulty⟩ := redirected_eq_error refused
                  exact .unresolved status isFirst unresolved faulty
              · next next redirected =>
                  obtain ⟨resolved, kept⟩ := redirected_eq_ok redirected
                  exact .redirected ⟨status, location, isFirst, resolved⟩ kept
      · next notRedirect =>
          rw [Response.isRedirect_iff] at notRedirect
          exact .refused unsuccessful notRedirect

end Request

end Http

/-- A failure is of a kind, and its wording begins with some words. -/
def Fault.Reports (fault : Fault) (kind : Fault.Kind) (words : String) : Prop :=
  fault.kind = kind ∧ ∃ rest, fault.detail = words ++ rest

/-- Two requests ask for the same, perhaps at different places. -/
structure Http.Request.AsksSame (request other : Http.Request) : Prop where
  method : other.method = request.method
  headers : other.headers = request.headers
  form : other.form = request.form

theorem Http.Request.AsksSame.refl (request : Http.Request) : request.AsksSame request :=
  ⟨rfl, rfl, rfl⟩

theorem Http.Request.AsksSame.trans {first second third : Http.Request}
    (same : first.AsksSame second) (sameNext : second.AsksSame third) : first.AsksSame third :=
  ⟨sameNext.method.trans same.method, sameNext.headers.trans same.headers,
    sameNext.form.trans same.form⟩

namespace Visit

/-- The next request asks for the same at the place that the answer names. -/
structure Redirects (visit : Visit) (next : Http.Request) : Prop where
  answered : ∃ response, visit.outcome = .ok response ∧
    visit.request.RedirectedTo response next.url
  same : visit.request.AsksSame next

/-- A request is the last one of a run in which some redirects could still be followed, and the run
ends with a result. -/
inductive Ends : (left : Nat) → Visit → Except Fault Http.Response → Prop where
  | failed {left request fault} : Ends left ⟨request, .error fault⟩ (.error fault)
  | answered {left request response}
      (success : 200 ≤ response.status ∧ response.status < 300) :
      Ends left ⟨request, .ok response⟩ (.ok response)
  | unplaced {left request response fault}
      (status : response.status ∈ Http.redirectStatuses)
      (unnamed : ∀ field ∈ response.headers, Text.sameName field.1 "Location" = false)
      (reports : fault.Reports .protocol "Redirect status ") :
      Ends left ⟨request, .ok response⟩ (.error fault)
  | unresolved {left request response location fault}
      (status : response.status ∈ Http.redirectStatuses)
      (named : response.headers.IsFirst "Location" location)
      (unresolved : Url.resolve? request.url location = none)
      (reports : fault.Reports .protocol "Invalid ") :
      Ends left ⟨request, .ok response⟩ (.error fault)
  | exhausted {request response target fault}
      (redirected : request.RedirectedTo response target)
      (reports : fault.Reports .protocol "Too many redirects") :
      Ends 0 ⟨request, .ok response⟩ (.error fault)
  | refused {left request response fault}
      (unsuccessful : ¬ (200 ≤ response.status ∧ response.status < 300))
      (status : response.status ∉ Http.redirectStatuses)
      (reports : fault.Reports .connectivity ("HTTP status " ++ toString response.status)) :
      Ends left ⟨request, .ok response⟩ (.error fault)

end Visit

namespace Fault

theorem reports_missingLocation (status : Nat) (url : String) :
    (Fault.redirect (.missingLocation status url)).Reports .protocol "Redirect status " := by
  refine ⟨rfl, toString status ++ " from " ++ url ++ " without a Location header", ?_⟩
  simp only [← String.append_assoc]
  rfl

theorem reports_invalidRequest (url : String) :
    (Fault.redirect (.invalidRequest url)).Reports .protocol "Invalid " := by
  refine ⟨rfl, "request URL '" ++ url ++ "'", ?_⟩
  simp only [← String.append_assoc]
  rfl

theorem reports_invalidTarget (location : String) :
    (Fault.redirect (.invalidTarget location)).Reports .protocol "Invalid " := by
  refine ⟨rfl, "redirect target '" ++ location ++ "'", ?_⟩
  simp only [← String.append_assoc]
  rfl

theorem reports_tooMany (limit : Nat) (url : String) :
    (Fault.redirect (.tooMany limit url)).Reports .protocol "Too many redirects" := by
  refine ⟨rfl, " (more than " ++ toString limit ++ ") requesting " ++ url, ?_⟩
  simp only [← String.append_assoc]
  rfl

theorem reports_refused (status : Nat) (body : List Char) :
    (Fault.connection (.refused status body)).Reports .connectivity
      ("HTTP status " ++ toString status) := by
  refine ⟨rfl, ?_⟩
  change ∃ rest, Http.statusText status body = "HTTP status " ++ toString status ++ rest
  unfold Http.statusText
  simp only [String.append_assoc]
  exact ⟨_, rfl⟩

end Fault

variable {limit left : Nat} {first : String} {request : Http.Request} {visit : Visit}
  {visits : List Visit} {result : Except Fault Http.Response}

theorem Settles.ends (settles : Settles limit first left visit result) :
    visit.Ends left result := by
  cases settles with
  | failed => exact .failed
  | @refused _ request response _ leads =>
      have way := request.leads_onward? response
      rw [leads] at way
      cases way with
      | unplaced status unnamed =>
          exact .unplaced status unnamed (Fault.reports_missingLocation _ _)
      | unresolved status named unresolved faulty =>
          rcases faulty with rfl | rfl
          · exact .unresolved status named unresolved (Fault.reports_invalidRequest _)
          · exact .unresolved status named unresolved (Fault.reports_invalidTarget _)
      | refused unsuccessful status =>
          exact .refused unsuccessful status (Fault.reports_refused _ _)
  | @answered _ request response leads =>
      have way := request.leads_onward? response
      rw [leads] at way
      cases way with
      | answered success => exact .answered success
  | @exhausted request response _ leads =>
      have way := request.leads_onward? response
      rw [leads] at way
      cases way with
      | redirected redirected => exact .exhausted redirected (Fault.reports_tooMany _ _)

theorem Visit.redirects_of_onward? {request next : Http.Request} {response : Http.Response}
    (leads : request.onward? response = .ok (some next)) :
    Visit.Redirects ⟨request, .ok response⟩ next := by
  have way := request.leads_onward? response
  rw [leads] at way
  cases way with
  | redirected redirected kept =>
      refine ⟨⟨response, rfl, redirected⟩, ?_⟩
      rw [kept]
      exact ⟨rfl, rfl, rfl⟩

namespace Course

theorem head (course : Course limit first left request visits result) :
    visits.head?.map Visit.request = some request := by
  rcases course.begins with ⟨others, begins⟩
  rw [← List.head?_map, begins]
  rfl

theorem asksSame (course : Course limit first left request visits result) :
    ∀ visit ∈ visits, request.AsksSame visit.request := by
  induction course with
  | settled => exact List.forall_mem_singleton.mpr (.refl _)
  | redirected leads course inductionHypothesis =>
      refine List.forall_mem_cons.mpr ⟨.refl _, ?_⟩
      intro visit inside
      exact (Visit.redirects_of_onward? leads).same.trans (inductionHypothesis visit inside)

/-- Every request but the last is redirected to the next one and uses up one redirect. -/
theorem redirects (course : Course limit first left request visits result) :
    ∃ hops last rest, visits = hops ++ [last] ∧ hops.length + rest = left ∧
      visits.IsChain (fun visit next => visit.Redirects next.request) ∧ last.Ends rest result := by
  induction course with
  | @settled left visit _ settles =>
      exact ⟨[], visit, left, rfl, Nat.zero_add _, .singleton _, settles.ends⟩
  | @redirected left request response next visits result leads course inductionHypothesis =>
      rcases inductionHypothesis with ⟨hops, last, rest, rfl, count, chain, ends⟩
      refine ⟨_ :: hops, last, rest, rfl, ?_, List.isChain_cons.mpr ⟨?_, chain⟩, ends⟩
      · rw [List.length_cons]
        omega
      · intro visit isNext
        have isHead := course.head
        rw [Option.mem_def.mp isNext] at isHead
        cases isHead
        exact Visit.redirects_of_onward? leads

end Course

/-- A request is followed through at most the allowed number of redirects, however servers answer.

Each request behind the first asks for the same as the first one, at the place that the first
location of the answer before leads to. The run ends with the first request that is not redirected
any further, and nothing is sent behind it: with its response if that is a success; otherwise with
the failure of the exchange, with what is wrong with the redirect, or with the refused status. -/
theorem Remote.response_redirected {σ : Type} (remote : Remote σ) (initial : Http.Request)
    (state : σ) :
    ∃ hops last left, remote.visits initial state = hops ++ [last] ∧
      hops.length + left = remote.maxRedirects ∧
      remote.exchange.Carries state (hops ++ [last]) (remote.response initial state).2 ∧
      (hops ++ [last]).head?.map Visit.request = some initial ∧
      (hops ++ [last]).IsChain (fun visit next => visit.Redirects next.request) ∧
      (∀ visit ∈ hops ++ [last], initial.AsksSame visit.request) ∧
      last.Ends left (remote.response initial state).1 := by
  obtain ⟨course, carries, _⟩ := remote.course_visits initial state
  rcases course.redirects with ⟨hops, last, left, split, count, chain, ends⟩
  have head := course.head
  have same := course.asksSame
  rw [split] at carries head chain same
  exact ⟨hops, last, left, split, count, carries, head, chain, same, ends⟩

end VirtualTables
