import VirtualTables.Backend.Remote

/-!
The course of a request through its redirects.

An exchange can be noted: it then keeps what it was asked for and what came of it, and does the same
as before. `Course` says which notes a run of `follow` leaves, and `follow_course` that every run
leaves such notes. What holds of all runs then follows by induction on the course.
-/

namespace VirtualTables

structure Visit where
  request : Http.Request
  outcome : Except Fault Http.Response

/-- The exchange with notes of all that it carries out, the latest at the end. -/
def Exchange.noted {σ : Type} (exchange : Exchange σ) : Exchange (σ × List Visit) :=
  fun request (state, visits) =>
    let (outcome, after) := exchange request state
    (outcome, after, visits ++ [⟨request, outcome⟩])

/-- An exchange is asked for some requests, one after another and for nothing else, and gives these
outcomes; with the states before and behind them. -/
inductive Exchange.Carries {σ : Type} (exchange : Exchange σ) : σ → List Visit → σ → Prop where
  | nothing {state} : Carries exchange state [] state
  | visit {state between after request outcome visits}
      (ran : exchange request state = (outcome, between))
      (carries : Carries exchange between visits after) :
      Carries exchange state (⟨request, outcome⟩ :: visits) after

inductive Settles (limit : Nat) (first : String) :
    (left : Nat) → Visit → Except Fault Http.Response → Prop where
  | failed {left request fault} : Settles limit first left ⟨request, .error fault⟩ (.error fault)
  | refused {left request response fault} (leads : request.onward? response = .error fault) :
      Settles limit first left ⟨request, .ok response⟩ (.error fault)
  | answered {left request response} (leads : request.onward? response = .ok none) :
      Settles limit first left ⟨request, .ok response⟩ (.ok response)
  | exhausted {request response next} (leads : request.onward? response = .ok (some next)) :
      Settles limit first 0 ⟨request, .ok response⟩ (.error (.redirect (.tooMany limit first)))

/-- The requests that are sent, one after another, for a request of which a number of redirects may
still be followed, and what comes of them in the end. -/
inductive Course (limit : Nat) (first : String) :
    (left : Nat) → Http.Request → List Visit → Except Fault Http.Response → Prop where
  | settled {left visit result} (settles : Settles limit first left visit result) :
      Course limit first left visit.request [visit] result
  | redirected {left request response next visits result}
      (leads : request.onward? response = .ok (some next))
      (course : Course limit first left next visits result) :
      Course limit first (left + 1) request (⟨request, .ok response⟩ :: visits) result

variable {σ α β : Type}

theorem Attempt.run_bind (attempt : Attempt σ α) (next : α → Attempt σ β) (state : σ) :
    (attempt >>= next) state =
      match attempt state with
      | (.error fault, after) => (.error fault, after)
      | (.ok value, after) => next value after := by
  change (StateT.bind attempt (ExceptT.bindCont next)) state = _
  unfold StateT.bind
  rcases attempt state with ⟨outcome, after⟩
  cases outcome with
  | error fault => rfl
  | ok value => rfl

theorem follow_eq (exchange : Exchange σ) (limit : Nat) (first : String) (left : Nat)
    (request : Http.Request) :
    follow exchange limit first left request = (do
      let response ← exchange request
      match ← request.onward? response with
      | none => return response
      | some next =>
          match left with
          | 0 => throw (.redirect (.tooMany limit first))
          | left + 1 => follow exchange limit first left next) := by
  cases left with
  | zero => rfl
  | succ left => rfl

/-- Every run takes a course, and notes of it are true and change nothing. -/
theorem follow_course (exchange : Exchange σ) (limit : Nat) (first : String) (left : Nat)
    (request : Http.Request) (state : σ) (visits : List Visit) :
    ∃ more result after, Course limit first left request more result ∧
      exchange.Carries state more after ∧
      follow exchange limit first left request state = (result, after) ∧
      follow exchange.noted limit first left request (state, visits) =
        (result, after, visits ++ more) := by
  induction left using Nat.strongRecOn generalizing request state visits with
  | ind left inductionHypothesis =>
      rw [follow_eq, follow_eq exchange.noted, Attempt.run_bind, Attempt.run_bind, Exchange.noted]
      rcases carried : exchange request state with ⟨outcome, after⟩
      have once := Exchange.Carries.visit carried .nothing
      cases outcome with
      | error fault => exact ⟨_, _, _, .settled .failed, once, rfl, rfl⟩
      | ok response =>
          dsimp only
          cases leads : request.onward? response with
          | error fault => exact ⟨_, _, _, .settled (.refused leads), once, rfl, rfl⟩
          | ok next? =>
              cases next? with
              | none => exact ⟨_, _, _, .settled (.answered leads), once, rfl, rfl⟩
              | some next =>
                  cases left with
                  | zero => exact ⟨_, _, _, .settled (.exhausted leads), once, rfl, rfl⟩
                  | succ left =>
                      rcases inductionHypothesis left (Nat.lt_succ_self left) next after
                        (visits ++ [⟨request, .ok response⟩]) with
                        ⟨more, result, last, course, carries, ran, noted⟩
                      refine ⟨_, result, last, .redirected leads course, .visit carried carries,
                        ran, ?_⟩
                      rw [List.append_assoc] at noted
                      exact noted

namespace Course

variable {limit left : Nat} {first : String} {request : Http.Request} {visits : List Visit}
  {result : Except Fault Http.Response}

theorem begins (course : Course limit first left request visits result) :
    ∃ others, visits.map Visit.request = request :: others := by
  cases course with
  | settled => exact ⟨[], rfl⟩
  | @redirected _ _ _ _ others => exact ⟨others.map Visit.request, rfl⟩

end Course

namespace Remote

def noted (remote : Remote σ) : Remote (σ × List Visit) :=
  ⟨remote.address, remote.exchange.noted, remote.maxRedirects⟩

/-- What is sent to get the response to a request, and what comes of each. -/
def visits (remote : Remote σ) (request : Http.Request) (state : σ) : List Visit :=
  (remote.noted.response request (state, [])).2.2

def sent (remote : Remote σ) (request : Http.Request) (state : σ) : List Http.Request :=
  (remote.visits request state).map Visit.request

/-- What is noted is a course to the response, which is the same without notes. -/
theorem course_visits (remote : Remote σ) (request : Http.Request) (state : σ) :
    Course remote.maxRedirects request.url remote.maxRedirects request
      (remote.visits request state) (remote.response request state).1 ∧
    remote.exchange.Carries state (remote.visits request state)
      (remote.response request state).2 ∧
    remote.noted.response request (state, []) =
      ((remote.response request state).1, (remote.response request state).2,
        remote.visits request state) := by
  rcases follow_course remote.exchange remote.maxRedirects request.url remote.maxRedirects request
    state [] with
    ⟨more, result, after, course, carries, ran, noted⟩
  unfold visits response Remote.noted
  rw [noted, ran]
  exact ⟨course, carries, rfl⟩

end Remote

end VirtualTables
