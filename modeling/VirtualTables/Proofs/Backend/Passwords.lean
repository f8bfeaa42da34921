import VirtualTables.Proofs.Catalog.Series
import VirtualTables.Session

/-!
Passwords leave no trace in what is said about an address, nor in what its server is asked for.

An inquiry is a series of calls to a backend, each of which may depend on what came of those before.
What it asks a server for is found out with notes; `Exchange.Notes` says that taking notes changes
nothing, first of single computations and then of a whole inquiry (`Inquiry.run_noted`). Addresses
with different passwords then give the same backend, with notes and without.
-/

namespace VirtualTables

variable {σ α β : Type}

theorem Exchange.Carries.append {exchange : Exchange σ} {state between after : σ}
    {visits more : List Visit} (carries : exchange.Carries state visits between)
    (further : exchange.Carries between more after) :
    exchange.Carries state (visits ++ more) after := by
  induction carries with
  | nothing => exact further
  | visit ran _ inductionHypothesis => exact .visit ran (inductionHypothesis further)

/-- A computation, and the same one with notes: what is noted is what the exchange carries out, and
nothing else is different. -/
def Exchange.Notes (exchange : Exchange σ) (attempt : Attempt σ α)
    (noted : Attempt (σ × List Visit) α) : Prop :=
  ∀ state visits, ∃ more, exchange.Carries state more (attempt state).2 ∧
    noted (state, visits) = ((attempt state).1, (attempt state).2, visits ++ more)

namespace Exchange.Notes

variable {exchange : Exchange σ} {attempt : Attempt σ α} {noted : Attempt (σ × List Visit) α}

theorem settled (outcome : Except Fault α) :
    exchange.Notes (fun state => (outcome, state)) fun state => (outcome, state) := by
  intro state visits
  refine ⟨[], .nothing, ?_⟩
  rw [List.append_nil]

theorem bind {next : α → Attempt σ β} {nextNoted : α → Attempt (σ × List Visit) β}
    (notes : exchange.Notes attempt noted)
    (nextNotes : ∀ value, exchange.Notes (next value) (nextNoted value)) :
    exchange.Notes (attempt >>= next) (noted >>= nextNoted) := by
  intro state visits
  obtain ⟨more, carries, same⟩ := notes state visits
  rw [Attempt.run_bind, Attempt.run_bind, same]
  rcases ran : attempt state with ⟨outcome, after⟩
  rw [ran] at carries
  cases outcome with
  | error fault => exact ⟨more, carries, rfl⟩
  | ok value =>
      obtain ⟨further, carriesOn, same⟩ := nextNotes value after (visits ++ more)
      refine ⟨more ++ further, carries.append carriesOn, ?_⟩
      rw [← List.append_assoc]
      exact same

end Exchange.Notes

namespace Remote

variable (remote : Remote σ)

theorem notes_response (request : Http.Request) :
    remote.exchange.Notes (remote.response request) (remote.noted.response request) := by
  intro state visits
  obtain ⟨more, result, after, _, carries, ran, noted⟩ := follow_course remote.exchange
    remote.maxRedirects request.url remote.maxRedirects request state visits
  rw [response, ran]
  exact ⟨more, carries, noted⟩

theorem notes_page (path : String) :
    remote.exchange.Notes (remote.page path) (remote.noted.page path) := by
  refine (remote.notes_response _).bind fun response => ?_
  cases response.body.text? with
  | none => exact .settled _
  | some text => exact .settled _

theorem notes_status : remote.exchange.Notes remote.backend.status remote.noted.backend.status :=
  (remote.notes_page statusPath).bind fun _ => .settled _

theorem notes_services :
    remote.exchange.Notes remote.backend.services remote.noted.backend.services := by
  refine (remote.notes_page listingPath).bind fun document => ?_
  cases Listing.services document with
  | error fault => exact .settled _
  | ok services => exact .settled _

theorem notes_query (query : Query) :
    remote.exchange.Notes (remote.backend.query query) (remote.noted.backend.query query) :=
  (remote.notes_response _).bind fun _ => .settled _

theorem notes_ask (question : Catalog.Question) :
    remote.exchange.Notes (Catalog.ask remote.backend question)
      (Catalog.ask remote.noted.backend question) := by
  intro state visits
  by_cases needs : question.NeedsListing
  · obtain ⟨more, carries, same⟩ := remote.notes_services state visits
    have plain : Catalog.ask remote.backend question state = _ :=
      Catalog.fetchesOnce_ask remote.backend needs state
    have noted : Catalog.ask remote.noted.backend question (state, visits) = _ :=
      Catalog.fetchesOnce_ask remote.noted.backend needs (state, visits)
    have services : remote.noted.backend.services.run (state, visits) = _ := same
    rw [plain, noted, services]
    exact ⟨more, carries, rfl⟩
  · have plain : Catalog.ask remote.backend question state = _ :=
      Catalog.neverFetches_ask remote.backend needs state
    have noted : Catalog.ask remote.noted.backend question (state, visits) = _ :=
      Catalog.neverFetches_ask remote.noted.backend needs (state, visits)
    rw [plain, noted]
    refine ⟨[], .nothing, ?_⟩
    rw [List.append_nil]

end Remote

inductive Call where
  | status
  | services
  | query (query : Query)
  | catalog (question : Catalog.Question)

inductive Reply where
  | reached
  | services (services : List Service)
  | rows (source : ByteSource)
  | catalog (reply : Catalog.Reply)

def Backend.reply (backend : Backend σ) : Call → Attempt σ Reply
  | .status => do
      backend.status
      return .reached
  | .services => do return .services (← backend.services)
  | .query query => do return .rows (← backend.query query)
  | .catalog question => do return .catalog (← Catalog.ask backend question)

/-- Calls one after another, each chosen by what came of the ones before. -/
inductive Inquiry where
  | done
  | ask (call : Call) (next : Except Fault Reply → Inquiry)

namespace Inquiry

def run (backend : Backend σ) : Inquiry → σ → List (Except Fault Reply) × σ
  | .done, state => ([], state)
  | .ask call next, state =>
      let (outcome, between) := backend.reply call state
      let (outcomes, after) := run backend (next outcome) between
      (outcome :: outcomes, after)

def visits (remote : Remote σ) (inquiry : Inquiry) (state : σ) : List Visit :=
  (inquiry.run remote.noted.backend (state, [])).2.2

theorem notes_reply (remote : Remote σ) (call : Call) :
    remote.exchange.Notes (remote.backend.reply call) (remote.noted.backend.reply call) := by
  cases call with
  | status => exact remote.notes_status.bind fun _ => .settled _
  | services => exact remote.notes_services.bind fun _ => .settled _
  | query query => exact (remote.notes_query query).bind fun _ => .settled _
  | catalog question => exact (remote.notes_ask question).bind fun _ => .settled _

theorem run_noted (remote : Remote σ) (inquiry : Inquiry) (state : σ) (visits : List Visit) :
    ∃ more, remote.exchange.Carries state more (inquiry.run remote.backend state).2 ∧
      inquiry.run remote.noted.backend (state, visits) =
        ((inquiry.run remote.backend state).1, (inquiry.run remote.backend state).2,
          visits ++ more) := by
  induction inquiry generalizing state visits with
  | done =>
      refine ⟨[], .nothing, ?_⟩
      rw [List.append_nil]
      rfl
  | ask call next inductionHypothesis =>
      obtain ⟨first, carries, replied⟩ := notes_reply remote call state visits
      rcases ran : remote.backend.reply call state with ⟨outcome, between⟩
      rw [ran] at carries replied
      obtain ⟨others, carriesOn, same⟩ := inductionHypothesis outcome between (visits ++ first)
      refine ⟨first ++ others, ?_, ?_⟩
      · rw [run, ran]
        exact carries.append carriesOn
      · rw [run, run, ran, replied]
        dsimp only
        rw [same, List.append_assoc]

theorem carries_visits (remote : Remote σ) (inquiry : Inquiry) (state : σ) :
    remote.exchange.Carries state (inquiry.visits remote state)
      (inquiry.run remote.backend state).2 := by
  obtain ⟨more, carries, same⟩ := run_noted remote inquiry state []
  rw [visits, same]
  exact carries

end Inquiry

namespace Address

def withPassword (address : Address) (password : String) : Address :=
  { address with credentials := ⟨address.credentials.username, some password⟩ }

/-- A password stays out of the parts that are read from the text of an address. -/
theorem ofText?_withPassword (text : String) (username : Option String) (first second : String) :
    ofText? text ⟨username, some second⟩ =
      (ofText? text ⟨username, some first⟩).map (·.withPassword second) := by
  unfold ofText?
  split
  · rfl
  · rfl

theorem credentials_of_ofText? {text : String} {credentials : Credentials} {address : Address}
    (read : ofText? text credentials = .ok address) : address.credentials = credentials := by
  unfold ofText? at read
  split at read
  · cases read
  · cases read
    rfl

theorem diagnostic_withPassword {address : Address} {given : String}
    (known : address.credentials.password = some given) (password : String) :
    (address.withPassword password).diagnostic = address.diagnostic := by
  have hidden : (address.withPassword password).credentials.diagnostic =
      address.credentials.diagnostic := by
    rw [Credentials.diagnostic, Credentials.diagnostic, known]
    rfl
  rw [diagnostic, diagnostic, hidden]
  rfl

end Address

/-- Neither the requests to a server nor what is made of the responses depend on a password. -/
theorem Remote.backend_withPassword (address : Address) (password : String)
    (exchange : Exchange σ) (limit : Nat) :
    (Remote.mk (address.withPassword password) exchange limit).backend =
      (Remote.mk address exchange limit).backend := rfl

/-- Two passwords for one address and user: either both are refused with one fault, or the addresses
look the same in every text about them, and each inquiry takes the same course on both servers. It
gives the same results, faults with their wording included, and the requests that are carried out
are the same. -/
theorem Session.addressOf_passwords (text : String) (username : Option String)
    (first second : String) :
    (∃ fault, addressOf text ⟨username, some first⟩ = .error fault ∧
      addressOf text ⟨username, some second⟩ = .error fault) ∨
    ∃ left right, addressOf text ⟨username, some first⟩ = .ok left ∧
      addressOf text ⟨username, some second⟩ = .ok right ∧
      left.credentials = ⟨username, some first⟩ ∧ right.credentials = ⟨username, some second⟩ ∧
      left.diagnostic = right.diagnostic ∧ left.text = right.text ∧
      Catalog.identity left = Catalog.identity right ∧
      ∀ (σ : Type) (exchange : Exchange σ) (limit : Nat) (inquiry : Inquiry) (state : σ),
        let one := Remote.mk left exchange limit
        let other := Remote.mk right exchange limit
        inquiry.run one.backend state = inquiry.run other.backend state ∧
          inquiry.visits one state = inquiry.visits other state ∧
          exchange.Carries state (inquiry.visits one state)
            (inquiry.run one.backend state).2 := by
  have passwords := Address.ofText?_withPassword text username first second
  unfold addressOf
  rw [passwords]
  cases read : Address.ofText? text ⟨username, some first⟩ with
  | error fault => exact .inl ⟨_, rfl, rfl⟩
  | ok left =>
      have carried := Address.credentials_of_ofText? read
      have given : left.credentials.password = some first := by rw [carried]
      have replaced : (left.withPassword second).credentials = ⟨username, some second⟩ := by
        rw [Address.withPassword, carried]
      refine .inr ⟨left, left.withPassword second, rfl, rfl, carried, replaced, ?_, rfl, rfl, ?_⟩
      · exact (Address.diagnostic_withPassword given second).symm
      · intro σ exchange limit inquiry state one other
        have same : other.backend = one.backend :=
          Remote.backend_withPassword left second exchange limit
        have sameNoted : other.noted.backend = one.noted.backend :=
          Remote.backend_withPassword left second exchange.noted limit
        refine ⟨?_, ?_, inquiry.carries_visits one state⟩
        · rw [same]
        · rw [Inquiry.visits, Inquiry.visits, sameNoted]

end VirtualTables
