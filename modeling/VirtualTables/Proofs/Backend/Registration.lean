import VirtualTables.Backend.Local
import VirtualTables.Proofs.Backend.Course

/-!
Registries that are shared.

A registry is reached through handles and gateways, which are made while services come and go. Each
keeps the number of its registry and nothing of what the registry holds; so what a call is answered
by depends on the registrations and removals before it, and not on when or from which handle the
gateway was made.
-/

namespace VirtualTables

structure Gateway where
  registry : Nat
  address : Address

/-- Registries, with what has been made to reach them. Two handles are clones of each other if they
have the same number. -/
structure Registries where
  slots : List Registry
  handles : List Nat
  gateways : List Gateway

/-- Handles and gateways go by their positions among all that were made. -/
inductive Registries.Action where
  | create
  | createWith (service : LocalService)
  | clone (handle : Nat)
  | openGateway (handle : Nat) (address : Address)
  | register (handle : Nat) (service : LocalService)
  | unregister (handle : Nat)
  | isRegistered (handle : Nat)
  | service (handle : Nat)
  | call (gateway : Nat) (call : LocalCall)

inductive Registries.Reply where
  | nothing
  | isRegistered (answer : Bool)
  | service (answer : Except Fault LocalService)
  | status (answer : Except Fault Unit)
  | services (answer : Except Fault (List Service))
  | query (answer : Except Fault ByteSource)

def LocalService.reply (service : LocalService) : LocalCall → Registries.Reply
  | .status => .status service.status
  | .services => .services service.services
  | .query query => .query (service.query query)

namespace LocalCall

def unavailable : LocalCall → Registries.Reply
  | .status => .status (.error .noLocalService)
  | .services => .services (.error .noLocalService)
  | .query _ => .query (.error .noLocalService)

def withDefaults (call : LocalCall) (address : Address) : LocalCall :=
  match call with
  | .query asked => .query (asked.withDefaults address)
  | _ => call

end LocalCall

def Registry.recorded (registry : Registry) (call : LocalCall) : Registry :=
  { registry with calls := call :: registry.calls }

theorem Registry.ask_eq {α : Type} (registry : Registry) (call : LocalCall)
    (answer : LocalService → Except Fault α) :
    registry.ask call answer =
      match registry.service? with
      | none => (.error .noLocalService, registry)
      | some service => (answer service, registry.recorded call) :=
  rfl

theorem run_askRegistered {σ α : Type} [HasRegistry σ] (call : LocalCall)
    (answer : LocalService → Except Fault α) (world : σ) :
    (askRegistered call answer).run world =
      (((HasRegistry.registry world).ask call answer).1,
        HasRegistry.withRegistry world ((HasRegistry.registry world).ask call answer).2) := by
  rcases asked : (HasRegistry.registry world).ask call answer with ⟨outcome, registry⟩
  -- The outcome must be known before the writing back and the failing can be run in turn.
  have got : (get : Attempt σ σ) world = (.ok world, world) := rfl
  change (askRegistered call answer) world = (outcome, HasRegistry.withRegistry world registry)
  rw [askRegistered, Attempt.run_bind, got]
  dsimp only
  rw [asked]
  cases outcome with
  | error fault => rfl
  | ok value => rfl

namespace Registries

def empty : Registries :=
  ⟨[], [], []⟩

def registry (registries : Registries) (number : Nat) : Registry :=
  registries.slots.getD number .empty

def change (registries : Registries) (number : Nat) (registry : Registry) : Registries :=
  { registries with slots := registries.slots.set number registry }

def make (registries : Registries) (registry : Registry) : Registries :=
  { registries with
    slots := registries.slots ++ [registry]
    handles := registries.handles ++ [registries.slots.length] }

@[reducible]
def holding (number : Nat) : HasRegistry Registries :=
  ⟨(·.registry number), (·.change number)⟩

end Registries

namespace Gateway

open Registries

def backend (gateway : Gateway) : Backend Registries :=
  @localBackend Registries (holding gateway.registry) gateway.address

def call (gateway : Gateway) (call : LocalCall) (registries : Registries) : Reply × Registries :=
  match call with
  | .status => Prod.map Reply.status id (gateway.backend.status.run registries)
  | .services => Prod.map Reply.services id (gateway.backend.services.run registries)
  | .query query => Prod.map Reply.query id ((gateway.backend.query query).run registries)

end Gateway

namespace Registries

def through (registries : Registries) (handle : Nat) (act : Nat → Reply × Registries) :
    Reply × Registries :=
  match registries.handles[handle]? with
  | none => (.nothing, registries)
  | some number => act number

def step (registries : Registries) : Action → Reply × Registries
  | .create => (.nothing, registries.make .empty)
  | .createWith service => (.nothing, registries.make (Registry.empty.register service))
  | .clone handle => registries.through handle fun number =>
      (.nothing, { registries with handles := registries.handles ++ [number] })
  | .openGateway handle address => registries.through handle fun number =>
      (.nothing, { registries with gateways := registries.gateways ++ [⟨number, address⟩] })
  | .register handle service => registries.through handle fun number =>
      (.nothing, registries.change number ((registries.registry number).register service))
  | .unregister handle => registries.through handle fun number =>
      (.nothing, registries.change number (registries.registry number).unregister)
  | .isRegistered handle => registries.through handle fun number =>
      (.isRegistered (registries.registry number).isRegistered, registries)
  | .service handle => registries.through handle fun number =>
      (.service (registries.registry number).service, registries)
  | .call gateway call =>
      match registries.gateways[gateway]? with
      | none => (.nothing, registries)
      | some gateway => gateway.call call registries

def run (registries : Registries) (actions : List Action) : Registries :=
  actions.foldl (fun registries action => (registries.step action).2) registries

/-- What an action publishes at a registry: a service, or that there is none any more. -/
def Action.publication? (registries : Registries) (number : Nat) :
    Action → Option (Option LocalService)
  | .createWith given => if registries.slots.length = number then some (some given) else none
  | .register handle given =>
      if registries.handles[handle]? = some number then some (some given) else none
  | .unregister handle => if registries.handles[handle]? = some number then some none else none
  | _ => none

def publications (number : Nat) : Registries → List Action → List (Option LocalService)
  | _, [] => []
  | registries, action :: actions =>
      (action.publication? registries number).toList ++
        publications number (registries.step action).2 actions

/-- In a history that begins without any registry, the last thing that was published at the one
with a number is a service. -/
def Published (history : List Action) (number : Nat) (service : LocalService) : Prop :=
  (publications number empty history).getLast? = some (some service)

variable {registries : Registries}

theorem registry_make (registries : Registries) (registry : Registry) (number : Nat) :
    (registries.make registry).registry number =
      if registries.slots.length = number then registry else registries.registry number := by
  simp only [Registries.registry, make, List.getD_eq_getElem?_getD]
  by_cases newest : registries.slots.length = number
  · rw [if_pos newest, ← newest, List.getElem?_concat_length, Option.getD_some]
  · rw [if_neg newest]
    rcases Nat.lt_or_gt_of_ne newest with behind | below
    · rw [List.getElem?_eq_none (by simpa using Nat.succ_le_of_lt behind),
        List.getElem?_eq_none (Nat.le_of_lt behind)]
    · rw [List.getElem?_append_left below]

theorem registry_change {number : Nat} (made : number < registries.slots.length)
    (registry : Registry) (other : Nat) :
    (registries.change number registry).registry other =
      if number = other then registry else registries.registry other := by
  simp only [Registries.registry, change, List.getD_eq_getElem?_getD]
  by_cases same : number = other
  · rw [if_pos same, ← same, List.getElem?_set_self made, Option.getD_some]
  · rw [if_neg same, List.getElem?_set_ne same]

theorem change_registry (registries : Registries) (number : Nat) :
    registries.change number (registries.registry number) = registries := by
  have same : registries.slots.set number (registries.registry number) = registries.slots := by
    rcases Nat.lt_or_ge number registries.slots.length with made | missing
    · rw [Registries.registry, List.getD_eq_getElem?_getD, List.getElem?_eq_getElem made,
        Option.getD_some, List.set_getElem_self]
    · exact List.set_eq_of_length_le missing
  rw [change, same]

theorem run_askRegistered_holding {α : Type} (registries : Registries) (number : Nat)
    (call : LocalCall) (answer : LocalService → Except Fault α) :
    (@askRegistered Registries (holding number) α call answer).run registries =
      match (registries.registry number).service? with
      | none => (.error .noLocalService, registries)
      | some service =>
          (answer service, registries.change number ((registries.registry number).recorded call)) := by
  have ran : (@askRegistered Registries (holding number) α call answer).run registries =
      (((registries.registry number).ask call answer).1,
        registries.change number ((registries.registry number).ask call answer).2) :=
    @run_askRegistered Registries α (holding number) call answer registries
  rw [ran, Registry.ask_eq]
  cases (registries.registry number).service? with
  | none => exact Prod.ext rfl (registries.change_registry number)
  | some service => rfl

end Registries

theorem Gateway.call_eq (gateway : Gateway) (call : LocalCall) (registries : Registries) :
    gateway.call call registries =
      match (registries.registry gateway.registry).service? with
      | none => (call.unavailable, registries)
      | some service =>
          let call := call.withDefaults gateway.address
          (service.reply call, registries.change gateway.registry
            ((registries.registry gateway.registry).recorded call)) := by
  cases call with
  | status =>
      have ran := registries.run_askRegistered_holding gateway.registry .status (·.status)
      rw [Gateway.call, show gateway.backend.status.run registries = _ from ran]
      cases (registries.registry gateway.registry).service? <;> rfl
  | services =>
      have ran := registries.run_askRegistered_holding gateway.registry .services (·.services)
      rw [Gateway.call, show gateway.backend.services.run registries = _ from ran]
      cases (registries.registry gateway.registry).service? <;> rfl
  | query asked =>
      have ran := registries.run_askRegistered_holding gateway.registry
        (.query (asked.withDefaults gateway.address))
        (·.query (asked.withDefaults gateway.address))
      rw [Gateway.call, show (gateway.backend.query asked).run registries = _ from ran]
      cases (registries.registry gateway.registry).service? <;> rfl

namespace Registries

variable {registries : Registries}

def Reaches (registries : Registries) (number : Nat) : Prop :=
  number ∈ registries.handles ∨ number ∈ registries.gateways.map Gateway.registry

/-- Handles and gateways lead to registries that have been made. -/
def IsSound (registries : Registries) : Prop :=
  ∀ number, registries.Reaches number → number < registries.slots.length

/-- The ways an action leaves registries behind, each with what it publishes. -/
inductive Next (registries : Registries) (action : Action) : Registries → Prop where
  | same (silent : ∀ number, action.publication? registries number = none) :
      Next registries action registries
  | made (service? : Option LocalService)
      (publishes : ∀ number, action.publication? registries number =
        if registries.slots.length = number then service?.map some else none) :
      Next registries action (registries.make ⟨service?, []⟩)
  | cloned {number : Nat} (reached : registries.Reaches number)
      (silent : ∀ number, action.publication? registries number = none) :
      Next registries action { registries with handles := registries.handles ++ [number] }
  | opened {number : Nat} (address : Address) (reached : registries.Reaches number)
      (silent : ∀ number, action.publication? registries number = none) :
      Next registries action
        { registries with gateways := registries.gateways ++ [⟨number, address⟩] }
  | changed {number : Nat} {registry : Registry} (reached : registries.Reaches number)
      (publishes : ∀ other,
        (action.publication? registries other).getD (registries.registry other).service? =
          if number = other then registry.service? else (registries.registry other).service?) :
      Next registries action (registries.change number registry)

theorem Next.through {action : Action} {handle : Nat} {act : Nat → Reply × Registries}
    (unknown : registries.handles[handle]? = none →
      ∀ number, action.publication? registries number = none)
    (known : ∀ number, registries.handles[handle]? = some number → registries.Reaches number →
      Next registries action (act number).2) :
    Next registries action (registries.through handle act).2 := by
  rw [Registries.through]
  cases found : registries.handles[handle]? with
  | none => exact .same (unknown found)
  | some number => exact known number found (.inl (List.mem_of_getElem? found))

theorem next_publish {action : Action} {handle : Nat} {act : Nat → Registry}
    (published? : Option LocalService) (sets : ∀ number, (act number).service? = published?)
    (publishes : ∀ number, action.publication? registries number =
      if registries.handles[handle]? = some number then some published? else none) :
    Next registries action
      (registries.through handle fun number =>
        (.nothing, registries.change number (act number))).2 := by
  refine .through ?_ ?_
  · intro unknown number
    rw [publishes, unknown, if_neg nofun]
  · intro number known reached
    refine .changed reached fun other => ?_
    rw [publishes, sets]
    simp only [known, Option.some_inj]
    by_cases same : number = other
    · rw [if_pos same, if_pos same]
      rfl
    · rw [if_neg same, if_neg same]
      rfl

theorem next_call (index : Nat) (call : LocalCall) :
    Next registries (.call index call) (registries.step (.call index call)).2 := by
  rw [step]
  cases found : registries.gateways[index]? with
  | none => exact .same fun number => rfl
  | some gateway =>
      have reached : registries.Reaches gateway.registry :=
        .inr (List.mem_map_of_mem (List.mem_of_getElem? found))
      dsimp only
      rw [Gateway.call_eq]
      cases (registries.registry gateway.registry).service? with
      | none => exact .same fun number => rfl
      | some service =>
          -- The call is put on record, and the service stays.
          refine .changed reached fun other => ?_
          by_cases same : gateway.registry = other
          · rw [if_pos same, ← same]
            rfl
          · rw [if_neg same]
            rfl

theorem next_step (registries : Registries) (action : Action) :
    Next registries action (registries.step action).2 := by
  cases action with
  | create => exact .made none fun number => (ite_self none).symm
  | createWith given => exact .made (some given) fun number => rfl
  | clone handle =>
      exact .through (fun _ _ => rfl) fun number _ reached => .cloned reached fun _ => rfl
  | openGateway handle address =>
      exact .through (fun _ _ => rfl) fun number _ reached => .opened address reached fun _ => rfl
  | register handle given => exact next_publish (some given) (fun _ => rfl) fun _ => rfl
  | unregister handle => exact next_publish none (fun _ => rfl) fun _ => rfl
  | isRegistered handle => exact .through (fun _ _ => rfl) fun number _ _ => .same fun _ => rfl
  | service handle => exact .through (fun _ _ => rfl) fun number _ _ => .same fun _ => rfl
  | call index call => exact next_call index call

section Step

variable {action : Action} {after : Registries} (next : Next registries action after)

include next

theorem Next.isSound (sound : registries.IsSound) : after.IsSound := by
  intro number reached
  cases next with
  | same => exact sound number reached
  | made service? =>
      rw [make, List.length_append, List.length_singleton]
      rcases reached with handle | gateway
      · rcases List.mem_append.mp handle with earlier | newest
        · exact Nat.lt_succ_of_lt (sound number (.inl earlier))
        · rw [List.mem_singleton.mp newest]
          exact Nat.lt_succ_self _
      · exact Nat.lt_succ_of_lt (sound number (.inr gateway))
  | cloned reachedBefore =>
      rcases reached with handle | gateway
      · rcases List.mem_append.mp handle with earlier | newest
        · exact sound number (.inl earlier)
        · rw [List.mem_singleton.mp newest]
          exact sound _ reachedBefore
      · exact sound number (.inr gateway)
  | opened address reachedBefore =>
      rcases reached with handle | gateway
      · exact sound number (.inl handle)
      · rw [List.map_append, List.mem_append] at gateway
        rcases gateway with earlier | newest
        · exact sound number (.inr earlier)
        · rw [List.mem_singleton.mp newest]
          exact sound _ reachedBefore
  | changed =>
      rw [change, List.length_set]
      exact sound number reached

/-- An action leaves the service of every registry as it is, unless it publishes something
there. -/
theorem Next.service?_eq (sound : registries.IsSound) (number : Nat) :
    (after.registry number).service? =
      (action.publication? registries number).getD (registries.registry number).service? := by
  cases next with
  | same silent | cloned reached silent | opened address reached silent =>
      rw [silent]
      rfl
  | made service? publishes =>
      rw [publishes, registry_make]
      by_cases newest : registries.slots.length = number
      · -- There was no registry with the number of the new one.
        have missing : (registries.registry number).service? = none := by
          rw [registry, List.getD_eq_getElem?_getD, List.getElem?_eq_none (Nat.le_of_eq newest)]
          rfl
        rw [if_pos newest, if_pos newest, missing]
        cases service? <;> rfl
      · rw [if_neg newest, if_neg newest]
        rfl
  | changed reached publishes =>
      rw [publishes, registry_change (sound _ reached)]
      split <;> rfl

theorem Next.extends :
    registries.handles <+: after.handles ∧ registries.gateways <+: after.gateways := by
  cases next with
  | same | changed => exact ⟨List.prefix_rfl, List.prefix_rfl⟩
  | made | cloned => exact ⟨List.prefix_append _ _, List.prefix_rfl⟩
  | opened => exact ⟨List.prefix_rfl, List.prefix_append _ _⟩

end Step

theorem run_cons (registries : Registries) (action : Action) (actions : List Action) :
    registries.run (action :: actions) = (registries.step action).2.run actions :=
  rfl

theorem run_isSound (sound : registries.IsSound) (actions : List Action) :
    (registries.run actions).IsSound := by
  induction actions generalizing registries with
  | nil => exact sound
  | cons action actions inductionHypothesis =>
      exact inductionHypothesis ((next_step registries action).isSound sound)

theorem run_extends (registries : Registries) (actions : List Action) :
    registries.handles <+: (registries.run actions).handles ∧
      registries.gateways <+: (registries.run actions).gateways := by
  induction actions generalizing registries with
  | nil => exact ⟨List.prefix_rfl, List.prefix_rfl⟩
  | cons action actions inductionHypothesis =>
      obtain ⟨handles, gateways⟩ := (next_step registries action).extends
      obtain ⟨handlesAfter, gatewaysAfter⟩ := inductionHypothesis (registries.step action).2
      exact ⟨handles.trans handlesAfter, gateways.trans gatewaysAfter⟩

/-- What a run leaves registered is what it published last, if it published anything. -/
theorem run_service? (sound : registries.IsSound) (actions : List Action) (number : Nat) :
    ((registries.run actions).registry number).service? =
      (publications number registries actions).getLast?.getD
        (registries.registry number).service? := by
  induction actions generalizing registries with
  | nil => rfl
  | cons action actions inductionHypothesis =>
      have next := next_step registries action
      rw [run_cons, inductionHypothesis (next.isSound sound), next.service?_eq sound,
        publications, List.getLast?_append]
      cases (publications number (registries.step action).2 actions).getLast? with
      | none => cases action.publication? registries number <;> rfl
      | some published => rfl

theorem isSound_empty : empty.IsSound := by
  rintro number (handle | gateway)
  · cases handle
  · cases gateway

theorem service?_run_iff {history : List Action} {number : Nat} {service : LocalService} :
    ((empty.run history).registry number).service? = some service ↔
      Published history number service := by
  rw [run_service? isSound_empty, Published]
  cases (publications number empty history).getLast? with
  | none => exact ⟨nofun, nofun⟩
  | some published => exact Option.some_inj.symm

theorem service?_run_eq_none_iff {history : List Action} {number : Nat} :
    ((empty.run history).registry number).service? = none ↔
      ¬ ∃ service, Published history number service := by
  simp only [← service?_run_iff, ← Option.isSome_iff_exists, Option.not_isSome_iff_eq_none]

/-- After any history a call through a gateway, whenever and from whichever clone it was made, is
answered by the service that was registered last at its registry, which is handed the call merged
with the address of that gateway and no other; without one, because it was removed or none was ever
registered, the call fails and nothing is asked. Handles tell the same. -/
theorem step_published (history : List Action) :
    let now := empty.run history
    now.IsSound ∧
    (∀ later, now.handles <+: (empty.run (history ++ later)).handles ∧
      now.gateways <+: (empty.run (history ++ later)).gateways) ∧
    (∀ handle number, now.handles[handle]? = some number →
      (∀ service, Published history number service →
        now.step (.isRegistered handle) = (.isRegistered true, now) ∧
        now.step (.service handle) = (.service (.ok service), now)) ∧
      ((¬ ∃ service, Published history number service) →
        now.step (.isRegistered handle) = (.isRegistered false, now) ∧
        now.step (.service handle) = (.service (.error .noLocalService), now))) ∧
    ∀ index gateway, now.gateways[index]? = some gateway → ∀ call,
      let merged := call.withDefaults gateway.address
      (∀ service, Published history gateway.registry service →
        now.step (.call index call) = (service.reply merged,
          now.change gateway.registry ((now.registry gateway.registry).recorded merged))) ∧
      ((¬ ∃ service, Published history gateway.registry service) →
        now.step (.call index call) = (call.unavailable, now)) := by
  intro now
  refine ⟨run_isSound isSound_empty history, ?_, ?_, ?_⟩
  · intro later
    rw [run, List.foldl_append]
    exact run_extends now later
  · intro handle number known
    refine ⟨?_, ?_⟩
    · intro service published
      have held := service?_run_iff.mpr published
      simp only [step, through, known]
      rw [Registry.isRegistered, Registry.service, held]
      exact ⟨rfl, rfl⟩
    · intro unpublished
      have missing := service?_run_eq_none_iff.mpr unpublished
      simp only [step, through, known]
      rw [Registry.isRegistered, Registry.service, missing]
      exact ⟨rfl, rfl⟩
  · intro index gateway known call merged
    refine ⟨?_, ?_⟩
    · intro service published
      have held := service?_run_iff.mpr published
      simp only [step, known]
      rw [Gateway.call_eq, held]
    · intro unpublished
      have missing := service?_run_eq_none_iff.mpr unpublished
      simp only [step, known]
      rw [Gateway.call_eq, missing]

/-- A gateway is opened before a service is registered through a clone, another one after, under
an address that asks for a log. -/
theorem step_published_clone :
    let address : Address := ⟨"", "h", "1", none, none, none, none, false, true, none, false,
      .empty, ⟨none, none⟩⟩
    let service : LocalService := ⟨.ok (), .ok [], fun query =>
      .ok (.ofBytes (if query.debugLog then [1] else [0]))⟩
    let other : LocalService := ⟨.ok (), .ok [], fun _ => .ok (.ofBytes [])⟩
    let history : List Action := [.create, .openGateway 0 address, .clone 0, .register 1 service,
      .createWith other, .openGateway 1 { address with debugLog := true }]
    let now := empty.run history
    let query := Query.ofStatement "q" 5
    (∃ gateway, now.gateways[0]? = some gateway ∧ Published history gateway.registry service) ∧
    (∃ gateway, now.gateways[1]? = some gateway ∧ Published history gateway.registry service) ∧
    (now.step (.call 0 (.query query))).1 = .query (.ok (.ofBytes [0])) ∧
    (now.step (.call 1 (.query query))).1 = .query (.ok (.ofBytes [1])) ∧
    (∃ last, last = empty.run (history ++ [.unregister 0]) ∧
      last.step (.call 1 (.query query)) = (.query (.error .noLocalService), last)) := by
  intro address service other history now query
  have early : now.gateways[0]? = some ⟨0, address⟩ := rfl
  have late : now.gateways[1]? = some ⟨0, { address with debugLog := true }⟩ := rfl
  have published : Published history 0 service := rfl
  have calls := (step_published history).2.2.2
  refine ⟨⟨_, early, published⟩, ⟨_, late, published⟩, ?_, ?_, _, rfl, ?_⟩
  · rw [(calls 0 _ early (.query query)).1 service published]
    rfl
  · rw [(calls 1 _ late (.query query)).1 service published]
    rfl
  · have removed := (step_published (history ++ [.unregister 0])).2.2.2 1 _ late (.query query)
    apply removed.2
    rintro ⟨service, published⟩
    cases published

end Registries

end VirtualTables
