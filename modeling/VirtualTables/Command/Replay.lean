import VirtualTables.Command.Run

/-!
Runs of a command line with the answers of the network that are known so far.

A run asks the network one request after the other. A run with answers to the first requests stops
at the first request that has none, so repeating it with that answer added goes one request
further, and a run that asks for no more is the complete one.
-/

namespace VirtualTables.Command

/-- The answers still to be given, and the first request without one. -/
structure Replay where
  answers : List (Except Fault Http.Response)
  asked : Option (Client × Http.Request)
  registry : Registry

instance : HasRegistry Replay where
  registry replay := replay.registry
  withRegistry replay registry := { replay with registry }

/-- The network that gives the known answers and then notes a request. -/
def Replay.network (client : Client) : Exchange Replay := fun request => do
  let replay ← get
  match replay.answers with
  | answer :: answers =>
      set { replay with answers }
      match answer with
      | .error fault => throw fault
      | .ok response => return response
  | [] =>
      set { replay with asked := replay.asked <|> some (client, request) }
      throw (.connection .unreachable)

def runWith (surroundings : Surroundings) (arguments : List String)
    (answers : List (Except Fault Http.Response)) : Outcome × Option (Client × Http.Request) :=
  let (outcome, replay) := (run surroundings Replay.network arguments).run ⟨answers, none, .empty⟩
  (outcome, replay.asked)

end VirtualTables.Command
