import Std.Async.DNS
import Std.Async.TCP
import Std.Async.Timer
import Std.Internal.UV.System
import VirtualTables.Backend.Route
import VirtualTables.Command.Replay

/-!
The command line: files, environment, log and network of the machine it runs on.
-/

namespace VirtualTables.Command

open Std.Async Std.Net

def fileContent? (name : String) : IO (Option String) := do
  try
    return some (← IO.FS.readFile name)
  catch _ =>
    return none

def FileFault.ofError : IO.Error → FileFault
  | .noFileOrDirectory _ code reason => ⟨code.toNat, reason⟩
  | .inappropriateType _ code reason => ⟨code.toNat, reason⟩
  | .permissionDenied _ code reason => ⟨code.toNat, reason⟩
  | .invalidArgument _ code reason => ⟨code.toNat, reason⟩
  | .resourceExhausted _ code reason => ⟨code.toNat, reason⟩
  | .otherError code reason => ⟨code.toNat, reason⟩
  | error => ⟨0, toString error⟩

def appendFault? (name : String) : IO (Option FileFault) := do
  try
    let _ ← IO.FS.Handle.mk name .append
    return none
  catch error =>
    return some (.ofError error)

/-- An action that is given up after a number of milliseconds, if one is given. -/
def within {α : Type} (milliseconds : Option Nat) (action : Async α) : Async (Option α) := do
  match milliseconds with
  | none => return some (← action)
  | some limit =>
      Async.race (do return some (← action)) do
        sleep (.ofNat limit)
        return none

def resolve (host : String) (port : Nat) : Async (List SocketAddress) := do
  let addresses ← DNS.getAddrInfo host ""
  return addresses.toList.map fun address =>
    match address with
    | .v4 address => .v4 ⟨address, port.toUInt16⟩
    | .v6 address => .v6 ⟨address, port.toUInt16⟩

/-- A connection to the first address that accepts one. -/
def dial : List SocketAddress → Async (Option TCP.Socket.Client)
  | [] => return none
  | address :: others => do
      try
        let socket ← TCP.Socket.Client.mk
        socket.connect address
        return some socket
      catch _ => dial others

partial def receiveAll (socket : TCP.Socket.Client) (before : ByteArray) : Async ByteArray := do
  match ← socket.recv? 65536 with
  | none => return before
  | some bytes => receiveAll socket (before ++ bytes)

def converse (socket : TCP.Socket.Client) (bytes : List UInt8) : Async (List UInt8) := do
  try
    socket.send ⟨bytes.toArray⟩
    return (← receiveAll socket .empty).toList
  catch _ => return []

def transmit (client : Client) (request : Http.Request) :
    Async (Except Fault Http.Response) := do
  match client.route? request with
  | none => return .error (.connection .unreachable)
  | some route =>
      try
        match ← within client.connectTimeout (do dial (← resolve route.host route.port)) with
        | none => return .error (.connection .timedOut)
        | some none => return .error (.connection .unreachable)
        | some (some socket) =>
            match ← within client.requestTimeout (converse socket route.bytes) with
            | none => return .error (.connection .timedOut)
            | some bytes =>
                match Http.Response.ofBytes? bytes with
                | none => return .error (.connection (.unanswered request.url))
                | some response => return .ok response
      catch _ => return .error (.connection .unreachable)

/-- Repeat a run until the network has answered all of its requests. -/
partial def settle (surroundings : Surroundings) (arguments : List String)
    (answers : List (Except Fault Http.Response)) : IO Outcome := do
  match runWith surroundings arguments answers with
  | (outcome, none) => return outcome
  | (_, some (client, request)) =>
      let answer ← (transmit client request).block
      settle surroundings arguments (answers ++ [answer])

def surroundingsOf (arguments : List String) : IO Surroundings := do
  let files ← (settingsFiles arguments).mapM fun name => do return (name, ← fileContent? name)
  let file (name : String) : Option String := (files.lookup name).join
  let environment := (← Std.Internal.UV.System.osEnviron).toList
  let surroundings : Surroundings := ⟨file, environment, fun _ => none⟩
  match logFile? surroundings arguments with
  | none => return surroundings
  | some path =>
      let fault? ← appendFault? path
      return { surroundings with logFault := fun _ => fault? }

end VirtualTables.Command

open VirtualTables.Command in
def main (arguments : List String) : IO UInt32 := do
  let outcome ← settle (← surroundingsOf arguments) arguments []
  for line in outcome.output do
    IO.println line
  for line in outcome.complaints do
    IO.eprintln line
  return outcome.exitCode.toUInt32
