import Std.Async
import Barrage.Load.Redirect
import Barrage.Load.Engine
import Barrage.Wire

/-! Runs over the real network.
Every user is a task of its own, and every move of a task is a move of the run that they share. -/

namespace Barrage.World

open Std.Async

def addresses (host : String) (port : UInt16) : Async (List Std.Net.SocketAddress) := do
  let found ← DNS.getAddrInfo host (toString port.toNat)
  return found.toList.map fun
    | .v4 addr => .v4 ⟨addr, port⟩
    | .v6 addr => .v6 ⟨addr, port⟩

def hostName (u : Url) : String :=
  String.ofList ((((u.host.map Host.text).getD []).filter (· ≠ '[')).filter (· ≠ ']'))

def portOf (u : Url) : UInt16 :=
  UInt16.ofNat ((u.port.or (Url.usualPort? u.scheme)).getD 80)

partial def connectToAny (socket : TCP.Socket.Client) :
    List Std.Net.SocketAddress → Async Unit
  | [] => throw (IO.userError "no address")
  | [a] => socket.connect a
  | a :: rest => do
    try socket.connect a catch _ => connectToAny socket rest

partial def receiveHead (socket : TCP.Socket.Client) (received : ByteArray) :
    Async (Option (Wire.Head × ByteArray)) := do
  let letters := (received.toList.take Wire.longestHead).map fun b => Char.ofNat b.toNat
  match Wire.headLength? 0 letters with
  | some n =>
    return some (.ofLetters (letters.take n), received.extract (n + 4) received.size)
  | none =>
    if Wire.longestHead ≤ received.size then return none
    match ← socket.recv? 65536 with
    | some more => receiveHead socket (received ++ more)
    | none => return none

partial def drain (socket : TCP.Socket.Client) : Async Unit := do
  if (← socket.recv? 65536).isSome then drain socket

partial def receiveResponse (socket : TCP.Socket.Client) (received : ByteArray) :
    Async Wire.Head := do
  match ← receiveHead socket received with
  | none => throw (IO.userError "connection closed")
  | some (head, rest) => if head.isInterim then receiveResponse socket rest else return head

partial def exchange (redirects : Nat) (r : Request) : Async UInt16 := do
  if r.url.scheme ≠ "http".toList then throw (IO.userError "no secure connections")
  let socket ← TCP.Socket.Client.mk
  connectToAny socket (← addresses (hostName r.url) (portOf r.url))
  socket.send (Wire.requestText r).toUTF8
  let head ← receiveResponse socket .empty
  let some status := head.status? | throw (IO.userError "no status")
  match r.next? status (head.field? "location") with
  | none =>
    background (drain socket)
    return status
  | some next =>
    if redirects = 0 then throw (IO.userError "too many redirects")
    exchange (redirects - 1) next

def deliver (limit : Nat) (s : Step) : Async Delivery := do
  match Request.ofStep s with
  | .error f => return .error f
  | .ok r =>
    let answer : Async Delivery := do
      try return .ok (← exchange Request.mostRedirects r)
      catch _ =>
        return .error (.connection ("error sending request for url (" ++ Request.shown r.url ++ ")"))
    let timer ← Sleep.mk (Std.Time.Millisecond.Offset.ofNat limit)
    let tooLate : Async Delivery := do
      timer.wait
      return .error .timeout
    let first ← Async.race answer tooLate
    timer.stop
    return first

def measure (limit : Nat) (s : Step) : Async Sample := do
  let start ← IO.monoMsNow
  let delivery ← deliver limit s
  return ⟨UInt64.ofNat ((← IO.monoMsNow) - start), delivery.outcome⟩

partial def live (run : IO.Ref Run) (steps : List Step) (limit deadline user : Nat) : Async Unit := do
  let move (m : Move) : Async Unit := do
    run.modify fun r => (r.move? steps m).getD r
    live run steps limit deadline user
  if deadline ≤ (← IO.monoMsNow) then run.modify fun r => (r.move? steps .expire).getD r
  match ((← run.get).users[user]?).map User.place with
  | some .deciding => move (.look user)
  | some (.waiting step _) => do move (.reply user (← measure limit step))
  | some .counting => move (.count user)
  | _ => return

def play (steps : List Step) (users seconds limit : Nat) : Async (Run × Duration) := do
  let start ← IO.monoNanosNow
  let run ← IO.mkRef (Run.start users)
  let deadline := (← IO.monoMsNow) + seconds * 1000
  let tasks := (Array.range users).map fun user => live run steps (limit * 1000) deadline user
  discard (Async.concurrentlyAll tasks)
  let nanos := (← IO.monoNanosNow) - start
  return (← run.get, ⟨UInt64.ofNat (nanos / 1000000000), nanos % 1000000000⟩)

/-- The engine for what is to run, if anything, with a limit for each request in seconds. It has
played its run already, unless the clock does not reach the deadline. -/
def engineFor (limit : Nat) (toRun : Option (Script × Plan)) : Async Engine := do
  let uptime := (← IO.monoMsNow) / 1000
  match toRun with
  | some (script, plan) =>
    if uptime + plan.seconds.toNat < Engine.clockEnd then
      let (run, elapsed) ← play script.steps plan.users.toNat plan.seconds.toNat limit
      return ⟨uptime, fun _ _ _ => run, elapsed⟩
    else return ⟨uptime, fun _ users _ => Run.start users, ⟨0, 0⟩⟩
  | none => return ⟨uptime, fun _ users _ => Run.start users, ⟨0, 0⟩⟩

end Barrage.World
