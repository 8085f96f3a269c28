import Std.Sync.Mutex
import Std.Time.DateTime.Timestamp
import Barrage.FreshId
import Barrage.World.Client
import Barrage.World.Files

/-! The server: connections are taken until the program is interrupted.
Requests change the workspace one after the other; a run goes on beside them, and only its result is
kept in turn. -/

namespace Barrage.World

open Std.Async

def now : IO Int := do return (← Std.Time.Timestamp.now).toNanosecondsSinceUnixEpoch.val

structure Server where
  space : Std.Mutex Workspace
  /-- The limit for each request of a run, in seconds. -/
  limit : Nat

def lookAtStores (w : Workspace) : IO Disk :=
  (w.scripts.directory.toList ++ w.results.directory.toList).foldlM look w.disk

namespace Server

def change (s : Server) (f : Workspace → IO (α × Workspace)) : IO α :=
  s.space.atomically do
    let space ← get
    let disk ← lookAtStores space
    let (a, space) ← f { space with disk }
    commit disk space.disk
    set space
    return a

def answer (s : Server) (r : Web.Request) : Async (Option Web.Answer) := do
  let startedAt := Instant.ofNanos (← now)
  let id := FreshId.ofBytes (← IO.getRandomBytes 16).toList
  let idle ← engineFor s.limit none
  let opening (space : Workspace) := do
    return Web.receive space ⟨idle, startedAt, ← now, id⟩ r
  match ← s.change opening with
  | .inl answer => return answer
  | .inr (script, plan) =>
    let engine ← engineFor s.limit (some (script, plan))
    let result := engine.run startedAt script plan
    s.change fun space => return Web.conclude space (← now) result

partial def receiveBody (socket : TCP.Socket.Client) (length : Nat) (received : ByteArray) :
    Async ByteArray := do
  if length ≤ received.size then return received.extract 0 length
  match ← socket.recv? 65536 with
  | some more => receiveBody socket length (received ++ more)
  | none => return received

def attend (s : Server) (socket : TCP.Socket.Client) : Async Unit := do
  let some (head, rest) ← receiveHead socket .empty | return
  let body ← receiveBody socket (min head.bodyLength (Web.bodyLimit + 1)) rest
  let some request := head.request? body.toList | return
  let some answer ← s.answer request | return
  socket.send (Wire.responseText answer).toUTF8
  socket.shutdown

partial def takeAll (s : Server) (listener : TCP.Socket.Server) : Async Unit := do
  let socket ← listener.accept
  background (do try s.attend socket catch _ => return)
  takeAll s listener

end Server

def serve (address : String) (limit : Nat) (w : Workspace) : Async Unit := do
  let some (host, port) := Text.splitLast? ':' address.toList | return
  let port := (Decimal.word16? (String.ofList port)).getD 0
  let host := String.ofList (host.filter fun c => c ≠ '[' && c ≠ ']')
  let some address := (← addresses host port).head? | throw (IO.userError "no address")
  let listener ← TCP.Socket.Server.mk
  listener.bind address
  listener.listen 1024
  let server : Server := ⟨← Std.Mutex.new w, limit⟩
  background (server.takeAll listener)
  let interrupted ← (← Signal.Waiter.mk .sigint false).wait
  discard (await interrupted)

end Barrage.World
