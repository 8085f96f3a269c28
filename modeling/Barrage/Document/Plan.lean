import Barrage.Json.Reader
import Barrage.Json.Value
import Barrage.Plan

/-! Plans as documents. -/

namespace Barrage
open Json

def Plan.toValue (p : Plan) : Value :=
  .object [("scriptId", .string p.scriptId), ("type", .string p.kind.name),
    ("vus", .natural p.users.toNat), ("duration", .natural p.seconds.toNat)]

structure Plan.Draft where
  scriptId : Option String := none
  kind : Option TestKind := none
  users : Option UInt32 := none
  seconds : Option UInt64 := none

def Plan.record : Record Plan.Draft Plan where
  name := "TestConfig"
  empty := {}
  fields := [
    .of "scriptId" false (·.scriptId) (fun d v => { d with scriptId := some v }) readString,
    .of "type" true (·.kind) (fun d v => { d with kind := some v })
      (readVariant (TestKind.all.map TestKind.name) TestKind.named?),
    .of "vus" true (·.users) (fun d v => { d with users := some v }) readWord32,
    .of "duration" true (·.seconds) (fun d v => { d with seconds := some v }) readWord64]
  build d := {
    scriptId := d.scriptId.getD ""
    kind := d.kind.getD .load
    users := d.users.getD 0
    seconds := d.seconds.getD 0 }

end Barrage
