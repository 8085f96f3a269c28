import Barrage.Proofs.Exchanges
import Barrage.Proofs.ScriptStores

/-! The addresses of stored scripts.
A script has two: a path that ends in its identifier and a query that names it. The first leads to
the script unless the identifier is empty or reads as the fixed name beside it, the second unless
the identifier is blank. -/

namespace Barrage

/-- The characters that no encoder of addresses has to encode in a segment or a value. -/
def Percent.mayStand (c : Char) : Bool := c.isAlphanum || "-_.~!*'()".toList.contains c

namespace Web
open ScriptStore

theorem Endpoint.ofPath?_script {segment : List Char} (whole : '/' ∉ segment) :
    ofPath? ("/scripts/".toList ++ segment) =
      if segment = [] then none else if segment = "k6".toList then some .k6
      else some (.script segment) := by
  obtain ⟨name, rfl⟩ : ∃ name : String, segment = name.toList :=
    ⟨String.ofList segment, String.toList_ofList.symm⟩
  have pieces : (Text.splitAt '/' ("/scripts/".toList ++ name.toList)).map String.ofList =
      ["", "scripts", name] := by
    have path : "/scripts/".toList ++ name.toList =
        [] ++ '/' :: ("scripts".toList ++ '/' :: name.toList) := rfl
    rw [path, Text.splitAt_append (by simp), Text.splitAt_append (by decide),
      Text.splitAt_of_not_mem whole]
    simp
  rw [ofPath?, pieces]
  simp only [String.toList_inj, String.toList_eq_nil_iff]
  by_cases fixed : name = "k6"
  · rw [fixed]
    rfl
  · split <;> simp_all

section
variable {special : Char → Bool} (standard : ∀ c, Percent.mayStand c = false → special c = true)
  {w : Workspace} {s : Script} (found : w.scripts.find? s.id = some s)
include standard

theorem readQuery_encode (id : String) {r : Request}
    (query : r.query = "id=".toList ++ Percent.encode special id.toList) :
    readQuery "id" r = .ok (some id) := by
  have form : r.query = "id".toList ++ '=' :: Percent.encode special id.toList := query
  have key : Percent.decodeForm "id".toList = "id" := by decide +kernel
  rw [readQuery, form, Percent.formPairs_encode (standard '%' (by decide))
    (standard '+' (by decide)) (standard '&' (by decide)) (by decide) (by decide), key]
  simp

include found

theorem getScript_encode :
    getScript w (Percent.encode special s.id.toList) = .document s.toValue := by
  rw [getScript, Percent.decodeText?_encode (standard '%' (by decide))]
  simp [found]

theorem getK6_encode {r : Request}
    (query : r.query = "id=".toList ++ Percent.encode special s.id.toList) :
    getK6 w r =
      if Text.trim s.id = "" then .error 400 "missing query parameter: id"
      else .ofBody 200 (.text (K6.file s (exportPlan s.id))) := by
  rw [getK6, readQuery_encode standard s.id query]
  by_cases blank : Text.trim s.id = ""
  · simp [blank, Option.filter]
  · simp [blank, found, Option.filter]

end

theorem receive_of_no_endpoint (w : Workspace) (m : Moment) {r : Request}
    (method : r.method = "GET") (path : Endpoint.ofPath? r.path = none) :
    receive w m r = (.inl (some ⟨.ofBody 404 .empty, true⟩), w) := by
  have idle : toRun? w r = none := by
    rw [toRun?, if_pos (.inl (by simp [path]))]
    rfl
  have handled : handle w m r = (some ⟨.ofBody 404 .empty, true⟩, w) := by
    rw [handle, method, path]
    rfl
  rw [receive, idle, handled]

/-- A stored script is answered at both of its addresses, whatever its identifier and however that
is encoded, but for these: an empty identifier has no path, one that is encoded as the fixed name
`k6` has its path taken, and a blank one is refused in the query. -/
theorem stored_scripts_answered {w : Workspace} (reachable : w.scripts.Reachable) {s : Script}
    (stored : s ∈ w.scripts.findAll) {special : Char → Bool}
    (standard : ∀ c, Percent.mayStand c = false → special c = true) (m : Moment) {r : Request}
    (method : r.method = "GET") :
    (r.path = "/scripts/".toList ++ Percent.encode special s.id.toList →
      receive w m r = (.inl (some ⟨
        if s.id = "" then .ofBody 404 .empty
        else if Percent.encode special s.id.toList = "k6".toList then getK6 w r
        else .document s.toValue, true⟩), w)) ∧
    (r.path = "/scripts/k6".toList →
      r.query = "id=".toList ++ Percent.encode special s.id.toList →
      receive w m r = (.inl (some ⟨
        if Text.trim s.id = "" then .error 400 "missing query parameter: id"
        else .ofBody 200 (.text (K6.file s (exportPlan s.id))), true⟩), w)) := by
  have found := reachable.find?_of_mem stored
  refine ⟨fun path => ?_, fun path query => ?_⟩
  · have whole : '/' ∉ Percent.encode special s.id.toList :=
      Percent.not_mem_encode (by decide) (by decide) (standard '/' (by decide)) _
    have endpoint := Endpoint.ofPath?_script whole
    simp only [← path, Percent.encode_eq_nil_iff, String.toList_eq_nil_iff] at endpoint
    by_cases empty : s.id = ""
    · rw [if_pos empty] at endpoint
      rw [receive_of_no_endpoint w m method endpoint, if_pos empty]
    rw [if_neg empty] at endpoint
    by_cases fixed : Percent.encode special s.id.toList = "k6".toList
    · rw [if_pos fixed] at endpoint
      rw [receive_of_get w m method endpoint (by decide), if_neg empty, if_pos fixed]
      rfl
    · rw [if_neg fixed] at endpoint
      rw [receive_of_get w m method endpoint (by simp), if_neg empty, if_neg fixed,
        ← getScript_encode standard found]
      rfl
  · have endpoint : Endpoint.ofPath? r.path = some .k6 := by
      rw [path]
      decide
    rw [receive_of_get w m method endpoint (by decide), ← getK6_encode standard found query]
    rfl

/-- An identifier with a slash, a percent sign, a letter outside ASCII and a blank. -/
theorem stored_scripts_answered_odd_name :
    let s : Script := ⟨"a/%ü ", [Step.get "http://h/"]⟩
    let w : Workspace := ⟨⟨none, ({} : Dict Script).insert s.id s⟩, .memory, .steady [] []⟩
    let m : Moment := ⟨.scripted 3600 (fun _ _ => none) 0, ⟨0, 0⟩, 0, "new"⟩
    receive w m ⟨"GET", "/scripts/a%2F%25%C3%BC%20".toList, [], none, []⟩ =
      (.inl (some ⟨.document s.toValue, true⟩), w) ∧
    receive w m ⟨"GET", "/scripts/k6".toList, "id=a%2F%25%C3%BC%20".toList, none, []⟩ =
      (.inl (some ⟨.ofBody 200 (.text (K6.file s (exportPlan s.id))), true⟩), w) := by
  intro s w m
  have stored : s ∈ w.scripts.findAll := List.mem_singleton_self s
  have encoded : Percent.encode (!Percent.mayStand ·) s.id.toList = "a%2F%25%C3%BC%20".toList := by
    decide +kernel
  have answered (r : Request) := @stored_scripts_answered w (Reachable.memory.insert s) s stored
    (!Percent.mayStand ·) (by simp) m r
  refine ⟨?_, ?_⟩
  · exact ((answered ⟨"GET", _, [], none, []⟩ rfl).1 (by rw [encoded]; rfl)).trans
      (by rw [encoded]; rfl)
  · exact ((answered ⟨"GET", _, _, none, []⟩ rfl).2 rfl (by rw [encoded]; rfl)).trans
      (by rw [if_neg (by decide +kernel)])

/-- Stored scripts that are not found: the one is named as the endpoint beside it, another has a
blank for its name, and the last has none. -/
theorem stored_scripts_unanswered :
    let s (id : String) : Script := ⟨id, [Step.get "http://h/"]⟩
    let scripts := ((({} : Dict Script).insert "k6" (s "k6")).insert " " (s " ")).insert "" (s "")
    let w : Workspace := ⟨⟨none, scripts⟩, .memory, .steady [] []⟩
    let m : Moment := ⟨.scripted 3600 (fun _ _ => none) 0, ⟨0, 0⟩, 0, "new"⟩
    w.scripts.Reachable ∧ w.scripts.findAll = [s "", s " ", s "k6"] ∧
    Percent.encode (!Percent.mayStand ·) "k6".toList = "k6".toList ∧
    Percent.encode (!Percent.mayStand ·) " ".toList = "%20".toList ∧
    receive w m ⟨"GET", "/scripts/k6".toList, [], none, []⟩ =
      (.inl (some ⟨.error 400 "missing query parameter: id", true⟩), w) ∧
    receive w m ⟨"GET", "/scripts/k6".toList, "id=%20".toList, none, []⟩ =
      (.inl (some ⟨.error 400 "missing query parameter: id", true⟩), w) ∧
    receive w m ⟨"GET", "/scripts/".toList, [], none, []⟩ =
      (.inl (some ⟨.ofBody 404 .empty, true⟩), w) := by
  intro s scripts w m
  have reachable := ((Reachable.memory.insert (s "k6")).insert (s " ")).insert (s "")
  have encoded : Percent.encode (!Percent.mayStand ·) " ".toList = "%20".toList := by
    decide +kernel
  refine ⟨reachable, rfl, by decide +kernel, encoded, ?_, ?_, ?_⟩
  · rw [receive_of_get w m rfl rfl (by decide)]
    rfl
  · rw [receive_of_get w m rfl rfl (by decide), look]
    rw [@getK6_encode (!Percent.mayStand ·) (by simp) w (s " ") rfl _ (by rw [encoded]; rfl)]
    rw [if_pos (by decide +kernel)]
  · exact receive_of_no_endpoint w m rfl rfl

end Web
end Barrage
