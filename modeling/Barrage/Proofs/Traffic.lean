import Barrage.Proofs.Exchanges
import Barrage.Proofs.Histories

/-! Requests that overlap.
The server lets one request after the other at its stores, but a run goes on beside the rest: its
script is looked up when it starts, and its result is kept when it ends, whatever happened in
between. -/

namespace Barrage.Web
open Json Exchange

structure Job where
  request : Request
  script : Script
  plan : Plan

structure Traffic where
  workspace : Workspace
  running : List Job
  /-- The requests that are over, the earliest first. -/
  exchanges : List Exchange

namespace Traffic

inductive Step : Traffic → Traffic → Prop
  /-- A request came in and was answered; no script had the identifier generated for it. -/
  | answered {t : Traffic} {w : Workspace} {m : Moment} {r : Request} {answer : Option Answer}
      (fresh : t.workspace.scripts.find? m.freshId = none)
      (done : receive t.workspace m r = (.inl answer, w)) :
      Step t ⟨w, t.running, t.exchanges ++ [⟨r, answer⟩]⟩
  | started {t : Traffic} {w : Workspace} {m : Moment} {r : Request} {s : Script} {p : Plan}
      (begun : receive t.workspace m r = (.inr (s, p), w)) :
      Step t ⟨w, ⟨r, s, p⟩ :: t.running, t.exchanges⟩
  /-- A run came to its end, however its users, its network and its clock worked together. -/
  | finished {w : Workspace} {before after : List Job} {job : Job} {exchanges : List Exchange}
      (e : Engine) (startedAt : Instant) (now : Int) :
      Step ⟨w, before ++ job :: after, exchanges⟩
        ⟨(conclude w now (e.run startedAt job.script job.plan)).2, before ++ after, exchanges ++
          [⟨job.request, (conclude w now (e.run startedAt job.script job.plan)).1⟩]⟩
  /-- A run was given up before its end. -/
  | givenUp {w : Workspace} {before after : List Job} {job : Job} {exchanges : List Exchange} :
      Step ⟨w, before ++ job :: after, exchanges⟩
        ⟨w, before ++ after, exchanges ++ [⟨job.request, none⟩]⟩
  /-- A request broke off before it got to the stores. -/
  | lost {t : Traffic} (r : Request) :
      Step t ⟨t.workspace, t.running, t.exchanges ++ [⟨r, none⟩]⟩

inductive Reachable (start : Workspace) : Traffic → Prop
  | start : Reachable start ⟨start, [], []⟩
  | step {t u : Traffic} (h : Reachable start t) (s : Step t u) : Reachable start u

end Traffic

/-- Stores without disks, where each script is under its own identifier. -/
structure InMemory (w : Workspace) : Prop where
  scripts : w.scripts.directory = none
  results : w.results.directory = none
  own : ∀ id s, w.scripts.find? id = some s → s.id = id

theorem Exchange.Effect.inMemory {w w' : Workspace} {x : Exchange} (effect : Effect w x w')
    (h : InMemory w) : InMemory w' := by
  cases effect with
  | created order shown single new =>
    refine ⟨h.scripts, h.results, fun id s found => ?_⟩
    rw [ScriptStore.find?, Dict.get?_insert] at found
    split at found
    · next same =>
      cases found
      exact same
    · exact h.own id s found
  | ran order shown => exact ⟨h.scripts, h.results, h.own⟩
  | nothing created ran => exact h

namespace Traffic

structure Safe (t : Traffic) : Prop where
  memory : InMemory t.workspace
  ordered : ∀ job ∈ t.running, ∃ p, OrdersRun job.request p

theorem Step.effect {t u : Traffic} (step : Step t u) (safe : Safe t) :
    (u.workspace = t.workspace ∧ u.exchanges = t.exchanges) ∨
      ∃ x, u.exchanges = t.exchanges ++ [x] ∧ Effect t.workspace x u.workspace := by
  cases step with
  | answered fresh done => exact .inr ⟨_, rfl, effect_receive safe.memory.scripts fresh done⟩
  | started begun => exact .inl ⟨(job_of_receive begun).1, rfl⟩
  | finished e startedAt now =>
    obtain ⟨p, order⟩ := safe.ordered _ (List.mem_append_right _ List.mem_cons_self)
    exact .inr ⟨_, rfl, effect_conclude safe.memory.results order now _⟩
  | givenUp => exact .inr ⟨_, rfl, .of_no_answer⟩
  | lost r => exact .inr ⟨_, rfl, .of_no_answer⟩

theorem Step.safe {t u : Traffic} (step : Step t u) (safe : Safe t) : Safe u := by
  have memory : InMemory u.workspace := by
    obtain ⟨same, -⟩ | ⟨x, -, effect⟩ := step.effect safe
    · rw [same]
      exact safe.memory
    · exact effect.inMemory safe.memory
  refine ⟨memory, ?_⟩
  cases step with
  | answered fresh done => exact safe.ordered
  | started begun =>
    exact List.forall_mem_cons.2 ⟨⟨_, (job_of_receive begun).2⟩, safe.ordered⟩
  | finished e startedAt now =>
    intro job left
    refine safe.ordered job ?_
    simp only [List.mem_append, List.mem_cons] at left ⊢
    tauto
  | givenUp =>
    intro job left
    refine safe.ordered job ?_
    simp only [List.mem_append, List.mem_cons] at left ⊢
    tauto
  | lost r => exact safe.ordered

theorem Reachable.safe {start : Workspace} {t : Traffic} (memory : InMemory start)
    (h : Reachable start t) : Safe t := by
  induction h with
  | start => exact ⟨memory, by simp⟩
  | step _ step ih => exact step.safe ih

/-- The scripts and results that were answered, one for each order that was carried out, are what
the stores have got since the start. -/
structure Accounts (start w : Workspace) (exchanges : List Exchange) (created : List Script)
    (ran : List RunResult) : Prop where
  answeredScripts : List.Forall₂ (fun x s => x.Shows (Script.toValue s))
    (exchanges.filter (succeeded .scripts)) created
  answeredResults : List.Forall₂ (fun x r => x.Shows (RunResult.toValue r))
    (exchanges.filter (succeeded .run)) ran
  single : ∀ s ∈ created, s.steps.length = 1
  scripts : w.scripts.findAll.Perm (start.scripts.findAll ++ created)
  results : w.results.results = start.results.results ++ ran

theorem Accounts.effect {start w w' : Workspace} {exchanges : List Exchange} {x : Exchange}
    {created : List Script} {ran : List RunResult} (h : Accounts start w exchanges created ran)
    (effect : Effect w x w') :
    ∃ created' ran', Accounts start w' (exchanges ++ [x]) created' ran' := by
  cases effect with
  | @created s order shown single new =>
    have other := succeeded_elsewhere order (f := .run) (by decide)
    refine ⟨created ++ [s], ran, ?_, ?_, ?_, ?_, h.results⟩
    · rw [List.filter_append, List.filter_singleton, order]
      exact List.rel_append h.answeredScripts (.cons shown .nil)
    · simpa [List.filter_append, other] using h.answeredResults
    · simpa [or_imp, forall_and, single] using h.single
    · have listed := (Dict.values_insert_perm new s).trans (h.scripts.cons s)
      refine listed.trans ?_
      rw [← List.append_assoc]
      exact List.perm_append_singleton s _ |>.symm
  | @ran result order shown =>
    have other := succeeded_elsewhere order (f := .scripts) (by decide)
    refine ⟨created, ran ++ [result], ?_, ?_, h.single, h.scripts, ?_⟩
    · simpa [List.filter_append, other] using h.answeredScripts
    · rw [List.filter_append, List.filter_singleton, order]
      exact List.rel_append h.answeredResults (.cons shown .nil)
    · rw [h.results, List.append_assoc]
  | nothing notCreated notRan =>
    refine ⟨created, ran, ?_, ?_, h.single, h.scripts, h.results⟩
    · simpa [List.filter_append, notCreated] using h.answeredScripts
    · simpa [List.filter_append, notRan] using h.answeredResults

theorem Reachable.accounts {start : Workspace} {t : Traffic} (memory : InMemory start)
    (h : Reachable start t) :
    ∃ created ran, Accounts start t.workspace t.exchanges created ran := by
  induction h with
  | start => exact ⟨[], [], .nil, .nil, by simp, by simp, by simp⟩
  | step before step ih =>
    obtain ⟨created, ran, accounts⟩ := ih
    obtain ⟨same, alike⟩ | ⟨x, one, effect⟩ := step.effect (before.safe memory)
    · rw [same, alike]
      exact ⟨created, ran, accounts⟩
    · rw [one]
      exact accounts.effect effect

end Traffic

/-- Whatever requests overlap, in whatever order they get to the stores: a step of the server
changes nothing, or ends a request, and then a script is added by an order to create it that is
answered with it, a result by an order to run that is answered with it, and nothing changes for any
other request. So the scripts are those of the start and the created ones, each listed once, by
identifier, and the history has the results of the start and one for each order that was carried
out, the newest first. -/
theorem overlapping_requests {start : Workspace} (memory : InMemory start) {t : Traffic}
    (h : Traffic.Reachable start t) :
    (∀ u, Traffic.Step t u →
      (u.workspace = t.workspace ∧ u.exchanges = t.exchanges) ∨
        ∃ x, u.exchanges = t.exchanges ++ [x] ∧ Effect t.workspace x u.workspace ∧
          (x.request.method ≠ "POST" ∨ (∀ a, x.answer = some a → a.response.status ≠ 200) →
            u.workspace = t.workspace)) ∧
    ∃ (created : List Script) (ran listed : List RunResult),
      Traffic.Accounts start t.workspace t.exchanges created ran ∧
      (t.workspace.scripts.findAll.map Script.id).Pairwise (· < ·) ∧
      listed.Perm (start.results.results ++ ran) ∧ ResultStore.NewestFirst listed ∧
      ∀ (m : Moment) (r : Request), r.method = "GET" →
        (Endpoint.ofPath? r.path = some .scripts → receive t.workspace m r = (.inl (some
          ⟨.document (.array (t.workspace.scripts.findAll.map Script.toValue)), true⟩),
          t.workspace)) ∧
        (Endpoint.ofPath? r.path = some .history → readQuery "scriptId" r = .ok none →
          receive t.workspace m r = (.inl (some
            ⟨.document (.array (listed.map RunResult.toValue)), true⟩), t.workspace)) := by
  have safe := h.safe memory
  obtain ⟨created, ran, accounts⟩ := h.accounts memory
  refine ⟨fun u step => ?_, created, ran, ResultStore.newestFirst t.workspace.results.results,
    accounts, ?_, ?_, ResultStore.newestFirst_ordered _, fun m r method => ⟨fun path => ?_,
    fun path query => ?_⟩⟩
  · obtain same | ⟨x, one, effect⟩ := step.effect safe
    · exact .inl same
    · exact .inr ⟨x, one, effect, effect.eq_of_failed⟩
  · exact Dict.ascending_values _ Script.id safe.memory.own
  · rw [← accounts.results]
    exact ResultStore.newestFirst_perm _
  · exact receive_of_get _ m method path (by decide)
  · rw [receive_of_get _ m method path (by decide)]
    have all : t.workspace.results.findAll t.workspace.disk =
        .ok (ResultStore.newestFirst t.workspace.results.results) := by
      rw [ResultStore.findAll, safe.memory.results]
    simp [look, getHistory, query, Workspace.history, all]

/-- A script is created while a run goes on. -/
theorem overlapping_requests_beside_run :
    let s : Script := ⟨"s", [Step.get "http://h/"]⟩
    let made : Script := ⟨"new", [Step.get "x://h"]⟩
    let scripts : Dict Script := ⟨[("s", s)], List.pairwise_singleton _ _⟩
    let start : Workspace := ⟨⟨none, scripts⟩, .memory, .steady [] []⟩
    let m : Moment := ⟨.scripted 3600 (fun _ _ => none) 0, ⟨0, 0⟩, 0, "new"⟩
    let order : Request := ⟨"POST", "/scripts".toList, [], some "application/json",
      Symbol.ofText (Value.object [("url", .string "x://h")]).compact⟩
    ∃ (t : Traffic) (result : RunResult), Traffic.Reachable start t ∧
      t.exchanges.map Exchange.answer =
        [some ⟨.document made.toValue, true⟩, some ⟨.document result.toValue, true⟩] ∧
      t.exchanges.map Exchange.request = [order, runRequest .compact ⟨"s", .smoke, 1, 60⟩] ∧
      receive t.workspace m ⟨"GET", "/scripts".toList, [], none, []⟩ =
        (.inl (some ⟨.document (.array [made.toValue, s.toValue]), true⟩), t.workspace) ∧
      receive t.workspace m ⟨"GET", "/history".toList, [], none, []⟩ =
        (.inl (some ⟨.document (.array [result.toValue]), true⟩), t.workspace) := by
  intro s made scripts start m order
  have memory : InMemory start := by
    refine ⟨rfl, rfl, fun id r found => ?_⟩
    rw [ScriptStore.find?, Dict.get?_eq_some_iff] at found
    obtain ⟨rfl, rfl⟩ : id = "s" ∧ r = s := by simpa [start, scripts] using found
    rfl
  have minute : OrdersRun (runRequest .compact ⟨"s", .smoke, 1, 60⟩) ⟨"s", .smoke, 1, 60⟩ :=
    ordersRun_runRequest (by rw [body_runRequest]; decide)
  have begun : receive start m (runRequest .compact ⟨"s", .smoke, 1, 60⟩) =
      (.inr (s, ⟨"s", .smoke, 1, 60⟩), start) := by
    rw [receive, toRun?_eq_some_iff.2 ⟨minute, rfl⟩]
  have done : receive start m order = (.inl (some ⟨.document made.toValue, true⟩),
      { start with scripts := ⟨none, start.scripts.scripts.insert "new" made⟩ }) := by rfl
  obtain ⟨result, ran, -⟩ :=
    Engine.run_of_reaches (show m.engine.Reaches ⟨"s", .smoke, 1, 60⟩ by decide) ⟨0, 0⟩ s
  have started := Traffic.Reachable.start.step (.started begun)
  have created := started.step (.answered (by decide) done)
  have finished := created.step (@Traffic.Step.finished _ [] [] _ _ m.engine ⟨0, 0⟩ 0)
  rw [ran] at finished
  obtain ⟨-, _, kept, listed, accounts, -, perm, -, gets⟩ := overlapping_requests memory finished
  have alone : kept = [result] := accounts.results.symm
  rw [alone] at perm
  obtain rfl : listed = [result] := List.perm_singleton.1 perm
  refine ⟨_, result, finished, rfl, rfl, ?_, ?_⟩
  · exact (gets m ⟨"GET", "/scripts".toList, [], none, []⟩ rfl).1 (by decide)
  · exact (gets m ⟨"GET", "/history".toList, [], none, []⟩ rfl).2 (by decide) (by rfl)

end Barrage.Web
