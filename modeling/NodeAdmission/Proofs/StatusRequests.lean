import NodeAdmission.Proofs.Effects
import NodeAdmission.Proofs.RoundTrip
import NodeAdmission.Proofs.StatusListing

/-!
# Requests for the status

Whoever reaches the status interface can have nodes and pods listed, and nothing else. For each
request that reads one of the two listings exactly one command is run, the one that lists it, and
for no other request is anything run. What admission knows stays as it is, and so does everything
outside that the two commands leave alone.

* `Cluster.Kubectl.Fails` — how a command can fail, and the error that the orchestrator makes of it.
  A listing that fails is answered with status 500 and the wording of this error.
* `Server.Serves` — the five ways in which a request can be answered, each with the
  actions that are taken for it.
* `Server.answer_serves` — every request is answered in one of these ways.
* `Server.requests_only_list` — the same for any number of requests, by induction on the requests.

That the listing is passed on as it was printed, if it was printed as a text, is in
`NodeAdmission.Proofs.StatusListing`.
-/

namespace NodeAdmission

open Service (Action Host Traced)

/-! ### Commands that fail -/

namespace Cluster.Kubectl

open Subprocess (Outcome)

/-- What becomes of a command is an error to the orchestrator: it was not started, did not end in
time, or ended without success. -/
inductive Fails (k : Kubectl) (args : List String) : Outcome → OrchestratorError → Prop
  | notStarted (cause : OsError) : Fails k args (.notStarted cause) (.spawn (k.shown args) cause)
  | late (htime : k.timeout.timer < lasting) :
    Fails k args (.ended lasting p) (.timeout (k.shown args) k.timeout)
  | endless : Fails k args .endless (.timeout (k.shown args) k.timeout)
  | unsuccessful (htime : lasting ≤ k.timeout.timer) (hstatus : p.status.isSuccess = false) :
    Fails k args (.ended lasting p)
      (.commandFailed (k.shown args) p.status.message (Text.trim (Utf8.decodeLossy p.stderr)))

/-- The orchestrator reports an error exactly if the command failed, and then the
error of this failure. -/
theorem conclude_within_eq_error_iff {k : Kubectl} {args : List String} {outcome : Outcome}
    {e : OrchestratorError} :
    k.conclude args (outcome.within k.timeout) = .error e ↔ k.Fails args outcome e := by
  constructor
  · intro h
    -- An outcome that was waited for is one of the three, and only one of them can be a success.
    cases outcome with
    | notStarted cause =>
      obtain rfl := Except.error.inj h
      exact .notStarted cause
    | endless =>
      obtain rfl := Except.error.inj h
      exact .endless
    | ended lasting p =>
      rw [Outcome.within] at h
      split_ifs at h with htime
      · cases hstatus : p.status.isSuccess with
        | true => simp [conclude, hstatus] at h
        | false =>
          rw [conclude, hstatus, if_neg Bool.false_ne_true] at h
          obtain rfl := Except.error.inj h
          exact .unsuccessful htime hstatus
      · obtain rfl := Except.error.inj h
        exact .late (Nat.lt_of_not_le htime)
  · rintro (⟨cause⟩ | ⟨htime⟩ | _ | ⟨htime, hstatus⟩)
    · rfl
    · rw [Outcome.within, if_neg (Nat.not_le.mpr htime)]
      rfl
    · rfl
    · rw [Outcome.within, if_pos htime, conclude, hstatus, if_neg Bool.false_ne_true]

end Cluster.Kubectl

namespace Server

open Admission (Controller)
open Cluster (Kubectl Resource)
open Http (Answer Incoming)

variable {config : Config} {host : Host ω} {request : Incoming} {actions : List Action}

/-! ### One request -/

def statusPaths : List String := ["/version", "/health", "/nodes", "/pods"]

def Config.listing (config : Config) (r : Resource) : Subprocess.Command where
  program := config.kubectl
  args := (match config.kubeconfig with | some path => ["--kubeconfig", path] | none => []) ++
    ["get", r.name, "-o", "json"]

/-- What is done for a request to the status interface. -/
inductive Serves (config : Config) (request : Incoming) : List Action → Prop
  | unknown (hpath : Http.pathOf request.target ∉ statusPaths) (hstatus : answer.status = 404) :
    Serves config request [.answered request answer]
  | refused (hpath : Http.pathOf request.target ∈ statusPaths) (hreads : ¬ request.Reads)
    (hstatus : answer.status = 405) : Serves config request [.answered request answer]
  | told (hpath : Http.pathOf request.target ∈ ["/version", "/health"]) (hreads : request.Reads)
    (hstatus : answer.status = 200) : Serves config request [.answered request answer]
  | listed (r : Resource) (hpath : Http.pathOf request.target = "/" ++ r.name)
    (hreads : request.Reads)
    (htime : lasting ≤ config.commandTimeout.timer) (hsuccess : p.status.isSuccess = true)
    (hstatus : answer.status = 200)
    (hbody : request.method = "GET" → answer.body = Utf8.encode (Utf8.decodeLossy p.stdout)) :
    Serves config request [.ran (config.listing r) (.ended lasting p), .answered request answer]
  | failed (r : Resource) (hpath : Http.pathOf request.target = "/" ++ r.name)
    (hreads : request.Reads)
    (hfails : config.orchestrator.Fails (Kubectl.listArgs r) outcome e)
    (hstatus : answer.status = 500)
    (hreport : request.method = "GET" → answer.contentType = some Answer.json ∧
      Http.ErrorReport.decoder.decode answer.body = .ok ⟨e.message⟩) :
    Serves config request [.ran (config.listing r) outcome, .answered request answer]

/-- The answer to a reader of a listing, whatever became of the command. -/
theorem Serves.of_outcome (config : Config) {r : Resource}
    (hpath : Http.pathOf request.target = "/" ++ r.name) (hreads : request.Reads)
    (outcome : Subprocess.Outcome) :
    let result := config.orchestrator.conclude (Kubectl.listArgs r)
      (outcome.within config.orchestrator.timeout)
    Serves config request [.ran (config.listing r) outcome,
      .answered request (request.part (listingAnswer (result.map Utf8.decodeLossy)))] := by
  intro result
  cases hresult : result with
  | error e =>
    -- The report is written for a `GET` only; for a `HEAD` the status is all there is.
    refine .failed r hpath hreads (Kubectl.conclude_within_eq_error_iff.mp hresult)
      (Incoming.part_status _ _) fun hget => ?_
    rw [Incoming.part_of_get hget]
    exact ⟨rfl, Answer.decode_report 500 e.message⟩
  | ok raw =>
    obtain ⟨lasting, p, rfl, htime, hsuccess, rfl⟩ := Kubectl.conclude_within_eq_ok_iff.mp hresult
    refine .listed r hpath hreads htime hsuccess (Incoming.part_status _ _) fun hget => ?_
    rw [Incoming.part_of_get hget]
    rfl

theorem route?_eq_none (list : Lister (Timed (Traced ω)))
    (hpath : Http.pathOf request.target ∉ statusPaths) :
    (statusInterface list).route? (Http.pathOf request.target) = none := by
  have hother : ∀ route ∈ statusInterface list, route.1 ≠ Http.pathOf request.target := by
    intro route hroute heq
    have hmem : route.1 ∈ (statusInterface list).map Prod.fst := List.mem_map_of_mem hroute
    exact hpath (heq ▸ hmem)
  rw [Http.Interface.route?, List.find?_eq_none.mpr (by simpa using hother)]
  rfl

/-- Every path of the status interface is for reading: it tells about the server, or it lists. -/
theorem exists_route?_of_mem (config : Config) (host : Host ω)
    (hpath : Http.pathOf request.target ∈ statusPaths) :
    ∃ handler, (statusInterface (lister config host)).route? (Http.pathOf request.target) =
        some (.get handler) ∧
      ((Http.pathOf request.target ∈ ["/version", "/health"] ∧
          ∃ answer : Answer, handler = pure answer ∧ answer.status = 200) ∨
        ∃ r : Resource, Http.pathOf request.target = "/" ++ r.name ∧
          handler = showListing (lister config host) r) := by
  simp only [statusPaths, List.mem_cons, List.not_mem_nil, or_false] at hpath
  rcases hpath with hpath | hpath | hpath | hpath <;> rw [hpath]
  · exact ⟨_, rfl, .inl ⟨by simp, _, rfl, rfl⟩⟩
  · exact ⟨_, rfl, .inl ⟨by simp, _, rfl, rfl⟩⟩
  · exact ⟨_, rfl, .inr ⟨.nodes, rfl, rfl⟩⟩
  · exact ⟨_, rfl, .inr ⟨.pods, rfl, rfl⟩⟩

/-- What is done for a request is written down after what was done before, and it is one of the
things that `Serves` allows. -/
theorem answer_serves (config : Config) (host : Host ω) (request : Incoming) (now : Instant)
    (t : Traced ω) :
    ∃ actions, Serves config request actions ∧
      (Host.answer (statusInterface (lister config host)) request now t).world.trace =
        t.trace ++ actions := by
  let answered := (statusInterface (lister config host)).respond request now t
  show ∃ actions, Serves config request actions ∧
    answered.world.trace ++ [.answered request answered.value] = t.trace ++ actions
  -- First by the path, then by the method: an unknown path is not found, whatever the method.
  by_cases hpath : Http.pathOf request.target ∈ statusPaths
  · obtain ⟨handler, hroute, hhandler⟩ := exists_route?_of_mem config host hpath
    have hserved : answered = Http.Interface.serve request (.get handler) now t := by
      simp only [answered, Http.Interface.respond, hroute]
    by_cases hreads : request.Reads
    · rw [hserved, Http.Interface.serve_get_of_reads hreads]
      rcases hhandler with ⟨htells, answer, rfl, hstatus⟩ | ⟨r, hlists, rfl⟩
      · refine ⟨[.answered request (request.part answer)], .told htells hreads ?_, rfl⟩
        rw [Incoming.part_status, hstatus]
      · rw [showListing_eq_map]
        exact ⟨_, .of_outcome config hlists hreads _, List.append_assoc _ _ _⟩
    · rw [hserved, Http.Interface.serve_get_of_not_reads hreads]
      exact ⟨_, .refused hpath hreads rfl, rfl⟩
  · have hunknown : answered = ⟨.notFound, 0, t⟩ := by
      simp only [answered, Http.Interface.respond, route?_eq_none _ hpath]
      rfl
    rw [hunknown]
    exact ⟨_, .unknown hpath rfl, rfl⟩

/-! ### What is run for requests -/

def command? : Action → Option Subprocess.Command
  | .ran command _ => some command
  | .logged _ => none
  | .sent _ _ => none
  | .listened _ _ => none
  | .answered _ _ => none

def listing? (request : Incoming) : Option Resource :=
  if request.Reads then [.nodes, .pods].find? fun r => Http.pathOf request.target = "/" ++ r.name
  else none

theorem listing?_eq_some {r : Resource} (hreads : request.Reads)
    (hpath : Http.pathOf request.target = "/" ++ r.name) : listing? request = some r := by
  rw [listing?, if_pos hreads, hpath]
  cases r <;> rfl

/-- The commands of a request are read off the request alone. -/
theorem Serves.commands (h : Serves config request actions) :
    actions.filterMap command? = ((listing? request).map config.listing).toList := by
  have hnone : (¬ request.Reads ∨ ∀ r : Resource, Http.pathOf request.target ≠ "/" ++ r.name) →
      listing? request = none := by
    -- Nothing is listed for a request that does not read, or that reads something else.
    rintro (hreads | hpath)
    · exact if_neg hreads
    · rw [listing?, List.find?_eq_none.mpr (by simp [hpath]), ite_self]
  cases h with
  | unknown hpath =>
    rw [hnone (.inr fun r heq => hpath ?_)]
    · rfl
    · rw [heq]
      cases r <;> decide
  | refused _ hreads =>
    rw [hnone (.inl hreads)]
    rfl
  | told hpath =>
    rw [hnone (.inr fun r heq => ?_)]
    · rfl
    · rw [heq] at hpath
      cases r <;> revert hpath <;> decide
  | listed r hpath hreads =>
    rw [listing?_eq_some hreads hpath]
    rfl
  | failed r hpath hreads =>
    rw [listing?_eq_some hreads hpath]
    rfl

/-- A request changes nothing but what the two commands that list may change. -/
theorem answer_keeps_of_listing {R : ω → ω → Prop} [Std.Refl R] [IsTrans ω R]
    (hlisting : ∀ r, (host.runner (config.listing r)).Keeps R) (request : Incoming) :
    (Host.answer (statusInterface (lister config host)) request).Keeps
      fun t t' => R t.world t'.world := by
  -- The relation is pulled back along the host, where it is a preorder too.
  have : Std.Refl fun t t' : Traced ω => R t.world t'.world := ⟨fun t => refl_of R t.world⟩
  have : IsTrans (Traced ω) fun t t' => R t.world t'.world := ⟨fun _ _ _ => trans_of R⟩
  have hlist : ∀ r, (lister config host r).Keeps fun t t' => R t.world t'.world := by
    intro r
    have hrun : (host.run (config.listing r)).Keeps fun t t' => R t.world t'.world :=
      fun now t => hlisting r now t.world
    exact Timed.Keeps.bind (Timed.Keeps.bind hrun fun _ => .pure _) fun _ => .pure _
  have hrespond := Http.Interface.respond_keeps request (statusInterface_keeps hlist)
  exact hrespond.bind fun _ _ t => refl_of R t.world

/-! ### Requests one after another -/

/-- What requests lead to, whoever sends them and whenever they arrive. Nothing is run but the
command that lists nodes and the command that lists pods: one of them, once, for each request that
reads its path, and none for any other request. The actions for a request are told by `Serves`,
its answer among them. The control loop finds everything as it was, apart from what running the
two commands may change. -/
theorem requests_only_list (config : Config) (host : Host ω) (c : Controller (Traced ω))
    (requests : List Incoming) :
    let c' := (requests.map Turn.request).foldl (takeTurn config host) c
    (c'.registry = c.registry ∧ c'.session.log = c.session.log ∧
      c'.session.world.halted = c.session.world.halted ∧
      ∀ R : ω → ω → Prop, Std.Refl R → IsTrans ω R →
        (∀ r, (host.runner (config.listing r)).Keeps R) →
          R c.session.world.world c'.session.world.world) ∧
    ∃ actions : List (List Action),
      c'.session.world.trace = c.session.world.trace ++ actions.flatten ∧
      List.Forall₂ (Serves config) requests actions ∧
      actions.flatten.filterMap command? = (requests.filterMap listing?).map config.listing := by
  induction requests generalizing c with
  | nil =>
    exact ⟨⟨rfl, rfl, rfl, fun R hrefl _ _ => hrefl.refl _⟩, [], by simp, .nil, rfl⟩
  | cons request requests ih =>
    intro c'
    -- The first request, and then the others from where it has led to.
    let c₁ := takeTurn config host c (.request request)
    obtain ⟨⟨hregistry, hlog, hhalted, hworld⟩, actions, htrace, hserves, hcommands⟩ := ih c₁
    obtain ⟨first, hfirst, hfirsttrace⟩ :=
      answer_serves config host request c.session.now c.session.world
    have hsame :
      (Host.answer (statusInterface (lister config host)) request).Keeps Service.SameHalt :=
      (respond_keeps request fun _ => Service.observe_sameHalt _ _).bind fun _ =>
        Service.note_sameHalt _
    refine ⟨⟨hregistry, hlog, hhalted.trans (hsame _ _), ?_⟩,
      first :: actions, ?_, .cons hfirst hserves, ?_⟩
    · intro R hrefl htrans hlisting
      exact trans_of R (answer_keeps_of_listing hlisting request _ _)
        (hworld R hrefl htrans hlisting)
    · have hc₁ : c₁.session.world.trace = c.session.world.trace ++ first := hfirsttrace
      rw [List.flatten_cons, ← List.append_assoc, ← hc₁]
      exact htrace
    · rw [List.flatten_cons, List.filterMap_append, hfirst.commands, hcommands]
      cases hlisting : listing? request <;> simp [hlisting]

end Server
end NodeAdmission
