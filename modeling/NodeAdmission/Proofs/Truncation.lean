import NodeAdmission.Proofs.JsonPrefix
import NodeAdmission.Proofs.Provenance

/-!
# Listings that are cut short

A listing that breaks off anywhere before its end is no listing, not even one of fewer nodes. So a
cycle that gets to see only the beginning of one fails and leaves the registry alone.

* `nodesOf_of_append` — if a text is a listing, no proper beginning of it is one. It is proved the
  other way round: a beginning that could be read would be the text of a record, and such a text
  cannot go on (`Json.Decoder.decode_append`).
* `listNodes_of_error`, `Controller.runCycle_of_list_error` — what the cycle makes of it.
* `truncated_listing_fails` — the main statement.

Blanks at the end are an exception that has to be made. A listing without its last line
break is the same listing.
-/

namespace NodeAdmission.Admission

open Cluster (Kubectl Node OrchestratorError)

variable {ω : Type} {settings : Settings} {env : Environment ω} {c : Controller ω}
    {kept lost : Bytes}
  {nodes : List Node}

/-- The beginning of a listing is malformed if more is missing than blanks. -/
theorem nodesOf_of_append (haccepted : Kubectl.nodesOf (kept ++ lost) = .ok nodes)
    (hlost : ∃ b ∈ lost, Json.Scan.isBlank b = false) :
    ∃ cause, Kubectl.nodesOf kept = .error (.malformed cause) := by
  unfold Kubectl.nodesOf Cluster.readListing at haccepted ⊢
  cases hkept : Cluster.listingDecoder.decode kept with
  | error cause => exact ⟨cause, rfl⟩
  | ok nodes' =>
    -- The beginning is accepted, so with more behind it the text is malformed.
    have hbeyond := Json.Decoder.decode_append (d := Cluster.listingDecoder)
      (fun v a => Json.Decoder.isClosed_of_record) hkept hlost
    rw [hbeyond] at haccepted
    cases haccepted

/-- Output that is no listing lists no nodes, and neither does a command that failed. -/
theorem listNodes_of_error {k : Kubectl} {runner : Subprocess.Runner (Timed ω)} {now : Instant}
    {w : ω}
    {lasting : Nat} {p : Subprocess.Ended} {e : OrchestratorError}
    (hended : (runner (k.command (Kubectl.listArgs .nodes)) now w).value = .ended lasting p)
    (herror : Kubectl.nodesOf p.stdout = .error e) :
    ∃ e, (k.listNodes runner now w).value = .error e := by
  rw [Kubectl.listNodes, Kubectl.run_eq_map, bind_pure_comp, ← comp_map, Timed.map_apply, hended]
  simp only [Function.comp_apply]
  cases h : k.conclude (Kubectl.listArgs .nodes)
    ((Subprocess.Outcome.ended lasting p).within k.timeout) with
  | error e => exact ⟨e, rfl⟩
  | ok raw =>
    obtain ⟨_, _, ⟨⟩, -, -, rfl⟩ := Kubectl.conclude_within_eq_ok_iff.mp h
    exact ⟨e, herror⟩

/-- A cycle that lists no nodes does nothing else. -/
theorem Controller.runCycle_of_list_error {e : OrchestratorError}
    (h : (c.session.listNodes env).1 = .error e) :
    c.runCycle settings env =
      (.queryFailed, { c with session := (c.session.listNodes env).2 }) := by
  unfold runCycle scan
  generalize c.session.listNodes env = reply at h ⊢
  obtain ⟨_, session⟩ := reply
  obtain rfl := h
  rfl

/-- A listing that lacks more than blanks at its end is malformed; and when a cycle gets to see no
more of a listing, however the command ended, it fails, and does nothing but ask for the listing. -/
theorem truncated_listing_fails (haccepted : Kubectl.nodesOf (kept ++ lost) = .ok nodes)
    (hlost : ∃ b ∈ lost, Json.Scan.isBlank b = false) :
    (∃ cause, Kubectl.nodesOf kept = .error (.malformed cause)) ∧
    ∀ {ω : Type} (k : Kubectl) (runner : Subprocess.Runner (Timed ω)) (settings : Settings)
      (env : Environment ω) (c : Controller ω) (lasting : Nat) (p : Subprocess.Ended),
      env.listNodes = k.listNodes runner →
      (runner (k.command (Kubectl.listArgs .nodes)) c.session.now c.session.world).value =
        .ended lasting p →
      p.stdout = kept →
      c.runCycle settings env =
        (.queryFailed, { c with session := (c.session.listNodes env).2 }) := by
  obtain ⟨cause, hkept⟩ := nodesOf_of_append haccepted hlost
  refine ⟨⟨cause, hkept⟩, ?_⟩
  rintro ω k runner settings env c lasting p henv hended rfl
  -- If the command failed besides, there is an error all the same.
  obtain ⟨e, he⟩ := listNodes_of_error hended hkept
  have hlist : (c.session.listNodes env).1 = .error e := by
    rw [← he, ← henv]
    rfl
  exact Controller.runCycle_of_list_error hlist

/-- A listing of a worker up to the end of the worker. -/
def cutListing : Bytes :=
  Utf8.encode "\x7b\"items\":[\x7b\"metadata\":\x7b\"name\":\"worker\"\x7d\x7d"

/-- The environment in which the orchestrator writes no more of the listing. -/
def cutEnvironment : Environment Unit :=
  { sampleEnvironment with
    listNodes :=
      Kubectl.listNodes { program := "kubectl", kubeconfig := none, timeout := .ofMillis 30000 }
      fun _ => pure (.ended 0 ⟨.exited 0, cutListing, []⟩) }

/-- With its last two bytes the text is a listing of one worker. -/
theorem exists_nodesOf_whole : ∃ nodes, Kubectl.nodesOf (cutListing ++ [0x5D, 0x7D]) = .ok nodes ∧
    nodes.map (·.name) = ["worker"] := by
  have hnames : (Kubectl.nodesOf (cutListing ++ [0x5D, 0x7D])).toOption.map (·.map (·.name)) =
      some ["worker"] := by decide +kernel
  cases haccepted : Kubectl.nodesOf (cutListing ++ [0x5D, 0x7D]) with
  | error e =>
    rw [haccepted] at hnames
    cases hnames
  | ok nodes =>
    rw [haccepted] at hnames
    exact ⟨nodes, rfl, Option.some.inj hnames⟩

/-- With its last two bytes this is a listing of the worker, and without them a cycle fails. -/
theorem truncated_listing_fails_worker :
    ∃ nodes, Kubectl.nodesOf (cutListing ++ [0x5D, 0x7D]) = .ok nodes ∧
      nodes.map (·.name) = ["worker"] ∧
      (∃ b ∈ ([0x5D, 0x7D] : Bytes), Json.Scan.isBlank b = false) ∧
      (∃ cause, Kubectl.nodesOf cutListing = .error (.malformed cause)) ∧
      (Controller.runCycle sampleSettings cutEnvironment (.new ())).1 = .queryFailed := by
  obtain ⟨nodes, haccepted, hnames⟩ := exists_nodesOf_whole
  have hlost : ∃ b ∈ ([0x5D, 0x7D] : Bytes), Json.Scan.isBlank b = false := ⟨0x5D, by decide, rfl⟩
  obtain ⟨hmalformed, hcycle⟩ := truncated_listing_fails haccepted hlost
  have hfails := hcycle _ _ sampleSettings cutEnvironment (.new ()) 0 ⟨.exited 0, cutListing, []⟩
    rfl rfl rfl
  exact ⟨nodes, haccepted, hnames, hlost, hmalformed, congrArg Prod.fst hfails⟩

end NodeAdmission.Admission
