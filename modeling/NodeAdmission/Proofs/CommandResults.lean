import NodeAdmission.Proofs.StatusRequests

/-!
# What becomes of a command decides

Every operation on the orchestrator runs one command, once, and makes its result of what became of
it and of nothing else. It succeeds only if the command ended in time and with success; a step
against a node then has nothing more to say, while a listing is read from the whole output. A
command that did not do so tells by its error how (`Cluster.Kubectl.Fails`). Only the reading of a
listing can find that the output of a command that succeeded is malformed.

* `Cluster.Kubectl.Succeeds` — the counterpart of `Fails`.
* `map_conclude_eq_ok_iff`, `map_conclude_eq_error_iff` — results that are made of the output
  without reading it; they serve the steps and the listings that are passed on alike.
* `bind_nodesOf_eq_ok_iff`, `bind_nodesOf_eq_error_iff` — the list of the nodes.
* `Cluster.Kubectl.one_command_decides` — all operations, with the words of their commands.
-/

namespace NodeAdmission

open Service (Host Traced)
open Subprocess (Ended Outcome)

theorem Subprocess.ExitStatus.isSuccess_iff {status : ExitStatus} :
    status.isSuccess = true ↔ status = .exited 0 := by
  cases status with
  | exited code => simp [isSuccess]
  | signalled number name => simp [isSuccess]

namespace Cluster.Kubectl

variable {ω α : Type} {k : Kubectl} {args : List String} {outcome : Outcome} {p : Ended}
  {e : OrchestratorError} {cause : Json.DecodeError}

/-- The command was started, and its process ended before the timer of the timeout went
off, and with success. -/
def Succeeds (k : Kubectl) (outcome : Outcome) (p : Ended) : Prop :=
  ∃ lasting, outcome = .ended lasting p ∧ lasting ≤ k.timeout.timer ∧ p.status = .exited 0

/-- The output of a command is taken for its result exactly if the command succeeded. -/
theorem conclude_within_eq_ok_iff_succeeds {raw : Bytes} :
    k.conclude args (outcome.within k.timeout) = .ok raw ↔
      ∃ p, k.Succeeds outcome p ∧ p.stdout = raw := by
  rw [conclude_within_eq_ok_iff]
  constructor
  · rintro ⟨lasting, p, houtcome, htime, hstatus, hraw⟩
    exact ⟨p, ⟨lasting, houtcome, htime, Subprocess.ExitStatus.isSuccess_iff.mp hstatus⟩, hraw⟩
  · rintro ⟨p, ⟨lasting, houtcome, htime, hstatus⟩, hraw⟩
    exact ⟨lasting, p, houtcome, htime, Subprocess.ExitStatus.isSuccess_iff.mpr hstatus, hraw⟩

/-- A command that failed is never reported as malformed. -/
theorem Fails.ne_malformed (h : k.Fails args outcome e) : e ≠ .malformed cause := by
  cases h <;> exact nofun

/-! ### Results that are made of the output -/

theorem map_conclude_eq_ok_iff {f : Bytes → α} {a : α} :
    (k.conclude args (outcome.within k.timeout)).map f = .ok a ↔
      ∃ p, k.Succeeds outcome p ∧ f p.stdout = a := by
  rw [map_eq_ok_iff]
  simp only [conclude_within_eq_ok_iff_succeeds]
  constructor
  · rintro ⟨_, ⟨p, hp, rfl⟩, ha⟩
    exact ⟨p, hp, ha⟩
  · rintro ⟨p, hp, ha⟩
    exact ⟨_, ⟨p, hp, rfl⟩, ha⟩

/-- What is made of the output does not matter for a command that failed. -/
theorem map_conclude_eq_error_iff {f : Bytes → α} :
    (k.conclude args (outcome.within k.timeout)).map f = .error e ↔ k.Fails args outcome e := by
  rw [map_eq_error_iff, conclude_within_eq_error_iff]

/-- Output that does not list nodes is malformed, and there is no other error. -/
theorem nodesOf_eq_error_iff {raw : Bytes} :
    nodesOf raw = .error e ↔ ∃ cause, readListing raw = .error cause ∧ e = .malformed cause := by
  rw [nodesOf]
  cases readListing raw <;> simp [Except.mapError, eq_comm]

theorem bind_nodesOf_eq_ok_iff {nodes : List Node} :
    (k.conclude args (outcome.within k.timeout)).bind nodesOf = .ok nodes ↔
      ∃ p, k.Succeeds outcome p ∧ nodesOf p.stdout = .ok nodes := by
  refine bind_eq_ok_iff.trans ?_
  simp only [conclude_within_eq_ok_iff_succeeds]
  constructor
  · rintro ⟨_, ⟨p, hp, rfl⟩, hnodes⟩
    exact ⟨p, hp, hnodes⟩
  · rintro ⟨p, hp, hnodes⟩
    exact ⟨_, ⟨p, hp, rfl⟩, hnodes⟩

/-- Listing the nodes fails with the command, or because the output is no listing. -/
theorem bind_nodesOf_eq_error_iff :
    (k.conclude args (outcome.within k.timeout)).bind nodesOf = .error e ↔
      k.Fails args outcome e ∨
        ∃ p cause, k.Succeeds outcome p ∧ readListing p.stdout = .error cause ∧
          e = .malformed cause := by
  refine bind_eq_error_iff.trans ?_
  simp only [conclude_within_eq_error_iff, conclude_within_eq_ok_iff_succeeds, nodesOf_eq_error_iff]
  refine or_congr_right ⟨?_, ?_⟩
  · rintro ⟨_, ⟨p, hp, rfl⟩, cause, hcause⟩
    exact ⟨p, cause, hp, hcause⟩
  · rintro ⟨p, cause, hp, hcause⟩
    exact ⟨_, ⟨p, hp, rfl⟩, cause, hcause⟩

/-! ### Words -/

/-- The words that come before those of an operation. -/
def opening (k : Kubectl) : List String := k.kubeconfig.elim [] fun path => ["--kubeconfig", path]

/-- The program comes first, then the configuration if there is one, then the
words of the operation. -/
theorem words_command (k : Kubectl) (args : List String) :
    (k.command args).words = k.program :: (k.opening ++ args) := by
  rw [opening, command, Subprocess.Command.words]
  cases k.kubeconfig <;> rfl

/-- The name of a node is one word of each step, and the other words do not depend on it. -/
theorem stepArgs_eq_append (step : Step) :
    ∃ before after, ∀ node, stepArgs step node = before ++ node :: after := by
  cases step with
  | cordon => exact ⟨["cordon"], [], fun _ => rfl⟩
  | drain =>
    exact ⟨["drain"], ["--ignore-daemonsets", "--force", "--delete-emptydir-data"], fun _ => rfl⟩
  | delete => exact ⟨["delete", "node"], [], fun _ => rfl⟩

/-- What every operation on the orchestrator does, whatever becomes of its command. It runs just the
one command whose words are the program, the configuration if there is one, and those of the
operation, among which the name of a node is a word by itself. A step succeeds just if the command
did; a listing that is passed on is the text of the output; the nodes are those that the whole
output lists. Every other result is the error that tells how the command failed, except that a
command which succeeded may have listed no nodes; nothing else is malformed. A timer that is set to
whole milliseconds and not too long runs for just this time. -/
theorem one_command_decides (k : Kubectl) (host : Host ω) (now : Instant) (t : Traced ω) :
    let outcome := fun args => (host.runner (k.command args) now t.world).value
    let ran := fun args => t.trace ++ [.ran (k.command args) (outcome args)]
    (∀ step node, let args := stepArgs step node
      let r := k.apply host.run step node now t
      r.world.trace = ran args ∧
      (r.value = .ok () ↔ ∃ p, k.Succeeds (outcome args) p) ∧
      (∀ e, r.value = .error e ↔ k.Fails args (outcome args) e) ∧
      ∀ cause, r.value ≠ .error (.malformed cause)) ∧
    (∀ resource, let args := listArgs resource
      let r := k.rawListing host.run resource now t
      r.world.trace = ran args ∧
      (∀ text, r.value = .ok text ↔
        ∃ p, k.Succeeds (outcome args) p ∧ Utf8.decodeLossy p.stdout = text) ∧
      (∀ e, r.value = .error e ↔ k.Fails args (outcome args) e) ∧
      ∀ cause, r.value ≠ .error (.malformed cause)) ∧
    (let args := listArgs .nodes
      let r := k.listNodes host.run now t
      r.world.trace = ran args ∧
      (∀ nodes, r.value = .ok nodes ↔
        ∃ p, k.Succeeds (outcome args) p ∧ nodesOf p.stdout = .ok nodes) ∧
      ∀ e, r.value = .error e ↔ k.Fails args (outcome args) e ∨
        ∃ p cause, k.Succeeds (outcome args) p ∧ readListing p.stdout = .error cause ∧
          e = .malformed cause) ∧
    (∀ args, (k.command args).words = k.program :: (k.opening ++ args)) ∧
    (∀ step, ∃ before after, ∀ node, stepArgs step node = before ++ node :: after) ∧
    (k.timeout.nanos ≤ Duration.longestTimer → 1000000 ∣ k.timeout.nanos →
      k.timeout.timer = k.timeout.nanos) := by
  intro outcome ran
  refine ⟨?_, ?_, ?_, words_command k, stepArgs_eq_append, Duration.timer_eq_nanos⟩
  · intro step node args r
    have hfails : ∀ e, r.value = .error e ↔ k.Fails args (outcome args) e := fun e =>
      map_conclude_eq_error_iff
    refine ⟨rfl, ?_, hfails, fun cause h => ((hfails _).mp h).ne_malformed rfl⟩
    -- A step makes nothing of the output, so it is enough that the command succeeded.
    refine map_conclude_eq_ok_iff.trans ⟨?_, ?_⟩
    · rintro ⟨p, hp, -⟩
      exact ⟨p, hp⟩
    · rintro ⟨p, hp⟩
      exact ⟨p, hp, rfl⟩
  · intro resource args r
    have hfails : ∀ e, r.value = .error e ↔ k.Fails args (outcome args) e := fun e =>
      map_conclude_eq_error_iff
    exact ⟨rfl, fun text => map_conclude_eq_ok_iff, hfails,
      fun cause h => ((hfails _).mp h).ne_malformed rfl⟩
  · exact ⟨rfl, fun nodes => bind_nodesOf_eq_ok_iff, fun e => bind_nodesOf_eq_error_iff⟩

/-! ### A node with an odd name -/

/-- A host on which every command ends after some time. -/
def endingHost (lasting : Nat) (p : Ended) : Host Unit where
  exchange := Http.unreachable
  runner _ := pure (.ended lasting p)
  listen _ := pure (.ok ())
  challenges := .ofNumber

/-- A name with blanks and dashes is still one word. Two minutes are in time, a nanosecond more is
not, and who fails is quoted without the blanks around what it says. -/
theorem odd_name_is_one_word :
    let k : Kubectl := ⟨"kubectl", some "/etc/k3s.yaml", .ofSecs 120⟩
    let name := "worker 1; --all"
    let cordon := fun lasting p => k.apply (endingHost lasting p).run .cordon name 0 { world := () }
    let done : Ended := ⟨.exited 0, [], []⟩
    let unknown : Ended := ⟨.exited 1, [], Utf8.encode " no such node\n"⟩
    k.timeout.timer = 120000000000 ∧
      (cordon 120000000000 done).value = .ok () ∧
      (cordon 120000000000 done).world.trace =
        [.ran ⟨"kubectl", ["--kubeconfig", "/etc/k3s.yaml", "cordon", "worker 1; --all"]⟩
          (.ended 120000000000 done)] ∧
      (cordon 120000000001 done).value =
        .error (.timeout "kubectl cordon worker 1; --all" (.ofSecs 120)) ∧
      (cordon 0 unknown).value =
        .error
          (.commandFailed "kubectl cordon worker 1; --all" "exit status: 1" "no such node") := by
  intro k name cordon done unknown
  have hdecides := fun lasting p => one_command_decides k (endingHost lasting p) 0 { world := () }
  have hcordon := fun lasting p => (hdecides lasting p).1 .cordon name
  obtain ⟨-, -, -, -, -, htimer⟩ := hdecides 0 done
  have htime : k.timeout.timer = 120000000000 := htimer (by decide) (by decide)
  have hshown : k.shown (stepArgs .cordon name) = "kubectl cordon worker 1; --all" := by
    decide +kernel
  have hsaid : Text.trim (Utf8.decodeLossy unknown.stderr) = "no such node" := by decide +kernel
  have hstatus : unknown.status.message = "exit status: 1" := by decide +kernel
  -- One nanosecond after the timer, and a command that ended with status 1.
  have hlate := ((hcordon 120000000001 done).2.2.1 _).mpr (.late (htime.trans_lt (by decide)))
  have hfailed := ((hcordon 0 unknown).2.2.1 _).mpr (.unsuccessful (Nat.zero_le _) rfl)
  rw [hshown] at hlate hfailed
  rw [hsaid, hstatus] at hfailed
  exact ⟨htime, (hcordon _ done).2.1.mpr ⟨done, _, rfl, htime.ge, rfl⟩, (hcordon _ done).1,
    hlate, hfailed⟩

end Cluster.Kubectl
end NodeAdmission
