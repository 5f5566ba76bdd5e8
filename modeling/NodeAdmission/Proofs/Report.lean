import NodeAdmission.Proofs.Cycle

/-!
# Reports of cycles

What a cycle reports is what it did. `CycleFrame` holds of every cycle, whatever its outcome: only
one record can change that was there before, only the agent of that node is called, and every other
record that is new is exempt or in its cooldown. `CycleReport` says in addition what each outcome
means for the calls of the cycle and for the record of the node it names.

* `CycleFrame.of_scan` — the frame of a cycle that ends with its scan.
* `Trial.frame` — the frame of a cycle with a trial. It is proved once for all three outcomes, for
  they differ only in the changes to the cluster and in what is recorded of the one node.
* `runCycle_report` — every cycle does what it reports, by the cases of `Cycle`.

The two bounds on calls are inequalities on purpose. How many calls there are depends on where the
attempt failed, and `verify_follows_plan` says so exactly.
-/

namespace NodeAdmission.Admission

def CycleOutcome.node? : CycleOutcome → Option String
  | .idle => none
  | .queryFailed => none
  | .verified node => some node
  | .remediated node => some node
  | .remediationFailed node => some node

/-- What a cycle with the calls `es` leaves alone that deals with `node?`. -/
structure CycleFrame (settings : Settings) (env : Environment ω) (c : Controller ω)
    (node? : Option String) (es : List Entry) (c' : Controller ω) : Prop where
  agents : ∀ e ∈ agentCalls es, ∃ name r, node? = some name ∧
    (c.scan settings env).2.registry.get? name = some r ∧ e.request.agentAddress? = some r.ip ∧
    (∀ r₀, c.registry.get? name = some r₀ → r₀.ip = r.ip) ∧
    (∀ r', c'.registry.get? name = some r' → r'.ip = r.ip)
  agentCalls_le : (agentCalls es).length ≤ 2
  cryptoCalls_le : (cryptoCalls es).length ≤ 2
  kept : ∀ name r, node? ≠ some name → c.registry.get? name = some r →
    c'.registry.get? name = some r
  added : ∀ name r, node? ≠ some name → c.registry.get? name = none →
    c'.registry.get? name = some r →
    ∃ nodes, (c.session.listNodes env).1 = .ok nodes ∧ Settled settings nodes es name r

/-- What a cycle with the calls `es` reports, and what it did. -/
structure CycleReport (settings : Settings) (env : Environment ω) (c : Controller ω)
    (outcome : CycleOutcome) (es : List Entry) (c' : Controller ω) : Prop where
  frame : CycleFrame settings env c outcome.node? es c'
  queryFailed_iff : outcome = .queryFailed ↔ ∃ cause, (c.session.listNodes env).1 = .error cause
  queryFailed : outcome = .queryFailed →
    c'.registry = c.registry ∧ (events es).map Event.request = [.list]
  idle_iff : outcome = .idle ↔ (c.scan settings env).1 = .ok none
  idle : outcome = .idle → agentCalls es = [] ∧ cryptoCalls es = [] ∧ mutations es = []
  verified : ∀ name, outcome = .verified name →
    (∀ r, c.registry.get? name = some r → r.verified = false) ∧
    (∃ r, c'.registry.get? name = some r ∧ r.verified = true) ∧ mutations es = []
  remediated : ∀ name, outcome = .remediated name →
    mutations es = [.applied .cordon name (.ok ()), .applied .drain name (.ok ()),
      .applied .delete name (.ok ())] ∧ c'.registry.get? name = none
  remediationFailed : ∀ name, outcome = .remediationFailed name → ∃ r ch e,
    (c.scan settings env).2.registry.get? name = some r ∧ r.verified = false ∧
    r.challenge? = some ch ∧ e ∈ es ∧ e.event.Fails ch ∧
    c'.registry.get? name = some { r with challenge? := none, nextCheckAt? := some e.ended }

variable {settings : Settings} {env : Environment ω} {c c' : Controller ω}

/-! ### The frame -/

/-- A cycle that ends with its scan. -/
theorem CycleFrame.of_scan {es : List Entry} {result : Except AdmissionError (Option String)}
    (h : Scan settings env c es result c'.registry) (hnone : ∀ name, result ≠ .ok (some name)) :
    CycleFrame settings env c none es c' := by
  obtain ⟨hagent, hcrypto, -⟩ := h.no_calls
  refine ⟨?_, ?_, ?_, ?_, ?_⟩
  · rw [hagent]
    exact nofun
  · rw [hagent]
    exact Nat.zero_le _
  · rw [hcrypto]
    exact Nat.zero_le _
  · exact fun name r _ hr => h.kept (hnone name) hr
  · exact fun name r _ hr hr' => h.added (hnone name) hr hr'

/-- A cycle with a trial: after the calls `es₀` of the scan and `es` of the verification only
changes to the cluster follow, and only the record of the node is written. -/
theorem Trial.frame (t : Trial settings env c) {es₀ es fs : List Entry} {r? : Option NodeRecord}
    (hscan : Scan settings env c es₀ (.ok (some t.node)) (c.scan settings env).2.registry)
    (hattempt : Attempt settings.identity t.record t.challenge (events es) t.result)
    (hfs : ∀ e ∈ events fs, e.request.isMutation = true)
    (hputs : (c.scan settings env).2.registry.Puts t.node r? c'.registry)
    (hip : ∀ r', r? = some r' → r'.ip = t.record.ip) :
    CycleFrame settings env c (some t.node) (es₀ ++ es ++ fs) c' := by
  obtain ⟨hagent₀, hcrypto₀, -⟩ := hscan.no_calls
  obtain ⟨hagent₂, hcrypto₂, -⟩ := no_calls_of_isMutation hfs
  -- Agents are called by the verification alone, and so is the crypto service.
  have hagent : agentCalls (es₀ ++ es ++ fs) = agentCalls es := by
    rw [agentCalls_append, agentCalls_append, hagent₀, hagent₂, List.nil_append, List.append_nil]
  have hcrypto : cryptoCalls (es₀ ++ es ++ fs) = cryptoCalls es := by
    rw [cryptoCalls_append, cryptoCalls_append, hcrypto₀, hcrypto₂, List.nil_append,
      List.append_nil]
  refine ⟨?_, ?_, ?_, ?_, ?_⟩
  · intro e he
    rw [hagent] at he
    obtain ⟨he, hsome⟩ := List.mem_filter.mp he
    -- A call to an agent goes to the recorded address, which neither scan nor cycle changes.
    obtain ⟨ip, haddress⟩ := Option.isSome_iff_exists.mp hsome
    obtain rfl := hattempt.agentAddress_eq he haddress
    refine ⟨t.node, t.record, rfl, t.recorded, haddress, ?_, ?_⟩
    · exact fun r₀ hr₀ => (t.unverified_before hr₀).2
    · exact fun r' hr' => hip r' (hputs.self ▸ hr')
  · rw [hagent]
    exact hattempt.length_agentCalls_le
  · rw [hcrypto]
    exact hattempt.length_cryptoCalls_le
  · intro name r hne hr
    have hne : name ≠ t.node := fun h => hne (by rw [h])
    rw [hputs.other hne]
    exact hscan.kept (by simpa using hne.symm) hr
  · intro name r hne hnone hr
    have hne : name ≠ t.node := fun h => hne (by rw [h])
    rw [hputs.other hne] at hr
    -- A record that is new and not of this node was made by the scan, on the evidence of its calls.
    obtain ⟨nodes, hlist, hsettled⟩ := hscan.added (by simpa using hne.symm) hnone hr
    refine ⟨nodes, hlist, hsettled.mono (List.Subset.refl _) ?_⟩
    rw [List.append_assoc]
    exact List.subset_append_left _ _

/-! ### The report -/

/-- A failed attempt ends with the call that failed. -/
theorem Attempt.exists_failing {identity : Identity} {r : NodeRecord} {ch : Challenge}
    {s s' : Session ω} {es : List Entry} {err : VerificationError} (hcalls : s.Calls env es s')
    (h : Attempt identity r ch (events es) (.error err)) :
    ∃ e ∈ es, e.event.Fails ch ∧ e.ended = s'.now := by
  obtain ⟨event, hlast, herr⟩ := h.of_error
  rw [events, List.getLast?_map] at hlast
  obtain ⟨e, he, rfl⟩ := Option.map_eq_some_iff.mp hlast
  have hmem := List.mem_of_getLast? he
  have hended := hcalls.map_ended_getLast? (List.ne_nil_of_mem hmem)
  rw [he] at hended
  exact ⟨e, hmem, by simp [Event.Fails, herr], Option.some.inj hended⟩

/-- Every cycle, whatever its state and its environment, does what it reports and nothing else. -/
theorem runCycle_report (settings : Settings) (env : Environment ω) (c : Controller ω) :
    ∃ es, c.session.Calls env es (c.runCycle settings env).2.session ∧
      CycleReport settings env c (c.runCycle settings env).1 es (c.runCycle settings env).2 := by
  have hcycle := c.runCycle_cases settings env
  obtain ⟨es₀, hes₀, hscan⟩ := c.scan_cases settings env
  generalize c.runCycle settings env = done at hcycle ⊢
  obtain ⟨outcome, c'⟩ := done
  -- These two do not depend on the case, and the outcome is still a variable here.
  have hqueryFailed := hcycle.queryFailed_iff.trans hscan.failed_iff
  have hidle := hcycle.idle_iff
  cases hcycle with
  | queryFailed hfailed =>
    rw [hfailed] at hes₀ hscan
    exact ⟨es₀, hes₀, .of_scan hscan nofun, hqueryFailed, fun _ => hscan.of_error, hidle, nofun,
      nofun, nofun, nofun⟩
  | idle hnone =>
    rw [hnone] at hes₀ hscan
    exact ⟨es₀, hes₀, .of_scan hscan nofun, hqueryFailed, nofun, hidle, fun _ => hscan.no_calls,
      nofun, nofun, nofun⟩
  | verified t hok hputs hend =>
    obtain ⟨es₀, es, hcalls, hscan, -, hattempt, hnone⟩ := t.all_calls hend (by simp)
    refine ⟨_, hcalls, t.frame hscan hattempt (by simp) hputs (by rintro _ ⟨⟩; rfl), hqueryFailed,
      nofun, hidle, nofun, ?_, nofun, nofun⟩
    rintro _ ⟨⟩
    exact ⟨fun r hr => (t.unverified_before hr).1, ⟨_, hputs.self, rfl⟩, hnone⟩
  | remediated t herror hputs hfs hexpulsion htaken =>
    obtain ⟨es₀, es, hcalls, hscan, -, hattempt, hchanges⟩ := t.all_calls hfs hexpulsion.isMutation
    refine ⟨_, hcalls, t.frame hscan hattempt hexpulsion.isMutation hputs nofun, hqueryFailed,
      nofun, hidle, nofun, nofun, ?_, nofun⟩
    rintro _ ⟨⟩
    rw [hchanges]
    exact ⟨hexpulsion.of_not_refused htaken, hputs.self⟩
  | remediationFailed t herror hputs hfs hexpulsion hrefused =>
    obtain ⟨es₀, es, hcalls, hscan, hes, hattempt, -⟩ := t.all_calls hfs hexpulsion.isMutation
    refine ⟨_, hcalls, t.frame hscan hattempt hexpulsion.isMutation hputs (by rintro _ ⟨⟩; rfl),
      hqueryFailed, nofun, hidle, nofun, nofun, nofun, ?_⟩
    rintro _ ⟨⟩
    -- The cooldown starts when the attempt ends, before the steps against the node.
    rw [herror] at hattempt
    obtain ⟨e, hmem, hfails, hended⟩ := hattempt.exists_failing hes
    refine ⟨t.record, t.challenge, e, t.recorded, t.unverified, t.pending, ?_, hfails, ?_⟩
    · exact List.mem_append_left _ (List.mem_append_right _ hmem)
    · rw [hended]
      exact hputs.self

end NodeAdmission.Admission
