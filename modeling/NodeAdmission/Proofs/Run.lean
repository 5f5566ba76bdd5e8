import NodeAdmission.Proofs.Cycle

/-!
# Runs

A run is a sequence of scans, cycles and sleeps of a controller, in any order and of any
length. `Controller.turns` lists its moves, each with the controller before it. A turn is
determined by these two, so what can be told of every turn is told without a word about
the run that it is part of.

* `Turn.calls`, `Controller.run_calls` - the log of a turn is what it calls, and the log of a run is
  the log of its turns one after another.
* `Controller.runCycle_changes` - the step lemma. A cycle changes the cluster if a verification
  fails in it, and then by the steps against that node; everything else leaves the cluster alone.
* `Turn.expels` - the same of every kind of move, with all that is to be said of the changes in a
  structure (`Turn.Expels`).
* `run_mutations` - the run lemma: the changes of a run are the concatenation of such
  blocks, one for each turn.

Whether a verification fails is not told from the log. It is told from a `Trial` of the controller,
which does not mention what the cycle does afterwards; otherwise the statement would say no more
than that the cluster is changed where it is changed.
-/

namespace NodeAdmission.Admission

/-! ### Moves and turns -/

inductive Move where
  | scan
  | cycle
  | sleep (interval : Duration)

/-- A move of a run, with the controller before it. -/
structure Turn (ω : Type) where
  before : Controller ω
  move : Move

namespace Controller

def move (settings : Settings) (env : Environment ω) (c : Controller ω) : Move → Controller ω
  | .scan => (c.scan settings env).2
  | .cycle => (c.runCycle settings env).2
  | .sleep interval => { c with session := c.session.sleep interval }

/-- Sleeping leaves the registry alone. Stated for the whole controller, for the two registries are
compared by way of their controllers otherwise, and so the two clocks. -/
theorem move_sleep (settings : Settings) (env : Environment ω) (c : Controller ω)
    (interval : Duration) :
    c.move settings env (.sleep interval) = ⟨c.registry, c.session.sleep interval⟩ := rfl

def run (settings : Settings) (env : Environment ω) : Controller ω → List Move → Controller ω
  | c, [] => c
  | c, m :: ms => run settings env (c.move settings env m) ms

def turns (settings : Settings) (env : Environment ω) : Controller ω → List Move → List (Turn ω)
  | _, [] => []
  | c, m :: ms => ⟨c, m⟩ :: turns settings env (c.move settings env m) ms

end Controller

namespace Turn

def after (settings : Settings) (env : Environment ω) (t : Turn ω) : Controller ω :=
  t.before.move settings env t.move

def entries (settings : Settings) (env : Environment ω) (t : Turn ω) : List Entry :=
  (t.after settings env).session.log.drop t.before.session.log.length

/-- The turn is a cycle in which the verification of a node failed. -/
def Fails (settings : Settings) (env : Environment ω) (t : Turn ω) (name : String) : Prop :=
  t.move = .cycle ∧ ∃ trial : Trial settings env t.before, trial.node = name ∧
    ∃ err, trial.result = .error err

end Turn

def CycleOutcome.expelled? : CycleOutcome → Option String
  | .idle => none
  | .queryFailed => none
  | .verified _ => none
  | .remediated node => some node
  | .remediationFailed node => some node

variable {settings : Settings} {env : Environment ω}

/-! ### The calls of a turn -/

/-- A cycle changes the cluster if a verification fails, and only then. -/
theorem Controller.runCycle_changes (settings : Settings) (env : Environment ω) (c : Controller ω) :
    ∃ es, c.session.Calls env es (c.runCycle settings env).2.session ∧
      ((∃ t : Trial settings env c, (∃ err, t.result = .error err) ∧
          Expulsion t.node (mutations es) ∧ (c.runCycle settings env).1.expelled? = some t.node) ∨
        (∀ t : Trial settings env c, t.result = .ok ()) ∧ mutations es = [] ∧
          (c.runCycle settings env).1.expelled? = none) := by
  have hcycle := c.runCycle_cases settings env
  generalize c.runCycle settings env = done at hcycle ⊢
  obtain ⟨outcome, c'⟩ := done
  obtain ⟨es₀, hes₀, hscan⟩ := c.scan_cases settings env
  -- One case for each end of a cycle. Without a node in need of an attempt there is no trial, and
  -- the calls are those of the scan, none of which changes the cluster.
  cases hcycle with
  | queryFailed hfailed =>
    rw [hfailed] at hes₀
    refine ⟨es₀, hes₀, .inr ⟨fun t => ?_, hscan.no_calls.2.2, rfl⟩⟩
    have := t.found
    rw [hfailed] at this
    cases this
  | idle hnone =>
    rw [hnone] at hes₀
    refine ⟨es₀, hes₀, .inr ⟨fun t => ?_, hscan.no_calls.2.2, rfl⟩⟩
    have := t.found
    rw [hnone] at this
    cases this
  | verified t hok hputs hend =>
    -- A trial is unique, so one that succeeded leaves none that failed.
    obtain ⟨es₀, es, hcalls, -, -, -, hnone⟩ := t.all_calls hend (by simp)
    exact ⟨_, hcalls, .inr ⟨fun u => u.eq t ▸ hok, hnone, rfl⟩⟩
  | remediated t herror hputs hfs hexpulsion htaken =>
    obtain ⟨es₀, es, hcalls, -, -, -, hchanges⟩ := t.all_calls hfs hexpulsion.isMutation
    exact ⟨_, hcalls, .inl ⟨t, ⟨_, herror⟩, hchanges ▸ hexpulsion, rfl⟩⟩
  | remediationFailed t herror hputs hfs hexpulsion hrefused =>
    obtain ⟨es₀, es, hcalls, -, -, -, hchanges⟩ := t.all_calls hfs hexpulsion.isMutation
    exact ⟨_, hcalls, .inl ⟨t, ⟨_, herror⟩, hchanges ▸ hexpulsion, rfl⟩⟩

namespace Turn

/-- The calls of a turn lead from the controller before it to the one after it. -/
theorem calls (settings : Settings) (env : Environment ω) (t : Turn ω) :
    t.before.session.Calls env (t.entries settings env) (t.after settings env).session := by
  -- Some list of entries does it; which one is read off the log afterwards.
  have hcalls : ∃ es, t.before.session.Calls env es (t.after settings env).session := by
    obtain ⟨c, m⟩ := t
    cases m with
    | scan =>
      obtain ⟨es, hes, -⟩ := c.scan_cases settings env
      exact ⟨es, hes⟩
    | cycle =>
      obtain ⟨es, hes, -⟩ := c.runCycle_changes settings env
      exact ⟨es, hes⟩
    | sleep interval => exact ⟨_, c.session.calls_sleep env interval⟩
  obtain ⟨es, hes⟩ := hcalls
  rw [entries, hes.drop_log]
  exact hes

/-- The entries of a turn are the calls that it is known to make. -/
theorem entries_eq {t : Turn ω} {es : List Entry}
    (h : t.before.session.Calls env es (t.after settings env).session) :
    t.entries settings env = es := h.drop_log

end Turn

/-- The calls of a run are those of its turns. -/
theorem Controller.run_calls (settings : Settings) (env : Environment ω) (c : Controller ω)
    (ms : List Move) :
    c.session.Calls env ((c.turns settings env ms).flatMap (·.entries settings env))
      (c.run settings env ms).session := by
  induction ms generalizing c with
  | nil => exact .refl _
  | cons m ms ih => exact (Turn.calls settings env ⟨c, m⟩).trans (ih _)

/-! ### The changes of a run

A cycle is the only move that can change the cluster, so for the other two it is enough
that they make no changes. -/

/-- The changes of several lists of entries are those of each in turn. -/
theorem mutations_flatMap (f : α → List Entry) (as : List α) :
    mutations (as.flatMap f) = as.flatMap fun a => mutations (f a) := by
  induction as with
  | nil => rfl
  | cons a as ih => rw [List.flatMap_cons, mutations_append, ih, List.flatMap_cons]

/-- What a turn with the changes `block` has to do with a verification that failed in it. -/
structure Turn.Expels (settings : Settings) (env : Environment ω) (t : Turn ω)
    (block : List Event) : Prop where
  failed : ∀ name, t.Fails settings env name → Expulsion name block ∧ block ≠ []
  otherwise : (∀ name, ¬ t.Fails settings env name) → block = []
  reported : ∀ name, t.Fails settings env name ↔
    t.move = .cycle ∧ (t.before.runCycle settings env).1.expelled? = some name
  deleted : ∀ name result, .applied .delete name result ∈ block →
    block = [.applied .cordon name (.ok ()), .applied .drain name (.ok ()),
      .applied .delete name result]

namespace Turn.Expels

variable {t : Turn ω} {block : List Event} {name : String}

theorem silent (hfails : ∀ name, ¬ t.Fails settings env name)
    (hreport : t.move = .cycle → (t.before.runCycle settings env).1.expelled? = none) :
    t.Expels settings env [] where
  failed name h := absurd h (hfails name)
  otherwise _ := rfl
  reported name := by
    refine ⟨fun h => absurd h (hfails name), ?_⟩
    rintro ⟨hmove, hname⟩
    rw [hreport hmove] at hname
    cases hname
  deleted := nofun

/-- A turn in which the verification of a node failed. -/
theorem expulsion (hfails : ∀ other, t.Fails settings env other ↔ name = other)
    (hexpulsion : Expulsion name block) (hmove : t.move = .cycle)
    (hreport : (t.before.runCycle settings env).1.expelled? = some name) :
    t.Expels settings env block where
  failed other h := by
    obtain rfl := (hfails other).mp h
    exact ⟨hexpulsion, hexpulsion.ne_nil⟩
  otherwise h := absurd ((hfails name).mpr rfl) (h name)
  reported other := by
    rw [hfails, hreport, Option.some.injEq]
    exact ⟨fun h => ⟨hmove, h⟩, fun h => h.2⟩
  deleted _ _ hmem := hexpulsion.of_mem_delete hmem

end Turn.Expels

/-- Every turn, whatever the controller before it, changes the cluster for a failed verification
only. -/
theorem Turn.expels (settings : Settings) (env : Environment ω) (t : Turn ω) :
    t.Expels settings env (mutations (t.entries settings env)) := by
  obtain ⟨c, m⟩ := t
  cases m with
  | scan =>
    obtain ⟨es, hes, hscan⟩ := c.scan_cases settings env
    rw [Turn.entries_eq hes, hscan.no_calls.2.2]
    -- A scan is no cycle, so no verification fails in it.
    exact .silent (fun _ h => nomatch h.1) nofun
  | sleep interval =>
    rw [Turn.entries_eq (c.session.calls_sleep env interval)]
    exact .silent (fun _ h => nomatch h.1) nofun
  | cycle =>
    obtain ⟨es, hes, hchanges⟩ := c.runCycle_changes settings env
    rw [Turn.entries_eq hes]
    rcases hchanges with ⟨t, herror, hexpulsion, hreport⟩ | ⟨hok, hnone, hreport⟩
    · refine .expulsion (fun other => ⟨?_, ?_⟩) hexpulsion rfl hreport
      · -- Whatever trial is said to have failed, it is the one of this cycle.
        rintro ⟨-, u, rfl, -⟩
        rw [t.eq u]
      · rintro rfl
        exact ⟨rfl, t, rfl, herror⟩
    · rw [hnone]
      refine .silent ?_ fun _ => hreport
      rintro _ ⟨-, t, -, err, herror⟩
      have hok := (hok t).symm.trans herror
      cases hok

/-- The changes to the cluster in a run of a fresh controller are those of its turns, in their
order. A turn makes changes just if it is a cycle in which the verification of a node failed: then
the node is cordoned, drained and deleted, in this order and up to the first step that is refused.
-/
theorem run_mutations (settings : Settings) (env : Environment ω) (world : ω) (ms : List Move) :
    let turns := Controller.turns settings env (.new world) ms
    mutations (Controller.run settings env (.new world) ms).session.log =
        turns.flatMap (fun t => mutations (t.entries settings env)) ∧
      ∀ t ∈ turns, t.Expels settings env (mutations (t.entries settings env)) := by
  refine ⟨?_, fun t _ => t.expels settings env⟩
  rw [(Controller.run_calls settings env (.new world) ms).log, mutations_append, mutations_flatMap]
  rfl

end NodeAdmission.Admission
