import NodeAdmission.Proofs.Provenance
import NodeAdmission.Proofs.Visits

/-!
# The course of a cycle, the turns of a run

A cycle is a scan and, if the scan finds a node, an attempt on the node and perhaps steps against
it. `Course` lists what a cycle can be, each stage with its calls, and says what is recorded of the
node in the end; `CallOf` says of a single call to which stage it belongs.

* `Controller.runCycle_course`, `Course.callOf` — every cycle takes one of the courses, and so every
  call of it has its stage.
* `Turn.present`, `Turn.created` — with the visits of the scan: what becomes of a record in one turn
  of a run, and where a record comes from that was not there before.
* `Controller.run_induct` — a property of controllers that every turn keeps holds after the run.
* `Controller.turns_split`, `Controller.turns_induct` — a run falls apart where its turns do.
* `Controller.run_keyed` — the first use: every record bears the name under which it is recorded.

There are three courses and not the five ends of `Cycle`. Which answer ended an attempt does not
matter here, only whether the record is kept.
-/

namespace NodeAdmission.Admission

open Cluster (Step)

/-- The stages of a cycle that found a node: the calls `es₀` of the scan, `es` of the attempt and
`fs` against the node. In the end `r?` is recorded of the node. -/
structure Trial.Stages {settings : Settings} {env : Environment ω} {c : Controller ω}
    (t : Trial settings env c) (es₀ es fs : List Entry) (r? : Option NodeRecord)
    (c' : Controller ω) : Prop where
  survey : Survey settings env c es₀ (.ok (some t.node)) (c.scan settings env).2
  attempt_calls : (c.scan settings env).2.session.Calls env es t.session
  attempt : Attempt settings.identity t.record t.challenge (events es) t.result
  steps_calls : t.session.Calls env fs c'.session
  steps : ∀ e ∈ events fs, ∃ step result, e = .applied step t.node result
  puts : (c.scan settings env).2.registry.Puts t.node r? c'.registry

/-- What a cycle can be, with its calls: it finds nobody, or it tries a node and keeps its record,
or it tries a node and forgets it. -/
inductive Course (settings : Settings) (env : Environment ω) (c : Controller ω) :
    List Entry → CycleOutcome → Controller ω → Prop
  | quiet {es outcome}
      (hsurvey : Survey settings env c es (c.scan settings env).1 (c.scan settings env).2)
      (hnobody : ∀ name, (c.scan settings env).1 ≠ .ok (some name))
      (houtcome : outcome = .idle ∨ outcome = .queryFailed) :
      Course settings env c es outcome (c.scan settings env).2
  | kept {es₀ es fs outcome c'} (t : Trial settings env c)
      (hstages : t.Stages es₀ es fs (some (t.record.afterExchange t.session.now t.result)) c')
      (houtcome : outcome = .verified t.node ∨ outcome = .remediationFailed t.node) :
      Course settings env c (es₀ ++ es ++ fs) outcome c'
  | evicted {es₀ es fs c'} (t : Trial settings env c) (hstages : t.Stages es₀ es fs none c') :
      Course settings env c (es₀ ++ es ++ fs) (.remediated t.node) c'

/-- What a call of a cycle belongs to: the scan, the attempt or the steps against the node. -/
inductive CallOf (settings : Settings) (env : Environment ω) (c : Controller ω) (e : Entry) : Prop
  | scan {es} (hsurvey : Survey settings env c es (c.scan settings env).1 (c.scan settings env).2)
      (he : e ∈ es) : CallOf settings env c e
  | attempt {es} (t : Trial settings env c)
      (hcalls : (c.scan settings env).2.session.Calls env es t.session)
      (hattempt : Attempt settings.identity t.record t.challenge (events es) t.result)
      (he : e ∈ es) : CallOf settings env c e
  | step {step result} (t : Trial settings env c) (hevent : e.event = .applied step t.node result) :
      CallOf settings env c e

variable {settings : Settings} {env : Environment ω} {c c' : Controller ω} {name : String}
  {r : NodeRecord} {e : Entry} {es es₀ fs : List Entry} {r? : Option NodeRecord}
  {outcome : CycleOutcome}

/-! ### One cycle -/

theorem Expulsion.applied {node : String} {evs : List Event} (h : Expulsion node evs) :
    ∀ e ∈ evs, ∃ step result, e = .applied step node result := by
  rcases h.cases with ⟨cause, rfl⟩ | ⟨cause, rfl⟩ | ⟨result, rfl⟩ <;> simp

/-- A trial and what follows it, taken apart into stages. -/
theorem Trial.exists_stages (t : Trial settings env c) (hfs : t.session.Calls env fs c'.session)
    (hsteps : ∀ e ∈ events fs, ∃ step result, e = .applied step t.node result)
    (hputs : (c.scan settings env).2.registry.Puts t.node r? c'.registry) :
    ∃ es₀ es, t.Stages es₀ es fs r? c' := by
  obtain ⟨es₀, hsurvey⟩ := c.scan_survey settings env
  rw [t.found] at hsurvey
  obtain ⟨es, hes, hattempt⟩ := t.calls
  exact ⟨es₀, es, hsurvey, hes, hattempt, hfs, hsteps, hputs⟩

theorem Trial.Stages.calls {t : Trial settings env c} (h : t.Stages es₀ es fs r? c') :
    c.session.Calls env (es₀ ++ es ++ fs) c'.session :=
  (h.survey.calls.trans h.attempt_calls).trans h.steps_calls

/-- The calls of a course lead from the controller before it to the one after it. -/
theorem Course.calls (h : Course settings env c es outcome c') :
    c.session.Calls env es c'.session := by
  cases h with
  | quiet hsurvey hnobody houtcome => exact hsurvey.calls
  | kept t hstages houtcome => exact hstages.calls
  | evicted t hstages => exact hstages.calls

/-- Every call of the three stages belongs to one of them. -/
theorem Trial.Stages.callOf {t : Trial settings env c} (h : t.Stages es₀ es fs r? c')
    (he : e ∈ es₀ ++ es ++ fs) : CallOf settings env c e := by
  rcases List.mem_append.mp he with he | he
  · rcases List.mem_append.mp he with he | he
    · exact .scan (t.found ▸ h.survey) he
    · exact .attempt t h.attempt_calls h.attempt he
  · obtain ⟨step, result, hevent⟩ := h.steps _ (List.mem_map_of_mem he)
    exact .step t hevent

theorem Course.callOf (h : Course settings env c es outcome c') (he : e ∈ es) :
    CallOf settings env c e := by
  cases h with
  | quiet hsurvey hnobody houtcome => exact .scan hsurvey he
  | kept t hstages houtcome => exact hstages.callOf he
  | evicted t hstages => exact hstages.callOf he

/-- Every cycle takes one of the courses. -/
theorem Controller.runCycle_course (settings : Settings) (env : Environment ω) (c : Controller ω) :
    ∃ es, Course settings env c es (c.runCycle settings env).1 (c.runCycle settings env).2 := by
  have hcycle := c.runCycle_cases settings env
  generalize c.runCycle settings env = done at hcycle ⊢
  obtain ⟨outcome, c'⟩ := done
  obtain ⟨es, hsurvey⟩ := c.scan_survey settings env
  cases hcycle with
  | @queryFailed cause _ hscan =>
    have hfailed : (c.scan settings env).1 = .error (.queryFailed cause) := by rw [hscan]
    obtain rfl : (c.scan settings env).2 = c' := by rw [hscan]
    exact ⟨es, .quiet hsurvey (by simp [hfailed]) (.inr rfl)⟩
  | idle hscan =>
    have hnone : (c.scan settings env).1 = .ok none := by rw [hscan]
    obtain rfl : (c.scan settings env).2 = c' := by rw [hscan]
    exact ⟨es, .quiet hsurvey (by simp [hnone]) (.inl rfl)⟩
  -- In the last three cases what is recorded is written as the effect of the exchange,
  -- whatever its result was.
  | verified t hok hputs hend =>
    have hrecord : t.record.afterExchange t.session.now t.result =
        { t.record with verified := true, challenge? := none, nextCheckAt? := none } := by
      rw [hok]
      rfl
    rw [← hrecord] at hputs
    obtain ⟨es₀, es, hstages⟩ := t.exists_stages hend (by simp) hputs
    exact ⟨_, .kept t hstages (.inl rfl)⟩
  | remediated t herror hputs hfs hexpulsion htaken =>
    obtain ⟨es₀, es, hstages⟩ := t.exists_stages hfs hexpulsion.applied hputs
    exact ⟨_, .evicted t hstages⟩
  | remediationFailed t herror hputs hfs hexpulsion hrefused =>
    have hrecord : t.record.afterExchange t.session.now t.result =
        { t.record with challenge? := none, nextCheckAt? := some t.session.now } := by
      rw [herror]
      rfl
    rw [← hrecord] at hputs
    obtain ⟨es₀, es, hstages⟩ := t.exists_stages hfs hexpulsion.applied hputs
    exact ⟨_, .kept t hstages (.inr rfl)⟩

theorem Course.of_calls (hcalls : c.session.Calls env es (c.runCycle settings env).2.session) :
    Course settings env c es (c.runCycle settings env).1 (c.runCycle settings env).2 := by
  obtain ⟨fs, h⟩ := c.runCycle_course settings env
  rw [hcalls.unique h.calls]
  exact h

/-! ### Records in one turn

The lemmas called `present` tell what becomes of a record that is there, those called
`created` or `absent` where a new one can come from. An invariant of records needs no more
than these two about a turn. -/

theorem NodeRecord.afterExchange_name (r : NodeRecord) (now : Instant)
    (result : Except VerificationError Unit) : (r.afterExchange now result).name = r.name := by
  cases result <;> rfl

theorem NodeRecord.afterExchange_ip (r : NodeRecord) (now : Instant)
    (result : Except VerificationError Unit) : (r.afterExchange now result).ip = r.ip := by
  cases result <;> rfl

/-- A cycle that does not forget a node leaves its record as the scan left it, or the record went
through an attempt. -/
theorem Course.present (h : Course settings env c es outcome c')
    (hkept : outcome ≠ .remediated name)
    (hr : (c.scan settings env).2.registry.get? name = some r) :
    c'.registry.get? name = some r ∨ ∃ t : Trial settings env c, t.node = name ∧ t.record = r ∧
      c'.registry.get? name = some (r.afterExchange t.session.now t.result) := by
  cases h with
  | quiet hsurvey hnobody houtcome => exact .inl hr
  | kept t hstages houtcome =>
    by_cases hname : name = t.node
    · subst hname
      obtain rfl : t.record = r := Option.some.inj (t.recorded.symm.trans hr)
      exact .inr ⟨t, rfl, rfl, hstages.puts.self⟩
    · rw [hstages.puts.other hname]
      exact .inl hr
  -- The name that was evicted is not this one.
  | evicted t hstages =>
    have hname : name ≠ t.node := by
      rintro rfl
      exact hkept rfl
    rw [hstages.puts.other hname]
    exact .inl hr

/-- The node on trial is recorded as its attempt left it, unless it is forgotten. -/
theorem Course.tried (h : Course settings env c es outcome c') (t : Trial settings env c)
    (hkept : outcome ≠ .remediated t.node) :
    c'.registry.get? t.node = some (t.record.afterExchange t.session.now t.result) := by
  cases h with
  | quiet hsurvey hnobody houtcome => exact absurd t.found (hnobody _)
  | kept u hstages houtcome =>
    -- A scan finds one node only, so the trial of the course is the given one.
    obtain rfl := u.eq t
    exact hstages.puts.self
  | evicted u hstages =>
    obtain rfl := u.eq t
    exact absurd rfl hkept

/-- After its scan a cycle concerns the record of the node on trial. -/
theorem Course.other (h : Course settings env c es outcome c')
    (hne : ∀ t : Trial settings env c, name ≠ t.node) :
    c'.registry.get? name = (c.scan settings env).2.registry.get? name := by
  cases h with
  | quiet hsurvey hnobody houtcome => rfl
  | kept t hstages houtcome => exact hstages.puts.other (hne t)
  | evicted t hstages => exact hstages.puts.other (hne t)

/-- A name without a record after the scan has none after the cycle. -/
theorem Course.absent (h : Course settings env c es outcome c')
    (hnone : (c.scan settings env).2.registry.get? name = none) : c'.registry.get? name = none := by
  rw [h.other, hnone]
  rintro t rfl
  rw [t.recorded] at hnone
  cases hnone

namespace Turn

variable {t : Turn ω}

theorem survey_of_scan (hmove : t.move = .scan) :
    Survey settings env t.before (t.entries settings env) (t.before.scan settings env).1
      (t.after settings env) := by
  obtain ⟨c, m⟩ := t
  obtain rfl : m = .scan := hmove
  exact .of_calls (Turn.calls settings env ⟨c, .scan⟩)

theorem course_of_cycle (hmove : t.move = .cycle) :
    Course settings env t.before (t.entries settings env) (t.before.runCycle settings env).1
      (t.after settings env) := by
  obtain ⟨c, m⟩ := t
  obtain rfl : m = .cycle := hmove
  exact .of_calls (Turn.calls settings env ⟨c, .cycle⟩)

theorem entries_of_sleep {interval : Duration} (hmove : t.move = .sleep interval) :
    ∃ e, t.entries settings env = [e] ∧ e.event = .slept interval := by
  obtain ⟨c, m⟩ := t
  obtain rfl : m = .sleep interval := hmove
  exact ⟨_, Turn.entries_eq (c.session.calls_sleep env interval), rfl⟩

/-- A call of any turn is a sleep, or it belongs to a stage of a scan or a cycle. -/
theorem callOf (he : e ∈ t.entries settings env) :
    (∃ interval, e.event = .slept interval) ∨
      (t.move = .scan ∨ t.move = .cycle) ∧ CallOf settings env t.before e := by
  cases hmove : t.move with
  | scan =>
    have hsurvey : Survey settings env t.before _ _ (t.after settings env) := survey_of_scan hmove
    rw [Turn.after, hmove] at hsurvey
    exact .inr ⟨.inl rfl, .scan hsurvey he⟩
  | cycle => exact .inr ⟨.inr rfl, (course_of_cycle hmove).callOf he⟩
  | sleep interval =>
    obtain ⟨d, hentries, hevent⟩ : ∃ d, t.entries settings env = [d] ∧ _ := entries_of_sleep hmove
    rw [hentries] at he
    exact .inl ⟨interval, List.mem_singleton.mp he ▸ hevent⟩

theorem not_evicts (hr : (t.after settings env).registry.get? name = some r) :
    ¬ t.Evicts settings env name :=
  (t.origin hr).kept

/-- A turn that does not forget a node keeps its name and its address. -/
theorem present (hr : t.before.registry.get? name = some r) (hkept : ¬ t.Evicts settings env name) :
    ∃ r', (t.after settings env).registry.get? name = some r' ∧ r'.name = r.name ∧
      r'.ip = r.ip := by
  cases hmove : t.move with
  | scan =>
    obtain ⟨ch?, hr'⟩ := (survey_of_scan hmove).present hr
    exact ⟨_, hr', rfl, rfl⟩
  | sleep interval =>
    rw [Turn.after, hmove, Controller.move_sleep]
    exact ⟨r, hr, rfl, rfl⟩
  | cycle =>
    have hkept' : (t.before.runCycle settings env).1 ≠ .remediated name := fun h => hkept ⟨hmove, h⟩
    obtain ⟨es, hsurvey⟩ := t.before.scan_survey settings env
    obtain ⟨ch?, hs⟩ := hsurvey.present hr
    rcases (course_of_cycle hmove).present hkept' hs with hr' | ⟨trial, -, -, hr'⟩
    · exact ⟨_, hr', rfl, rfl⟩
    · exact ⟨_, hr', NodeRecord.afterExchange_name _ _ _, NodeRecord.afterExchange_ip _ _ _⟩

/-- A turn makes records for listed nodes only, under their names and with their addresses. -/
theorem created (hnone : t.before.registry.get? name = none)
    (hr : (t.after settings env).registry.get? name = some r) :
    ∃ nodes, (t.before.session.listNodes env).1 = .ok nodes ∧ ∃ node ∈ nodes, node.name = name ∧
      r.name = name ∧ node.internalIp? settings.internalIpAnnotation = some r.ip := by
  cases hmove : t.move with
  | scan =>
    obtain ⟨nodes, hlist, node, hmem, hname, hmade⟩ := (survey_of_scan hmove).created hnone hr
    exact ⟨nodes, hlist, node, hmem, hname, hmade.name.trans hname, hmade.address⟩
  | sleep interval =>
    rw [Turn.after, hmove, Controller.move_sleep] at hr
    rw [hnone] at hr
    cases hr
  | cycle =>
    have hcourse : Course settings env t.before (t.entries settings env) _ _ :=
      course_of_cycle hmove
    obtain ⟨es, hsurvey⟩ := t.before.scan_survey settings env
    cases hs : (t.before.scan settings env).2.registry.get? name with
    | none =>
      rw [hcourse.absent hs] at hr
      cases hr
    | some s =>
      obtain ⟨nodes, hlist, node, hmem, hname, hmade⟩ := hsurvey.created hnone hs
      refine ⟨nodes, hlist, node, hmem, hname, ?_⟩
      -- The attempt that may follow changes neither the name nor the address.
      have hkept : (t.before.runCycle settings env).1 ≠ .remediated name :=
        fun h => not_evicts hr ⟨hmove, h⟩
      rcases hcourse.present hkept hs with hr' | ⟨trial, -, -, hr'⟩
      · obtain rfl := Option.some.inj (hr'.symm.trans hr)
        exact ⟨hmade.name.trans hname, hmade.address⟩
      · obtain rfl := Option.some.inj (hr'.symm.trans hr)
        rw [NodeRecord.afterExchange_name, NodeRecord.afterExchange_ip]
        exact ⟨hmade.name.trans hname, hmade.address⟩

end Turn

/-! ### Runs -/

namespace Controller

variable {ms : List Move} {ts ts' : List (Turn ω)} {t : Turn ω}

/-- What a fresh controller has and every turn keeps holds after the run. -/
theorem run_induct {P : Controller ω → Prop} (hc : P c)
    (hstep : ∀ t ∈ c.turns settings env ms, P t.before → P (t.after settings env)) :
    P (c.run settings env ms) := by
  induction ms generalizing c with
  | nil => exact hc
  | cons m ms ih =>
    apply ih
    · exact hstep ⟨c, m⟩ List.mem_cons_self hc
    · intro t ht
      exact hstep t (List.mem_cons_of_mem _ ht)

/-- The turns of a run make the moves of the run. -/
theorem move_mem_of_mem_turns (ht : t ∈ c.turns settings env ms) : t.move ∈ ms := by
  induction ms generalizing c with
  | nil => cases ht
  | cons m ms ih =>
    rcases List.mem_cons.mp ht with rfl | ht
    · exact List.mem_cons_self
    · exact List.mem_cons_of_mem _ (ih ht)

/-- The turns before and after a turn of a run are those of two runs, which meet at that turn. -/
theorem turns_split (h : c.turns settings env ms = ts ++ t :: ts') :
    ∃ ms₁ m ms₂, ms = ms₁ ++ m :: ms₂ ∧ ts = c.turns settings env ms₁ ∧
      t = ⟨c.run settings env ms₁, m⟩ ∧
      ts' = (t.after settings env).turns settings env ms₂ := by
  induction ts generalizing c ms with
  | nil =>
    cases ms with
    | nil => cases h
    | cons m ms =>
      obtain ⟨rfl, rfl⟩ := List.cons.inj h
      exact ⟨[], m, ms, rfl, rfl, rfl, rfl⟩
  | cons u ts ih =>
    cases ms with
    | nil => cases h
    | cons m ms =>
      obtain ⟨rfl, hrest⟩ := List.cons.inj h
      -- The turn comes later; the first move is put in front of those before it.
      obtain ⟨ms₁, m', ms₂, rfl, rfl, rfl, rfl⟩ := ih hrest
      exact ⟨m :: ms₁, m', ms₂, rfl, rfl, rfl, rfl⟩

/-- What holds after a turn, and is kept by the turns up to a later one, holds before that one. -/
theorem turns_induct {P : Controller ω → Prop} {u : Turn ω} {us : List (Turn ω)}
    (h : c.turns settings env ms = ts ++ t :: (ts' ++ u :: us)) (ht : P (t.after settings env))
    (hstep : ∀ v ∈ ts', P v.before → P (v.after settings env)) : P u.before := by
  obtain ⟨ms₁, m, ms₂, -, -, -, hrest⟩ := turns_split h
  obtain ⟨ms₃, m', ms₄, -, rfl, rfl, -⟩ := turns_split hrest.symm
  exact run_induct ht hstep

end Controller

/-- A state of the control loop that a run of a fresh controller leads to. -/
def Controller.Reachable (settings : Settings) (env : Environment ω) (c : Controller ω) : Prop :=
  ∃ world ms, c = Controller.run settings env (.new world) ms

/-- Before every turn of a run the controller is in a state that a run leads to. -/
theorem Controller.reachable_of_mem_turns {world : ω} {ms : List Move} {t : Turn ω}
    (ht : t ∈ turns settings env (.new world) ms) : t.before.Reachable settings env := by
  obtain ⟨ts, ts', hturns⟩ := List.append_of_mem ht
  obtain ⟨ms₁, m, ms₂, -, -, rfl, -⟩ := turns_split hturns
  exact ⟨world, ms₁, rfl⟩

/-! ### Names -/

def Registry.Keyed (g : Registry) : Prop := ∀ name r, g.get? name = some r → r.name = name

/-- A turn keeps records under their names, for it makes them so and never renames one. -/
theorem Turn.keyed {t : Turn ω} (h : t.before.registry.Keyed) :
    (t.after settings env).registry.Keyed := by
  intro name r hr
  cases hbefore : t.before.registry.get? name with
  | none =>
    obtain ⟨nodes, -, node, -, -, hname, -⟩ := Turn.created hbefore hr
    exact hname
  | some s =>
    obtain ⟨r', hr', hname, -⟩ := Turn.present hbefore (Turn.not_evicts hr)
    obtain rfl := Option.some.inj (hr'.symm.trans hr)
    rw [hname]
    exact h name s hbefore

theorem Controller.run_keyed (settings : Settings) (env : Environment ω) (world : ω)
    (ms : List Move) : (run settings env (.new world) ms).registry.Keyed := by
  apply run_induct (P := fun c => c.registry.Keyed)
  · intro name r hr
    cases hr
  · intro t _ h
    exact t.keyed h

theorem Controller.Reachable.keyed (h : c.Reachable settings env) : c.registry.Keyed := by
  obtain ⟨world, ms, rfl⟩ := h
  exact run_keyed settings env world ms

/-- The node that a scan finds bears the name under which it is recorded. -/
theorem Trial.record_name (t : Trial settings env c) (h : c.registry.Keyed) :
    t.record.name = t.node :=
  Turn.keyed (t := ⟨c, .scan⟩) h t.node t.record t.recorded

end NodeAdmission.Admission
