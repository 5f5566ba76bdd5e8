import NodeAdmission.Admission.Session

/-!
# Transcripts

The log of a session as evidence of what was done. A `Request` is a call without its answer, and
`Environment.answer` is what the environment makes of it. `Session.Calls` says that one session
leads to another by the calls of a list of entries and by nothing else: the log grows by these
entries, each of them begins when the one before it ends, and each holds the answer that the
environment gives there.

* `Session.Calls.trans` puts activities together, `Session.Calls.unique` and
  `Session.Calls.drop_log` read the entries off the log again, and `Session.Calls.within` bounds
  their instants. Everything that is said later about the calls of a scan, a cycle or a run is said
  of such a list of entries.
* Several activities of the control loop are plans that are followed until something fails.
  `CutAtFailure` says so of the events that such an activity leaves behind, and
  `CutAtFailure.of_cons` takes a plan apart at its first request.

The relation is on whole sessions and not on their logs alone: the instants of a log do
not say in which state of the world a request was answered, and only with that state
are the answers determined.
-/

namespace NodeAdmission.Admission

open Cluster (Step)

/-! ### Requests

An event without its answer is a request. Kinds of calls are kinds of requests, and what was called
can be told from the events of a log. -/

inductive Request where
  | list
  | apply (step : Step) (node : String)
  | probe (node ip : String)
  | version (node ip : String)
  | encrypt (node ip challenge : String)
  | register (client : String)
  | decrypt (client key ciphertext : String)
  | sleep (interval : Duration)
deriving DecidableEq

def Event.request : Event → Request
  | .listed _ => .list
  | .applied step node _ => .apply step node
  | .probed node ip _ => .probe node ip
  | .asked node ip _ => .version node ip
  | .challenged node ip challenge _ => .encrypt node ip challenge
  | .registered client _ => .register client
  | .decrypted client key ciphertext _ => .decrypt client key ciphertext
  | .slept interval => .sleep interval

def Request.isMutation : Request → Bool
  | .apply _ _ => true
  | _ => false

/-- Where a request goes that is one to the agent of a node. -/
def Request.agentAddress? : Request → Option String
  | .version _ ip => some ip
  | .encrypt _ ip _ => some ip
  | _ => none

def Request.isCryptoCall : Request → Bool
  | .register _ => true
  | .decrypt _ _ _ => true
  | _ => false

def Request.node? : Request → Option String
  | .apply _ node => some node
  | .probe node _ => some node
  | .version node _ => some node
  | .encrypt node _ _ => some node
  | .list => none
  | .register _ => none
  | .decrypt _ _ _ => none
  | .sleep _ => none

def events (es : List Entry) : List Event := es.map Entry.event

def mutations (es : List Entry) : List Event := (events es).filter (·.request.isMutation)

def agentCalls (es : List Entry) : List Event := (events es).filter (·.request.agentAddress?.isSome)

def cryptoCalls (es : List Entry) : List Event := (events es).filter (·.request.isCryptoCall)

@[simp] theorem events_nil : events [] = [] := rfl

@[simp] theorem events_cons (e : Entry) (es : List Entry) :
    events (e :: es) = e.event :: events es := rfl

@[simp] theorem events_append (es fs : List Entry) : events (es ++ fs) = events es ++ events fs :=
  List.map_append

@[simp] theorem mutations_append (es fs : List Entry) :
    mutations (es ++ fs) = mutations es ++ mutations fs := by
  rw [mutations, events_append, List.filter_append]
  rfl

@[simp] theorem agentCalls_append (es fs : List Entry) :
    agentCalls (es ++ fs) = agentCalls es ++ agentCalls fs := by
  rw [agentCalls, events_append, List.filter_append]
  rfl

@[simp] theorem cryptoCalls_append (es fs : List Entry) :
    cryptoCalls (es ++ fs) = cryptoCalls es ++ cryptoCalls fs := by
  rw [cryptoCalls, events_append, List.filter_append]
  rfl

/-- A change to the cluster is a call neither to an agent nor to the crypto service. -/
theorem Request.no_call_of_isMutation {q : Request} (h : q.isMutation = true) :
    q.agentAddress? = none ∧ q.isCryptoCall = false := by
  cases q <;> first | exact ⟨rfl, rfl⟩ | cases h

/-- Changes to the cluster are calls of no other kind. -/
theorem no_calls_of_isMutation {es : List Entry}
    (h : ∀ e ∈ events es, e.request.isMutation = true) :
    agentCalls es = [] ∧ cryptoCalls es = [] ∧ mutations es = events es := by
  refine ⟨?_, ?_, ?_⟩
  · refine List.filter_eq_nil_iff.mpr fun e he => ?_
    simp [(Request.no_call_of_isMutation (h e he)).1]
  · refine List.filter_eq_nil_iff.mpr fun e he => ?_
    simp [(Request.no_call_of_isMutation (h e he)).2]
  · exact List.filter_eq_self.mpr h

/-- The answer of an environment to a request, as an event. -/
def Environment.answer (env : Environment ω) : Request → Timed ω Event
  | .list => Event.listed <$> env.listNodes
  | .apply step node => Event.applied step node <$> env.apply step node
  | .probe node ip => Event.probed node ip <$> env.probe ip
  | .version node ip => Event.asked node ip <$> env.version ip
  | .encrypt node ip challenge => Event.challenged node ip challenge <$> env.encrypt ip challenge
  | .register client => Event.registered client <$> env.register client
  | .decrypt client key ciphertext =>
    Event.decrypted client key ciphertext <$> env.decrypt client key ciphertext
  | .sleep interval => (fun _ => Event.slept interval) <$> Timed.sleep interval

/-! ### What leads from one session to another

Sessions are compared with their worlds, and an answer is determined by the request, the
instant and the world. The lemmas called `calls_` are those of the single operations, from
which all activities are built. -/

/-- The environment answers the requests of some entries one after another, each at once after the
one before, from an instant and a state of the world to another. -/
def Environment.Answers (env : Environment ω) : Instant → ω → List Entry → Instant → ω → Prop
  | now, world, [], now', world' => now' = now ∧ world' = world
  | now, world, e :: es, now', world' =>
    let reply := env.answer e.event.request now world
    e = ⟨now, now + reply.elapsed, reply.value⟩ ∧ env.Answers e.ended reply.world es now' world'

/-- The calls of `es`, and nothing else, lead from `s` to `s'`. -/
structure Session.Calls (env : Environment ω) (s : Session ω) (es : List Entry) (s' : Session ω) :
    Prop where
  log : s'.log = s.log ++ es
  answers : env.Answers s.now s.world es s'.now s'.world

/-- Two stretches of answers are one if the second begins where the first ends. -/
theorem Environment.Answers.append {env : Environment ω} {es fs : List Entry}
    {now now' now'' : Instant} {w w' w'' : ω} (h : env.Answers now w es now' w')
    (h' : env.Answers now' w' fs now'' w'') :
    env.Answers now w (es ++ fs) now'' w'' := by
  induction es generalizing now w with
  | nil =>
    obtain ⟨rfl, rfl⟩ := h
    exact h'
  | cons e es ih => exact ⟨h.1, ih h.2⟩

/-- Time does not go back while an environment answers. -/
theorem Environment.Answers.now_le {env : Environment ω} {es : List Entry} {now now' : Instant}
    {w w' : ω} (h : env.Answers now w es now' w') : now ≤ now' := by
  induction es generalizing now w with
  | nil => exact Nat.le_of_eq h.1.symm
  | cons e es ih =>
    obtain ⟨he, hes⟩ := h
    have hended : now ≤ e.ended := by rw [he]; exact Nat.le_add_right _ _
    exact Nat.le_trans hended (ih hes)

/-- No answer begins before the stretch that it belongs to, or ends after it. -/
theorem Environment.Answers.within {env : Environment ω} {es : List Entry} {e : Entry}
    {now now' : Instant} {w w' : ω} (h : env.Answers now w es now' w') (he : e ∈ es) :
    now ≤ e.began ∧ e.ended ≤ now' := by
  induction es generalizing now w with
  | nil => cases he
  | cons d es ih =>
    -- The first entry begins at once and ends where the others begin.
    obtain ⟨hd, hes⟩ := h
    have hbegan : d.began = now := by rw [hd]
    have hended : now ≤ d.ended := by rw [hd]; exact Nat.le_add_right _ _
    rcases List.mem_cons.mp he with rfl | he
    · exact ⟨Nat.le_of_eq hbegan.symm, hes.now_le⟩
    · obtain ⟨hbegan', hended'⟩ := ih hes he
      exact ⟨Nat.le_trans hended hbegan', hended'⟩

theorem Environment.Answers.ended_getLast {env : Environment ω} {es : List Entry} {e : Entry}
    {now now' : Instant} {w w' : ω} (h : env.Answers now w (es ++ [e]) now' w') :
    e.ended = now' := by
  induction es generalizing now w with
  | nil => exact h.2.1.symm
  | cons d es ih => exact ih h.2

namespace Session

variable {env : Environment ω} {s s' s'' : Session ω} {es fs : List Entry}

namespace Calls

theorem refl (s : Session ω) : s.Calls env [] s := ⟨(List.append_nil _).symm, rfl, rfl⟩

/-- The calls of two activities, one after the other, are the calls of both together. -/
theorem trans (h : s.Calls env es s') (h' : s'.Calls env fs s'') : s.Calls env (es ++ fs) s'' where
  log := by rw [h'.log, h.log, List.append_assoc]
  answers := h.answers.append h'.answers

theorem now_le (h : s.Calls env es s') : s.now ≤ s'.now := h.answers.now_le

/-- No call begins before the first session or ends after the second. -/
theorem within (h : s.Calls env es s') {e : Entry} (he : e ∈ es) :
    s.now ≤ e.began ∧ e.ended ≤ s'.now := h.answers.within he

theorem map_ended_getLast? (h : s.Calls env es s') (hne : es ≠ []) :
    es.getLast?.map Entry.ended = some s'.now := by
  obtain ⟨ds, e, rfl⟩ := (List.eq_nil_or_concat es).resolve_left hne
  rw [List.concat_eq_append] at h ⊢
  rw [List.getLast?_concat, Option.map_some, h.answers.ended_getLast]

/-- The entries can be read off the log. -/
theorem drop_log (h : s.Calls env es s') : s'.log.drop s.log.length = es := by
  rw [h.log, List.drop_left]

/-- Only one list of entries leads from one session to another. -/
theorem unique (h : s.Calls env es s') (h' : s.Calls env fs s') : es = fs := by
  rw [← h.drop_log, h'.drop_log]

end Calls

theorem calls_draw (s : Session ω) (env : Environment ω) : s.Calls env [] (s.draw env).2 :=
  ⟨(List.append_nil _).symm, rfl, rfl⟩

/-- A call leads to the session that it returns, whatever is called. -/
theorem calls_call (s : Session ω) {q : Request} {action : Timed ω α} {event : α → Event}
    (hq : ∀ a, (event a).request = q) (ha : env.answer q = event <$> action) :
    s.Calls env [⟨s.now, (s.call action event).2.now, event (s.call action event).1⟩]
      (s.call action event).2 where
  log := rfl
  answers := by
    have hreply : env.answer (event (s.call action event).1).request = event <$> action := by
      rw [hq, ha]
    refine ⟨?_, rfl, ?_⟩
    · -- The entry holds the answer of the environment, since the event is made of it.
      rw [hreply]
      rfl
    · rw [hreply]
      rfl

/-- What is called by the operations of a session, one by one; each is
`calls_call` at its own request. -/
theorem calls_listNodes (s : Session ω) (env : Environment ω) :
    s.Calls env [⟨s.now, (s.listNodes env).2.now, .listed (s.listNodes env).1⟩]
      (s.listNodes env).2 :=
  s.calls_call (q := .list) (fun _ => rfl) rfl

theorem calls_apply (s : Session ω) (env : Environment ω) (step : Step) (node : String) :
    s.Calls env
      [⟨s.now, (s.apply env step node).2.now, .applied step node (s.apply env step node).1⟩]
      (s.apply env step node).2 :=
  s.calls_call (q := .apply step node) (fun _ => rfl) rfl

theorem calls_probe (s : Session ω) (env : Environment ω) (node ip : String) :
    s.Calls env [⟨s.now, (s.probe env node ip).2.now, .probed node ip (s.probe env node ip).1⟩]
      (s.probe env node ip).2 :=
  s.calls_call (q := .probe node ip) (fun _ => rfl) rfl

theorem calls_version (s : Session ω) (env : Environment ω) (r : NodeRecord) :
    s.Calls env [⟨s.now, (s.version env r).2.now, .asked r.name r.ip (s.version env r).1⟩]
      (s.version env r).2 :=
  s.calls_call (q := .version r.name r.ip) (fun _ => rfl) rfl

theorem calls_encrypt (s : Session ω) (env : Environment ω) (r : NodeRecord) (c : Challenge) :
    s.Calls env
      [⟨s.now, (s.encrypt env r c).2.now, .challenged r.name r.ip c.text (s.encrypt env r c).1⟩]
      (s.encrypt env r c).2 :=
  s.calls_call (q := .encrypt r.name r.ip c.text) (fun _ => rfl) rfl

theorem calls_register (s : Session ω) (env : Environment ω) (client : String) :
    s.Calls env
      [⟨s.now, (s.register env client).2.now, .registered client (s.register env client).1⟩]
      (s.register env client).2 :=
  s.calls_call (q := .register client) (fun _ => rfl) rfl

theorem calls_decrypt (s : Session ω) (env : Environment ω) (client key ciphertext : String) :
    s.Calls env
      [⟨s.now, (s.decrypt env client key ciphertext).2.now,
        .decrypted client key ciphertext (s.decrypt env client key ciphertext).1⟩]
      (s.decrypt env client key ciphertext).2 :=
  s.calls_call (q := .decrypt client key ciphertext) (fun _ => rfl) rfl

theorem calls_sleep (s : Session ω) (env : Environment ω) (interval : Duration) :
    s.Calls env [⟨s.now, (s.sleep interval).now, .slept interval⟩] (s.sleep interval) :=
  s.calls_call (q := .sleep interval) (fun _ => rfl) rfl

end Session

/-! ### Plans that end at the first failure

What counts as a failure is a parameter, because the steps against a node and the calls of an
attempt are both such plans. -/

/-- The events answer the requests of a plan in order. Nothing is asked after a failure, and
without a failure everything is asked. -/
structure CutAtFailure (bad : Event → Prop) (plan : List Request) (events : List Event) : Prop where
  calls : events.map Event.request <+: plan
  earlier : ∀ e ∈ events.dropLast, ¬ bad e
  complete : events.length = plan.length ∨ ∃ e, events.getLast? = some e ∧ bad e

namespace CutAtFailure

variable {bad : Event → Prop} {q : Request} {plan : List Request} {e : Event} {events : List Event}

theorem nil : CutAtFailure bad [] [] := ⟨List.nil_prefix, by simp, .inl rfl⟩

/-- A plan whose first request fails ends there. -/
theorem stop (hq : e.request = q) (he : bad e) : CutAtFailure bad (q :: plan) [e] where
  calls := by simp [hq]
  earlier := by simp
  complete := .inr ⟨e, rfl, he⟩

/-- A plan whose first request does not fail goes on with the rest of the plan. -/
theorem next (hq : e.request = q) (he : ¬ bad e) (h : CutAtFailure bad plan events) :
    CutAtFailure bad (q :: plan) (e :: events) := by
  refine ⟨?_, ?_, ?_⟩
  · rw [List.map_cons, hq]
    exact List.cons_prefix_cons.mpr ⟨rfl, h.calls⟩
  · -- An event with another behind it is the new first one or was not the last before.
    intro d hd
    cases events with
    | nil => simp at hd
    | cons f fs =>
      rw [List.dropLast_cons_cons, List.mem_cons] at hd
      rcases hd with rfl | hd
      · exact he
      · exact h.earlier d hd
  · rcases h.complete with hl | ⟨d, hd, hbad⟩
    · exact .inl (by rw [List.length_cons, List.length_cons, hl])
    · exact .inr ⟨d, by rw [List.getLast?_cons, hd]; rfl, hbad⟩

/-- Whatever is followed by something is no failure. -/
theorem pairwise (h : CutAtFailure bad plan events) : events.Pairwise fun e _ => ¬ bad e := by
  rcases List.eq_nil_or_concat events with rfl | ⟨ds, d, rfl⟩
  · exact .nil
  · have hearlier := h.earlier
    rw [List.concat_eq_append, List.dropLast_concat] at hearlier
    rw [List.concat_eq_append]
    refine List.pairwise_append.mpr ⟨?_, List.pairwise_singleton _ _, fun e he _ _ => hearlier e he⟩
    exact List.pairwise_of_forall_mem_list fun e he _ _ => hearlier e he

theorem map_request_eq (h : CutAtFailure bad plan events) (hgood : ∀ e ∈ events, ¬ bad e) :
    events.map Event.request = plan := by
  rcases h.complete with hl | ⟨e, he, hbad⟩
  · exact h.calls.eq_of_length (by rw [List.length_map, hl])
  · exact absurd hbad (hgood e (List.mem_of_getLast? he))

/-- No more requests of a kind are made than the plan has. -/
theorem length_filter_le (h : CutAtFailure bad plan events) (p : Request → Bool) :
    (events.filter fun e => p e.request).length ≤ (plan.filter p).length := by
  have hfilter : (events.map Event.request).filter p =
      (events.filter fun e => p e.request).map Event.request := List.filter_map
  rw [← List.length_map (f := Event.request), ← hfilter]
  exact (h.calls.sublist.filter p).length_le

theorem request_mem (h : CutAtFailure bad plan events) (he : e ∈ events) : e.request ∈ plan :=
  h.calls.subset (List.mem_map_of_mem he)

theorem eq_nil (h : CutAtFailure bad [] events) : events = [] :=
  List.map_eq_nil_iff.mp (List.prefix_nil.mp h.calls)

/-- The first request of a plan is made in any case, and the others unless it fails. -/
theorem of_cons (h : CutAtFailure bad (q :: plan) events) :
    (∃ e, events = [e] ∧ e.request = q ∧ bad e) ∨
      ∃ e es, events = e :: es ∧ e.request = q ∧ ¬ bad e ∧ CutAtFailure bad plan es := by
  obtain ⟨hcalls, hearlier, hcomplete⟩ := h
  cases events with
  | nil => simp at hcomplete
  | cons e es =>
    obtain ⟨hq, hes⟩ := List.cons_prefix_cons.mp hcalls
    cases es with
    | nil =>
      by_cases he : bad e
      · exact .inl ⟨e, rfl, hq, he⟩
      -- The one event is no failure, so the plan has nothing else to ask.
      · have hplan : plan = [] := by simpa [he, eq_comm] using hcomplete
        exact .inr ⟨e, [], rfl, hq, he, hplan ▸ nil⟩
    | cons f fs =>
      rw [List.dropLast_cons_cons, List.forall_mem_cons] at hearlier
      refine .inr ⟨e, f :: fs, rfl, hq, hearlier.1, hes, hearlier.2, ?_⟩
      rw [List.length_cons, List.length_cons (a := q), Nat.add_right_cancel_iff,
        List.getLast?_cons_cons] at hcomplete
      exact hcomplete

end CutAtFailure

end NodeAdmission.Admission
