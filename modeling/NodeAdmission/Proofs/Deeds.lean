import NodeAdmission.Proofs.Effects
import NodeAdmission.Proofs.JsonOutput
import NodeAdmission.Proofs.RemoteAnswers

/-!
# The deeds of a command

A command acts on its desk alone: it sends requests, loads files and saves them. A desk that writes
its deeds down shows what that is and changes nothing of a run.

* `Deed`, `Desk.recorded` — a deed with what came of it, and the desk that keeps the list.
* `Does` — an action that adds certain deeds to the list; it composes along
  binds (`Timed.Logs.bind`).
* `Yields` — for a call one request is sent or none, and what comes of the call is
  told by the reply to it.
* `Performs` — the same for an operation of the service, whose outcome may be settled further.
* `Records`, `run_records` — a run at the desk that writes its deeds down is the same
  run, apart from the list.
-/

namespace NodeAdmission.Admin

open Crypto (Client)
open Crypto.Client (Operation Result)
open Http (Call Proxies RemoteError)

variable {ω α β : Type}

/-! ### Deeds -/

/-- Something that a command does, and what comes of it. -/
inductive Deed where
  | sent (request : Http.Request) (reply : Http.Reply)
  | loaded (path : String) (result : Except OsError Bytes)
  | saved (path : String) (bytes : Bytes) (result : Except OsError Unit)

def recording (act : Timed ω α) (deed : α → Deed) : Timed (ω × List Deed) α := fun now w =>
  let r := act now w.1
  ⟨r.value, r.elapsed, r.world, w.2 ++ [deed r.value]⟩

/-- The desk that writes its deeds down. -/
def Desk.recorded (desk : Desk (Timed ω)) : Desk (Timed (ω × List Deed)) where
  exchange request := recording (desk.exchange request) (.sent request)
  load path := recording (desk.load path) (.loaded path)
  save path bytes := recording (desk.save path bytes) (.saved path bytes)
  coloured := desk.coloured

abbrev Desk.behind (desk : Desk (Timed ω)) (p : Proxies) : Desk (Timed ω) :=
  { desk with exchange := p.route desk.exchange }

/-- The desk behind the proxies that writes its deeds down. -/
abbrev Desk.observed (desk : Desk (Timed ω)) (p : Proxies) : Desk (Timed (ω × List Deed)) :=
  desk.recorded.behind p

abbrev Exchanged := Http.Request × Http.Reply

def sends (es : List Exchanged) : List Deed := es.map fun e => .sent e.1 e.2

def exchanges (deeds : List Deed) : List Exchanged :=
  deeds.filterMap fun
    | .sent request reply => some (request, reply)
    | _ => none

def requests (deeds : List Deed) : List Http.Request := (exchanges deeds).map Prod.fst

/-- What the action does, and what comes of it. -/
abbrev Does (x : Timed (ω × List Deed) α) (P : List Deed → α → Prop) : Prop := x.Logs Prod.snd P

theorem recording_does (act : Timed ω α) (deed : α → Deed) :
    Does (recording act deed) fun deeds a => deeds = [deed a] := fun _ _ => ⟨_, rfl, rfl⟩

/-- The first deed stands among the deeds. -/
theorem mem_of_recording_bind {act : Timed ω α} {deed : α → Deed} {f : α → Timed (ω × List Deed) β}
    (hf : ∀ a, Does (f a) fun _ _ => True) (now : Instant) (w : ω) (deeds : List Deed) :
    deed (act now w).value ∈ ((recording act deed >>= f) now (w, deeds)).world.2 := by
  let r := recording act deed now (w, deeds)
  obtain ⟨later, hlater, -⟩ := hf r.value (now + r.elapsed) r.world
  have hworld : ((recording act deed >>= f) now (w, deeds)).world.2 = r.world.2 ++ later := hlater
  rw [hworld]
  exact List.mem_append_left _ (List.mem_append_right _ (List.mem_singleton.mpr rfl))

section

variable {es : List Exchanged} {deeds deeds' : List Deed} {path : String} {bytes : Bytes}
  {loaded : Except OsError Bytes} {saved : Except OsError Unit}

@[simp] theorem exchanges_append :
    exchanges (deeds ++ deeds') = exchanges deeds ++ exchanges deeds' :=
  List.filterMap_append

@[simp] theorem exchanges_sends : exchanges (sends es) = es := by
  induction es with
  | nil => rfl
  | cons e es ih =>
    show (e.1, e.2) :: exchanges (sends es) = _
    rw [ih]

@[simp] theorem exchanges_saved : exchanges [.saved path bytes saved] = [] := rfl

@[simp] theorem loaded_not_mem_sends : .loaded path loaded ∉ sends es := by simp [sends]

@[simp] theorem saved_not_mem_sends : .saved path bytes saved ∉ sends es := by simp [sends]

end

/-! ### Calls -/

variable {p : Proxies} {call : Call α} {es : List Exchanged}
    {outcome outcome' : Except RemoteError α}

/-- What is sent for a call, through the proxies, and what comes of the call. -/
inductive Yields (p : Proxies) (call : Call α) : List Exchanged → Except RemoteError α → Prop where
  | unsent {failure : Http.TransportFailure} : call.destination = .error failure →
      Yields p call [] (.error (.transport failure))
  | sent {url : Http.Url} {reply : Http.Reply} : call.destination = .ok url →
      Yields p call [({ call.request url with via := p.choose? url }, reply)]
        (call.conclude url reply)

namespace Yields

theorem length_le (h : Yields p call es outcome) : es.length ≤ 1 := by
  cases h <;> simp

theorem unique (h : Yields p call es outcome) (h' : Yields p call es outcome') :
    outcome = outcome' := by
  cases h with
  | unsent hfailure =>
    cases h' with
    | unsent hfailure' => rw [Except.error.inj (hfailure.symm.trans hfailure')]
  | sent hurl =>
    cases h' with
    | sent hurl' => rw [Except.ok.inj (hurl.symm.trans hurl')]

/-- Where a request can be sent, it is sent, to the host that the proxies choose. -/
theorem map_fst {url : Http.Url} (h : Yields p call es outcome)
    (hurl : call.destination = .ok url) :
    es.map Prod.fst = [{ call.request url with via := p.choose? url }] := by
  cases h with
  | unsent hfailure => cases hfailure.symm.trans hurl
  | sent hurl' => rw [Except.ok.inj (hurl.symm.trans hurl'), List.map_singleton]

theorem map (h : Yields p call es outcome) (f : α → β) :
    Yields p (call.map f) es (outcome.map f) := by
  -- A call that cannot be sent cannot be sent either if something else is made of its result.
  cases h with
  | unsent hfailure =>
    have hfailure : (call.map f).destination = .error _ := hfailure
    exact .unsent hfailure
  | sent hurl =>
    have hurl : (call.map f).destination = .ok _ := hurl
    rw [← Call.conclude_map]
    exact .sent hurl

end Yields

/-- A call sends what it yields, and does nothing else. -/
theorem perform_does (desk : Desk (Timed ω)) (p : Proxies) (call : Call α) :
    Does (call.perform (p.route desk.recorded.exchange)) fun deeds outcome =>
      ∃ es, deeds = sends es ∧ Yields p call es outcome := by
  rw [Call.perform]
  cases hurl : call.destination with
  | error failure => exact .pure ⟨[], rfl, .unsent hurl⟩
  | ok url =>
    refine .bind (recording_does _ _) fun deeds reply hdeeds => .pure ?_
    exact ⟨[_], by rw [hdeeds]; rfl, .sent hurl⟩

/-- What is sent for an operation, and what comes of the operation. -/
def Performs (p : Proxies) (c : Client) (op : Operation) (es : List Exchanged)
    (result : Except RemoteError Result) : Prop :=
  ∃ outcome, Yields p (c.callOf op) es outcome ∧ Client.settle op outcome = result

variable {c : Client} {op op' : Operation} {result result' : Except RemoteError Result}

namespace Performs

theorem length_le (h : Performs p c op es result) : es.length ≤ 1 := by
  obtain ⟨outcome, hyields, -⟩ := h
  exact hyields.length_le

theorem unique (h : Performs p c op es result) (h' : Performs p c op es result') :
    result = result' := by
  obtain ⟨outcome, hyields, rfl⟩ := h
  obtain ⟨outcome', hyields', rfl⟩ := h'
  rw [hyields.unique hyields']

end Performs

/-! ### The desk itself

The desk that writes its deeds down acts like the one that does not, in a world with one
component more. Commands are built from a few actions of the desk by binds, so it is enough to
know this of the actions. -/

/-- The action is the other one, besides what it writes down. -/
def Records (x : Timed (ω × List Deed) α) (y : Timed ω α) : Prop :=
  ∀ now w deeds, let r := x now (w, deeds)
    y now w = ⟨r.value, r.elapsed, r.world.1⟩

namespace Records

theorem pure (a : α) : Records (ω := ω) (Pure.pure a) (Pure.pure a) := fun _ _ _ => rfl

/-- Two actions that agree step by step agree one after the other. -/
theorem bind {x : Timed (ω × List Deed) α} {y : Timed ω α} {f : α → Timed (ω × List Deed) β}
    {g : α → Timed ω β} (hx : Records x y) (hf : ∀ a, Records (f a) (g a)) :
    Records (x >>= f) (y >>= g) := by
  intro now w deeds
  simp only [Timed.bind_apply]
  rw [hx now w deeds, hf _ _ _ (x now (w, deeds)).world.2]

end Records

theorem recording_records (act : Timed ω α) (deed : α → Deed) : Records (recording act deed) act :=
  fun _ _ _ => rfl

section

variable (desk : Desk (Timed ω)) (p : Proxies) (o : Options)

theorem perform_records (call : Call α) :
    Records (call.perform (desk.observed p).exchange) (call.perform (desk.behind p).exchange) := by
  rw [Call.perform, Call.perform]
  cases call.destination with
  | error failure => exact .pure _
  | ok url => exact (recording_records _ _).bind fun _ => .pure _

theorem showing_records (before attempted : String) (call : Call α) (display : α → String) :
    Records (showing (desk.observed p) before attempted call display)
      (showing (desk.behind p) before attempted call display) := by
  refine (perform_records desk p call).bind fun outcome => ?_
  cases outcome <;> exact .pure _

theorem exportKey_records (key : String) (out : Option String) :
    Records (exportKey (desk.observed p) o key out) (exportKey (desk.behind p) o key out) := by
  refine (perform_records desk p _).bind fun outcome => ?_
  cases outcome with
  | error e => exact .pure _
  | ok text =>
    cases out with
    | none => exact .pure _
    | some path =>
      refine (recording_records _ _).bind fun saved => ?_
      cases saved <;> exact .pure _

theorem readSource_records (source : KeySource) :
    Records (readSource (desk.observed p) source) (readSource (desk.behind p) source) := by
  cases source with
  | line given => exact .pure _
  | file path =>
    refine (recording_records _ _).bind fun loaded => ?_
    cases loaded with
    | error e => exact .pure _
    | ok bytes =>
      cases hdecode : Utf8.decode bytes <;> simp only [hdecode] <;> exact .pure _

theorem importKey_records (key : String) (source : KeySource) :
    Records (importKey (desk.observed p) o key source)
      (importKey (desk.behind p) o key source) := by
  refine (readSource_records desk p source).bind fun outcome => ?_
  cases hline : outcome.bind readKeyLine with
  | error failure => exact .pure _
  | ok text => exact showing_records desk p _ _ _ _

theorem verifySignature_records (key message signature : String) :
    Records (verifySignature (desk.observed p) o key message signature)
      (verifySignature (desk.behind p) o key message signature) := by
  refine (perform_records desk p _).bind fun outcome => ?_
  cases hjudged : Client.judge outcome <;> exact .pure _

theorem purgeKeys_records (confirmed : Bool) :
    Records (purgeKeys (desk.observed p) o confirmed) (purgeKeys (desk.behind p) o confirmed) := by
  cases confirmed with
  | false => exact .pure _
  | true =>
    simp only [purgeKeys, if_true]
    exact showing_records desk p _ _ _ _

/-- Each command is made of calls, loads and saves, and all of these agree. -/
theorem execute_records : Records (execute (desk.observed p) o) (execute (desk.behind p) o) := by
  cases hcommand : o.command <;> simp only [execute, hcommand]
  case purgeKeys confirmed => exact purgeKeys_records desk p o confirmed
  case exportKey key out => exact exportKey_records desk p o key out
  case importKey key source => exact importKey_records desk p o key source
  case verify key message signature => exact verifySignature_records desk p o key message signature
  all_goals exact showing_records desk p _ _ _ _

end

/-- To write its deeds down changes nothing of a run. -/
theorem run_records (desk : Desk (Timed ω)) (lookup : String → Option String) (args : List String) :
    Records (run desk.recorded lookup args) (run desk lookup args) := by
  rw [run, run]
  cases Options.read lookup args with
  | error stop => exact .pure _
  | ok o => exact execute_records desk _ o

end NodeAdmission.Admin
