import Mathlib.Data.List.Nodup
import NodeAdmission.Agent.Config
import NodeAdmission.Proofs.Base64
import NodeAdmission.Server.Config

/-!
# What configurations object to

The server and the agent read an environment variable by variable, and what they think of a variable
depends on its value alone. That is the idea of the whole module: a configuration is known by its
list of variables, each with its faults (`Variable`, `checked`), and to reject an environment is to
find a first fault in this list (`firstFault?`).

* `Server.Config.fault?_read`, `Agent.Config.fault?_read` — the two readers do just that, one
  variable after another by `fault?_bind`.
* `Knows.objectsTo_iff` — to object to a variable is to reject the environment in which no other one
  is set. As every variable may be unset, this is the same as to find a fault with it.
* `Agent.Config.checked_subset` — the variables of the agent are among those of the server, with the
  same defaults and faults.
* `Service.configurations_agree` — the main statement.

The settings themselves are listed in `ReadFrom`, as equations that say from which variable each of
them comes. The shared ones come from the same variables.
-/

namespace NodeAdmission.Service

variable {α β ε : Type} {lookup : Lookup} {key : String}

/-! ### Faults

A configuration is read variable by variable, and the first one that is wrong ends the reading. So
the error of a configuration is the first fault in a list of variables. -/

/-- The error that came instead of a value. -/
def fault? : Except ε α → Option ε
  | .ok _ => none
  | .error e => some e

theorem fault?_eq_none_iff {x : Except ε α} : fault? x = none ↔ ∃ a, x = .ok a := by
  cases x <;> simp [fault?]

theorem fault?_eq_some_iff {x : Except ε α} {e : ε} : fault? x = some e ↔ x = .error e := by
  cases x <;> simp [fault?]

theorem fault?_map (f : α → β) (x : Except ε α) : fault? (x.map f) = fault? x := by
  cases x <;> rfl

/-- A variable of a configuration, and what is wrong with its value, or with its absence. -/
structure Variable where
  key : String
  fault? : Option String → Option ServiceError

def Variable.number (read : String → Except NumeralError α) (key default : String) : Variable :=
  ⟨key, fun value => Service.fault? (Lookup.number (fun _ => value) read key default)⟩

theorem fault?_number (lookup : Lookup) (read : String → Except NumeralError α)
    (key default : String) :
    fault? (lookup.number read key default) =
      (Variable.number read key default).fault?
        (lookup (Variable.number read key default).key) := rfl

theorem fault?_seconds (lookup : Lookup) (key default : String) :
    fault? (lookup.seconds key default) =
      (Variable.number Numeral.readUInt64 key default).fault?
        (lookup (Variable.number Numeral.readUInt64 key default).key) :=
  (fault?_map _ _).trans (fault?_number lookup _ key default)

def firstFault? (vs : List Variable) (lookup : Lookup) : Option ServiceError :=
  vs.findSome? fun v => v.fault? (lookup v.key)

variable {v : Variable} {vs : List Variable}

theorem firstFault?_cons_of_none (h : v.fault? (lookup v.key) = none) :
    firstFault? (v :: vs) lookup = firstFault? vs lookup := by
  rw [firstFault?, List.findSome?_cons, h]
  rfl

theorem firstFault?_cons_of_some {e : ServiceError} (h : v.fault? (lookup v.key) = some e) :
    firstFault? (v :: vs) lookup = some e := by
  rw [firstFault?, List.findSome?_cons, h]

theorem firstFault?_eq_none_iff :
    firstFault? vs lookup = none ↔ ∀ v ∈ vs, v.fault? (lookup v.key) = none :=
  List.findSome?_eq_none_iff

/-- Reading a variable and then the others. -/
theorem fault?_bind {x : Except ServiceError α} {f : α → Except ServiceError β}
    (hx : fault? x = v.fault? (lookup v.key)) (hf : ∀ a, fault? (f a) = firstFault? vs lookup) :
    fault? (x >>= f) = firstFault? (v :: vs) lookup := by
  cases x with
  | error e => exact (firstFault?_cons_of_some hx.symm).symm
  | ok a => exact (hf a).trans (firstFault?_cons_of_none hx.symm).symm

/-- If no other variable has a fault, it is the fault of this one that is found. -/
theorem firstFault?_of_mem (hv : v ∈ vs)
    (hothers : ∀ u ∈ vs, u ≠ v → u.fault? (lookup u.key) = none) :
    firstFault? vs lookup = v.fault? (lookup v.key) := by
  induction vs with
  | nil => cases hv
  | cons u vs ih =>
    obtain ⟨hu, hrest⟩ := List.forall_mem_cons.mp hothers
    -- The variable itself comes first, or one without a fault.
    by_cases heq : u = v
    · subst heq
      cases hfault : u.fault? (lookup u.key) with
      | some e => exact firstFault?_cons_of_some hfault
      | none =>
        rw [firstFault?_cons_of_none hfault, firstFault?_eq_none_iff]
        intro w hw
        by_cases hwu : w = u
        · exact hwu ▸ hfault
        · exact hrest w hw hwu
    · rw [firstFault?_cons_of_none (hu heq)]
      exact ih ((List.mem_cons.mp hv).resolve_left (Ne.symm heq)) hrest

/-! ### Objections -/

/-- The environment in which just one variable is set, if it is set at all. -/
def Lookup.only (lookup : Lookup) (key : String) : Lookup := fun k =>
  if k = key then lookup k else none

/-- A reader of configurations objects to a variable: it rejects the environment in
which no other one is set. -/
def ObjectsTo (read : Lookup → Except ServiceError α) (lookup : Lookup) (key : String) : Prop :=
  ∃ e, read (lookup.only key) = .error e

/-- A reader of configurations that knows some variables, and can do without each of them. -/
structure Knows (read : Lookup → Except ServiceError α) (vs : List Variable) : Prop where
  fault?_read : ∀ lookup, fault? (read lookup) = firstFault? vs lookup
  unset : ∀ v ∈ vs, v.fault? none = none
  distinct : (vs.map Variable.key).Nodup

section

variable {read : Lookup → Except ServiceError α}

/-- A variable is known by its key. -/
theorem Knows.eq_of_key (h : Knows read vs) {u : Variable} (hu : u ∈ vs) (hv : v ∈ vs)
    (hkey : u.key = v.key) : u = v :=
  List.inj_on_of_nodup_map h.distinct hu hv hkey

/-- To object to a variable is to find a fault with it. -/
theorem Knows.objectsTo_iff (h : Knows read vs) :
    ObjectsTo read lookup key ↔ ∃ v ∈ vs, v.key = key ∧ ∃ e, v.fault? (lookup key) = some e := by
  -- With this one variable set, no other has a fault, and it has the one that it had.
  have hunset : ∀ v ∈ vs, v.key ≠ key → v.fault? (lookup.only key v.key) = none := by
    intro v hv hne
    rw [Lookup.only, if_neg hne]
    exact h.unset v hv
  have honly : ∀ v : Variable, v.key = key →
      v.fault? (lookup.only key v.key) = v.fault? (lookup key) := by
    rintro v rfl
    rw [Lookup.only, if_pos rfl]
  constructor
  · rintro ⟨e, he⟩
    rw [← fault?_eq_some_iff, h.fault?_read] at he
    obtain ⟨v, hv, hfault⟩ := List.exists_of_findSome?_eq_some he
    by_cases hkey : v.key = key
    · exact ⟨v, hv, hkey, e, honly v hkey ▸ hfault⟩
    · rw [hunset v hv hkey] at hfault
      cases hfault
  · rintro ⟨v, hv, hkey, e, hfault⟩
    refine ⟨e, ?_⟩
    rw [← fault?_eq_some_iff, h.fault?_read, firstFault?_of_mem hv, honly v hkey, hfault]
    intro u hu hne
    exact hunset u hu fun hu' => hne (h.eq_of_key hu hv (hu'.trans hkey.symm))

theorem Knows.not_objectsTo_unset (h : Knows read vs) (hunset : lookup key = none) :
    ¬ ObjectsTo read lookup key := by
  rw [h.objectsTo_iff]
  rintro ⟨v, hv, -, e, hfault⟩
  rw [hunset, h.unset v hv] at hfault
  cases hfault

/-- The objection to a single variable is why the environment is rejected. -/
theorem Knows.read_of_only (h : Knows read vs) (hv : v ∈ vs) {e : ServiceError}
    (hfault : v.fault? (lookup v.key) = some e)
    (honly : ∀ other, ObjectsTo read lookup other → other = v.key) : read lookup = .error e := by
  rw [← fault?_eq_some_iff, h.fault?_read, firstFault?_of_mem hv, hfault]
  intro u hu hne
  refine Option.eq_none_iff_forall_not_mem.mpr fun e' he' => hne (h.eq_of_key hu hv ?_)
  exact honly _ (h.objectsTo_iff.mpr ⟨u, hu, rfl, e', he'⟩)

end

end NodeAdmission.Service

namespace NodeAdmission

open Service (Knows Lookup ObjectsTo Variable fault?_bind fault?_number fault?_seconds)

variable {lookup : Lookup}

/-! ### The server -/

namespace Server.Config

/-- The variables that the server may object to, in the order in which it reads them. -/
def checked : List Variable :=
  [⟨"CONTROL_PLANE_LABELS", fun value => Service.fault? (readLabels fun _ => value)⟩,
   .number Numeral.readUInt16 "PORT" "8301",
   .number Numeral.readUInt16 "AGENT_PORT" "8301",
   .number Numeral.readUInt64 "SCAN_INTERVAL_SECS" "30",
   .number Numeral.readUInt64 "RETRY_COOLDOWN_SECS" "300",
   .number Numeral.readUInt64 "BOOTSTRAP_RETRY_SECS" "10",
   .number Numeral.readUInt64 "REQUEST_TIMEOUT_SECS" "10",
   .number Numeral.readUInt64 "COMMAND_TIMEOUT_SECS" "120",
   .number Numeral.readUInt32 "PING_COUNT" "4",
   .number Numeral.readUInt64 "PING_WAIT_SECS" "5"]

/-- The server rejects an environment for the first of its variables that has a fault. -/
theorem fault?_read (lookup : Lookup) :
    Service.fault? (read lookup) = Service.firstFault? checked lookup := by
  unfold read checked
  refine fault?_bind rfl fun labels => ?_
  refine fault?_bind (fault?_number ..) fun listenOn => ?_
  refine fault?_bind (fault?_number ..) fun agentPort => ?_
  refine fault?_bind (fault?_seconds ..) fun scanInterval => ?_
  refine fault?_bind (fault?_seconds ..) fun retryCooldown => ?_
  refine fault?_bind (fault?_seconds ..) fun bootstrapRetry => ?_
  refine fault?_bind (fault?_seconds ..) fun requestTimeout => ?_
  refine fault?_bind (fault?_seconds ..) fun commandTimeout => ?_
  refine fault?_bind (fault?_number ..) fun pingCount => ?_
  refine fault?_bind (fault?_seconds ..) fun pingWait => ?_
  rfl

theorem knows_checked : Knows read checked where
  fault?_read := fault?_read
  unset := by decide +kernel
  distinct := by decide

/-- The configuration has the settings that the variables say. -/
structure ReadFrom (lookup : Lookup) (c : Config) : Prop where
  listenOn : lookup.number Numeral.readUInt16 "PORT" "8301" = .ok c.listenOn
  cryptoUrl : c.cryptoUrl = lookup.text "CRYPTO_URL" "http://127.0.0.1:8300"
  cryptoClientName : c.cryptoClientName = lookup.text "CRYPTO_CLIENT_NAME" "NodeAuthServer"
  decryptKeyName : c.decryptKeyName = lookup.text "DECRYPT_KEY_NAME" "MyEncKey"
  agentPort : lookup.number Numeral.readUInt16 "AGENT_PORT" "8301" = .ok c.agentPort
  kubectl : c.kubectl = lookup.text "KUBECTL" "kubectl"
  kubeconfig : c.kubeconfig = (lookup "KUBECONFIG").filter (· ≠ "")
  internalIpAnnotation :
    c.internalIpAnnotation = lookup.text "INTERNAL_IP_ANNOTATION" defaultInternalIpAnnotation
  controlPlaneLabels : readLabels lookup = .ok c.controlPlaneLabels
  scanInterval : lookup.seconds "SCAN_INTERVAL_SECS" "30" = .ok c.scanInterval
  retryCooldown : lookup.seconds "RETRY_COOLDOWN_SECS" "300" = .ok c.retryCooldown
  bootstrapRetry : lookup.seconds "BOOTSTRAP_RETRY_SECS" "10" = .ok c.bootstrapRetry
  requestTimeout : lookup.seconds "REQUEST_TIMEOUT_SECS" "10" = .ok c.requestTimeout
  commandTimeout : lookup.seconds "COMMAND_TIMEOUT_SECS" "120" = .ok c.commandTimeout
  pingCount : lookup.number Numeral.readUInt32 "PING_COUNT" "4" = .ok c.pingCount
  pingWait : lookup.seconds "PING_WAIT_SECS" "5" = .ok c.pingWait

/-- The settings of the server come from its variables. -/
theorem readFrom_of_read {c : Config} (h : read lookup = .ok c) : ReadFrom lookup c := by
  obtain ⟨labels, hlabels, h⟩ := bind_eq_ok_iff.mp h
  obtain ⟨listenOn, hlisten, h⟩ := bind_eq_ok_iff.mp h
  obtain ⟨agentPort, hagent, h⟩ := bind_eq_ok_iff.mp h
  obtain ⟨scanInterval, hscan, h⟩ := bind_eq_ok_iff.mp h
  obtain ⟨retryCooldown, hcooldown, h⟩ := bind_eq_ok_iff.mp h
  obtain ⟨bootstrapRetry, hretry, h⟩ := bind_eq_ok_iff.mp h
  obtain ⟨requestTimeout, hrequest, h⟩ := bind_eq_ok_iff.mp h
  obtain ⟨commandTimeout, hcommand, h⟩ := bind_eq_ok_iff.mp h
  obtain ⟨pingCount, hcount, h⟩ := bind_eq_ok_iff.mp h
  obtain ⟨pingWait, hwait, h⟩ := bind_eq_ok_iff.mp h
  obtain rfl := Except.ok.inj h
  exact ⟨hlisten, rfl, rfl, rfl, hagent, rfl, rfl, rfl, hlabels, hscan, hcooldown, hretry, hrequest,
    hcommand, hcount, hwait⟩

/-- The variables determine the configuration of the server. -/
theorem read_of_readFrom {c : Config} (h : ReadFrom lookup c) : read lookup = .ok c := by
  obtain ⟨hlisten, hurl, hclient, hkey, hagent, hkubectl, hkubeconfig, hannotation, hlabels, hscan,
    hcooldown, hretry, hrequest, hcommand, hcount, hwait⟩ := h
  simp only [read, hlabels, hlisten, hagent, hscan, hcooldown, hretry, hrequest, hcommand, hcount,
    hwait, ← hurl, ← hclient, ← hkey, ← hkubectl, ← hkubeconfig, ← hannotation]
  rfl

end Server.Config

/-! ### The agent -/

namespace Agent.Config

/-- The variables that the agent may object to, in the order in which it reads them. -/
def checked : List Variable :=
  [.number Numeral.readUInt16 "PORT" "8301",
   .number Numeral.readUInt64 "BOOTSTRAP_RETRY_SECS" "10",
   .number Numeral.readUInt64 "REQUEST_TIMEOUT_SECS" "10"]

/-- The agent rejects an environment for the first of its variables that has a fault. -/
theorem fault?_read (lookup : Lookup) :
    Service.fault? (read lookup) = Service.firstFault? checked lookup := by
  unfold read checked
  refine fault?_bind (fault?_number ..) fun listenOn => ?_
  refine fault?_bind (fault?_seconds ..) fun bootstrapRetry => ?_
  refine fault?_bind (fault?_seconds ..) fun requestTimeout => ?_
  rfl

theorem knows_checked : Knows read checked where
  fault?_read := fault?_read
  unset := by decide +kernel
  distinct := by decide

/-- The configuration has the settings that the variables say. -/
structure ReadFrom (lookup : Lookup) (c : Config) : Prop where
  listenOn : lookup.number Numeral.readUInt16 "PORT" "8301" = .ok c.listenOn
  cryptoUrl : c.cryptoUrl = lookup.text "CRYPTO_URL" "http://127.0.0.1:8300"
  cryptoClientName : c.cryptoClientName = lookup.text "CRYPTO_CLIENT_NAME" "NodeAuthAgent"
  encryptKeyName : c.encryptKeyName = lookup.text "ENCRYPT_KEY_NAME" "MyPubKey"
  bootstrapRetry : lookup.seconds "BOOTSTRAP_RETRY_SECS" "10" = .ok c.bootstrapRetry
  requestTimeout : lookup.seconds "REQUEST_TIMEOUT_SECS" "10" = .ok c.requestTimeout

/-- The settings of the agent come from its variables. -/
theorem readFrom_of_read {c : Config} (h : read lookup = .ok c) : ReadFrom lookup c := by
  obtain ⟨listenOn, hlisten, h⟩ := bind_eq_ok_iff.mp h
  obtain ⟨bootstrapRetry, hretry, h⟩ := bind_eq_ok_iff.mp h
  obtain ⟨requestTimeout, hrequest, h⟩ := bind_eq_ok_iff.mp h
  obtain rfl := Except.ok.inj h
  exact ⟨hlisten, rfl, rfl, rfl, hretry, hrequest⟩

/-- Every variable of the agent is one of the server, with the same default and the same faults. -/
theorem checked_subset : checked ⊆ Server.Config.checked := by
  simp [checked, Server.Config.checked]

end Agent.Config

/-! ### Both services

The agent reads some of the variables that the server reads, in the same order
but with others in between. -/

namespace Service

/-- The two services agree on every environment. What the server accepts the agent accepts, with the
same settings where both have them, so what the agent rejects the server rejects; and if one of the
numbers that both read is all that either of them objects to, both report the same error. -/
theorem configurations_agree (lookup : Lookup) :
    (∀ s, Server.Config.read lookup = .ok s →
      ∃ a, Agent.Config.read lookup = .ok a ∧ a.listenOn = s.listenOn ∧ a.cryptoUrl = s.cryptoUrl ∧
        a.bootstrapRetry = s.bootstrapRetry ∧ a.requestTimeout = s.requestTimeout) ∧
    (∀ e, Agent.Config.read lookup = .error e → ∃ e', Server.Config.read lookup = .error e') ∧
    ∀ key ∈ ["PORT", "BOOTSTRAP_RETRY_SECS", "REQUEST_TIMEOUT_SECS"],
      (∀ other, ObjectsTo Server.Config.read lookup other ∨
        ObjectsTo Agent.Config.read lookup other ↔
        other = key) →
      ∃ e, Server.Config.read lookup = .error e ∧ Agent.Config.read lookup = .error e := by
  have haccepts : ∀ s, Server.Config.read lookup = .ok s →
      ∃ a, Agent.Config.read lookup = .ok a := by
    intro s hs
    have hfaultless : fault? (Server.Config.read lookup) = none := fault?_eq_none_iff.mpr ⟨s, hs⟩
    rw [Server.Config.fault?_read, firstFault?_eq_none_iff] at hfaultless
    rw [← fault?_eq_none_iff, Agent.Config.fault?_read, firstFault?_eq_none_iff]
    exact fun v hv => hfaultless v (Agent.Config.checked_subset hv)
  refine ⟨?_, ?_, ?_⟩
  · -- Settings that both have are read from the same variables.
    intro s hs
    obtain ⟨a, ha⟩ := haccepts s hs
    have hserver := Server.Config.readFrom_of_read hs
    have hagent := Agent.Config.readFrom_of_read ha
    refine ⟨a, ha, ?_, ?_, ?_, ?_⟩
    · exact Except.ok.inj (hagent.listenOn.symm.trans hserver.listenOn)
    · exact hagent.cryptoUrl.trans hserver.cryptoUrl.symm
    · exact Except.ok.inj (hagent.bootstrapRetry.symm.trans hserver.bootstrapRetry)
    · exact Except.ok.inj (hagent.requestTimeout.symm.trans hserver.requestTimeout)
  · intro e he
    cases hs : Server.Config.read lookup with
    | error e' => exact ⟨e', rfl⟩
    | ok s =>
      obtain ⟨a, ha⟩ := haccepts s hs
      cases he.symm.trans ha
  · intro key hkey hobjects
    have hserver := Server.Config.knows_checked
    have hagent := Agent.Config.knows_checked
    -- Both know the variable, and the objection may have come from either of them.
    obtain ⟨v, hv, rfl⟩ : ∃ v ∈ Agent.Config.checked, v.key = key := by
      simpa [Agent.Config.checked, Variable.number, eq_comm] using hkey
    have hv' := Agent.Config.checked_subset hv
    obtain ⟨u, hu, hsame, e, hfault⟩ : ∃ u ∈ Server.Config.checked, u.key = v.key ∧
        ∃ e, u.fault? (lookup v.key) = some e := by
      rcases (hobjects v.key).mpr rfl with h | h
      · exact hserver.objectsTo_iff.mp h
      · obtain ⟨u, hu, hrest⟩ := hagent.objectsTo_iff.mp h
        exact ⟨u, Agent.Config.checked_subset hu, hrest⟩
    obtain rfl := hserver.eq_of_key hu hv' hsame
    exact ⟨e, hserver.read_of_only hv' hfault fun other h => (hobjects other).mp (.inl h),
      hagent.read_of_only hv hfault fun other h => (hobjects other).mp (.inr h)⟩

def paddedVariables : Lookup := fun key =>
  if key = "PORT" then some " +9000\n"
  else if key = "BOOTSTRAP_RETRY_SECS" then some "007"
  else if key = "CRYPTO_URL" then some ""
  else none

def negativeVariables : Lookup := fun key =>
  if key = "REQUEST_TIMEOUT_SECS" then some "-1" else none

/-- Padded numbers are the same numbers to both services, and a negative one is the same error. -/
theorem padded_numbers_agree :
    (∃ s a, Server.Config.read paddedVariables = .ok s ∧ Agent.Config.read paddedVariables = .ok a ∧
      s.listenOn = 9000 ∧ a.listenOn = 9000 ∧ a.cryptoUrl = s.cryptoUrl ∧
      a.bootstrapRetry = s.bootstrapRetry ∧ a.requestTimeout = s.requestTimeout) ∧
    ∃ e, Server.Config.read negativeVariables = .error e ∧
      Agent.Config.read negativeVariables = .error e ∧
      e.message = "Configuration error: REQUEST_TIMEOUT_SECS must be a valid number: " ++
        "invalid digit found in string" ∧
      ∃ e', Server.Config.read negativeVariables = .error e' := by
  constructor
  · obtain ⟨s, hs⟩ : ∃ s, Server.Config.read paddedVariables = .ok s :=
      fault?_eq_none_iff.mp (by decide +kernel)
    have hnumber : paddedVariables.number Numeral.readUInt16 "PORT" "8301" = .ok 9000 := by
      decide +kernel
    obtain ⟨a, ha, hlisten, hrest⟩ := (configurations_agree paddedVariables).1 s hs
    -- What the server takes the variable for is what the agent takes it for.
    have hserver : s.listenOn = 9000 :=
      Except.ok.inj ((Server.Config.readFrom_of_read hs).listenOn.symm.trans hnumber)
    exact ⟨s, a, hs, ha, hserver, hlisten.trans hserver, hrest⟩
  · have hserver : ObjectsTo Server.Config.read negativeVariables "REQUEST_TIMEOUT_SECS" :=
      Server.Config.knows_checked.objectsTo_iff.mpr
        ⟨.number Numeral.readUInt64 "REQUEST_TIMEOUT_SECS" "10",
          by simp [Server.Config.checked], rfl,
          _, rfl⟩
    -- Of the variables that are set only one is wrong, so nobody objects to another.
    have hobjects : ∀ other, ObjectsTo Server.Config.read negativeVariables other ∨
        ObjectsTo Agent.Config.read negativeVariables other ↔ other = "REQUEST_TIMEOUT_SECS" := by
      intro other
      constructor
      · intro h
        by_contra hne
        have hunset : negativeVariables other = none := if_neg hne
        rcases h with h | h
        · exact Server.Config.knows_checked.not_objectsTo_unset hunset h
        · exact Agent.Config.knows_checked.not_objectsTo_unset hunset h
      · rintro rfl
        exact .inl hserver
    have hagree := (configurations_agree negativeVariables).2
    obtain ⟨e, hs, ha⟩ := hagree.2 "REQUEST_TIMEOUT_SECS" (by simp) hobjects
    -- The wording is evaluated; the theorem tells that it is the same for both.
    have hmessage : (fault? (Agent.Config.read negativeVariables)).map ServiceError.message =
        some ("Configuration error: REQUEST_TIMEOUT_SECS must be a valid number: " ++
          "invalid digit found in string") := by decide +kernel
    rw [ha] at hmessage
    exact ⟨e, hs, ha, Option.some.inj hmessage, hagree.1 e ha⟩

end Service
end NodeAdmission
