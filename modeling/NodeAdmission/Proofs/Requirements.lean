import NodeAdmission.Proofs.Configuration
import NodeAdmission.Proofs.Numerals

/-!
# Acceptable environments

A variable need not be set, but one that is set has to meet a requirement: the number of a setting
has to be denoted by the text and to fit its width, and a list must not be empty
(`Server.Config.requirements`). An environment is accepted just if all requirements are met; then
the numbers of the configuration are the ones that the texts denote. Otherwise the error names the
first variable whose requirement is not met.

* `HeldTo` — what the server checks of a variable is a requirement, and its
  error names the variable.
* `firstFault?_eq_none_iff_met`, `firstUnmet_of_firstFault?` — variables and requirements go in step
  along two lists, so the first fault is that of the first requirement which is not met.
* `heldTo_number`, `heldTo_labels` — the two kinds of variables. Their defaults are spelled in
  decimal and meet the requirement themselves.
* `Server.Config.Follows` — what the settings are.
* `Server.Config.accepts_what_is_required` — the main statement.

The requirements are about texts and what they denote (`Numeral.Denotes`), and not about readers.
-/

namespace NodeAdmission.Service

variable {α : Type} {lookup : Lookup} {key default : String} {bits d : Nat} {a : α}
    {e : ServiceError}
  {read : String → Except NumeralError α} {value : α → Nat}

/-! ### Requirements -/

/-- What a variable has to be like if it is set. -/
structure Requirement where
  key : String
  Admits : (raw : String) → Prop

/-- The text of the variable denotes a number of so many bits. -/
def Requirement.number (key : String) (bits : Nat) : Requirement :=
  ⟨key, fun raw => ∃ n < 2 ^ bits, Numeral.Denotes raw n⟩

def Requirement.Met (r : Requirement) (lookup : Lookup) : Prop :=
  ∀ raw, lookup r.key = some raw → r.Admits raw

/-- Of several requirements the first that is not met. -/
inductive FirstUnmet (lookup : Lookup) : List Requirement → Requirement → Prop
  | here {r : Requirement} {rs : List Requirement} : ¬ r.Met lookup → FirstUnmet lookup (r :: rs) r
  | later {r q : Requirement} {rs : List Requirement} :
      r.Met lookup → FirstUnmet lookup rs q → FirstUnmet lookup (r :: rs) q

variable {r q : Requirement} {rs : List Requirement} {v : Variable} {vs : List Variable}

theorem met_of_unset (h : lookup r.key = none) : r.Met lookup := by
  intro raw hraw
  cases h.symm.trans hraw

theorem met_iff_of_set {raw : String} (h : lookup r.key = some raw) :
    r.Met lookup ↔ r.Admits raw := by
  constructor
  · exact fun hmet => hmet raw h
  · intro hadmits raw' hraw'
    exact Option.some.inj (h.symm.trans hraw') ▸ hadmits

/-- There is one first requirement that is not met. -/
theorem FirstUnmet.unique (hr : FirstUnmet lookup rs r) (hq : FirstUnmet lookup rs q) : r = q := by
  induction hr with
  | here hunmet =>
    cases hq with
    | here _ => rfl
    | later hmet _ => exact absurd hmet hunmet
  | later hmet _ ih =>
    cases hq with
    | here hunmet => exact absurd hmet hunmet
    | later _ hrest => exact ih hrest

/-! ### Variables that are held to requirements -/

/-- A variable has a fault just if it does not meet the requirement, and the fault names it. -/
structure HeldTo (v : Variable) (r : Requirement) : Prop where
  key : v.key = r.key
  unset : v.fault? none = none
  set : ∀ raw, v.fault? (some raw) = none ↔ r.Admits raw
  named : ∀ given e, v.fault? given = some e → ∃ detail, e = .config (r.key ++ detail)

/-- A variable has no fault just if the requirement is met. -/
theorem HeldTo.fault?_eq_none_iff (h : HeldTo v r) :
    v.fault? (lookup v.key) = none ↔ r.Met lookup := by
  rw [h.key]
  cases hlookup : lookup r.key with
  | none => exact iff_of_true h.unset (met_of_unset hlookup)
  | some raw => rw [met_iff_of_set hlookup, h.set]

/-- No variable has a fault just if all requirements are met. -/
theorem firstFault?_eq_none_iff_met (h : List.Forall₂ HeldTo vs rs) :
    firstFault? vs lookup = none ↔ ∀ r ∈ rs, r.Met lookup := by
  rw [firstFault?_eq_none_iff]
  induction h with
  | nil => exact iff_of_true (List.forall_mem_nil _) (List.forall_mem_nil _)
  | cons hheld _ ih => rw [List.forall_mem_cons, List.forall_mem_cons, hheld.fault?_eq_none_iff, ih]

/-- The first fault is the one of the first requirement that is not met. -/
theorem firstUnmet_of_firstFault? (h : List.Forall₂ HeldTo vs rs)
    (hfault : firstFault? vs lookup = some e) :
    ∃ r detail, FirstUnmet lookup rs r ∧ e = .config (r.key ++ detail) := by
  induction h with
  | nil => cases hfault
  | @cons v r vs rs hheld _ ih =>
    -- The first variable has a fault itself, or it meets its requirement and
    -- the next ones are searched.
    cases hv : v.fault? (lookup v.key) with
    | some e' =>
      obtain rfl := Option.some.inj ((firstFault?_cons_of_some hv).symm.trans hfault)
      obtain ⟨detail, hdetail⟩ := hheld.named _ _ hv
      have hunmet : ¬ r.Met lookup := by
        rw [← hheld.fault?_eq_none_iff, hv]
        exact nofun
      exact ⟨r, detail, .here hunmet, hdetail⟩
    | none =>
      obtain ⟨q, detail, hfirst, hdetail⟩ := ih ((firstFault?_cons_of_none hv).symm.trans hfault)
      exact ⟨q, detail, .later (hheld.fault?_eq_none_iff.mp hv) hfirst, hdetail⟩

/-! ### Numbers

Every requirement but the one on the labels is about a number. Whether the number is a time or a
count makes no difference to what is required of the text. -/

/-- The variable says the number, or it is not set and the number is its default. -/
def Lookup.Says (lookup : Lookup) (key : String) (default n : Nat) : Prop :=
  match lookup key with
  | none => n = default
  | some raw => Numeral.Denotes raw n

/-- The variable says how many seconds long the time is. -/
def Lookup.SaysSeconds (lookup : Lookup) (key : String) (default : Nat) (t : Duration) : Prop :=
  ∃ n, lookup.Says key default n ∧ t.nanos = n * nanosPerSecond

/-- The number that is read is the one that the variable says. -/
theorem number_eq_ok_iff (h : Numeral.ReadsBelow read (2 ^ bits) value)
    (hdefault : default = Numeral.digits d) :
    lookup.number read key default = .ok a ↔ lookup.Says key d (value a) := by
  have hread : lookup.number read key default = .ok a ↔
      read (Text.trim (lookup.text key default)) = .ok a := by
    rw [Lookup.number]
    cases read (Text.trim (lookup.text key default)) <;> simp
  rw [hread, h.trim_eq_ok_iff, Lookup.text, Lookup.Says]
  cases lookup key with
  | some raw => rfl
  | none =>
    -- The text of the default denotes the default and no other number.
    rw [hdefault]
    constructor
    · exact fun hdenotes => hdenotes.unique (Numeral.denotes_digits d)
    · intro heq
      exact heq.symm ▸ Numeral.denotes_digits d

/-- The error for a number names its variable. -/
theorem number_eq_error (h : lookup.number read key default = .error e) :
    ∃ detail, e = .config (key ++ detail) := by
  rw [Lookup.number] at h
  split at h
  · cases h
  · cases h
    exact ⟨_, congrArg _ (String.append_assoc ..)⟩

theorem saysSeconds_of_seconds {t : Duration} (hdefault : default = Numeral.digits d)
    (h : lookup.seconds key default = .ok t) : lookup.SaysSeconds key d t := by
  obtain ⟨s, hs, rfl⟩ := map_eq_ok_iff.mp h
  exact ⟨s.toNat, (number_eq_ok_iff Numeral.readsBelow_readUInt64 hdefault).mp hs, rfl⟩

/-- A number is held to be denoted by its text and to fit. -/
theorem heldTo_number (h : Numeral.ReadsBelow read (2 ^ bits) value)
    (hdefault : default = Numeral.digits d)
    (hd : d < 2 ^ bits) : HeldTo (.number read key default) (.number key bits) where
  key := rfl
  unset := by
    -- The default fits, so it is read as itself.
    obtain ⟨a, ha⟩ := h.exists_value hd
    exact fault?_eq_none_iff.mpr ⟨a, (number_eq_ok_iff h hdefault).mpr ha⟩
  set := by
    intro raw
    rw [Variable.number, fault?_eq_none_iff]
    simp only [number_eq_ok_iff h hdefault]
    constructor
    · rintro ⟨a, ha⟩
      exact ⟨value a, h.value_lt a, ha⟩
    · rintro ⟨n, hn, hdenotes⟩
      obtain ⟨a, rfl⟩ := h.exists_value hn
      exact ⟨a, hdenotes⟩
  named := fun _ _ he => number_eq_error (fault?_eq_some_iff.mp he)

end NodeAdmission.Service

namespace NodeAdmission.Server.Config

open Service
  (FirstUnmet HeldTo Lookup Requirement firstFault?_eq_none_iff_met firstUnmet_of_firstFault?
  heldTo_number number_eq_ok_iff saysSeconds_of_seconds splitList)

variable {lookup : Lookup} {c : Config}

/-- What is required of the variables, in the order in which the server reads them. -/
def requirements : List Requirement :=
  [⟨"CONTROL_PLANE_LABELS", fun raw => splitList raw ≠ []⟩,
   .number "PORT" 16,
   .number "AGENT_PORT" 16,
   .number "SCAN_INTERVAL_SECS" 64,
   .number "RETRY_COOLDOWN_SECS" 64,
   .number "BOOTSTRAP_RETRY_SECS" 64,
   .number "REQUEST_TIMEOUT_SECS" 64,
   .number "COMMAND_TIMEOUT_SECS" 64,
   .number "PING_COUNT" 32,
   .number "PING_WAIT_SECS" 64]

/-- The configuration is what those variables say, with the defaults of the
ones that are not set. -/
structure Follows (lookup : Lookup) (c : Config) : Prop where
  controlPlaneLabels : c.controlPlaneLabels =
    ((lookup "CONTROL_PLANE_LABELS").map splitList).getD defaultControlPlaneLabels
  listenOn : lookup.Says "PORT" 8301 c.listenOn.toNat
  agentPort : lookup.Says "AGENT_PORT" 8301 c.agentPort.toNat
  scanInterval : lookup.SaysSeconds "SCAN_INTERVAL_SECS" 30 c.scanInterval
  retryCooldown : lookup.SaysSeconds "RETRY_COOLDOWN_SECS" 300 c.retryCooldown
  bootstrapRetry : lookup.SaysSeconds "BOOTSTRAP_RETRY_SECS" 10 c.bootstrapRetry
  requestTimeout : lookup.SaysSeconds "REQUEST_TIMEOUT_SECS" 10 c.requestTimeout
  commandTimeout : lookup.SaysSeconds "COMMAND_TIMEOUT_SECS" 120 c.commandTimeout
  pingCount : lookup.Says "PING_COUNT" 4 c.pingCount.toNat
  pingWait : lookup.SaysSeconds "PING_WAIT_SECS" 5 c.pingWait

theorem readLabels_eq_ok {labels : List String} (h : readLabels lookup = .ok labels) :
    labels = ((lookup "CONTROL_PLANE_LABELS").map splitList).getD defaultControlPlaneLabels := by
  unfold readLabels at h
  split at h
  · next hunset =>
    rw [hunset]
    exact (Except.ok.inj h).symm
  · next raw hset =>
    split at h
    · cases h
    · next hsplit =>
      rw [hset]
      exact (Except.ok.inj h).symm.trans hsplit.symm

theorem heldTo_labels :
    HeldTo ⟨"CONTROL_PLANE_LABELS", fun value => Service.fault? (readLabels fun _ => value)⟩
      ⟨"CONTROL_PLANE_LABELS", fun raw => splitList raw ≠ []⟩ where
  key := rfl
  unset := rfl
  set := by
    intro raw
    simp only [readLabels]
    cases splitList raw <;> simp [Service.fault?]
  named := by
    intro given e he
    have herror := Service.fault?_eq_some_iff.mp he
    unfold readLabels at herror
    split at herror
    · cases herror
    · split at herror
      · cases herror
        exact ⟨" must name at least one label", rfl⟩
      · cases herror

/-- All variables of the server, one after another. -/
theorem checked_heldTo_requirements : List.Forall₂ HeldTo checked requirements := by
  -- The defaults are written in decimal, and they fit.
  have hport {key : String} : HeldTo (.number Numeral.readUInt16 key "8301") (.number key 16) :=
    heldTo_number (d := 8301) Numeral.readsBelow_readUInt16 rfl (by decide)
  refine .cons heldTo_labels ?_
  refine .cons hport ?_
  refine .cons hport ?_
  refine .cons (heldTo_number (d := 30) Numeral.readsBelow_readUInt64 rfl (by decide)) ?_
  refine .cons (heldTo_number (d := 300) Numeral.readsBelow_readUInt64 rfl (by decide)) ?_
  refine .cons (heldTo_number (d := 10) Numeral.readsBelow_readUInt64 rfl (by decide)) ?_
  refine .cons (heldTo_number (d := 10) Numeral.readsBelow_readUInt64 rfl (by decide)) ?_
  refine .cons (heldTo_number (d := 120) Numeral.readsBelow_readUInt64 rfl (by decide)) ?_
  refine .cons (heldTo_number (d := 4) Numeral.readsBelow_readUInt32 rfl (by decide)) ?_
  exact .cons (heldTo_number (d := 5) Numeral.readsBelow_readUInt64 rfl (by decide)) .nil

/-- An accepted configuration is what the variables say. -/
theorem follows_of_read (h : read lookup = .ok c) : Follows lookup c := by
  have hfrom := readFrom_of_read h
  exact
    { controlPlaneLabels := readLabels_eq_ok hfrom.controlPlaneLabels
      listenOn := (number_eq_ok_iff Numeral.readsBelow_readUInt16 rfl).mp hfrom.listenOn
      agentPort := (number_eq_ok_iff Numeral.readsBelow_readUInt16 rfl).mp hfrom.agentPort
      scanInterval := saysSeconds_of_seconds rfl hfrom.scanInterval
      retryCooldown := saysSeconds_of_seconds rfl hfrom.retryCooldown
      bootstrapRetry := saysSeconds_of_seconds rfl hfrom.bootstrapRetry
      requestTimeout := saysSeconds_of_seconds rfl hfrom.requestTimeout
      commandTimeout := saysSeconds_of_seconds rfl hfrom.commandTimeout
      pingCount := (number_eq_ok_iff Numeral.readsBelow_readUInt32 rfl).mp hfrom.pingCount
      pingWait := saysSeconds_of_seconds rfl hfrom.pingWait }

/-- The server accepts an environment just if every variable that is set is as required, and then it
has the settings that the variables say. Otherwise the error begins with the name of the first
variable that is not as required. -/
theorem accepts_what_is_required (lookup : Lookup) :
    ((∃ c, read lookup = .ok c) ↔ ∀ r ∈ requirements, r.Met lookup) ∧
    (∀ c, read lookup = .ok c → Follows lookup c) ∧
    ∀ e, read lookup = .error e →
      ∃ r detail, FirstUnmet lookup requirements r ∧ e = .config (r.key ++ detail) := by
  refine ⟨?_, fun c => follows_of_read, ?_⟩
  · rw [← Service.fault?_eq_none_iff, fault?_read]
    exact firstFault?_eq_none_iff_met checked_heldTo_requirements
  · intro e he
    have hfault : Service.firstFault? checked lookup = some e := by
      rw [← fault?_read, he]
      rfl
    exact firstUnmet_of_firstFault? checked_heldTo_requirements hfault

/-- Variables that are set to the largest numbers that fit, one of them with blanks, a sign and
a zero in front of it. -/
def variablesAtLimits : Lookup := fun key =>
  if key = "PORT" then some "\u2003+065535\n"
  else if key = "PING_COUNT" then some "4294967295"
  else if key = "PING_WAIT_SECS" then some "18446744073709551615"
  else none

def variablesBeyondLimits : Lookup := fun key =>
  if key = "AGENT_PORT" then some "65536"
  else if key = "PING_COUNT" then some "4294967296"
  else none

/-- The largest numbers are accepted for what they are, and of two that are too
large the first is named. -/
theorem largest_numbers_fit :
    (∃ c, read variablesAtLimits = .ok c ∧ c.listenOn.toNat = 65535 ∧
      c.pingCount.toNat = 4294967295 ∧
      c.pingWait.secs = 18446744073709551615) ∧
    ∃ detail, read variablesBeyondLimits = .error (.config ("AGENT_PORT" ++ detail)) := by
  constructor
  · obtain ⟨c, hc⟩ : ∃ c, read variablesAtLimits = .ok c :=
      Service.fault?_eq_none_iff.mp (by decide +kernel)
    have hfollows := (accepts_what_is_required variablesAtLimits).2.1 c hc
    have hport : Numeral.Denotes "\u2003+065535\n" 65535 :=
      ⟨['\u2003'], "+065535".toList, ['\n'], List.all_eq_true.mp rfl, List.all_eq_true.mp rfl, rfl,
        .plus ⟨nofun, List.all_eq_true.mp rfl, rfl⟩⟩
    obtain ⟨n, hn, hnanos⟩ := hfollows.pingWait
    refine ⟨c, hc, hfollows.listenOn.unique hport, ?_, ?_⟩
    · exact hfollows.pingCount.unique (Numeral.denotes_digits 4294967295)
    · have hseconds : n = 18446744073709551615 :=
        hn.unique (Numeral.denotes_digits 18446744073709551615)
      rw [Duration.secs, hnanos, hseconds]
      rfl
  · have hunmet : ¬ (Requirement.number "AGENT_PORT" 16).Met variablesBeyondLimits := by
      intro hmet
      obtain ⟨n, hn, hdenotes⟩ := hmet "65536" rfl
      obtain rfl := hdenotes.unique (Numeral.denotes_digits 65536)
      exact absurd hn (by decide)
    have hfirst : FirstUnmet variablesBeyondLimits requirements (.number "AGENT_PORT" 16) :=
      .later (Service.met_of_unset rfl) (.later (Service.met_of_unset rfl) (.here hunmet))
    obtain ⟨haccepts, -, hrejects⟩ := accepts_what_is_required variablesBeyondLimits
    cases hread : read variablesBeyondLimits with
    | ok c => exact absurd (haccepts.mp ⟨c, hread⟩ _ (by simp [requirements])) hunmet
    | error e =>
      obtain ⟨r, detail, hr, rfl⟩ := hrejects e hread
      obtain rfl := hr.unique hfirst
      exact ⟨detail, rfl⟩

end NodeAdmission.Server.Config
