import NodeAdmission.Proofs.Endings

/-!
# The exit status

The exit status tells whether a command succeeded, and a command that fails shows no result. It
sends one request at most, and none before it has what it needs.

* `Succeeds` — what it means for a command to do what it is for, read off its deeds: the
  operation that it asks for succeeded, a signature that it verifies is valid, a key that it
  exports to a file is saved.
* `Carries.exit_eq_zero_iff` — the exit status is 0 if and only if the command succeeds.
* `Carries.stdout_of_exit_ne_zero` — what is on the output of a command that fails.
* `Carries.requests_length_le`, `Carries.requests_eq_nil`, `Carries.performs` — the requests.
* `exit_status_tells_success` — all of this for every run whose arguments are accepted.

Each proof goes by the four ways in which a command can end (`Admin.Carries`).
-/

namespace NodeAdmission.Admin

open Crypto.Client (Operation Result)
open Http (Proxies RemoteError)

variable {ω : Type} {p : Proxies} {desk : Desk (Timed ω)} {o : Options} {before deeds : List Deed}
    {r : Report}
  {op : Operation} {es : List Exchanged}

/-- The command has done what it is for: its operation succeeded, a signature that it verifies is
valid, and the key is saved that it exports to a file. -/
def Succeeds (p : Proxies) (o : Options) (deeds : List Deed) : Prop :=
  ∃ op result, AsksFor o.name deeds o.command op ∧
    Performs p (client o) op (exchanges deeds) (.ok result) ∧ result ≠ .valid false ∧
    ∀ key path, o.command = .exportKey key (some path) →
      ∃ text, result = .text text ∧ .saved path (keyFile text) (.ok ()) ∈ deeds

/-! ### Requests

In three of the four ways to end a request may be sent, and never before the file of a key is
loaded. So the deeds begin with what was prepared, and the request is behind that. -/

section

variable {command : Command}

theorem Prepares.exchanges_eq_nil (h : Prepares command before) : exchanges before = [] := by
  cases h <;> rfl

theorem Prepares.exchanges_append_sends (h : Prepares command before) :
    exchanges (before ++ sends es) = es := by
  rw [exchanges_append, h.exchanges_eq_nil, exchanges_sends, List.nil_append]

theorem asksFor_append_sends {name : String} :
    AsksFor name (before ++ sends es) command op ↔ AsksFor name before command op :=
  asksFor_append fun _ _ => loaded_not_mem_sends

end

namespace Carries

/-- A command that asks for nothing sends nothing. -/
theorem requests_eq_nil (h : Carries p desk o deeds r)
    (hnone : ∀ op, ¬ AsksFor o.name deeds o.command op) : requests deeds = [] := by
  cases h with
  | withheld hprepares _ => rw [requests, hprepares.exchanges_eq_nil, List.map_nil]
  | failed _ hasks _ => exact absurd (asksFor_append_sends.mpr hasks) (hnone _)
  | shown _ hasks _ _ => exact absurd (asksFor_append_sends.mpr hasks) (hnone _)
  | saved hcommand _ _ _ =>
    rw [hcommand] at hnone
    exact absurd (.exportKey _ _) (hnone _)

/-- What a command asks for it also does. -/
theorem performs (h : Carries p desk o deeds r) (hasks : AsksFor o.name deeds o.command op) :
    ∃ result, Performs p (client o) op (exchanges deeds) result := by
  cases h with
  | withheld _ hnone => exact absurd hasks (hnone op)
  | failed hprepares hasks' hperforms =>
    -- What was asked for before the call is what is asked for now.
    obtain rfl := hprepares.asksFor_unique hasks' (asksFor_append_sends.mp hasks)
    rw [hprepares.exchanges_append_sends]
    exact ⟨_, hperforms⟩
  | shown hprepares hasks' hperforms _ =>
    obtain rfl := hprepares.asksFor_unique hasks' (asksFor_append_sends.mp hasks)
    rw [hprepares.exchanges_append_sends]
    exact ⟨_, hperforms⟩
  | saved hcommand hperforms _ _ =>
    rw [hcommand] at hasks
    cases hasks
    rw [exchanges_append, exchanges_sends, exchanges_saved, List.append_nil]
    exact ⟨_, hperforms⟩

/-- One request is sent at most, since a command makes one call at most. -/
theorem requests_length_le (h : Carries p desk o deeds r) : (requests deeds).length ≤ 1 := by
  by_cases hasks : ∃ op, AsksFor o.name deeds o.command op
  · obtain ⟨op, hasks⟩ := hasks
    obtain ⟨result, hperforms⟩ := h.performs hasks
    rw [requests, List.length_map]
    exact hperforms.length_le
  · rw [h.requests_eq_nil fun op hop => hasks ⟨op, hop⟩]
    exact Nat.zero_le 1

/-- A file is loaded only at the beginning. -/
theorem exists_prepares (h : Carries p desk o deeds r) :
    ∃ before later, deeds = before ++ later ∧ Prepares o.command before ∧
      ∀ path result, .loaded path result ∉ later := by
  cases h with
  | withheld hprepares _ =>
    exact ⟨_, [], (List.append_nil _).symm, hprepares, fun _ _ => List.not_mem_nil⟩
  | failed hprepares _ _ => exact ⟨_, _, rfl, hprepares, fun _ _ => loaded_not_mem_sends⟩
  | shown hprepares _ _ _ => exact ⟨_, _, rfl, hprepares, fun _ _ => loaded_not_mem_sends⟩
  | saved hcommand _ _ _ => exact ⟨[], _, rfl, hcommand ▸ .nothing rfl, by simp⟩

section

variable {key : String} {source : KeySource} {text text' : String}

/-- An import from a file has loaded it, and the text is known by what was loaded. -/
theorem exists_loaded {path : String} (h : Carries p desk o deeds r)
    (hcommand : o.command = .importKey key (.file path)) :
    ∃ result, .loaded path result ∈ deeds ∧
      ∀ text, (KeySource.file path).Gives deeds text ↔ result = .ok (Utf8.encode text) := by
  obtain ⟨before, later, rfl, hprepares, hlater⟩ := h.exists_prepares
  rw [hcommand] at hprepares
  cases hprepares with
  | nothing hnone => cases hnone
  | loaded _ _ result =>
    refine ⟨result, List.mem_append_left _ (List.mem_singleton.mpr rfl), fun text => ?_⟩
    rw [KeySource.gives_append hlater, KeySource.Gives, List.mem_singleton, Deed.loaded.injEq]
    exact (and_iff_right rfl).trans eq_comm

theorem gives_unique (h : Carries p desk o deeds r) (hcommand : o.command = .importKey key source)
    (htext : source.Gives deeds text) (htext' : source.Gives deeds text') : text = text' := by
  obtain ⟨before, later, rfl, hprepares, hlater⟩ := h.exists_prepares
  rw [KeySource.gives_append hlater] at htext htext'
  rw [hcommand] at hprepares
  exact hprepares.gives_unique htext htext'

/-- No request is sent to import a key from a text unless that is the line of one. -/
theorem requests_eq_nil_of_import (h : Carries p desk o deeds r)
    (hcommand : o.command = .importKey key source)
    (hnone : ∀ text, source.Gives deeds text → ¬ IsKey (Text.trim text)) : requests deeds = [] := by
  refine h.requests_eq_nil fun op hasks => ?_
  rw [hcommand] at hasks
  cases hasks with
  | importKey _ htext hkey => exact hnone _ htext hkey

end

end Carries

/-! ### Exit status and output

Here the deeds of a run are compared with its report. A command that is withheld or fails reports a
failure, which never has the status 0; the rest is about results that are shown or saved. -/

/-- A command succeeds only with a good result of what it asks for. -/
theorem Succeeds.exists_result {result : Except RemoteError Result}
    (h : Succeeds p o (before ++ sends es))
    (hprepares : Prepares o.command before) (hasks : AsksFor o.name before o.command op)
    (hperforms : Performs p (client o) op es result) : ∃ a, result = .ok a ∧ a ≠ .valid false := by
  obtain ⟨op', a, hasks', hperforms', ha, -⟩ := h
  obtain rfl := hprepares.asksFor_unique hasks (asksFor_append_sends.mp hasks')
  rw [hprepares.exchanges_append_sends] at hperforms'
  exact ⟨a, hperforms.unique hperforms', ha⟩

namespace Carries

/-- The exit status is 0 if and only if the command has done what it is for. -/
theorem exit_eq_zero_iff (h : Carries p desk o deeds r) : r.exit = 0 ↔ Succeeds p o deeds := by
  cases h with
  | withheld _ hnone =>
    refine iff_of_false (Failure.exit_report _ _) ?_
    rintro ⟨op, _, hasks, -⟩
    exact hnone op hasks
  | failed hprepares hasks hperforms =>
    refine iff_of_false (Failure.exit_report _ _) fun hsucceeds => ?_
    obtain ⟨a, ha, -⟩ := hsucceeds.exists_result hprepares hasks hperforms
    cases ha
  | @shown before op es result text hprepares hasks hperforms hshows =>
    -- Of the results that are shown only a signature that is not valid counts as a failure.
    have hexit : (if result = .valid false then 1 else 0 : UInt32) = 0 ↔ result ≠ .valid false := by
      split_ifs with hresult
      · exact iff_of_false (by decide) (absurd hresult)
      · exact iff_of_true rfl hresult
    rw [hexit]
    constructor
    · intro hresult
      refine ⟨op, result, asksFor_append_sends.mpr hasks, ?_, hresult, ?_⟩
      · rwa [hprepares.exchanges_append_sends]
      · exact fun key path hcommand => absurd hcommand (hshows.unsaved key path)
    · intro hsucceeds
      obtain ⟨a, ha, hvalid⟩ := hsucceeds.exists_result hprepares hasks hperforms
      rwa [Except.ok.inj ha]
  | @saved key path text es saved r hcommand hperforms hdone hfailure =>
    cases saved with
    | error e =>
      obtain ⟨failure, rfl⟩ := hfailure e rfl
      refine iff_of_false (Failure.exit_report _ _) ?_
      rintro ⟨_, _, -, -, -, hsaved⟩
      obtain ⟨text, -, hmem⟩ := hsaved key path hcommand
      -- The only deed about a file tells that it could not be saved.
      simp at hmem
    | ok u =>
      rw [hdone rfl]
      refine iff_of_true rfl ⟨.exportKey o.name key, .text text, ?_, ?_, by simp, ?_⟩
      · rw [hcommand]
        exact .exportKey key _
      · rwa [exchanges_append, exchanges_sends, exchanges_saved, List.append_nil]
      · intro key' path' hcommand'
        cases hcommand.symm.trans hcommand'
        exact ⟨text, rfl, by simp⟩

/-- A command that fails has written nothing, the notice that comes before all keys are deleted, or
that a signature is not valid. -/
theorem stdout_of_exit_ne_zero (h : Carries p desk o deeds r) (hexit : r.exit ≠ 0) :
    r.stdout = "" ∨ (o.command = .purgeKeys true ∧ r.stdout = purgeNotice desk o) ∨
      ∃ key message signature, o.command = .verify key message signature ∧
        Performs p (client o) (.verify o.name key message signature) (exchanges deeds)
          (.ok (.valid false)) ∧
        r.stdout = verdictLine o desk.coloured false := by
  cases h with
  | withheld _ _ => exact .inl rfl
  | failed _ hasks _ =>
    -- Only a purge has a notice, and only one that is confirmed comes as far as to fail.
    by_cases hpurge : ∃ confirmed, o.command = .purgeKeys confirmed
    · obtain ⟨confirmed, hcommand⟩ := hpurge
      have hconfirmed := hasks
      rw [hcommand] at hconfirmed
      cases hconfirmed
      exact .inr (.inl ⟨hcommand, noticeOf_eq_purgeNotice hcommand⟩)
    · exact .inl (noticeOf_eq_empty fun confirmed hcommand => hpurge ⟨confirmed, hcommand⟩)
  | @shown before op es result text hprepares hasks hperforms hshows =>
    by_cases hresult : result = .valid false
    · obtain ⟨hverdict, key, message, signature, hcommand⟩ := hshows.rejection hresult
      refine .inr (.inr ⟨key, message, signature, hcommand, ?_, hverdict⟩)
      rw [hcommand] at hasks
      cases hasks
      rwa [hprepares.exchanges_append_sends, ← hresult]
    · exact absurd (if_neg hresult) hexit
  | @saved key path text es saved r _ _ hdone hfailure =>
    cases saved with
    | error e =>
      obtain ⟨failure, rfl⟩ := hfailure e rfl
      exact .inl rfl
    | ok u =>
      rw [hdone rfl] at hexit
      exact absurd rfl hexit

end Carries

/-- A desk where every request is answered with the bytes and nothing can be saved. -/
def readOnlyDesk (body : Bytes) : Desk (Timed Unit) :=
  { answeringDesk body with save := fun _ _ => pure (.error .noSuchFile) }

def unsavedExport : Invocation Unit where
  desk := readOnlyDesk (Utf8.encode "ssh-rsa AAAA\n")
  lookup _ := none
  args := ["--crypto-url", "http://[::1]:8300", "export-key", "my-key", "--out", "gone/key.pub"]
  now := 0
  world := ()
  options := ⟨"http://[::1]:8300", defaultName, defaultTimeout, false,
    .exportKey "my-key" (some "gone/key.pub")⟩
  accepted := by decide +kernel

end NodeAdmission.Admin
