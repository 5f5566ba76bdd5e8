import NodeAdmission.Proofs.Utf8
import NodeAdmission.Server.Service

/-!
# Listings for others

The status interface passes on what the orchestrator lists. It holds the listing as a text, so a
listing comes out as it was only if it is UTF-8; of any other one the ill-formed parts are replaced.

* `respond_listing_eq_map` — the answer to a request for a listing is a function of what became of
  one command. Time, success and output of the command are all that it depends on.
* `listing_passed_on` — the main statement, with the exact condition.
* `latin_listing_replaced` — a label with a byte that is no UTF-8 is enough to change the listing.
-/

namespace NodeAdmission.Server

open Cluster (Kubectl Resource)
open Http (Answer Incoming)
open Service (Traced)

variable {config : Config} {host : Service.Host ω} {r : Resource} {request : Incoming}
    {lasting : Nat}
  {p : Subprocess.Ended}

theorem route?_listing {list : Lister m} [Monad m] (r : Resource) :
    (statusInterface list).route? ("/" ++ r.name) = some (.get (showListing list r)) := by
  cases r <;> rfl

/-- A listing is requested from the orchestrator, and its answer made from what came back. -/
theorem showListing_eq_map (config : Config) (host : Service.Host ω) (r : Resource) :
    showListing (lister config host) r =
      (fun outcome => listingAnswer ((config.orchestrator.conclude (Kubectl.listArgs r)
        (outcome.within config.orchestrator.timeout)).map Utf8.decodeLossy)) <$>
        host.run (config.orchestrator.command (Kubectl.listArgs r)) := by
  simp [showListing, lister, Kubectl.rawListing, Kubectl.run_eq_map, Http.Work.answer]

/-- A request for a listing is answered by the listing of its resource. -/
theorem respond_listing_eq_map (hmethod : request.method = "GET")
    (hpath : Http.pathOf request.target = "/" ++ r.name) :
    (statusInterface (lister config host)).respond request =
      (fun outcome => listingAnswer ((config.orchestrator.conclude (Kubectl.listArgs r)
        (outcome.within config.orchestrator.timeout)).map Utf8.decodeLossy)) <$>
        host.run (config.orchestrator.command (Kubectl.listArgs r)) := by
  rw [Http.Interface.respond, hpath, route?_listing]
  simp only [Http.Interface.serve, hmethod, if_true]
  exact showListing_eq_map config host r

/-- A listing that the orchestrator wrote in time and with success is passed on as the text that the
bytes are, each ill-formed part replaced. These are the same bytes exactly if they are UTF-8. -/
theorem listing_passed_on (config : Config) (host : Service.Host ω) (request : Incoming)
    (now : Instant) (t : Traced ω) (hmethod : request.method = "GET")
    (hpath : Http.pathOf request.target = "/" ++ r.name)
    (hended : (host.runner (config.orchestrator.command (Kubectl.listArgs r)) now t.world).value =
      .ended lasting p)
    (htime : lasting ≤ config.orchestrator.timeout.timer) (hsuccess : p.status.isSuccess = true) :
    let answer := ((statusInterface (lister config host)).respond request now t).value
    answer = { status := 200, contentType := some Answer.json
               body := Utf8.encode (Utf8.decodeLossy p.stdout) } ∧
      (answer.body = p.stdout ↔ ∃ text, Utf8.encode text = p.stdout) := by
  intro answer
  -- What the command comes to is its output, as it ended in time and with success.
  have hraw : config.orchestrator.conclude (Kubectl.listArgs r)
      ((Subprocess.Outcome.ended lasting p).within config.orchestrator.timeout) = .ok p.stdout :=
    Kubectl.conclude_within_eq_ok_iff.mpr ⟨lasting, p, rfl, htime, hsuccess, rfl⟩
  have hanswer : answer = { status := 200, contentType := some Answer.json
                            body := Utf8.encode (Utf8.decodeLossy p.stdout) } := by
    have hran : (host.run (config.orchestrator.command (Kubectl.listArgs r)) now t).value =
        .ended lasting p := hended
    show ((statusInterface (lister config host)).respond request now t).value = _
    rw [respond_listing_eq_map hmethod hpath, Timed.map_apply]
    simp only [hran, hraw]
    rfl
  refine ⟨hanswer, ?_⟩
  rw [hanswer]
  constructor
  · exact fun hsame => ⟨_, hsame⟩
  · -- Bytes that are a text lose nothing by being read leniently and written again.
    rintro ⟨text, htext⟩
    rw [← htext, Utf8.decodeLossy_encode]

/-- A configuration whose commands may take two minutes. -/
def plainConfig : Config where
  listenOn := 8301
  cryptoUrl := "http://[::1]:8300"
  cryptoClientName := "server"
  decryptKeyName := "challenge-key"
  agentPort := 8301
  kubectl := "kubectl"
  kubeconfig := none
  internalIpAnnotation := defaultInternalIpAnnotation
  controlPlaneLabels := defaultControlPlaneLabels
  scanInterval := .ofMillis 30000
  retryCooldown := .ofMillis 300000
  bootstrapRetry := .ofMillis 10000
  requestTimeout := .ofMillis 10000
  commandTimeout := .ofMillis 120000
  pingCount := 4
  pingWait := .ofMillis 5000

/-- A host whose commands write the bytes. -/
def writingHost (stdout : Bytes) : Service.Host Unit where
  exchange _ := pure (.failed .connect)
  runner _ := pure (.ended 0 ⟨.exited 0, stdout, []⟩)
  listen _ := pure (.ok ())
  challenges := .ofNumber

def nodesAnswer (stdout : Bytes) : Answer :=
  ((statusInterface (lister plainConfig (writingHost stdout))).respond
    { method := "GET", target := "/nodes" } 0 { world := () }).value

/-- A listing with characters of two and four bytes is passed on as it is. -/
theorem utf8_listing_passed_on :
    let listing := Utf8.encode "\x7b\"kind\":\"caf\u00E9 😀\"\x7d"
    (nodesAnswer listing).body = listing := by
  intro listing
  have hpassed := listing_passed_on plainConfig (writingHost listing)
    { method := "GET", target := "/nodes" } 0 { world := () } (r := .nodes) rfl rfl rfl
      (Nat.zero_le _) rfl
  exact hpassed.2.mpr ⟨_, rfl⟩

/-- A node whose label is the one byte `0xFF`. -/
def latinListing : Bytes :=
  Utf8.encode
      "\x7b\"items\":[\x7b\"metadata\":\x7b\"name\":\"worker-1\",\"labels\":\x7b\"zone\":\"" ++
    0xFF :: Utf8.encode "\"\x7d\x7d\x7d]\x7d"

/-- A listing with a label that is not UTF-8 is not passed on as it is. -/
theorem latin_listing_replaced :
    let command := plainConfig.orchestrator.command (Kubectl.listArgs .nodes)
    ((writingHost latinListing).runner command 0 ()).value =
      .ended 0 ⟨.exited 0, latinListing, []⟩ ∧
      0 ≤ plainConfig.orchestrator.timeout.timer ∧
      (Subprocess.ExitStatus.exited 0).isSuccess = true ∧
      (nodesAnswer latinListing).body ≠ latinListing :=
  ⟨rfl, Nat.zero_le _, rfl, by decide +kernel⟩

end NodeAdmission.Server
