import NodeAdmission.Admission.Peers
import NodeAdmission.Proofs.Exchange
import NodeAdmission.Proofs.Tampering

/-!
# Honest nodes

An honest node is never expelled. Let the server be connected to the agent of a worker and to its
own crypto service, let the services open what they seal, and let every exchange be answered with
status 200. Then the cycle that comes to the worker for the first time verifies it and leaves the
cluster alone (`honest_worker_verified`).

* `messageOf_text` — a challenge is a message that the agent takes, whatever the generator drew.
* `Agent.encrypt_answer`, from the module on exchanges, is about the way of the
  challenge to the node and back.
* `Deployment.Connects.verify_eq_ok` — the attempt, put together from the four calls.
* `Controller.ComesTo.trial` — the scan, followed up to the worker. It finds the worker
  because the probe reaches it.

There are two crypto services, the server's and the node's, and all that is asked of them together
is the relation `Seals`: what the one seals the other opens, each for its own client identity. That
the server trusts what the agent answers is not assumed anywhere.

The hypotheses are met by a small deployment whose service seals by putting a zero in front
(`zeroDeployment`), reached over HTTP at an IPv6 address. The names of its client and its key have
characters that must be escaped in JSON.
-/

namespace NodeAdmission.Admission

open Cluster (Node)
open Http (Work)
open Service (Host Traced)

variable {ω ω' : Type} {settings : Settings} {env : Environment ω} {c : Controller ω} {node : Node}
  {ip : String}

/-! ### Challenges as messages -/

theorem length_encodeChars_symbols (is : List (Fin 62)) :
    (Utf8.encodeChars (is.map Challenge.symbol)).length = is.length := by
  have hone : ∀ i, (Utf8.encodeChar (Challenge.symbol i)).length = 1 := by decide
  induction is with
  | nil => rfl
  | cons i is ih =>
    rw [List.map_cons, Utf8.encodeChars_cons, List.length_append, hone, ih, List.length_cons,
      Nat.add_comm]

/-- The agent takes every challenge. -/
theorem messageOf_text (ch : Challenge) : Agent.messageOf (Utf8.encode ch.text) = .ok ch.text := by
  have hlength : (Utf8.encode ch.text).length = challengeLength := by
    rw [encode_text, Challenge.chars, length_encodeChars_symbols, ch.length_symbols]
  have hne : ch.text ≠ "" := by
    intro h
    rw [h] at hlength
    cases hlength
  rw [Agent.messageOf, hlength, if_neg (by decide), Utf8.decode_encode]
  exact if_neg hne

/-! ### Deployments -/

/-- How the server reaches the agent of a node and its crypto service, and how the agent reaches
the crypto service of its node. -/
structure Deployment (ω ω' : Type) where
  /-- The exchange of the server. -/
  exchange : Http.Exchange (Timed ω)
  agents : Agent.Client
  crypto : Crypto.Client
  /-- What the agent runs on. -/
  host : Host ω'
  nodeCrypto : Crypto.Client
  nodeIdentity : Agent.Identity

namespace Deployment

def peers (d : Deployment ω ω') : Peers ω := .overHttp d.exchange d.agents d.crypto

def routes (d : Deployment ω ω') : Http.Interface (Timed (Traced ω')) :=
  Agent.interface (Agent.encryptor d.host d.nodeCrypto) d.nodeIdentity

/-- The crypto service of the server opens what the crypto service of the node seals, each for its
own client identity. -/
structure Opens (d : Deployment ω ω') (identity : Identity) (Seals : String → Bytes → Prop) :
    Prop where
  encrypts : Crypto.Encrypts d.host.exchange d.nodeCrypto d.nodeIdentity.clientName
    d.nodeIdentity.keyName Seals
  decrypts : Crypto.Decrypts d.exchange d.crypto identity.clientName identity.keyName Seals

/-- What is posted to the agent at an address is answered by its routes, and every exchange of an
attempt on a challenge is answered with status 200. -/
structure Connects (d : Deployment ω ω') (identity : Identity) (Seals : String → Bytes → Prop)
    (ip : String) (c : Challenge) : Prop where
  served : (d.agents.encrypt ip c.text).ServedBy d.exchange d.routes
  version : (d.agents.version ip).Completes d.exchange
  encrypt : (d.agents.encrypt ip c.text).Completes d.exchange
  register : (d.crypto.register identity.clientName).Completes d.exchange
  decrypt : ∀ text ciphertext, Utf8.encode text = Base64.encode ciphertext →
    Seals c.text ciphertext →
      (d.crypto.decrypt identity.clientName identity.keyName text).Completes d.exchange

end Deployment

/-! ### The attempt -/

section

variable {d : Deployment ω ω'} {identity : Identity} {Seals : String → Bytes → Prop}
  {ch : Challenge} {r : NodeRecord}

namespace Deployment.Connects

theorem version_answer (h : d.Connects identity Seals ip ch) (now : Instant) (w : ω) :
    ∃ v, (d.peers.version ip now w).value = .ok v := by
  obtain ⟨url, body, -, -, hperformed⟩ := h.version.perform now w
  exact ⟨Utf8.decodeLossy body, hperformed⟩

/-- The crypto service registers the client identity. -/
theorem register_answer (h : d.Connects identity Seals ip ch) (now : Instant) (w : ω) :
    (d.peers.register identity.clientName now w).value = .ok () := by
  obtain ⟨url, body, -, -, hperformed⟩ := h.register.perform now w
  exact hperformed

/-- The crypto service opens the spelling of a ciphertext of the challenge as the challenge. -/
theorem decrypt_answer (h : d.Connects identity Seals ip ch) (hopens : d.Opens identity Seals)
    {text : String} {ciphertext : Bytes} (hspelling : Utf8.encode text = Base64.encode ciphertext)
    (hseals : Seals ch.text ciphertext) (now : Instant) (w : ω) :
    (d.peers.decrypt identity.clientName identity.keyName text now w).value =
      .ok (Utf8.encode ch.text) := by
  obtain ⟨url, body, hurl, hanswered, hperformed⟩ :=
    (h.decrypt text ciphertext hspelling hseals).perform now w
  obtain rfl := hopens.decrypts ch.text ciphertext text _ now w body hseals hspelling
    (Crypto.Client.asks_call hurl) hanswered
  exact hperformed

theorem verify_eq_ok (h : d.Connects identity Seals ip ch) (hopens : d.Opens identity Seals)
    (hpeers : env.toPeers = d.peers) (hip : r.ip = ip) (hch : r.challenge? = some ch)
    (s : Session ω) : (verify env identity r s).1 = .ok () := by
  obtain ⟨v, hversion⟩ := h.version_answer s.now s.world
  have hversion : (s.version env r).1 = .ok v := by
    rw [← hpeers, ← hip] at hversion
    exact hversion
  -- The agent is asked to encrypt where the call for its version has ended.
  let s₁ := (s.version env r).2
  obtain ⟨text, ciphertext, hencrypted, hspelling, hne, hseals⟩ :=
    Agent.encrypt_answer hopens.encrypts h.served h.encrypt s₁.now s₁.world
  have hencrypt : (s₁.encrypt env r ch).1 = .ok text := by
    have hpeer : (d.peers.encrypt ip ch.text s₁.now s₁.world).value = .ok text := hencrypted
    rw [← hpeers, ← hip] at hpeer
    exact hpeer
  have hregister : ∀ now w, (env.register identity.clientName now w).value = .ok () := by
    intro now w
    rw [hpeers]
    exact h.register_answer now w
  obtain ⟨now, w, hresult⟩ := verify_of_answers env identity hch hversion hencrypt hregister
  rw [hresult, checkCiphertext_of_spelling hne hspelling, hpeers,
    h.decrypt_answer hopens hspelling hseals now w]
  dsimp only
  rw [judgeOpened, comparePlaintext, ← encode_text, if_pos rfl]

end Deployment.Connects

end

/-! ### The cycle -/

namespace Controller

/-- The cluster lists a worker that is ready and has an address, and the scan comes to it before it
finds any other node; until then nothing is recorded of the worker. -/
structure ComesTo (settings : Settings) (env : Environment ω) (c : Controller ω) (node : Node)
    (ip : String) : Prop where
  ready : node.isReady = true
  worker : node.isControlPlane settings.controlPlaneLabels = false
  address : node.internalIp? settings.internalIpAnnotation = some ip
  listed : ∃ earlier later, (c.session.listNodes env).1 = .ok (earlier ++ node :: later) ∧
    let visited :=
      visitAll settings env { c with session := (c.session.listNodes env).2 } earlier
    visited.1 = none ∧ visited.2.registry.get? node.name = none

/-- The visit of a new worker that the probe reaches finds it. -/
theorem visit_of_reached (hready : node.isReady = true)
    (hworker : node.isControlPlane settings.controlPlaneLabels = false)
    (haddress : node.internalIp? settings.internalIpAnnotation = some ip)
    (hprobe : ∀ now w, (env.probe ip now w).value = true)
    (hnone : c.registry.get? node.name = none) :
    (c.visit settings env node).1 = true ∧
      (c.visit settings env node).2.registry.get? node.name =
        some { name := node.name, ip, challenge? := some (env.challenges c.session.drawn) } := by
  have hvisit := visit_cases settings env c node
  generalize c.visit settings env node = outcome at hvisit ⊢
  obtain ⟨found, c'⟩ := outcome
  -- A new worker that is ready is probed; all other visits have a reason that fails.
  cases hvisit with
  | notReady h =>
    rw [hready] at h
    cases h
  | notDue _ h =>
    rw [hnone] at h
    cases h
  | retried _ h =>
    rw [hnone] at h
    cases h
  | unaddressed _ _ h =>
    rw [haddress] at h
    cases h
  | exempted _ _ _ h =>
    rw [hworker] at h
    cases h
  | reached _ _ h _ hputs =>
    obtain rfl := Option.some.inj (haddress.symm.trans h)
    exact ⟨rfl, hputs.self⟩
  | deferred _ _ h _ _ hcalls =>
    -- The probe is on the record as one that failed.
    obtain rfl := Option.some.inj (haddress.symm.trans h)
    have hanswer := congrArg Entry.event hcalls.answers.1
    have hfailed : false = (env.probe ip c.session.now c.session.world).value := by
      injection hanswer
    rw [hprobe] at hfailed
    cases hfailed

/-- A scan that comes to a worker which the probe reaches finds it and begins an attempt. -/
theorem ComesTo.trial (h : c.ComesTo settings env node ip)
    (hprobe : ∀ now w, (env.probe ip now w).value = true) :
    ∃ (t : Trial settings env c) (n : Nat), t.node = node.name ∧ t.record.ip = ip ∧
      t.challenge = env.challenges n := by
  obtain ⟨earlier, later, hlist, hpassed, hnone⟩ := h.listed
  have hscan := scan_of_listed settings hlist
  generalize hstart : ({ c with session := (c.session.listNodes env).2 } : Controller ω) = start
    at hscan hpassed hnone
  obtain ⟨hfound, hrecord⟩ := visit_of_reached h.ready h.worker h.address hprobe hnone
  -- The entries in front are visited in vain, and the worker ends the scan.
  rw [visitAll_append (node :: later) hpassed, visitAll_cons_of_found later hfound] at hscan
  let trial : Trial settings env c :=
    { node := node.name
      record := _
      challenge := _
      found := by rw [hscan]
      recorded := by rw [hscan]; exact hrecord
      unverified := rfl
      pending := rfl }
  exact ⟨trial, _, rfl, rfl, rfl⟩

end Controller

/-- An honest worker is never expelled. Whatever the challenge and whatever names the client
identities and their keys have, the cycle that comes to it verifies it and changes nothing in the
cluster. -/
theorem honest_worker_verified (d : Deployment ω ω') (Seals : String → Bytes → Prop)
    (settings : Settings) (env : Environment ω) (c : Controller ω) (node : Node) (ip : String)
    (hpeers : env.toPeers = d.peers) (hopens : d.Opens settings.identity Seals)
    (hconnects : ∀ n, d.Connects settings.identity Seals ip (env.challenges n))
    (hprobe : ∀ now w, (env.probe ip now w).value = true)
    (hcomes : c.ComesTo settings env node ip) :
    (c.runCycle settings env).1 = .verified node.name ∧
      ∃ es, c.session.Calls env es (c.runCycle settings env).2.session ∧ mutations es = [] := by
  obtain ⟨t, n, hnode, hip, hchallenge⟩ := hcomes.trial hprobe
  have hok : t.result = .ok () :=
    (hconnects n).verify_eq_ok hopens hpeers hip (hchallenge ▸ t.pending) _
  have hend : t.session.Calls env [] (c.runCycle settings env).2.session := by
    rw [Controller.runCycle_of_ok t hok]
    exact .refl _
  -- Behind a verification that succeeded there are no steps, so the cycle makes no change.
  obtain ⟨es₀, es, hcalls, -, -, -, hnone⟩ := t.all_calls hend (by simp)
  refine ⟨?_, _, hcalls, hnone⟩
  rw [Controller.runCycle_of_ok t hok, hnode]

/-! ### A deployment

The service seals by putting a zero in front and opens by taking it away, which is
enough to tell a ciphertext from its message. There is one exchange, in which the port
tells the agent from the service. -/

/-- A crypto service whose ciphertexts are the messages with a zero in front. -/
def zeroService (request : Http.Request) : Http.Response :=
  match Crypto.Request.decoder.decode request.body with
  | .error _ => ⟨400, [], true⟩
  | .ok q =>
    if request.url.path = "/encrypt" then
      ⟨200, Base64.encode (0 :: Utf8.encode (q.message.getD "")), true⟩
    else if request.url.path = "/decrypt" then
      match Base64.decode (Utf8.encode (q.message.getD "")) with
      | .ok bytes => ⟨200, bytes.tail, true⟩
      | .error _ => ⟨400, [], true⟩
    else ⟨200, [], true⟩

/-- Every host has the service at the same port of its own. -/
def zeroClient : Crypto.Client := .new "http://[::1]:8300" (.ofMillis 10000)

def zeroHost : Host Unit where
  exchange request := pure (.answered (zeroService request))
  runner _ := pure .endless
  listen _ := pure (.ok ())
  challenges := .ofNumber

def zeroIdentity : Agent.Identity := ⟨"the \"agent\"", "cl\u00E9\n"⟩

def zeroAnswer (request : Http.Request) : Http.Answer :=
  ((Agent.interface (Agent.encryptor zeroHost zeroClient) zeroIdentity).respond
    { method := request.methodSeen, target := request.targetSeen, body := request.bodySeen } 0
    { world := () }).value

/-- What is sent to the port of the agents is answered by the agent, all else by the service. -/
def zeroExchange : Http.Exchange (Timed Unit) := fun request => pure <| .answered <|
  if request.url.port = some 8301 then
    ⟨(zeroAnswer request).status, (zeroAnswer request).body, true⟩
  else zeroService request

def zeroDeployment : Deployment Unit Unit where
  exchange := zeroExchange
  agents := ⟨8301, .ofMillis 10000⟩
  crypto := zeroClient
  host := zeroHost
  nodeCrypto := zeroClient
  nodeIdentity := zeroIdentity

def ZeroSeals (message : String) (ciphertext : Bytes) : Prop :=
  ciphertext = 0 :: Utf8.encode message

def serviceUrl (path : String) : Http.Url :=
  ⟨false, .ipv6 [0, 0, 0, 0, 0, 0, 0, 1], some 8300, path, none, none⟩

def agentUrl (path : String) : Http.Url :=
  ⟨false, .ipv6 [0xFD00, 0, 0, 0, 0, 0, 0, 7], some 8301, path, none, none⟩

theorem read_serviceUrl : ∀ path ∈ ["/client", "/encrypt", "/decrypt"],
    (Http.Url.read (zeroClient.baseUrl ++ path)).toOption = some (serviceUrl path) ∧
      (serviceUrl path).isSendable = true := by decide +kernel

theorem read_agentUrl : ∀ path ∈ ["/version", "/encrypt"],
    (Http.Url.read (zeroDeployment.agents.baseUrl "fd00::7" ++ path)).toOption =
      some (agentUrl path) ∧ (agentUrl path).isSendable = true := by decide +kernel

section

variable {α : Type} {path : String} {q : Crypto.Request} {request : Http.Request} {ch : Challenge}

theorem zeroClient_destination {read : Http.Response → Except Http.RemoteError α}
    (hpath : path ∈ ["/client", "/encrypt", "/decrypt"]) :
    (zeroClient.call .post path q read).destination = .ok (serviceUrl path) := by
  obtain ⟨hread, hsendable⟩ := read_serviceUrl path hpath
  exact Http.Call.destination_of_toOption hread hsendable

/-- What asks the service goes to its URL. -/
theorem url_of_asks (hpath : path ∈ ["/client", "/encrypt", "/decrypt"])
    (h : Crypto.Asks zeroClient path q request) : request.url = serviceUrl path := by
  have hread := (read_serviceUrl path hpath).1
  rw [h.addressed] at hread
  exact Option.some.inj hread

theorem zeroService_encrypt (hpath : request.url.path = "/encrypt")
    (hread : Crypto.Request.decoder.decode request.body = .ok q) :
    zeroService request = ⟨200, Base64.encode (0 :: Utf8.encode (q.message.getD "")), true⟩ := by
  rw [zeroService, hread]
  exact if_pos hpath

theorem zeroService_decrypt {bytes : Bytes} (hpath : request.url.path = "/decrypt")
    (hread : Crypto.Request.decoder.decode request.body = .ok q)
    (htext : Utf8.encode (q.message.getD "") = Base64.encode bytes) :
    zeroService request = ⟨200, bytes.tail, true⟩ := by
  rw [zeroService, hread]
  dsimp only
  rw [hpath, if_neg (by decide), if_pos rfl, Base64.decode_eq_ok_iff.mpr htext]

theorem zeroService_client (hpath : request.url.path = "/client")
    (hread : Crypto.Request.decoder.decode request.body = .ok q) :
    zeroService request = ⟨200, [], true⟩ := by
  rw [zeroService, hread]
  dsimp only
  rw [hpath, if_neg (by decide), if_neg (by decide)]

theorem zeroExchange_service (hport : request.url.port = some 8300) (now : Instant) (w : Unit) :
    (zeroExchange request now w).value = .answered (zeroService request) := by
  rw [zeroExchange, hport, if_neg (by decide)]
  rfl

theorem zeroExchange_agent (hport : request.url.port = some 8301) (now : Instant) (w : Unit) :
    (zeroExchange request now w).value =
      .answered ⟨(zeroAnswer request).status, (zeroAnswer request).body, true⟩ := by
  rw [zeroExchange, if_pos hport]
  rfl

theorem zeroExchange_text {text : String} (hport : request.url.port = some 8301)
    (h : zeroAnswer request = .text 200 text) (now : Instant) (w : Unit) :
    (zeroExchange request now w).value = .answered ⟨200, Utf8.encode text, true⟩ := by
  rw [zeroExchange_agent hport, h]
  rfl

/-- What stands behind the zero is the message. -/
theorem zeroDeployment_opens : zeroDeployment.Opens sampleSettings.identity ZeroSeals where
  encrypts := by
    intro message request now w body hasks hanswer
    have hurl := url_of_asks (by simp) hasks
    have hbody : zeroService request = ⟨200, body, true⟩ := Http.Reply.answered.inj hanswer
    rw [zeroService_encrypt (by rw [hurl]; rfl) hasks.read] at hbody
    obtain ⟨-, hbody, -⟩ := Http.Response.mk.inj hbody
    exact ⟨0 :: Utf8.encode message, List.cons_ne_nil _ _, rfl, hbody.symm⟩
  decrypts := by
    intro message ciphertext text request now w body hseals hspelling hasks hanswer
    have hurl := url_of_asks (by simp) hasks
    have hport : request.url.port = some 8300 := by
      rw [hurl]
      rfl
    have hservice := zeroExchange_service hport now w
    have hbody := Http.Reply.answered.inj (hservice.symm.trans hanswer)
    rw [zeroService_decrypt (by rw [hurl]; rfl) hasks.read hspelling, hseals] at hbody
    obtain ⟨-, hbody, -⟩ := Http.Response.mk.inj hbody
    exact hbody.symm

/-- The agent encrypts by its service. -/
theorem zeroEncryptor_value (message : String) (now : Instant) (t : Traced Unit) :
    (Agent.encryptor zeroHost zeroClient zeroIdentity.clientName zeroIdentity.keyName message now
      t).value = .finished (.ok (Utf8.decodeLossy (Base64.encode (0 :: Utf8.encode message)))) := by
  let call := zeroClient.encrypt zeroIdentity.clientName zeroIdentity.keyName message
  have hurl : call.destination = .ok (serviceUrl "/encrypt") := zeroClient_destination (by simp)
  -- The service answers the request that its client has made of the message.
  have hservice : zeroService (call.request (serviceUrl "/encrypt")) =
      ⟨200, Base64.encode (0 :: Utf8.encode message), true⟩ :=
    zeroService_encrypt rfl (Crypto.Client.asks_call hurl).read
  have hperformed : (call.perform zeroHost.send now t).value = _ :=
    Http.Call.perform_of_destination hurl now t
  have hsent : (zeroHost.send (call.request (serviceUrl "/encrypt")) now t).value =
      .answered (zeroService (call.request (serviceUrl "/encrypt"))) := rfl
  rw [hsent, hservice] at hperformed
  exact congrArg Work.finished hperformed

theorem agents_destination {call : Http.Call α} (hpath : path ∈ ["/version", "/encrypt"])
    (hcall : call.url = zeroDeployment.agents.baseUrl "fd00::7" ++ path) :
    call.destination = .ok (agentUrl path) := by
  obtain ⟨hread, hsendable⟩ := read_agentUrl path hpath
  rw [← hcall] at hread
  exact Http.Call.destination_of_toOption hread hsendable

/-- Every exchange of an attempt is answered with status 200. -/
theorem zeroDeployment_connects (ch : Challenge) :
    zeroDeployment.Connects sampleSettings.identity ZeroSeals "fd00::7" ch where
  served := by
    intro url now w hurl
    have hagent : (zeroDeployment.agents.encrypt "fd00::7" ch.text).destination =
        .ok (agentUrl "/encrypt") := agents_destination (by simp) rfl
    obtain rfl := Except.ok.inj (hurl.symm.trans hagent)
    exact ⟨_, 0, { world := () }, ⟨rfl, rfl, rfl⟩, zeroExchange_agent rfl now w⟩
  version := by
    let call := zeroDeployment.agents.version "fd00::7"
    have hurl : call.destination = .ok (agentUrl "/version") := agents_destination (by simp) rfl
    have hanswer : zeroAnswer (call.request (agentUrl "/version")) = .text 200 "1.0" := by
      decide +kernel
    exact ⟨_, hurl, fun now w => ⟨_, zeroExchange_text rfl hanswer now w⟩⟩
  encrypt := by
    let call := zeroDeployment.agents.encrypt "fd00::7" ch.text
    have hurl : call.destination = .ok (agentUrl "/encrypt") := agents_destination (by simp) rfl
    have hpath : Http.pathOf (call.request (agentUrl "/encrypt")).targetSeen = "/encrypt" := by
      show Http.pathOf "/encrypt" = "/encrypt"
      decide
    have hanswer : zeroAnswer (call.request (agentUrl "/encrypt")) = .text 200 _ :=
      Agent.respond_posted rfl hpath (messageOf_text ch) (zeroEncryptor_value ch.text _ _)
    exact ⟨_, hurl, fun now w => ⟨_, zeroExchange_text rfl hanswer now w⟩⟩
  register := by
    have hurl : (zeroClient.register sampleSettings.identity.clientName).destination = _ :=
      zeroClient_destination (by simp)
    refine ⟨_, hurl, fun now w => ⟨[], ?_⟩⟩
    rw [← zeroService_client rfl (Crypto.Client.asks_call hurl).read]
    exact zeroExchange_service rfl now w
  decrypt := by
    intro text ciphertext hspelling hseals
    have hurl : (zeroClient.decrypt sampleSettings.identity.clientName
      sampleSettings.identity.keyName text).destination = _ := zeroClient_destination (by simp)
    refine ⟨_, hurl, fun now w => ⟨ciphertext.tail, ?_⟩⟩
    rw [← zeroService_decrypt rfl (Crypto.Client.asks_call hurl).read hspelling]
    exact zeroExchange_service rfl now w

end

def ipv6Worker : Node := { sampleWorker with addresses := [⟨"InternalIP", "fd00::7"⟩] }

def zeroEnvironment : Environment Unit :=
  { sampleEnvironment with
    toPeers := zeroDeployment.peers
    listNodes := pure (.ok [ipv6Worker]) }

/-- The worker is verified by an agent and crypto services that are asked over HTTP. -/
theorem ipv6Worker_verified :
    let c : Controller Unit := .new ()
    zeroDeployment.Opens sampleSettings.identity ZeroSeals ∧
      (∀ n, zeroDeployment.Connects sampleSettings.identity ZeroSeals "fd00::7" (.ofNumber n)) ∧
      c.ComesTo sampleSettings zeroEnvironment ipv6Worker "fd00::7" ∧
      (c.runCycle sampleSettings zeroEnvironment).1 = .verified "worker" ∧
      ∃ es, c.session.Calls zeroEnvironment es
        (c.runCycle sampleSettings zeroEnvironment).2.session ∧ mutations es = [] := by
  intro c
  have hconnects : ∀ n,
      zeroDeployment.Connects sampleSettings.identity ZeroSeals "fd00::7" (.ofNumber n) :=
    fun n => zeroDeployment_connects (.ofNumber n)
  have hcomes : c.ComesTo sampleSettings zeroEnvironment ipv6Worker "fd00::7" :=
    ⟨rfl, rfl, rfl, [], [], rfl, rfl, rfl⟩
  exact ⟨zeroDeployment_opens, hconnects, hcomes,
    honest_worker_verified zeroDeployment ZeroSeals sampleSettings zeroEnvironment c ipv6Worker
      "fd00::7" rfl zeroDeployment_opens hconnects (fun _ _ => rfl) hcomes⟩

end NodeAdmission.Admission
