import NodeAdmission.Agent.Config
import NodeAdmission.Agent.Interface
import NodeAdmission.Service.Trace

/-!
# The agent as a service

The agent registers with the crypto service of its node, and only then listens and answers. If it
cannot listen it fails; nothing else ends it but that it is asked to stop.

A run is given the requests that arrive, and stops after them. It is also given how often it
may try to register (`budget`): the program itself tries without end, and what holds for
every budget holds for it.
-/

namespace NodeAdmission.Agent

open Service (Ending Host Program Traced)

def logTarget : String := "node_auth_agent"

def encryptor (host : Host ω) (crypto : Crypto.Client) : Encryptor (Timed (Traced ω)) :=
  fun client key message => do
    let result ← (crypto.encrypt client key message).perform host.send
    -- A failure of the service is a result too; it does not break the handler down.
    return .finished result

/-- Answers requests one after the other. -/
def serve (routes : Http.Interface (Timed (Traced ω))) : List Http.Incoming → Timed (Traced ω) Unit
  | [] => pure ()
  | request :: requests => do
    Host.answer routes request
    serve routes requests

def infoLine (message : String) : Service.LogLine :=
  { level := .info, target := logTarget, message }

def run (config : Config) (host : Host ω) (budget : Nat) (requests : List Http.Incoming) :
    Timed (Traced ω) Ending := do
  Service.log (infoLine "Starting node authentication agent")
  Service.log (infoLine ("Crypto service: " ++ config.cryptoUrl))
  Service.log (infoLine ("Encryption key: " ++ config.encryptKeyName))
  let crypto := Crypto.Client.new config.cryptoUrl config.requestTimeout
  match ← Service.registerWithin (host.registrar crypto) config.cryptoClientName
      config.bootstrapRetry budget with
  | none => return .unregistered
  | some _ =>
    match ← host.bind config.listenOn with
    | .error e => return .failed (.io e)
    | .ok _ =>
      let identity : Identity :=
        { clientName := config.cryptoClientName, keyName := config.encryptKeyName }
      serve (interface (encryptor host crypto) identity) requests
      Service.log (infoLine "Node authentication agent stopped")
      return .stopped

def program : Program :=
  { target := logTarget
    complaint := "Agent error"
    filter := .ofTargets .info ["node_auth_agent", "nodeauth", "tower_http"] }

end NodeAdmission.Agent
