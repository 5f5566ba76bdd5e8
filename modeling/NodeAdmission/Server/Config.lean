import NodeAdmission.Admission.Cycle
import NodeAdmission.Cluster.Probe
import NodeAdmission.Service.Settings

/-!
# The configuration of the server

Every setting has a default, so the server runs without any variable. The settings are read in one
order, and the first that is wrong is reported: the labels of the control plane, then the numbers.
An empty `KUBECONFIG` counts as none, while an empty text in any other variable is taken as it is.

The settings of the control loop, of the probe and of the orchestrator are parts of it (`settings`,
`probe`, `orchestrator`).
-/

namespace NodeAdmission.Server

open Service (Lookup ServiceError splitList)

/-- The labels that mark the control plane unless others are configured. -/
def defaultControlPlaneLabels : List String :=
  ["node-role.kubernetes.io/master", "node-role.kubernetes.io/control-plane"]

/-- The annotation that holds the internal address unless another one is configured. -/
def defaultInternalIpAnnotation : String := "k3s.io/internal-ip"

structure Config where
  listenOn : UInt16
  cryptoUrl : String
  cryptoClientName : String
  /-- The key that opens what the agents encrypt. -/
  decryptKeyName : String
  agentPort : UInt16
  kubectl : String
  kubeconfig : Option String
  internalIpAnnotation : String
  controlPlaneLabels : List String
  scanInterval : Duration
  retryCooldown : Duration
  bootstrapRetry : Duration
  requestTimeout : Duration
  commandTimeout : Duration
  pingCount : UInt32
  pingWait : Duration

namespace Config

/-- The labels of the control plane; there is at least one. -/
def readLabels (lookup : Lookup) : Except ServiceError (List String) :=
  match lookup "CONTROL_PLANE_LABELS" with
  | none => .ok defaultControlPlaneLabels
  | some raw =>
    match splitList raw with
    -- Without a label nothing would be trusted, and the control plane would be expelled.
    | [] => .error (.config "CONTROL_PLANE_LABELS must name at least one label")
    | label :: labels => .ok (label :: labels)

/-- Reads the configuration; of several variables that are wrong the first one is reported. -/
def read (lookup : Lookup) : Except ServiceError Config := do
  let controlPlaneLabels ← readLabels lookup
  let listenOn ← lookup.number Numeral.readUInt16 "PORT" "8301"
  let agentPort ← lookup.number Numeral.readUInt16 "AGENT_PORT" "8301"
  let scanInterval ← lookup.seconds "SCAN_INTERVAL_SECS" "30"
  let retryCooldown ← lookup.seconds "RETRY_COOLDOWN_SECS" "300"
  let bootstrapRetry ← lookup.seconds "BOOTSTRAP_RETRY_SECS" "10"
  let requestTimeout ← lookup.seconds "REQUEST_TIMEOUT_SECS" "10"
  let commandTimeout ← lookup.seconds "COMMAND_TIMEOUT_SECS" "120"
  let pingCount ← lookup.number Numeral.readUInt32 "PING_COUNT" "4"
  let pingWait ← lookup.seconds "PING_WAIT_SECS" "5"
  return {
    listenOn
    cryptoUrl := lookup.text "CRYPTO_URL" "http://127.0.0.1:8300"
    cryptoClientName := lookup.text "CRYPTO_CLIENT_NAME" "NodeAuthServer"
    decryptKeyName := lookup.text "DECRYPT_KEY_NAME" "MyEncKey"
    agentPort
    kubectl := lookup.text "KUBECTL" "kubectl"
    kubeconfig := (lookup "KUBECONFIG").filter (· ≠ "")
    internalIpAnnotation := lookup.text "INTERNAL_IP_ANNOTATION" defaultInternalIpAnnotation
    controlPlaneLabels
    scanInterval
    retryCooldown
    bootstrapRetry
    requestTimeout
    commandTimeout
    pingCount
    pingWait }

def settings (c : Config) : Admission.Settings :=
  { scanInterval := c.scanInterval
    retryCooldown := c.retryCooldown
    internalIpAnnotation := c.internalIpAnnotation
    controlPlaneLabels := c.controlPlaneLabels
    identity := { clientName := c.cryptoClientName, keyName := c.decryptKeyName } }

def probe (c : Config) : Cluster.Probe := { count := c.pingCount, wait := c.pingWait }

def orchestrator (c : Config) : Cluster.Kubectl :=
  { program := c.kubectl, kubeconfig := c.kubeconfig, timeout := c.commandTimeout }

end Config
end NodeAdmission.Server
