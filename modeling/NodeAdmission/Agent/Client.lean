import NodeAdmission.Http.Call

/-!
# The client of the agents

An agent runs on every candidate node, at the node's own address and one port for the whole
deployment. It is asked for its version, as a sign of life, and to encrypt a challenge.
-/

namespace NodeAdmission.Agent

open Http (Call)

structure Client where
  port : UInt16
  timeout : Duration

namespace Client

/-- The URL of the agent at an address; an IPv6 address goes into brackets. -/
def baseUrl (c : Client) (ip : String) : String :=
  let host := if ip.toList.contains ':' then "[" ++ ip ++ "]" else ip
  "http://" ++ host ++ ":" ++ toString c.port.toNat

def version (c : Client) (ip : String) : Call String :=
  { method := .get
    url := c.baseUrl ip ++ "/version"
    contentType := none
    body := []
    timeout := c.timeout
    read := Call.readText }

def encrypt (c : Client) (ip challenge : String) : Call String :=
  { method := .post
    url := c.baseUrl ip ++ "/encrypt"
    contentType := some "text/plain"
    body := Utf8.encode challenge
    timeout := c.timeout
    read := Call.readText }

end Client
end NodeAdmission.Agent
