import NodeAdmission.Admission.Session
import NodeAdmission.Agent.Client
import NodeAdmission.Crypto.Client

/-!
# Peers over HTTP

The agents and the crypto service as they are in a deployment: every call is one HTTP request, or
none at all where the address does not make a URL. Failures of both kinds are errors of the call,
and admission treats them alike.
-/

namespace NodeAdmission.Admission

def Peers.overHttp (exchange : Http.Exchange (Timed ω)) (agent : Agent.Client)
    (crypto : Crypto.Client) : Peers ω :=
  { version := fun ip => (agent.version ip).perform exchange
    encrypt := fun ip challenge => (agent.encrypt ip challenge).perform exchange
    register := fun client => (crypto.register client).perform exchange
    decrypt := fun client key ciphertext =>
      (crypto.decrypt client key ciphertext).perform exchange }

end NodeAdmission.Admission
