import NodeAdmission.Service.Settings

/-!
# The configuration of the agent

Every setting has a default, so the agent runs without any variable. Of several variables that are
wrong the first one is reported. The agent has the numbers for its port and for its times in common
with the server, and reads them by the same rules.
-/

namespace NodeAdmission.Agent

open Service (Lookup ServiceError)

structure Config where
  listenOn : UInt16
  cryptoUrl : String
  cryptoClientName : String
  /-- The key that challenges are encrypted with. -/
  encryptKeyName : String
  bootstrapRetry : Duration
  requestTimeout : Duration

/-- Reads the configuration; of several variables that are wrong the first one is reported. -/
def Config.read (lookup : Lookup) : Except ServiceError Config := do
  let listenOn ← lookup.number Numeral.readUInt16 "PORT" "8301"
  let bootstrapRetry ← lookup.seconds "BOOTSTRAP_RETRY_SECS" "10"
  let requestTimeout ← lookup.seconds "REQUEST_TIMEOUT_SECS" "10"
  return {
    listenOn
    cryptoUrl := lookup.text "CRYPTO_URL" "http://127.0.0.1:8300"
    cryptoClientName := lookup.text "CRYPTO_CLIENT_NAME" "NodeAuthAgent"
    encryptKeyName := lookup.text "ENCRYPT_KEY_NAME" "MyPubKey"
    bootstrapRetry
    requestTimeout }

end NodeAdmission.Agent
