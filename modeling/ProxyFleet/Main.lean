import ProxyFleet.CommandLine

/-!
# The program

Reads the environment and the files that the settings name, and runs the command line with them. It
has no network of its own, so that nobody answers its sessions.
-/

namespace ProxyFleet.Main

/-- The names of the variables that count. -/
def variableNames : List String :=
  "RUST_LOG" :: ["CONFIG", "ADDRESS", "DELTA", "STORE_RESPONSES", "EVENT_BUFFER",
    "CONNECT_TIMEOUT_SECONDS", "TLS_ENABLED", "TLS_CA_PATH", "TLS_CERT_PATH", "TLS_KEY_PATH",
    "TLS_DOMAIN", "NODE_TYPE", "IP", "WORKLOAD", "NAMESPACE", "METADATA", "LOG_LEVEL", "LOG_JSON",
    "SESSIONS", "CONVERGENCE_TIMEOUT_SECONDS", "RECONNECT_INITIAL_MS",
    "RECONNECT_MAX_MS"].map Environment.named

def environment : IO Environment := do
  let values ← variableNames.mapM fun name ↦ do
    let value ← IO.getEnv name
    pure (name, value.map fun text ↦ text.toUTF8.toList)
  pure fun name ↦ (values.lookup name).bind id

/-- Files of which the content of some is known. -/
def known (contents : List (String × Except FileFault (List UInt8))) : Files :=
  ⟨fun path ↦ (contents.lookup path).getD (.error .notFound)⟩

/-- What an error of the system says about a file. -/
def faultOf : IO.Error → FileFault
  | .inappropriateType _ code _ => if code = 21 then .isDirectory else .notDirectory
  | .invalidArgument _ code _ => if code = 22 then .nulInPath else .nameTooLong
  | _ => .notFound

def content (path : String) : IO (String × Except FileFault (List UInt8)) := do
  try
    let bytes ← IO.FS.readBinFile path
    pure (path, .ok bytes.toList)
  catch e => pure (path, .error (faultOf e))

def tlsPaths (s : Settings) : List String :=
  match s.tls with
  | none => []
  | some tls => tls.authorityPath :: tls.certificatePath.toList ++ tls.keyPath.toList

/-- The files that the settings name, and before them the file with the settings. -/
def files (env : Environment) : IO Files := do
  let first ← (env.setting? "CONFIG").toList.mapM content
  match Settings.load env (known first) with
  | .error _ => pure (known first)
  | .ok s =>
    let others ← (tlsPaths s).mapM content
    pure (known (first ++ others))

end ProxyFleet.Main

def main : IO UInt32 := do
  let env ← ProxyFleet.Main.environment
  let files ← ProxyFleet.Main.files env
  let outcome := ProxyFleet.CommandLine.run env files ProxyFleet.Network.silent false
  for m in outcome.messages do
    IO.println (m.toLine outcome.json)
  if let some text := outcome.complaint then
    IO.eprint text
  return .ofNat outcome.exitCode
