import VpnGateway.CommandLine.Program

/-!
# Command line

Looks up the variables and reads the files that the program may ask for, runs it, prints what it
printed, and ends with its exit code.
-/

namespace VpnGateway.CommandLine

/-- The variables that the program may ask for. -/
def variableNames : List String :=
  [Key.vpnProvider, Key.dnsOverTls, Key.dotProviders, Key.dotVerbosity, Key.dotVerbosityDetails,
   Key.dotValidationLogLevel, Key.blockMalicious, Key.blockSurveillance, Key.blockNsa,
   Key.blockAds, Key.unblock, Key.dotCaching, Key.dotPrivateAddress, Key.dotIpv6,
   Key.dnsUpdatePeriod, Key.dnsPlaintextAddress, Key.dnsKeepNameserver, Key.cyberghostGroup,
   Key.region, Key.clientKey, Key.clientCertificate, Key.secretFile Key.clientKey,
   Key.secretFile Key.clientCertificate, Valued.logLevel.variableName,
   Valued.secretsDirectory.variableName, "RUST_LOG", "RUST_LOG_STYLE", "NO_COLOR",
   "CLICOLOR_FORCE"]

/-- The files that the program may ask for, where secrets lie in a directory. -/
def candidateFiles (env : Environment) (directory : String) : List String :=
  let secret := fun key =>
    let given := (variableText env (Key.secretFile key)).filter (· ≠ "")
    given.getD (joinPath directory (Text.lowercase key))
  [secret Key.clientKey, secret Key.clientCertificate, Default.clientKeyFile,
   Default.clientCertificateFile]

/-- The variables of the process. -/
def readEnvironment : IO Environment :=
  variableNames.filterMapM fun name => do
    return (← IO.getEnv name).map fun value => (name, Text.utf8Bytes value)

/-- What is found at a path. -/
def readFile (path : String) : IO FileStatus := do
  try
    return .content (← IO.FS.readBinFile path).toList
  catch
    | .permissionDenied .. => return .unreadable .permissionDenied
    | _ => return .absent

end VpnGateway.CommandLine

open VpnGateway CommandLine in
/-- Run the program with the words of its command line. -/
def main (words : List String) : IO UInt32 := do
  let env ← readEnvironment
  let directory := match Options.parse env words with
    | .ok options => options.secretsDirectory
    | .error _ => Default.secretsDirectory
  let found ← (candidateFiles env directory).mapM fun path => return (path, ← readFile path)
  match program env (fun path => (found.lookup path).getD .absent) words with
  | none => return 101
  | some outcome =>
    for text in outcome.log do
      IO.eprintln text
    for text in outcome.output do
      IO.println text
    return UInt32.ofNat outcome.exitCode
