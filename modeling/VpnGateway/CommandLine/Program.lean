import VpnGateway.CommandLine.Arguments
import VpnGateway.Diagnosis
import VpnGateway.Log.Filter
import VpnGateway.Log.Layout
import VpnGateway.Settings.Document
import VpnGateway.Settings.Read
import VpnGateway.Settings.Report

/-!
# The program

It reads the settings from the environment, logs what it finds, and says whether they are valid.

* `Outcome`: the exit code and what was printed;
* `logFilter`, `logStyle`: how the environment and the options want the log;
* `Process`, `Execution`: what a process leaves, step after step;
* `diagnoseCredentials`, `report`, `run`, `execute`: its steps in their order;
* `programWith`, `program`: the whole, with any library and with the own one.
-/

namespace VpnGateway

namespace CommandLine

/-- What is left of a run: the exit code, and the texts printed to the output and to the log, each
followed by a line end. -/
structure Outcome where
  exitCode : Nat
  output : List String
  log : List String
  deriving DecidableEq, Repr

/-- The name of the program. -/
def programName : String := "gateway-params"

/-- The version of the program. -/
def programVersion : String := "0.1.0"

/-! ## Help -/

/-- The value of a variable, as help shows it in the right column. -/
def shownValue (env : Environment) (o : Valued) : String :=
  let value := ((env.value? o.variableName).map Text.utf8Lossy).getD ""
  let indent := List.replicate 35 ' '
  String.ofList (value.toList.flatMap fun c => if c = '\n' then '\n' :: indent else [c])

/-- What help says of the value of an option. -/
def valueHelp (env : Environment) (o : Valued) : String :=
  "[env: " ++ o.variableName ++ "=" ++ shownValue env o ++ "] [default: " ++ o.default ++ "]"

/-- The help text. -/
def help (env : Environment) : List String :=
  ["Environment and secret-file settings reader for a containerized VPN/DNS gateway",
   "",
   "Usage: " ++ programName ++ " [OPTIONS]",
   "",
   "Options:",
   "      --log-level <LOG_LEVEL>      Log level " ++ valueHelp env .logLevel,
   "      --secrets-dir <SECRETS_DIR>  Directory holding secret files " ++
     valueHelp env .secretsDirectory,
   "      --json                       Print the resolved settings as JSON on stdout",
   "  -h, --help                       Print help",
   "  -V, --version                    Print version"]

/-- What is left if the words of the command line give no options. -/
def Ending.outcome (env : Environment) : Ending → Outcome
  | error e => ⟨2, [], ["error: " ++ e.message]⟩
  | help => ⟨0, CommandLine.help env, []⟩
  | version => ⟨0, [programName ++ " " ++ programVersion], []⟩

/-! ## The log -/

/-- The text of a variable. -/
def variableText (env : Environment) (name : String) : Option String := do
  Text.utf8Text? (← env.value? name)

/-- Which lines are wanted, and complaints about how that was said. -/
def logFilter (env : Environment) (o : Options) : Log.Filter × List String :=
  Log.Filter.parse ((variableText env "RUST_LOG").getD o.logLevel)

/-- A variable is set to something, and not to `off`. -/
def isOn (env : Environment) (name : String) (off : List UInt8) : Bool :=
  match env.value? name with
  | none => false
  | some bytes => bytes ≠ [] && bytes ≠ off

/-- How lines are written. No terminal is asked, so colours must be wished for. -/
def logStyle (env : Environment) : Log.Style :=
  match variableText env "RUST_LOG_STYLE" with
  | some "always" => .coloured
  | some "never" => .plain
  | _ =>
    if isOn env "NO_COLOR" [] then .plain
    else if isOn env "CLICOLOR_FORCE" [0x30] then .coloured
    else .plain

/-- A line of the program itself. -/
def line (level : Log.Level) (text : String) : Log.Line :=
  ⟨level, .program, text⟩

/-- The first line. -/
def startLine : Log.Line :=
  line .info ("Starting " ++ programName ++ " v" ++ programVersion)

/-- What the log says of a certificate. -/
def certificateLines : Except GatewayError CertificateSummary → List Log.Line
  | .ok summary =>
    [summary.line, line .info ("Client certificate subject: " ++ summary.subject),
     line .info ("Client certificate fingerprint: " ++ summary.fingerprint)]
  | .error e => [line .warn ("Unable to describe client certificate: " ++ e.message)]

/-- What the log says of a private key. -/
def keyLines : Except GatewayError KeySummary → List Log.Line
  | .ok summary =>
    [line .info ("Client key: " ++ summary.algorithm ++ " " ++ toString summary.bits ++ " bits")]
  | .error e => [line .warn ("Unable to describe client key: " ++ e.message)]

/-- What the log says of a private key together with a certificate. -/
def matchLines : Except GatewayError Bool → List Log.Line
  | .ok true => []
  | .ok false => [line .warn "Client key does not match the client certificate"]
  | .error e => [line .warn ("Unable to compare client key and certificate: " ++ e.message)]

/-! ## Steps -/

/-- What a process has printed and logged, and the complaints of the library that wait. -/
structure Process (library : CryptoLibrary) where
  output : List String
  log : List String
  complaints : List library.Complaint

/-- A computation of a process. There is no value if it breaks off. -/
abbrev Execution (library : CryptoLibrary) (α : Type) : Type :=
  StateT (Process library) Option α

/-- Which lines are logged, and how they are written. -/
structure Logger where
  filter : Log.Filter
  style : Log.Style

section Steps

variable {library : CryptoLibrary} {α : Type}

/-- Print a text to the output. -/
def print (text : String) : Execution library Unit :=
  modify fun p => { p with output := p.output ++ [text] }

/-- Log a line, if it is wanted. -/
def Logger.log (logger : Logger) (l : Log.Line) : Execution library Unit :=
  modify fun p =>
    if logger.filter.admits l then { p with log := p.log ++ [l.render logger.style] } else p

/-- Log lines in their order. -/
def Logger.logAll (logger : Logger) : List Log.Line → Execution library Unit
  | [] => return ()
  | l :: ls => do
    logger.log l
    logger.logAll ls

/-- Come to a diagnosis, whether it succeeds or not. -/
def diagnose (diagnosis : Diagnosis library.Complaint α) :
    Execution library (Except GatewayError α) := fun p =>
  let (result, complaints) := diagnosis p.complaints
  some (result, { p with complaints := complaints })

/-- Log what the credentials of a client are, if there are any. -/
def diagnoseCredentials (logger : Logger) : Option CyberghostSettings → Execution library Unit
  | none => return ()
  | some s => do
    let certificate ← diagnose (library.describeCertificate s.clientCertificate)
    logger.logAll (certificateLines certificate)
    let key ← diagnose (library.describePrivateKey s.clientKey)
    logger.logAll (keyLines key)
    let agreement ← diagnose (library.keyMatchesCertificate s.clientKey s.clientCertificate)
    logger.logAll (matchLines agreement)

/-- Print settings, if that is wished for. -/
def printDocument (o : Options) (s : Settings) : Execution library Unit :=
  if o.json then print s.document.pretty else return ()

/-- Report on settings that were read, with the warnings that their reading gave. -/
def report (logger : Logger) (o : Options) (s : Settings) (warnings : List Deprecation) :
    Execution library Unit := do
  logger.logAll (warnings.map fun d => line .warn d.message)
  logger.logAll (if logger.filter.enabled .info .settings then s.report else [])
  diagnoseCredentials logger s.cyberghost
  printDocument o s
  logger.log (line .info "Settings are valid")

end Steps

/-! ## The whole -/

/-- What the program sees. -/
def surroundings (env : Environment) (files : Files) (o : Options) : Surroundings :=
  { source := .ofEnvironment env, files := files, secretsDirectory := o.secretsDirectory }

section Whole

variable {library : CryptoLibrary} (logger : Logger) (env : Environment) (files : Files) (o : Options)

/-- Read the settings and report on them. If the reading breaks off, so does the process. -/
def run : Execution library (Except SettingError Unit) := do
  logger.log startLine
  match Settings.read (surroundings env files o) {} with
  | (.ok s, journal) =>
    logger.logAll journal.log
    report logger o s journal.warnings
    return .ok ()
  | (.error (.error e), journal) =>
    logger.logAll journal.log
    return .error e
  | (.error .brokenOff, _) => failure

/-- Read the settings, report on them, and come to an exit code. -/
def execute : Execution library Nat := do
  match ← run logger env files o with
  | .ok () => return 0
  | .error e =>
    logger.log (line .error (GatewayError.setting e).message)
    return 1

end Whole

/-- The outcome with options. What is wrong with the wishes for the log is logged first. -/
def outcome (library : CryptoLibrary) (env : Environment) (files : Files) (o : Options) :
    Option Outcome :=
  let (filter, wrong) := logFilter env o
  let start : Process library := ⟨[], wrong, []⟩
  (execute ⟨filter, logStyle env⟩ env files o start).map fun (code, p) => ⟨code, p.output, p.log⟩

end CommandLine

/-- The outcome of a command line, of the words after the name of the program, with a library. -/
def programWith (library : CryptoLibrary) (env : Environment) (files : Files) (words : List String) :
    Option CommandLine.Outcome :=
  match CommandLine.Options.parse env words with
  | .ok options => CommandLine.outcome library env files options
  | .error ending => some (ending.outcome env)

/-- The outcome of a command line with the own library. -/
def program : Environment → Files → List String → Option CommandLine.Outcome :=
  programWith .own

end VpnGateway
