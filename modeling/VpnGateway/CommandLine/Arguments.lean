import VpnGateway.Setting.Key
import VpnGateway.Source

/-!
# Arguments

What the words of a command line ask for.

* `Options`: how the program is to run;
* `UsageError`, `Ending`: what is wrong with the words, and what else ends their reading;
* `Options.parse`: the options of the words and, for what they leave open, of the environment.
-/

namespace VpnGateway

namespace CommandLine

/-- How the program is to run. -/
structure Options where
  logLevel : String
  secretsDirectory : String
  json : Bool
  deriving DecidableEq, Repr

/-- What is wrong with the words of a command line. -/
inductive UsageError
  | unexpectedArgument
  | missingValue
  | repeatedArgument
  | unexpectedValue
  | notUtf8
  deriving DecidableEq, Repr

/-- The wording of an error. -/
def UsageError.message : UsageError → String
  | unexpectedArgument => "unexpected argument found"
  | missingValue => "one of the values isn't valid for an argument"
  | repeatedArgument =>
    "an argument cannot be used with one or more of the other specified arguments"
  | unexpectedValue => "unexpected value for an argument found"
  | notUtf8 => "invalid UTF-8 was detected in one or more arguments"

/-- What ends the reading of words before there are options. -/
inductive Ending
  | error (e : UsageError)
  | help
  | version
  deriving DecidableEq, Repr

/-! ## Options with values -/

/-- An option with a value. -/
inductive Valued
  | logLevel
  | secretsDirectory
  deriving DecidableEq, Repr

namespace Valued

/-- The variable that stands for the option. -/
def variableName : Valued → String
  | logLevel => "LOG_LEVEL"
  | secretsDirectory => "SECRETS_DIR"

/-- The value without option and variable. -/
def default : Valued → String
  | logLevel => "info"
  | secretsDirectory => Default.secretsDirectory

/-- The option with a name. -/
def ofName? (name : String) : Option Valued :=
  if name = "log-level" then some logLevel
  else if name = "secrets-dir" then some secretsDirectory
  else none

end Valued

/-- The options that words have given. -/
structure Given where
  value : Valued → Option String
  json : Bool

namespace Given

/-- No words have given no options. -/
def none : Given := ⟨fun _ => .none, false⟩

/-- One more option with a value, which must be new. -/
def put (g : Given) (o : Valued) (value : String) : Except Ending Given :=
  if (g.value o).isSome then .error (.error .repeatedArgument)
  else .ok { g with value := fun o' => if o' = o then some value else g.value o' }

/-- The wish for a document, which must be new. -/
def putJson (g : Given) : Except Ending Given :=
  if g.json then .error (.error .repeatedArgument) else .ok { g with json := true }

end Given

/-! ## Words -/

/-- The form of a word. -/
inductive Word
  /-- Two dashes and a name, and after an equals sign a value. -/
  | long (name : String) (value : Option String)
  /-- A dash and letters. -/
  | short (letters : List Char)
  /-- Anything else. -/
  | plain (text : String)
  deriving DecidableEq, Repr

/-- The form of a word that is not two dashes alone. -/
def Word.ofText (text : String) : Word :=
  match text.toList with
  | '-' :: '-' :: rest =>
    let name := String.ofList (rest.takeWhile (· ≠ '='))
    match rest.dropWhile (· ≠ '=') with
    | [] => .long name none
    | _ :: value => .long name (some (String.ofList value))
  | '-' :: c :: rest => .short (c :: rest)
  | _ => .plain text

/-- The words so far: the options they have given, and one that has perhaps not got its value. -/
structure Scan where
  given : Given
  pending : Option (Valued × Option String)

namespace Scan

/-- No words. -/
def start : Scan := ⟨.none, none⟩

/-- Count in the option that is pending. -/
def settle (s : Scan) : Except Ending Given :=
  match s.pending with
  | none => .ok s.given
  | some (_, none) => .error (.error .missingValue)
  | some (o, some value) => s.given.put o value

/-- The word `--name` or `--name=value`. -/
def long (s : Scan) (name : String) (value : Option String) : Except Ending Scan :=
  match Valued.ofName? name, value with
  | some o, none => do return ⟨← s.settle, some (o, none)⟩
  | some o, some value => do return ⟨← (← s.settle).put o value, none⟩
  | none, value =>
    if name ∉ ["json", "help", "version"] then .error (.error .unexpectedArgument)
    else if value.isSome then .error (.error .unexpectedValue)
    else do
      let given ← s.settle
      if name = "json" then return ⟨← given.putJson, none⟩
      else throw (if name = "help" then .help else .version)

/-- Letters after a dash. -/
def short (s : Scan) : List Char → Except Ending Scan
  | 'h' :: _ => do let _ ← s.settle; throw .help
  | 'V' :: _ => do let _ ← s.settle; throw .version
  | _ => .error (.error .unexpectedArgument)

/-- A word that is no option: the value of one before it. -/
def plain (s : Scan) (text : String) : Except Ending Scan :=
  match s.pending with
  | some (o, none) => .ok { s with pending := some (o, some text) }
  | _ => .error (.error .unexpectedArgument)

/-- One more word. -/
def word (s : Scan) (text : String) : Except Ending Scan :=
  match Word.ofText text with
  | .long name value => s.long name value
  | .short letters => s.short letters
  | .plain text => s.plain text

/-- All words. After two dashes alone none may follow. -/
def words (s : Scan) : List String → Except Ending Given
  | [] => s.settle
  | text :: rest =>
    if text = "--" then
      if rest = [] then s.settle else .error (.error .unexpectedArgument)
    else do (← s.word text).words rest

end Scan

/-! ## Options -/

/-- The value of an option: given by a word, or by its variable, or its default. -/
def resolve (g : Given) (env : Environment) (o : Valued) : Except Ending String :=
  match g.value o, env.value? o.variableName with
  | some value, _ => .ok value
  | none, some bytes =>
    match Text.utf8Text? bytes with
    | some value => .ok value
    | none => .error (.error .notUtf8)
  | none, none => .ok o.default

/-- The options of the words and the environment. -/
def Options.parse (env : Environment) (words : List String) : Except Ending Options := do
  let given ← Scan.start.words words
  return ⟨← resolve given env .logLevel, ← resolve given env .secretsDirectory, given.json⟩

end CommandLine

end VpnGateway
