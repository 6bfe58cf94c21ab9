import VpnGateway.Log
import VpnGateway.Text.Blank

/-!
# Log filters

Which lines of the log are wanted, said in one text: directives with commas between them, and after a
slash a text that wanted lines contain. A directive is a level, a component, or both with an equals
sign between.

* `Log.Level.threshold?`: the names of levels;
* `Directive`, `Filter`, `Filter.parse`;
* `Filter.enabled`, `Filter.admits`.
-/

namespace VpnGateway.Log

/-- The threshold that a word names, in any case. -/
def threshold? (word : List Char) : Option Threshold :=
  List.lookup (word.map Char.toLower) [
    ("off".toList, none),
    ("error".toList, some .error),
    ("warn".toList, some .warn),
    ("info".toList, some .info),
    ("debug".toList, some .debug),
    ("trace".toList, some .trace)]

/-- What is wanted of the components whose path starts with a name, or of all. -/
structure Directive where
  name : Option String
  level : Threshold
  deriving DecidableEq, Repr

namespace Directive

/-- The directive speaks of a component. -/
def speaksOf (d : Directive) (component : Component) : Bool :=
  d.name.all fun name => name.toList.isPrefixOf component.path.toList

/-- How many bytes the name takes. -/
def size (d : Directive) : Nat :=
  (d.name.map String.utf8ByteSize).getD 0

/-- The directive that a text says, or what is wrong with it. -/
def parse (s : List Char) : Except String Directive :=
  let everything : Threshold := some .trace
  match s.splitOn '=' with
  | [name] =>
    match threshold? name with
    | some level => .ok ⟨none, level⟩
    | none => .ok ⟨some (String.ofList name), everything⟩
  | [name, level] =>
    let level := Text.trim level
    if level = [] then .ok ⟨some (String.ofList name), everything⟩
    else match threshold? level with
      | some level => .ok ⟨some (String.ofList name), level⟩
      | none => .error (String.ofList level)
  | _ => .error (String.ofList s)

/-- The directives with one more, which takes the place of one with the same name. -/
def insert (d : Directive) : List Directive → List Directive
  | [] => [d]
  | e :: rest => if e.name = d.name then d :: rest else e :: insert d rest

end Directive

/-- Which lines of the log are wanted. -/
structure Filter where
  directives : List Directive
  text : List Char
  deriving DecidableEq, Repr

namespace Filter

/-- The wording of a complaint about a filter. -/
def complaint (reason : String) : String :=
  "warning: invalid logging spec " ++ reason ++ ", ignoring it"

/-- A text between quotes. -/
def named (s : String) : String :=
  "'" ++ s ++ "'"

/-- The directives of a text, and complaints about those that cannot be understood. -/
def parseDirectives (s : List Char) : List Directive × List String :=
  let words := ((s.splitOn ',').map Text.trim).filter (· ≠ [])
  let step := fun (found : List Directive × List String) word =>
    match Directive.parse word with
    | .ok d => (d.insert found.1, found.2)
    | .error wrong => (found.1, found.2 ++ [complaint (named wrong)])
  words.foldl step ([], [])

/-- What is wanted if no directive says so. -/
def fallback : List Directive := [⟨none, some .error⟩]

/-- The filter with directives and a text, the directives with the longest names first. -/
def ofDirectives (directives : List Directive) (text : List Char) : Filter :=
  let directives := if directives = [] then fallback else directives
  ⟨(directives.mergeSort fun d e => d.size ≤ e.size).reverse, text⟩

/-- The filter that a text says, and complaints about what cannot be understood. -/
def parse (s : String) : Filter × List String :=
  match s.toList.splitOn '/' with
  | [directives] =>
    let (found, complaints) := parseDirectives directives
    (ofDirectives found [], complaints)
  | [directives, text] =>
    let (found, complaints) := parseDirectives directives
    (ofDirectives found text, complaints)
  | _ => (ofDirectives [] [], [complaint (named s ++ " (too many '/'s)")])

/-- Lines of a level are wanted of a component: so says the first directive that speaks of it. -/
def enabled (f : Filter) (level : Level) (component : Component) : Bool :=
  match f.directives.find? (·.speaksOf component) with
  | some d => d.level.admits level
  | none => false

/-- The text `part` stands somewhere in a text. -/
def holds (part : List Char) : List Char → Bool
  | [] => part.isEmpty
  | c :: cs => part.isPrefixOf (c :: cs) || holds part cs

/-- A line is wanted. -/
def admits (f : Filter) (l : Line) : Bool :=
  f.enabled l.level l.component && holds f.text l.text.toList

end Filter

end VpnGateway.Log
