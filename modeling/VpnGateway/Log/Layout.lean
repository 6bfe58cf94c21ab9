import VpnGateway.Log
import VpnGateway.Text.Terminal

/-!
# Layout of log lines

* `Style`: with colours or without;
* `Line.render`: a line with its level and its component in front, as it is written.
-/

namespace VpnGateway.Log

/-- How lines are written. -/
inductive Style
  | plain | coloured
  deriving DecidableEq, Repr

/-- The sequence that sets the colour of a level. -/
def Level.colour : Level → String
  | error => "\x1b[1m\x1b[31m"
  | warn => "\x1b[33m"
  | info => "\x1b[32m"
  | debug => "\x1b[34m"
  | trace => "\x1b[36m"

/-- The sequence that sets the colour of brackets. -/
def bracketColour : String := "\x1b[90m"

/-- A text in a colour. -/
def Style.paint (style : Style) (colour text : String) : String :=
  match style with
  | plain => text
  | coloured => colour ++ text ++ "\x1b[0m"

/-- The name of a level in five columns. -/
def Level.column (level : Level) : String :=
  String.ofList (level.name.toList ++ List.replicate (5 - level.name.length) ' ')

/-- A text whose lines after the first are indented. -/
def indent (text : String) : String :=
  String.ofList (text.toList.flatMap fun c => if c = '\n' then "\n    ".toList else [c])

/-- A line as it is written. Without colours, other control sequences in it are left out too. -/
def Line.render (style : Style) (l : Line) : String :=
  let text := style.paint bracketColour "[" ++ style.paint l.level.colour l.level.column ++ " " ++
    l.component.path ++ style.paint bracketColour "]" ++ " " ++ indent l.text
  match style with
  | .plain => Text.withoutControls text
  | .coloured => text

end VpnGateway.Log
