import VpnGateway.Base64
import VpnGateway.Text.Utf8
import VpnGateway.Text.Quoted

/-!
# PEM sections

A section is what stands between a line `-----BEGIN label-----` and a line that starts with
`-----END label-----`, in Base64. A line that begins a section inside another one changes the label
and keeps the body read so far. Sections with an unknown label are passed over.

* `Pem.lines`: a line ends at a line feed or a carriage return, which belongs to it;
* `Pem.Label`, `Pem.Label.ofText?`: the labels that are known;
* `Pem.beginLabel`: the label of a line that begins a section;
* `Pem.scan`, `Pem.firstSection`: the first known section of a text;
* `Pem.Fault`, `Pem.Fault.message`: why there is none.
-/

namespace VpnGateway.Pem

/-! ## Lines -/

/-- A byte at which a line ends. -/
def isLineEnd (b : UInt8) : Bool :=
  b = 10 || b = 13

/-- The lines of a text, each with the byte that ends it. -/
def lines : List UInt8 → List (List UInt8)
  | [] => []
  | b :: bs =>
    if isLineEnd b then [b] :: lines bs
    else match lines bs with
      | [] => [[b]]
      | line :: rest => (b :: line) :: rest

/-- The bytes of an ASCII text. -/
def bytesOf (s : String) : List UInt8 :=
  s.toList.map fun c => UInt8.ofNat c.toNat

/-- How a line that begins a section starts. -/
def beginMark : List UInt8 := bytesOf "-----BEGIN "

/-- How a line that ends a section with this label starts. -/
def endMark (label : List UInt8) : List UInt8 :=
  bytesOf "-----END " ++ label ++ bytesOf "-----"

/-! ## Labels -/

/-- The labels that are known. -/
inductive Label
  | certificate | publicKey | rsaPrivateKey | privateKey | ecPrivateKey | revocationList
  | certificateRequest | echConfig
  deriving DecidableEq, Repr

/-- The text of a label. -/
def Label.text : Label → String
  | certificate => "CERTIFICATE"
  | publicKey => "PUBLIC KEY"
  | rsaPrivateKey => "RSA PRIVATE KEY"
  | privateKey => "PRIVATE KEY"
  | ecPrivateKey => "EC PRIVATE KEY"
  | revocationList => "X509 CRL"
  | certificateRequest => "CERTIFICATE REQUEST"
  | echConfig => "ECHCONFIG"

/-- Every label that is known. -/
def Label.all : List Label :=
  [certificate, publicKey, rsaPrivateKey, privateKey, ecPrivateKey, revocationList,
   certificateRequest, echConfig]

/-- The known label with these bytes. -/
def Label.ofBytes? (bytes : List UInt8) : Option Label :=
  Label.all.find? fun l => bytesOf l.text == bytes

/-! ## Faults -/

/-- Why no section could be read. -/
inductive Fault
  /-- The text ends inside a section. -/
  | missingEnd (label : List UInt8)
  /-- A line begins a section and does not end with five dashes. -/
  | illegalStart (line : List UInt8)
  /-- The body is not Base64. -/
  | body (fault : Base64.Fault)
  deriving DecidableEq, Repr

/-- The wording of a fault. -/
def Fault.message : Fault → String
  | missingEnd label => "section end " ++ Text.quoted (Text.utf8Lossy label) ++ " missing"
  | illegalStart line => "illegal section start: " ++ Text.quoted (Text.utf8Lossy line)
  | body fault => fault.message

/-! ## Sections -/

/-- The dashes at the end of a line, read backwards: how many there are, and what comes before the
first of them. Blanks and line ends among them do not count. -/
def trailer (reversed : List UInt8) : Nat × List UInt8 :=
  match reversed with
  | [] => (0, [])
  | b :: bs =>
    if b = 45 then
      let t := trailer bs
      if t.1 = 0 then (1, bs) else (t.1 + 1, t.2)
    else if b = 10 ∨ b = 13 ∨ b = 32 then trailer bs
    else (0, b :: bs)

/-- The label of a line that begins a section: five dashes end it. -/
def beginLabel (line : List UInt8) : Except Fault (List UInt8) :=
  let t := trailer line.reverse
  if t.1 = 5 then .ok (t.2.reverse.drop beginMark.length) else .error (.illegalStart line)

/-- The first known section among the lines: its label and the bytes of its body. `label` is that of
the section that is open, and `body` what has been read of it. -/
def scan (label : Option (List UInt8)) (body : List UInt8) :
    List (List UInt8) → Except Fault (Option (Label × List UInt8))
  | [] =>
    match label with
    | some label => .error (.missingEnd label)
    | none => .ok none
  | line :: rest =>
    if beginMark.isPrefixOf line then do
      let label ← beginLabel line
      scan (some label) body rest
    else match label with
      | none => scan none body rest
      | some label =>
        if (endMark label).isPrefixOf line then
          match Label.ofBytes? label with
          | none => scan none [] rest
          | some known =>
            match Base64.decodeLoose body with
            | .error fault => .error (.body fault)
            | .ok bytes => if known = .echConfig then scan none [] rest else .ok (some (known, bytes))
        else scan (some label) (body ++ line) rest

/-- The first known section of a text, unless there is none. -/
def firstSection (raw : List UInt8) : Except Fault (Option (Label × List UInt8)) :=
  scan none [] (lines raw)

end VpnGateway.Pem
