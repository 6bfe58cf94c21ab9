import VpnGateway.Address.Ipv4
import VpnGateway.Text.Hex

/-!
# IPv6 addresses

Eight groups of 16 bits, written in base sixteen with colons between them. In reading, one `::` may
stand for the groups of zeros that are missing, one at least, and the last two groups may be written
as an IPv4 address. In writing, `::` stands for the first of the longest runs of two or more zeros,
and only an address that maps an IPv4 address ends in one.

* `Ipv6`, `Ipv6.toText`, `Ipv6.ofText?`;
* `Ipv6.longestZeros`: the run that `::` stands for;
* `Ipv6.mapped?`: the IPv4 address that is mapped.
-/

namespace VpnGateway

/-- An IPv6 address. -/
structure Ipv6 where
  groups : List UInt16
  length_groups : groups.length = 8
  deriving DecidableEq, Repr

namespace Ipv6

/-- The two groups that an IPv4 address fills. -/
def groupsOfIpv4 (ip : Ipv4) : List UInt16 :=
  [ip.a.toUInt16 * 256 + ip.b.toUInt16, ip.c.toUInt16 * 256 + ip.d.toUInt16]

/-! ## Writing -/

/-- The first of the longest runs of zeros: where it starts and how long it is. -/
def longestZeros : List UInt16 → Nat × Nat
  | [] => (0, 0)
  | g :: gs =>
    let here := ((g :: gs).takeWhile (· = 0)).length
    let later := longestZeros gs
    if later.2 ≤ here then (0, here) else (later.1 + 1, later.2)

/-- Groups with colons between them. -/
def groupChars (gs : List UInt16) : List Char :=
  [':'].intercalate (gs.map fun g => Nat.toDigits 16 g.toNat)

/-- The IPv4 address that an address maps. -/
def mapped? (ip : Ipv6) : Option Ipv4 :=
  match ip.groups with
  | [0, 0, 0, 0, 0, 0xFFFF, g, h] =>
    some ⟨(g / 256).toUInt8, g.toUInt8, (h / 256).toUInt8, h.toUInt8⟩
  | _ => none

/-- The characters of an address. -/
def toChars (ip : Ipv6) : List Char :=
  match ip.mapped? with
  | some ip => [':', ':', 'f', 'f', 'f', 'f', ':'] ++ ip.toChars
  | none =>
    let run := longestZeros ip.groups
    if 1 < run.2 then
      groupChars (ip.groups.take run.1) ++ [':', ':'] ++
        groupChars (ip.groups.drop (run.1 + run.2))
    else groupChars ip.groups

/-- The text of an address. -/
def toText (ip : Ipv6) : String :=
  String.ofList ip.toChars

/-! ## Reading -/

/-- A group: one to four hexadecimal digits. -/
def group? (cs : List Char) : Option UInt16 :=
  if cs = [] ∨ 4 < cs.length then none
  else (cs.mapM Text.hexDigit?).map fun ds => UInt16.ofNat (ds.foldl (fun n d => n * 16 + d) 0)

/-- The groups of a row of parts, where the last part may be an IPv4 address if `dotted`. -/
def partsGroups? (dotted : Bool) : List (List Char) → Option (List UInt16)
  | [] => some []
  | [cs] =>
    match if dotted then Ipv4.ofChars? cs else none with
    | some ip => some (groupsOfIpv4 ip)
    | none => (group? cs).map ([·])
  | cs :: parts => do
    let g ← group? cs
    let gs ← partsGroups? dotted parts
    return g :: gs

/-- The groups on one side of `::`, which may be none. -/
def side? (dotted : Bool) (cs : List Char) : Option (List UInt16) :=
  if cs = [] then some [] else partsGroups? dotted (cs.splitOn ':')

/-- What stands before and after the first `::`. -/
def splitGap : List Char → Option (List Char × List Char)
  | ':' :: ':' :: cs => some ([], cs)
  | [] => none
  | c :: cs => (splitGap cs).map fun s => (c :: s.1, s.2)

/-- The address that characters denote. -/
def ofChars? (cs : List Char) : Option Ipv6 :=
  match splitGap cs with
  | none => do
    let gs ← side? true cs
    if h : gs.length = 8 then some ⟨gs, h⟩ else none
  | some (front, back) => do
    let head ← side? false front
    let tail ← side? true back
    if h : head.length + tail.length < 8 then
      some ⟨head ++ List.replicate (8 - (head.length + tail.length)) 0 ++ tail, by
        simp only [List.length_append, List.length_replicate]; omega⟩
    else none

/-- The address that a text denotes. -/
def ofText? (s : String) : Option Ipv6 :=
  ofChars? s.toList

end Ipv6

end VpnGateway
