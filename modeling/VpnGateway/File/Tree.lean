import VpnGateway.File.Status

/-!
# File trees

A tree of files, directories and symbolic links below a working directory. Outside of it there are
directories only, and nothing in them.

* `FileTree`, `FileTree.Node`;
* `FileTree.walk`: the place that a path leads to, through at most 40 links;
* `FileTree.read`: the bytes of a file, or why there are none;
* `FileTree.files`: the tree as readings see it;
* `FileTree.write`, `FileTree.makeDirectory`, `FileTree.link`, `FileTree.remove`.
-/

namespace VpnGateway

/-- What stands at a place of a tree. -/
inductive FileTree.Node
  | file (bytes : List UInt8)
  | directory
  | link (target : String)
  deriving DecidableEq, Repr

/-- The places that are taken, each as the names that lead there. -/
structure FileTree where
  nodes : List (List String × FileTree.Node)
  deriving DecidableEq, Repr

namespace FileTree

/-- A tree with nothing in it. -/
def empty : FileTree := ⟨[]⟩

/-- What stands at a place. -/
def node? (t : FileTree) (place : List String) : Option Node :=
  t.nodes.lookup place

/-- Put something at a place. -/
def put (t : FileTree) (place : List String) (node : Node) : FileTree :=
  ⟨(place, node) :: t.nodes.filter fun e => e.1 ≠ place⟩

/-- Where a path leads. -/
inductive Place
  | file (place : List String) (bytes : List UInt8)
  | directory (place : List String)
  /-- Nothing stands there, in a directory that does. -/
  | free (place : List String)
  /-- A directory outside of the tree. -/
  | outside
  deriving DecidableEq, Repr

/-- Most links that a path may lead through. -/
def maxLinks : Nat := 40

/-- Most bytes of a name. -/
def maxName : Nat := 255

/-- Most bytes of a path. -/
def maxPath : Nat := 4095

/-- The names of a path. -/
def names (path : String) : List String :=
  (path.toList.splitOn '/').map String.ofList

/-- Where names lead that step outside of the tree. -/
def walkOutside : List String → Except FileError Place
  | [] => .ok .outside
  | name :: rest =>
    if name = "" ∨ name = "." ∨ name = ".." then walkOutside rest
    else if maxName < name.utf8ByteSize then .error .nameTooLong
    else .error .notFound

/-- Where `names` lead from the directory `place`, through at most `links` links. -/
def walk (t : FileTree) (links : Nat) (place : List String) :
    List String → Except FileError Place
  | [] => .ok (.directory place)
  | name :: rest =>
    if name = "" ∨ name = "." then walk t links place rest
    else if name = ".." then
      if place = [] then walkOutside rest else walk t links place.dropLast rest
    else if maxName < name.utf8ByteSize then .error .nameTooLong
    else match t.node? (place ++ [name]) with
      | none => if rest = [] then .ok (.free (place ++ [name])) else .error .notFound
      | some .directory => walk t links (place ++ [name]) rest
      | some (.file bytes) =>
        if rest = [] then .ok (.file (place ++ [name]) bytes) else .error .notADirectory
      | some (.link target) =>
        match links with
        | 0 => .error .tooManyLinks
        | links + 1 =>
          if target.toList.head? = some '/' then walkOutside (names target ++ rest)
          else walk t links place (names target ++ rest)
termination_by names => (links, names.length)

/-- Where a path leads. -/
def locate (t : FileTree) (path : String) : Except FileError Place :=
  if '\x00' ∈ path.toList then .error .nulInName
  else if path = "" then .error .notFound
  else if maxPath < path.utf8ByteSize then .error .nameTooLong
  else if path.toList.head? = some '/' then walkOutside (names path)
  else walk t maxLinks [] (names path)

/-- The bytes of the file at a path. -/
def read (t : FileTree) (path : String) : Except FileError (List UInt8) :=
  match t.locate path with
  | .error e => .error e
  | .ok (.file _ bytes) => .ok bytes
  | .ok (.directory _) => .error .isADirectory
  | .ok .outside => .error .isADirectory
  | .ok (.free _) => .error .notFound

/-- The tree as readings see it. -/
def files (t : FileTree) : Files := fun path =>
  match t.read path with
  | .ok bytes => .content bytes
  | .error _ => .absent

/-! ## Changes -/

/-- Make the directories that `names` lead through from `place`. -/
def makePath (t : FileTree) (place : List String) : List String → FileTree
  | [] => t
  | name :: rest =>
    match t.walk maxLinks place [name] with
    | .ok (.directory place) => makePath t place rest
    | .ok (.free place) => makePath (t.put place .directory) place rest
    | _ => t

/-- Make the directory at a path, and those above it. -/
def makeDirectory (t : FileTree) (path : String) : FileTree :=
  t.makePath [] (names path)

/-- Make the directories above a path. -/
def makeParents (t : FileTree) (path : String) : FileTree :=
  t.makePath [] (names path).dropLast

/-- Write a file, and make the directories above it. -/
def write (t : FileTree) (path : String) (bytes : List UInt8) : FileTree :=
  let t := t.makeParents path
  match t.locate path with
  | .ok (.file place _) => t.put place (.file bytes)
  | .ok (.free place) => t.put place (.file bytes)
  | _ => t

/-- The place of the last name of a path, no link in its stead. -/
def ownPlace? (t : FileTree) (path : String) : Option (List String) :=
  match t.walk maxLinks [] (names path).dropLast with
  | .ok (.directory place) => (names path).getLast?.map fun name => place ++ [name]
  | _ => none

/-- Put a link at a path, and make the directories above it. -/
def link (t : FileTree) (path target : String) : FileTree :=
  let t := t.makeParents path
  match t.ownPlace? path with
  | some place => t.put place (.link target)
  | none => t

/-- Remove what stands at a path, and what is below it. -/
def remove (t : FileTree) (path : String) : FileTree :=
  match t.ownPlace? path with
  | some place => ⟨t.nodes.filter fun e => !place.isPrefixOf e.1⟩
  | none => t

end FileTree

end VpnGateway
