import DeepLink.Text.Split
import DeepLink.Text.Utf8

/-!
Trees of files and directories, and the reading of a file as text. A path is a list of names with
slashes between them.
-/

namespace DeepLink.Files

inductive Node where
  | file (content : List UInt8)
  | directory (entries : List (String × Node))
deriving Inhabited

inductive Fault where
  | notFound | isDirectory | notDirectory | nameTooLong | notUtf8 | nul
  | other (text : String)
deriving DecidableEq, Repr

def Fault.message : Fault → String
  | notFound => "No such file or directory (os error 2)"
  | isDirectory => "Is a directory (os error 21)"
  | notDirectory => "Not a directory (os error 20)"
  | nameTooLong => "File name too long (os error 36)"
  | notUtf8 => "stream did not contain valid UTF-8"
  | nul => "file name contained an unexpected NUL byte"
  | other text => text

def components (path : String) : List String :=
  ((Text.split '/' path.toList).filter fun name => name ≠ [] ∧ name ≠ ['.']).map String.ofList

def entry? (name : String) (entries : List (String × Node)) : Option Node :=
  (entries.find? (·.1 = name)).map (·.2)

def pathLimit : Nat := 4095

def nameLimit : Nat := 255

/-- The node under some names. `above` holds the directories above it, for `..`. -/
def Node.find (above : List Node) (node : Node) : List String → Except Fault Node
  | [] => .ok node
  | name :: rest =>
    match node with
    | .file _ => .error .notDirectory
    | .directory entries =>
      if name = ".." then
        match above with
        | [] => node.find [] rest
        | parent :: above => parent.find above rest
      else if nameLimit < name.utf8ByteSize then .error .nameTooLong
      else match entry? name entries with
        | none => .error .notFound
        | some child => child.find (node :: above) rest

def wantsDirectory (path : String) : Bool :=
  (Text.split '/' path.toList).getLast?.any fun name => name = [] || name = ['.']

def Node.read (root : Node) (path : String) : Except Fault String :=
  if path.toList.contains '\x00' then .error .nul
  else if pathLimit < path.utf8ByteSize then .error .nameTooLong
  else match root.find [] (components path) with
    | .error fault => .error fault
    | .ok (.directory _) => .error .isDirectory
    | .ok (.file content) =>
      if wantsDirectory path then .error .notDirectory
      else match Utf8.decode? content with
        | some text => .ok (String.ofList text)
        | none => .error .notUtf8

def replace (old : Option Node) (new : Node) : Node :=
  match old, new with
  | some (.directory es), .directory [] => .directory es
  | _, _ => new

def put (new : Node) : List String → List (String × Node) → List (String × Node)
  | [], entries => entries
  | [name], entries =>
    let old := entry? name entries
    entries.filter (·.1 ≠ name) ++ [(name, replace old new)]
  | name :: rest, entries =>
    let below := match entry? name entries with
      | some (.directory es) => es
      | _ => []
    entries.filter (·.1 ≠ name) ++ [(name, .directory (put new rest below))]

def Node.ofList (files : List (String × Node)) : Node :=
  .directory (files.foldl (fun entries (path, node) => put node (components path) entries) [])

def join (dir name : String) : String :=
  if dir = "" ∨ name.toList.head? = some '/' then name else dir ++ "/" ++ name

end DeepLink.Files
