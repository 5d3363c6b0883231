import VoiceMenu.Files.Basic

/-!
# Files as a value

A tree of text files that stands for the working folder of the program. Every folder
above a file exists. The working folder itself lies in the folder for temporary files.
Outside it only what every system has is known to exist: that folder, the folder of
devices, and in it the null device, which is always empty.
-/

set_option autoImplicit false

namespace VoiceMenu

/-- The text files of a folder and the folders below it, by path, and the files outside
the folder, by the path from the root. -/
structure FileTree where
  files : Table String
  others : Table String

namespace FileTree

inductive Folder where
  /-- The working folder or one below it, by the names that lead there. -/
  | inside (names : List String)
  /-- A folder outside the working folder, by the names that lead there from the root. -/
  | outside (names : List String)
  deriving DecidableEq, Repr

def Folder.temporary : Folder := .outside ["tmp"]

def Folder.names : Folder → List String
  | .inside names => names
  | .outside names => names

/-- The folder above. The root is above itself. -/
def Folder.parent : Folder → Folder
  | .inside [] => .temporary
  | .inside names => .inside names.dropLast
  | .outside names => .outside names.dropLast

def Folder.child (name : String) : Folder → Folder
  | .inside names => .inside (names ++ [name])
  | .outside names => .outside (names ++ [name])

inductive Place where
  | file (text : String)
  | folder (folder : Folder)

/-- The names between the slashes of a path. -/
def names (path : String) : List String :=
  (path.splitOn "/").filter (· != "")

def join (names : List String) : String := String.intercalate "/" names

def nullDevice : String := "dev/null"

/-- The tree of the given files. A name `.` in a path does not count. -/
def ofFiles (files : Table String) : FileTree where
  files := .ofList <| files.entries.map fun (path, text) =>
    (join ((names path).filter (· != ".")), text)
  others := Table.empty.insert nullDevice ""

/-- The folder where a path starts: the root if it begins with a slash. -/
def start (path : String) : Folder :=
  if path.startsWith "/" then .outside [] else .inside []

def side (tree : FileTree) : Folder → Table String
  | .inside _ => tree.files
  | .outside _ => tree.others

/-- Does the folder exist? Apart from that for temporary files it has to hold a file, or
one of the folders below it has. -/
def hasFolder (tree : FileTree) (folder : Folder) : Bool :=
  folder == .temporary ||
    (tree.side folder).keys.any (·.startsWith (join folder.names ++ "/"))

def lookup (tree : FileTree) (folder : Folder) (name : String) : Except FileError Place :=
  if nameBound < name.utf8ByteSize then .error .tooLong
  else
    let here := folder.child name
    match (tree.side here).get? (join here.names) with
    | some text => .ok (.file text)
    | none => if tree.hasFolder here then .ok (.folder here) else .error .missing

/-- Follows names, starting in a folder. Only the last one can stand for a file. -/
def walk (tree : FileTree) (folder : Folder) : List String → Except FileError Place
  | [] => .ok (.folder folder)
  | name :: rest =>
      if name = "." then tree.walk folder rest
      else if name = ".." then tree.walk folder.parent rest
      else
        match tree.lookup folder name with
        | .error error => .error error
        | .ok (.folder below) => tree.walk below rest
        | .ok (.file text) => if rest.isEmpty then .ok (.file text) else .error .notAFolder

/-- What a path leads to. With a slash at its end it has to be a folder. -/
def place (tree : FileTree) (path : String) : Except FileError Place :=
  match pathFault? path with
  | some fault => .error fault
  | none =>
      match tree.walk (start path) (names path) with
      | .ok (.file text) => if path.endsWith "/" then .error .notAFolder else .ok (.file text)
      | found => found

def read (tree : FileTree) (path : String) : Except FileError String :=
  match tree.place path with
  | .ok (.file text) => .ok text
  | .ok (.folder _) => .error .isFolder
  | .error error => .error error

/-- The tree with an empty file of the given name in a folder. A file that exists is left
as it is. -/
def touchIn (tree : FileTree) (folder : Folder) (name : String) : Except FileError FileTree :=
  match tree.lookup folder name with
  | .ok (.file _) => .ok tree
  | .ok (.folder _) => .error .isFolder
  | .error .missing =>
      match folder.child name with
      | .inside names => .ok { tree with files := tree.files.insert (join names) "" }
      | .outside names => .ok { tree with others := tree.others.insert (join names) "" }
  | .error error => .error error

/-- The tree with a file at the path. The folder that it is in has to exist, and a path
that ends in a slash or in a name for a folder cannot be that of a file. -/
def touch (tree : FileTree) (path : String) : Except FileError FileTree :=
  match pathFault? path with
  | some fault => .error fault
  | none =>
      match (names path).getLast? with
      | none => .error .isFolder
      | some name =>
          match tree.walk (start path) (names path).dropLast with
          | .error error => .error error
          | .ok (.file _) => .error .notAFolder
          | .ok (.folder folder) =>
              if name = "." ∨ name = ".." ∨ path.endsWith "/" then .error .isFolder
              else tree.touchIn folder name

def access : Files (StateM FileTree) where
  isPresent path := do
    let tree ← get
    pure (match tree.place path with
      | .ok _ => true
      | .error _ => false)
  read path := do
    let tree ← get
    pure (tree.read path)
  openLog path := do
    let tree ← get
    match tree.touch path with
    | .ok touched => do
        set touched
        pure (.ok ())
    | .error error => pure (.error error)

end FileTree

end VoiceMenu
