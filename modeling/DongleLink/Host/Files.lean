import DongleLink.IoFault
import DongleLink.Text.Split

/-!
# DongleLink.Host.Files

The files of a machine: directories and byte contents by their place, and the
walk from a path text to a place.  A path is followed name by name, so a file in
the middle, a missing directory and a name that is too long are all found where
the system finds them.
-/

namespace DongleLink.Host

/-- The names from the root to a file or directory. -/
abbrev Place := List String

/-- What is at a place. -/
inductive Node where
  | file (contents : List UInt8)
  | directory
  /-- a device that takes everything and gives nothing -/
  | sink
  /-- a device that never has room and gives nothing -/
  | fullDevice
  deriving DecidableEq, Repr

/-- The files of a machine; the root is always there. -/
structure Files where
  nodes : List (Place × Node) := []
  deriving DecidableEq, Repr, Inhabited

/-! ## The system's numbers for faults -/

def noSuchFile : IoFault := .system 2

def fileExists : IoFault := .system 17

def notADirectory : IoFault := .system 20

def isADirectory : IoFault := .system 21

def noSpaceLeft : IoFault := .system 28

def nameTooLong : IoFault := .system 36

/-- The fault of a path with a character that no path can hold. -/
def badPath : IoFault :=
  .described .invalidInput "file name contained an unexpected NUL byte"

namespace Files

/-! ## Places -/

/-- What is at a place. -/
def at? (f : Files) (place : Place) : Option Node :=
  if place = [] then some .directory else f.nodes.lookup place

/-- Put something at a place. -/
def put (f : Files) (place : Place) (node : Node) : Files :=
  { f with nodes := (place, node) :: f.nodes.filter (·.1 ≠ place) }

/-! ## Paths -/

/-- The pieces of a path text between its slashes. -/
def piecesOf (path : String) : List String :=
  (Text.segments '/' path.toList).map String.ofList

/-- The names of a path text. -/
def namesOf (path : String) : List String :=
  (piecesOf path).filter fun name => name ≠ "" && name ≠ "."

/-- Where the walk along a path ends. -/
inductive Walk where
  | found (place : Place) (node : Node)
  /-- only the last name is missing, from a directory that is there -/
  | missing (place : Place)
  | fault (f : IoFault)
  deriving DecidableEq, Repr

/-- Follow names from a directory. -/
def follow (f : Files) (place : Place) : List String → Walk
  | [] =>
    match f.at? place with
    | some node => .found place node
    | none => .fault noSuchFile
  | name :: rest =>
    match f.at? place with
    | none => .fault noSuchFile
    | some .directory =>
      if name = ".." then follow f place.dropLast rest
      else if 255 < name.utf8ByteSize then .fault nameTooLong
      else
        match f.at? (place ++ [name]), rest with
        | none, [] => .missing (place ++ [name])
        | _, _ => follow f (place ++ [name]) rest
    | some _ => .fault notADirectory

/-- What is wrong with a path text before it is followed. -/
def pathFault? (path : String) : Option IoFault :=
  if path.isEmpty then some noSuchFile
  else if path.contains '\x00' then some badPath
  else if 4096 ≤ path.utf8ByteSize then some nameTooLong
  else none

/-- The directory where a path text begins. -/
def origin (cwd : Place) (path : String) : Place := if path.startsWith "/" then [] else cwd

/-- Follow a path text from the working directory.  Only a directory can have a
slash after its name. -/
def walk (f : Files) (cwd : Place) (path : String) : Walk :=
  match pathFault? path with
  | some e => .fault e
  | none =>
    match follow f (origin cwd path) (namesOf path) with
    | .found place .directory => .found place .directory
    | .found place node =>
      if path.endsWith "/" || path.endsWith "/." then .fault notADirectory
      else .found place node
    | other => other

/-! ## Reading -/

/-- Whether a path leads to a file or directory. -/
def exists? (f : Files) (cwd : Place) (path : String) : Bool :=
  match f.walk cwd path with
  | .found _ _ => true
  | _ => false

/-- The contents of a file. -/
def read (f : Files) (cwd : Place) (path : String) : Except IoFault (List UInt8) :=
  match f.walk cwd path with
  | .found _ (.file contents) => .ok contents
  | .found _ .directory => .error isADirectory
  | .found _ .sink | .found _ .fullDevice => .ok []
  | .missing _ => .error noSuchFile
  | .fault e => .error e

/-- The number of the fault that using a path as a serial line meets: none of the
files is one. -/
def lineFault (f : Files) (cwd : Place) (path : String) : Nat :=
  match f.walk cwd path with
  | .found _ .directory => 21
  | .found _ _ => 25
  | .missing _ => 2
  | .fault (.system number) => number
  | .fault _ => 22

/-! ## Writing -/

/- Only what a configuration needs: a file is written as a whole, and directories are made on the
way to it.  The walk is done again for every step, since what was made before changes it. -/

/-- The place where a path text puts a file.  The way there goes through
directories only, and the last name is that of a file: no dots, and no slash
after it. -/
def target (f : Files) (cwd : Place) (path : String) : Except IoFault Place :=
  match pathFault? path with
  | some e => .error e
  | none =>
    let names := (piecesOf path).filter (· ≠ "")
    match names.getLast? with
    | none => .error isADirectory
    | some name =>
      match follow f (origin cwd path) (names.dropLast.filter (· ≠ ".")) with
      | .found place .directory =>
        if name = "." ∨ name = ".." ∨ path.endsWith "/" then .error isADirectory
        else if 255 < name.utf8ByteSize then .error nameTooLong
        else .ok (place ++ [name])
      | .found _ _ => .error notADirectory
      | .missing _ => .error noSuchFile
      | .fault e => .error e

/-- Give a file new contents, and make it if it is not there. -/
def write (f : Files) (cwd : Place) (path : String) (contents : List UInt8) :
    Except IoFault Files :=
  match f.target cwd path with
  | .error e => .error e
  | .ok place =>
    match f.at? place with
    | some .directory => .error isADirectory
    | some .sink => .ok f
    | some .fullDevice => if contents.isEmpty then .ok f else .error noSpaceLeft
    | some (.file _) | none => .ok (f.put place (.file contents))

/-- The path of the directory that a path is in; none for the root. -/
def parent? (path : String) : Option String :=
  match namesOf path with
  | [] => if path.startsWith "/" || path.isEmpty then none else some ""
  | names =>
    let inner := String.intercalate "/" names.dropLast
    some (if path.startsWith "/" then "/" ++ inner else inner)

/-- Make a directory that is in one that is there; nothing is done if it is there
itself. -/
def makeLast (f : Files) (cwd : Place) (path : String) : Except IoFault Files :=
  match f.walk cwd path with
  | .found _ .directory => .ok f
  | .found _ _ => .error fileExists
  | .missing place => .ok (f.put place .directory)
  | .fault e => .error e

/-- Make a directory and the directories it is in, as many as are missing; `fuel`
bounds how many those can be.  What was made stays if the rest cannot be. -/
def makeDirectoryWithin (cwd : Place) : Nat → String → Files → Except IoFault Unit × Files
  | 0, _, f => (.error noSuchFile, f)
  | fuel + 1, path, f =>
    if path.isEmpty then (.ok (), f)
    else
      match f.makeLast cwd path with
      | .ok f => (.ok (), f)
      | .error e =>
        if e ≠ noSuchFile then (.error e, f)
        else
          match parent? path with
          | none => (.error e, f)
          | some above =>
            match makeDirectoryWithin cwd fuel above f with
            | (.error e, f) => (.error e, f)
            | (.ok (), f) =>
              match f.makeLast cwd path with
              | .ok f => (.ok (), f)
              | .error e => (.error e, f)

/-- Make a directory and the directories it is in, as many as are missing. -/
def makeDirectory (f : Files) (cwd : Place) (path : String) : Except IoFault Unit × Files :=
  makeDirectoryWithin cwd ((namesOf path).length + 2) path f

/-- Make the directory that a path is in, if it is missing. -/
def makeParent (f : Files) (cwd : Place) (path : String) : Except IoFault Unit × Files :=
  match parent? path with
  | none => (.ok (), f)
  | some directory => f.makeDirectory cwd directory

/-! ## What every machine has -/

/-- The directories that every machine has. -/
def standardDirectories : List String :=
  ["bin", "boot", "dev", "etc", "home", "lib", "lib64", "media", "mnt", "opt", "proc", "root",
    "run", "sbin", "srv", "sys", "tmp", "usr", "var", "dev/pts", "dev/shm", "usr/bin", "usr/lib",
    "usr/local", "usr/sbin", "usr/share", "var/lib", "var/log", "var/tmp"]

/-- The devices that every machine has and that are no serial lines. -/
def standardDevices : List (String × Node) :=
  [("dev/full", .fullDevice), ("dev/null", .sink), ("dev/random", .sink), ("dev/urandom", .sink),
    ("dev/zero", .sink)]

/-- Files that every machine has, with the lines they have in common. -/
def standardFiles : List (String × String) :=
  [("etc/hostname", "localhost\n"), ("etc/hosts", "127.0.0.1 localhost\n"),
    ("etc/passwd", "root:x:0:0:root:/root:/bin/sh\n")]

/-- The files of a machine on which nothing has been put yet. -/
def standard : Files where
  nodes := standardDirectories.map (fun path => (namesOf path, .directory))
    ++ standardDevices.map (fun (path, node) => (namesOf path, node))
    ++ standardFiles.map fun (path, text) => (namesOf path, .file text.toUTF8.data.toList)

end Files

end DongleLink.Host
