import HandlerWiring.FileSystem.Path

/-!
# File systems

A file system holds directories and files at locations below its root. Paths are walked from the
root or from the working directory, piece by piece; every piece but the last has to lead to a
directory. Files are read and written as texts. What fails leaves the file system as it was, except
that directories made on the way to one that cannot be made remain.
-/

namespace HandlerWiring

/-- Where something is: the names on the way from the root, the innermost first. -/
abbrev Route := List String

/-- Why a file could not be used. -/
inductive FileFault where
  | notFound
  | alreadyExists
  | notADirectory
  | isADirectory
  | nameTooLong
  /-- A path holds the character NUL. -/
  | nulInName
  /-- The bytes of a file are no text. -/
  | notText
  /-- Anything else the system reports. -/
  | other (report : String)
deriving DecidableEq, Repr

/-- The report of a fault. -/
def FileFault.message : FileFault → String
  | .notFound => "No such file or directory (os error 2)"
  | .alreadyExists => "File exists (os error 17)"
  | .notADirectory => "Not a directory (os error 20)"
  | .isADirectory => "Is a directory (os error 21)"
  | .nameTooLong => "File name too long (os error 36)"
  | .nulInName => "file name contained an unexpected NUL byte"
  | .notText => "stream did not contain valid UTF-8"
  | .other report => report

/-- What is at a location. -/
inductive Entry where
  | directory
  | text (content : String)
  /-- A file whose bytes are no text. -/
  | binary
deriving DecidableEq, Repr

/-- A file system and the working directory. -/
structure FileSystem where
  /-- What is below the root. -/
  entries : List (Route × Entry)
  working : Route
deriving DecidableEq, Repr

namespace FileSystem

/-- What is at a location. The root is a directory. -/
def get? (fs : FileSystem) : Route → Option Entry
  | [] => some .directory
  | route => (fs.entries.find? (·.1 = route)).map (·.2)

/-- Entries with one written: in place of the one at that location, or behind all others. -/
def putEntry (route : Route) (entry : Entry) :
    List (Route × Entry) → List (Route × Entry)
  | [] => [(route, entry)]
  | (r, e) :: rest =>
    if r = route then (route, entry) :: rest else (r, e) :: putEntry route entry rest

/-- The file system with an entry written. -/
def put (fs : FileSystem) (route : Route) (entry : Entry) : FileSystem :=
  { fs with entries := putEntry route entry fs.entries }

/-! ## Walking -/

/-- The number of bytes that a name may have. -/
def nameLimit : Nat := 255

/-- The number of bytes from which on a path is too long. -/
def pathLimit : Nat := 4096

/-- Go one piece on from a directory, into another directory. -/
def enter (fs : FileSystem) (here : Route) (piece : String) :
    Except FileFault Route :=
  if Path.isIdle piece then .ok here
  else if piece = ".." then .ok here.tail
  else if nameLimit < piece.utf8ByteSize then .error .nameTooLong
  else match fs.get? (piece :: here) with
    | none => .error .notFound
    | some .directory => .ok (piece :: here)
    | some _ => .error .notADirectory

/-- Go on from a directory, piece by piece. -/
def walk (fs : FileSystem) : Route → List String → Except FileFault Route
  | here, [] => .ok here
  | here, piece :: rest => do
    let here ← fs.enter here piece
    fs.walk here rest

/-- What a path leads to. -/
inductive Target where
  /-- A directory, by dots or as the root. -/
  | directory (route : Route)
  /-- A name in a directory, whether it exists or not. -/
  | named (directory : Route) (name : String) (slashed : Bool)
deriving DecidableEq, Repr

/-- Pieces, the last one first, cut into the last that is not empty and those before it. -/
def lastPiece? : List String → Option (String × List String)
  | [] => none
  | piece :: rest => if piece.isEmpty then lastPiece? rest else some (piece, rest)

/-- Walk a path up to its last piece. -/
def resolve (fs : FileSystem) (p : Path) : Except FileFault Target :=
  if p.text.toList.contains '\x00' then .error .nulInName
  else if p.text.isEmpty then .error .notFound
  else if pathLimit ≤ p.text.utf8ByteSize then .error .nameTooLong
  else
    let start := if p.isAbsolute then [] else fs.working
    match lastPiece? p.pieces.reverse with
    | none => .ok (.directory start)
    | some (last, before) => do
      let here ← fs.walk start before.reverse
      if last = "." ∨ last = ".." then .directory <$> fs.enter here last
      else if nameLimit < last.utf8ByteSize then .error .nameTooLong
      else .ok (.named here last p.endsInSlash)

/-! ## Operations -/

/-- Read a file. -/
def read (fs : FileSystem) (p : Path) : Except FileFault String := do
  match ← fs.resolve p with
  | .directory _ => .error .isADirectory
  | .named here name slashed =>
    match fs.get? (name :: here) with
    | none => .error .notFound
    | some .directory => .error .isADirectory
    | some entry =>
      if slashed then .error .notADirectory
      else match entry with
        | .text content => .ok content
        | _ => .error .notText

/-- Whether a path leads to a directory. -/
def isDirectory (fs : FileSystem) (p : Path) : Bool :=
  match fs.resolve p with
  | .ok (.directory _) => true
  | .ok (.named here name _) => fs.get? (name :: here) == some .directory
  | .error _ => false

/-- Make a directory in one that exists. -/
def makeDirectory (fs : FileSystem) (p : Path) : Except FileFault FileSystem := do
  match ← fs.resolve p with
  | .directory _ => .error .alreadyExists
  | .named here name _ =>
    match fs.get? (name :: here) with
    | some _ => .error .alreadyExists
    | none => .ok (fs.put (name :: here) .directory)

/-- Make a directory, which may be there already. -/
def ensureDirectory (fs : FileSystem) (p : Path) : Except FileFault FileSystem :=
  match fs.makeDirectory p with
  | .ok fs => .ok fs
  | .error fault => if fs.isDirectory p then .ok fs else .error fault

/-- Make the first directory of a list, and before it, if it has no place yet, those behind it in
the list. What was made remains even if the first one cannot be made. -/
def makeLineage (fs : FileSystem) : List Path → Except FileFault Unit × FileSystem
  | [] => (.ok (), fs)
  | p :: parents =>
    match fs.makeDirectory p with
    | .ok fs => (.ok (), fs)
    | .error .notFound =>
      match fs.makeLineage parents with
      | (.error fault, fs) => (.error fault, fs)
      | (.ok (), fs) =>
        match fs.ensureDirectory p with
        | .ok fs => (.ok (), fs)
        | .error fault => (.error fault, fs)
    | .error fault => (if fs.isDirectory p then .ok () else .error fault, fs)

/-- Make a directory and those above it that are missing. -/
def makeDirectories (fs : FileSystem) (p : Path) : Except FileFault Unit × FileSystem :=
  fs.makeLineage p.lineage

/-- Write a file, in place of what it held. -/
def write (fs : FileSystem) (p : Path) (content : String) : Except FileFault FileSystem := do
  match ← fs.resolve p with
  | .directory _ => .error .isADirectory
  | .named here name slashed =>
    if slashed || fs.get? (name :: here) == some .directory then .error .isADirectory
    else .ok (fs.put (name :: here) (.text content))

end FileSystem

end HandlerWiring
