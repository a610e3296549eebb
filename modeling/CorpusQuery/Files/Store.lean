import CorpusQuery.Document
import CorpusQuery.Files.Location
import CorpusQuery.Segments

/-!
# Files

A store of text files in directories, with a working directory from which relative paths start.
Opening a path is refused for one reason at a time, in the order in which its names are followed.
Plans, ignore clauses and settings are saved to files and loaded from them.
-/

namespace CorpusQuery

/-- Places are lists of names from the root on; the root is always a directory. -/
structure Store where
  home : List String
  directories : List (List String)
  files : List (List String × String)

namespace Store

/-- A store that holds no file, with an empty working directory. -/
def scratch : Store where
  home := ["tmp", "scratch"]
  directories := [["tmp"], ["tmp", "scratch"]]
  files := []

def isDirectory (s : Store) (place : List String) : Bool :=
  place.isEmpty || s.directories.contains place

/-! ## Following paths -/

/-- Whether no entry of a directory can have the name. -/
def isTooLong (name : String) : Bool :=
  255 < name.utf8ByteSize

/-- Goes into a directory, where a dot stays and two dots go up. -/
def enter (s : Store) (here : List String) (name : String) : Except Refusal (List String) :=
  if name = "." then .ok here
  else if name = ".." then .ok here.dropLast
  else if isTooLong name then .error .nameTooLong
  else if s.isDirectory (here ++ [name]) then .ok (here ++ [name])
  else if (s.files.lookup (here ++ [name])).isSome then .error .notADirectory
  else .error .missing

/-- Where a path leads: into a directory, or to a name in one, which a slash may follow. -/
inductive Target where
  | directory (place : List String)
  | entry (here : List String) (name : String) (slash : Bool)

def follow (s : Store) (path : String) : Except Refusal Target := do
  if path.contains '\x00' then
    throw .nulInName
  if path.isEmpty then
    throw .missing
  if 4096 ≤ path.utf8ByteSize then
    throw .nameTooLong
  let ps := (Segments.between '/' path.toList).map String.ofList
  let names := ps.filter (!·.isEmpty)
  let start := if Location.isAbsolute path then [] else s.home
  let here ← names.dropLast.foldlM s.enter start
  match names.getLast? with
  | none => return .directory here
  | some name =>
    if name = "." ∨ name = ".." then
      return .directory (← s.enter here name)
    else
      return .entry here name (ps.getLast? == some "")

/-- The text of a file, or `none` for a directory, which can be opened but has no text. -/
def read (s : Store) (path : String) : Except Refusal (Option String) := do
  match ← s.follow path with
  | .directory _ => return none
  | .entry here name slash =>
    if isTooLong name then
      throw .nameTooLong
    if s.isDirectory (here ++ [name]) then
      return none
    match s.files.lookup (here ++ [name]) with
    | none => throw .missing
    | some text => if slash then throw .notADirectory else return some text

/-- The store with this text in a file, new or not. -/
def write (s : Store) (path text : String) : Except Refusal Store := do
  match ← s.follow path with
  | .directory _ => throw .isADirectory
  | .entry here name slash =>
    let place := here ++ [name]
    if slash || s.isDirectory place then
      throw .isADirectory
    if isTooLong name then
      throw .nameTooLong
    return { s with files := (place, text) :: s.files.filter (·.1 != place) }

/-- The store with a directory and all directories above it. -/
def makeDirectories (s : Store) (path : String) : Except Refusal Store := do
  let names := ((Segments.between '/' path.toList).map String.ofList).filter (!·.isEmpty)
  let start := if Location.isAbsolute path then [] else s.home
  let (s, _) ← names.foldlM (fun ((s, here) : Store × List String) name => do
    match s.enter here name with
    | .ok there => return (s, there)
    | .error .missing =>
      return ({ s with directories := (here ++ [name]) :: s.directories }, here ++ [name])
    | .error e => throw e) (s, start)
  return s

def isFile (s : Store) (path : String) : Bool :=
  match s.read path with
  | .ok (some _) => true
  | _ => false

/-- Whether a path leads anywhere. -/
def contains (s : Store) (path : String) : Bool :=
  (s.read path).isOk

/-! ## Saving and loading -/

def save (s : Store) (c : Settings) (name : String) (d : Document) : Except Error Store :=
  let path := Location.forWriting c.workdir name
  (s.write path (d.text c.layout)).mapError (.inaccessible .writing path)

/-- The text of a file, which messages name as it was asked for; `settings` tells what it should
hold. -/
def load (s : Store) (workdir : Option String) (name : String) (settings : Bool) :
    Except Error String := do
  let path := Location.forReading s.isFile workdir name
  match ← (s.read path).mapError (.inaccessible .reading path) with
  | some text => return text
  | none => throw (.unreadable (.file name) settings .noText)

def loadPlan (s : Store) (c : Settings) (name : String) : Except Error Plan := do
  Plan.parse (.file name) (← s.load c.workdir name false)

def loadIgnore (s : Store) (c : Settings) (name : String) : Except Error Plan.Ignore := do
  Plan.Ignore.parse (.file name) (← s.load c.workdir name false)

/-- Settings are loaded without a working directory, as they are what sets it. -/
def loadSettings (s : Store) (name : String) : Except Error Settings := do
  Settings.parse (.file name) (← s.load none name true)

end Store

end CorpusQuery
