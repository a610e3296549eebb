/-!
# Where a file name leads

A file name may start with the scheme `file://`, and a relative one may be meant within a working
directory. For reading, the working directory counts only if it holds such a file; for writing it
always does, and then the name is taken as it stands, scheme included.
-/

namespace CorpusQuery.Location

def isAbsolute (path : String) : Bool :=
  path.toList.head? == some '/'

def scheme : List Char := ['f', 'i', 'l', 'e', ':', '/', '/']

/-- The name without its scheme. -/
def stripScheme (name : String) : String :=
  if scheme.isPrefixOf name.toList then String.ofList (name.toList.drop scheme.length) else name

/-- A path within a directory; an absolute path leads where it leads from everywhere. -/
def join (dir path : String) : String :=
  if isAbsolute path then path
  else if dir.isEmpty || dir.toList.getLast? == some '/' then dir ++ path
  else dir ++ "/" ++ path

/-- The path that is read, where `isFile` tells which paths are files. -/
def forReading (isFile : String → Bool) (workdir : Option String) (name : String) : String :=
  let path := stripScheme name
  match workdir with
  | none => path
  | some dir =>
    if !isAbsolute path && isFile (join dir path) then join dir path else path

/-- The path that is written. -/
def forWriting (workdir : Option String) (name : String) : String :=
  match workdir with
  | none => stripScheme name
  | some dir => if isAbsolute name then stripScheme name else join dir name

end CorpusQuery.Location
