import BuildTriage.KnowledgeBase.CauseTable

/-!
# The files that the program works on

A directory holds files under paths. A path leads to a file, to a folder, or to nothing; a
part of a path that says "here" does not count.
-/

namespace BuildTriage

/-- What a file holds. -/
inductive FileContent where
  /-- A text. -/
  | text (text : String)
  /-- The tables of a knowledge base. -/
  | tables (tables : CauseTable)
  /-- Something that is no text. -/
  | bytes
  deriving DecidableEq, Repr

/-- Files under the parts of their paths. -/
structure Directory where
  /-- The files. -/
  files : List (List String × FileContent)
  /-- Folders, beside those that files are in. -/
  folders : List (List String)
  deriving DecidableEq, Repr

/-- What a path leads to. -/
inductive Place where
  /-- A file. -/
  | file (content : FileContent)
  /-- A folder. -/
  | folder
  /-- Nothing. -/
  | nothing
  /-- Nothing, as it goes on beyond a file. -/
  | beyondFile
  deriving DecidableEq, Repr

/-- The part that an absolute path begins with. -/
def rootPart : String := "/"

/-- The parts of a path. -/
def pathParts (path : String) : List String :=
  (if path.startsWith "/" then [rootPart] else []) ++
    (path.splitOn "/").filter fun part => part != "" && part != "."

/-- Why a path that leads to nothing cannot be opened. -/
def noSuchFile : String := "No such file or directory (os error 2)"

/-- Why a path that goes on beyond a file cannot be opened. -/
def notADirectory : String := "Not a directory (os error 20)"

namespace Directory

/-- A directory without files. -/
def empty : Directory := ⟨[], []⟩

/-- A directory of texts. -/
def ofTexts (texts : List (String × String)) : Directory :=
  ⟨texts.map fun (path, text) => (pathParts path, .text text), []⟩

/-- Whether a list of parts leads to a folder. -/
def isFolder (d : Directory) (parts : List String) : Bool :=
  parts == [] || parts == [rootPart] || d.folders.contains parts ||
    d.files.any fun (file, _) => parts.isPrefixOf file

/-- The place of a list of parts. -/
def placeOf (d : Directory) (parts : List String) : Place :=
  match d.files.lookup parts with
  | some content => .file content
  | none =>
    if d.isFolder parts then .folder
    else if d.files.any fun (file, _) => file.isPrefixOf parts then .beyondFile
    else .nothing

/-- What a path leads to. -/
def place (d : Directory) (path : String) : Place :=
  if path.isEmpty then .nothing
  else match d.placeOf (pathParts path) with
    | .file content => if path.endsWith "/" then .beyondFile else .file content
    | other => other

/-- The text of a file, or why it cannot be read. -/
def readText (d : Directory) (path : String) : Except String String :=
  match d.place path with
  | .file (.text text) => .ok text
  | .file _ => .error "stream did not contain valid UTF-8"
  | .folder => .error "Is a directory (os error 21)"
  | .nothing => .error noSuchFile
  | .beyondFile => .error notADirectory

/-- Why no file can be made at a path, if none can. -/
def barrier (d : Directory) (path : String) : Option String :=
  if path.isEmpty then some noSuchFile
  else match d.placeOf (pathParts path).dropLast with
    | .folder => none
    | .nothing => some noSuchFile
    | _ => some notADirectory

/-- The directory with a file at a path. -/
def put (d : Directory) (path : String) (content : FileContent) : Directory :=
  let parts := pathParts path
  { d with files := d.files.filter (·.1 != parts) ++ [(parts, content)] }

/-- The directory with a folder. -/
def addFolder (d : Directory) (parts : List String) : Directory :=
  { d with folders := parts :: d.folders }

end Directory

end BuildTriage
