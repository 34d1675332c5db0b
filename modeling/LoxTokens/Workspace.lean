import LoxTokens.Output.Failure

/-! Files for runs that have no others, and what becomes of the paths that name none of them. -/

namespace LoxTokens

/-- Files by the names on the way to them, and directories that need hold no file. -/
structure Workspace where
  files : List (List String × List UInt8) := []
  directories : List (List String) := []

namespace Workspace

/-- The parts of a path; an empty one stands where a separator has nothing before it. -/
def components (path : String) : List String := path.splitOn "/"

/-- The names that lead from the root of the workspace to where a path ends. -/
def names (path : String) : List String :=
  (components path).foldl (fun place name =>
    if name = "" ∨ name = "." then place
    else if name = ".." then place.dropLast
    else place ++ [name]) []

/-- The workspace with one more file, in front of any other of the same path. -/
def addFile (workspace : Workspace) (path : String) (content : List UInt8) : Workspace :=
  { workspace with files := (names path, content) :: workspace.files }

/-- Whether some names lead to a directory: the root, a listed one, or one that holds a file. -/
def hasDirectory (workspace : Workspace) (place : List String) : Bool :=
  place.isEmpty || workspace.directories.any (place.isPrefixOf ·) ||
    workspace.files.any fun file => place.isPrefixOf file.1 && place.length < file.1.length

/-- The content of the file that some names lead to. -/
def file? (workspace : Workspace) (place : List String) : Option (List UInt8) :=
  (workspace.files.find? (·.1 = place)).map (·.2)

/-- Where a path has led: to a directory inside the workspace, to one outside, or to a file. -/
inductive Place
  | inside (place : List String)
  | outside
  | file (content : List UInt8)

/-- Where the next component of a path leads. -/
def enter (workspace : Workspace) (place : Place) (name : String) : Except Failure Place :=
  match place with
  | .file _ => .error .notDirectory
  | .outside =>
    if name = "" ∨ name = "." ∨ name = ".." then .ok .outside
    else if 255 < name.utf8ByteSize then .error .nameTooLong
    else .error .notFound
  | .inside place =>
    if name = "" ∨ name = "." then .ok (.inside place)
    else if name = ".." then
      .ok (if place.isEmpty then .outside else .inside place.dropLast)
    else if 255 < name.utf8ByteSize then .error .nameTooLong
    else
      let further := place ++ [name]
      match workspace.file? further with
      | some content => .ok (.file content)
      | none => if workspace.hasDirectory further then .ok (.inside further) else .error .notFound

/-- The content of the file at a path, or why it cannot be read, where there are no other files. -/
def read (workspace : Workspace) (path : String) : Except Failure (List UInt8) :=
  if path.toList.contains '\x00' then .error .nulInPath
  else if path = "" then .error .notFound
  else if 4096 ≤ path.utf8ByteSize then .error .nameTooLong
  else
    let start := if path.startsWith "/" then Place.outside else Place.inside []
    match (components path).foldlM workspace.enter start with
    | .error failure => .error failure
    | .ok (.file content) => .ok content
    | .ok _ => .error .isDirectory

end Workspace

end LoxTokens
