import SqlDialect.Error

/-!
# Files

* `FileAnswer` is what there is under a path: whether it is a file, and what reading it gives;
* `FileTree` is a tree of files in memory, `FileTree.find` looks up a path in it.
-/

namespace SqlDialect

/-- What there is under a path. The two parts are independent: a file may be there and not be
readable, and a device can be read and is no file. -/
structure FileAnswer where
  /-- There is a file. -/
  isFile : Bool
  /-- What reading gives. -/
  bytes : Except ReadError ByteArray

namespace FileAnswer

/-- A file that can be read. -/
def file (bytes : ByteArray) : FileAnswer := ⟨true, .ok bytes⟩

/-- A file that cannot be read. -/
def unreadable (cause : ReadError) : FileAnswer := ⟨true, .error cause⟩

/-- A directory. -/
def directory : FileAnswer := ⟨false, .error .isDirectory⟩

/-- Nothing that the path leads to. -/
def refused (cause : ReadError) : FileAnswer := ⟨false, .error cause⟩

/-- What is read, as a text. -/
def text (a : FileAnswer) : Except ReadError String := do
  match String.fromUTF8? (← a.bytes) with
  | some s => return s
  | none => throw .notUtf8

end FileAnswer

/-- Files and directories by their path from the root. A directory is also there when something is
in it. -/
structure FileTree where
  files : List (List String × ByteArray) := []
  directories : List (List String) := [[]]

namespace FileTree

/-- The longest name, in bytes. -/
def nameLimit : Nat := 255

/-- The longest path, in bytes. -/
def pathLimit : Nat := 4095

/-- There is a directory under a path of names. -/
def hasDirectory (t : FileTree) (path : List String) : Bool :=
  t.directories.any path.isPrefixOf ||
    t.files.any fun (p, _) => path.isPrefixOf p && path.length < p.length

/-- Goes on from a directory, given in reverse, along the parts of a path. -/
def walk (t : FileTree) (here : List String) : List String → FileAnswer
  | [] => .directory
  | "" :: parts => walk t here parts
  | "." :: parts => walk t here parts
  | ".." :: parts => walk t here.tail parts
  | name :: parts =>
    let there := name :: here
    if nameLimit < name.utf8ByteSize then .refused .nameTooLong
    else
      match t.files.lookup there.reverse with
      | some bytes => if parts.isEmpty then .file bytes else .refused .notDirectory
      | none =>
        if t.hasDirectory there.reverse then walk t there parts else .refused .notFound

/-- What there is under a path, seen from a working directory. -/
def find (t : FileTree) (workDir : List String) (path : String) : FileAnswer :=
  if path.isEmpty then .refused .notFound
  else if pathLimit < path.utf8ByteSize then .refused .nameTooLong
  else walk t (if path.startsWith "/" then [] else workDir.reverse) (path.splitOn "/")

end FileTree

end SqlDialect
