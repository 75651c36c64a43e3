import Quizmark.DocPath
import Quizmark.Text.Quoted

/-!
# File trees

A file tree holds files and directories below the place where a command runs. `FileTree.read` looks
a path up as an operating system does, part by part: every part but the last must be a directory,
and `..` leads to the one around it.
-/

namespace Quizmark

/-- What comes of reading a file. -/
inductive FileRead where
  | content (octets : List Nat)
  | missing
  /-- The file is there but cannot be read; the text says why. -/
  | failed (reason : String)

/-- Files and directories by the parts of their paths. A directory that something lies in need not
be listed. -/
structure FileTree where
  files : List (List (List Char) × List Nat) := []
  directories : List (List (List Char)) := []

namespace FileTree

/-- Adds a file. -/
def addFile (tree : FileTree) (path : String) (octets : List Nat) : FileTree :=
  { tree with files := (DocPath.steps path.toList, octets) :: tree.files }

/-- Adds a directory. -/
def addDirectory (tree : FileTree) (path : String) : FileTree :=
  { tree with directories := DocPath.steps path.toList :: tree.directories }

/-- Whether a place is a directory. -/
def isDirectory (tree : FileTree) (place : List (List Char)) : Bool :=
  tree.directories.any place.isPrefixOf ||
    tree.files.any fun file => place.isPrefixOf file.1 && place.length < file.1.length

/-- Why a file cannot be read. -/
inductive Obstacle where
  | notDirectory
  | isDirectory
  | nameTooLong

/-- The number and the words of the system for an obstacle. -/
def Obstacle.text : Obstacle → String
  | notDirectory => "[Errno 20] Not a directory"
  | isDirectory => "[Errno 21] Is a directory"
  | nameTooLong => "[Errno 36] File name too long"

/-- The failure at a path. -/
def failure (path : String) (obstacle : Obstacle) : FileRead :=
  .failed (obstacle.text ++ ": " ++ Text.quote path)

/-- The most octets of a part of a path. -/
def maxPart : Nat := 255

/-- The most octets of a path. -/
def maxPath : Nat := 4095

/-- Follows the parts of a path. `place` is where they begin, the innermost directory first; none
is a place outside the tree, of which nothing is known but that it is a directory. -/
def follow (tree : FileTree) (path : String) :
    Option (List (List Char)) → List (List Char) → FileRead
  | _, [] => failure path .isDirectory
  | none, part :: rest => if part = ['.', '.'] then follow tree path none rest else .missing
  | some place, part :: rest =>
    if part = ['.', '.'] then
      follow tree path (match place with | [] => none | _ :: outer => some outer) rest
    else if (String.ofList part).utf8ByteSize > maxPart then failure path .nameTooLong
    else
      let next := (part :: place).reverse
      match tree.files.lookup next with
      | some octets => if rest.isEmpty then .content octets else failure path .notDirectory
      | none =>
        if tree.isDirectory next then follow tree path (some (part :: place)) rest else .missing

/-- Reads the file at a path. -/
def read (tree : FileTree) (path : String) : FileRead :=
  if path.utf8ByteSize > maxPath then failure path .nameTooLong
  else
    let isAbsolute := path.toList.head? = some '/'
    follow tree path (if isAbsolute then none else some []) (DocPath.steps path.toList)

end FileTree

end Quizmark
