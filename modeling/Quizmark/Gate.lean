import Quizmark.DocPath
import Quizmark.Error
import Quizmark.Text.Substitute

/-!
# Gates

A gate decides by its path whether a document is a question spec: by the ending of the path, by a
directory on it, or always the same. `Gate.ofSuffix` and `Gate.ofDirectory` refuse an empty text,
which would admit every path.
-/

namespace Quizmark

/-- A rule that tells question specs by their paths. -/
inductive Gate where
  | suffix (ending : List Char)
  | directory (name : List Char)
  | constant (answer : Bool)

namespace Gate

/-- The gate of paths with an ending. -/
def ofSuffix (ending : String) : Except Error Gate :=
  if ending.isEmpty then .error .emptySuffix else .ok (.suffix ending.toList)

/-- The gate of Markdown files below a directory. Separators around its name are ignored. -/
def ofDirectory (name : String) : Except Error Gate :=
  let bare := Text.trimChars ['/', '\\'] name.toList
  if bare.isEmpty then .error .emptyDirectory else .ok (.directory bare)

/-- Whether a gate admits a path. -/
def admits (gate : Gate) (path : String) : Bool :=
  let cs := DocPath.normalChars path.toList
  match gate with
  | suffix ending => ending.isSuffixOf cs
  | directory name =>
    Text.occursIn ('/' :: name ++ ['/']) ('/' :: cs) && ".md".toList.isSuffixOf cs
  | constant answer => answer

end Gate

end Quizmark
