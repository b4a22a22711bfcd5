/-!
# Files by path

A tree of files that is held in memory. A path is followed step by step, from the root or from the
directory that the tool runs in. Every step has to start from a directory, so a path that goes on
after the name of a file leads nowhere, even if it goes on with a step that stays where it is.
-/

namespace RoomCall.Tool

/-- A place in a tree of directories: the names on the way to it from the root. -/
abbrev Place := List String

/-- The files that the tool finds. -/
structure FileTree where
  /-- The directory that the tool runs in. -/
  home : Place
  /-- The files with their texts. -/
  files : List (Place × String)

namespace FileTree

/-- Whether there is a directory at a place: the tool runs in it or below it, or a file lies there. -/
def isDirectory (tree : FileTree) (place : Place) : Bool :=
  place.isPrefixOf tree.home || tree.files.any fun file => place.isPrefixOf file.1.dropLast

/-- The place that one step leads to. There is nothing above the root. -/
def follow (place : Place) (step : String) : Place :=
  if step = "" ∨ step = "." then place
  else if step = ".." then place.dropLast
  else place ++ [step]

/-- The place that some steps lead to, if each of them starts from a directory. -/
def walk? (tree : FileTree) (place : Place) : List String → Option Place
  | [] => some place
  | step :: later =>
      if tree.isDirectory place then tree.walk? (follow place step) later else none

/-- The text of the file that a path leads to, if it leads to one. -/
def read? (tree : FileTree) (path : String) : Option String := do
  let start := if path.startsWith "/" then [] else tree.home
  let place ← tree.walk? start (path.splitOn "/")
  tree.files.lookup place

end FileTree

end RoomCall.Tool
