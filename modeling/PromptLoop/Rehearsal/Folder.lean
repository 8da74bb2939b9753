import PromptLoop.Failure.Access
import PromptLoop.Text.Path

/-!
# A rehearsed folder

A folder holds files by their paths, and with them the folders that those paths go through. A path
is followed part by part: all parts but the last must lead to a folder.

## Main definitions

* `Rehearsal.Folder`: files by the parts of their paths
* `Rehearsal.Folder.follow`: the place that parts lead to
* `Rehearsal.Folder.read?`: the contents of the file that a path leads to
* `Rehearsal.Folder.opens`: what opening a file to write at its end comes to

## Main results

* `Rehearsal.Folder.follow_append`: parts are followed one after the other
* `Rehearsal.Folder.opens_of_read?`: a file that can be read can be opened
-/

namespace PromptLoop.Rehearsal

open Text

/-- Files by the parts of their paths, with their contents. -/
structure Folder (α : Type) where
  files : List (List String × α) := []
  /-- Folders that are there even if no file is in them. -/
  folders : List (List String) := []
  /-- Going back from the root stays there, and going back from any other folder leaves it. -/
  isRoot : Bool := false
  deriving Repr

/-- The octets that a name can have. -/
def longestName : Nat := 255

namespace Folder

variable {α : Type}

/-- The folder of files with these paths. -/
def ofList (files : List (String × α)) : Folder α where
  files := files.map fun (path, contents) => (normalParts path, contents)

/-- The contents of the file at a place. -/
def at? (folder : Folder α) (place : List String) : Option α := folder.files.lookup place

/-- A place is the folder itself, a folder in it, or one that the path of a file goes through. -/
def holdsMore (folder : Folder α) (place : List String) : Bool :=
  place.isEmpty || folder.folders.any (place.isPrefixOf ·) ||
    folder.files.any fun (parts, _) => parts != place && place.isPrefixOf parts

/-- One part further from a place: only a folder can be gone through, and nothing is known of what
is outside. -/
def step (folder : Folder α) (place : List String) (part : String) :
    Except AccessFault (List String) :=
  if !folder.holdsMore place then
    .error (if (folder.at? place).isSome then .throughFile else .missing)
  else if staysPut part then .ok place
  else if part = goingBack then
    if place.isEmpty && !folder.isRoot then .error .missing else .ok place.dropLast
  else if longestName < part.utf8ByteSize then .error .longName
  else .ok (place ++ [part])

/-- The place that parts lead to from another place. -/
def follow (folder : Folder α) : List String → List String → Except AccessFault (List String)
  | place, [] => .ok place
  | place, part :: parts => (folder.step place part).bind fun next => folder.follow next parts

/-- The contents of the file that a path leads to, if there is one. -/
def read? (folder : Folder α) (path : String) : Option α :=
  (folder.follow [] (pathParts path)).toOption.bind fun place =>
    if folder.holdsMore place then none else folder.at? place

/-- Opens a file to write at its end: it need not be there, but the folder that it is in must be. -/
def opens (folder : Folder α) (path : String) : Except AccessFault Unit :=
  (folder.follow [] (pathParts path)).bind fun place =>
    if folder.holdsMore place then .error .isFolder else .ok ()

/-- Parts are followed one after the other. -/
theorem follow_append (folder : Folder α) (place parts more : List String) :
    folder.follow place (parts ++ more) =
      (folder.follow place parts).bind fun next => folder.follow next more := by
  induction parts generalizing place with
  | nil => rfl
  | cons part parts ih =>
    simp only [List.cons_append, follow, ih]
    cases folder.step place part <;> rfl

/-- A file that can be read can be opened to write at its end. -/
theorem opens_of_read? {folder : Folder α} {path : String} (h : (folder.read? path).isSome) :
    folder.opens path = .ok () := by
  unfold read? at h
  unfold opens
  cases hplace : folder.follow [] (pathParts path) with
  | error fault => rw [hplace] at h; exact absurd h (by simp [Except.toOption])
  | ok place =>
    rw [hplace] at h
    by_cases hmore : folder.holdsMore place = true
    · simp [Except.toOption, hmore] at h
    · simp [Except.bind, hmore]

example : (ofList [("a.py", 1), ("sub/b.py", 2)]).read? ".//sub/../a.py" = some 1 := by
  decide +kernel

example : (ofList [("a.py", 1), ("sub/b.py", 2)]).read? "a.py/../sub/b.py" = none := by
  decide +kernel

example : (ofList [("a.py", 1), ("sub/b.py", 2)]).opens "a.py/b.log" = .error .throughFile := by
  cbv

end Folder

end PromptLoop.Rehearsal
