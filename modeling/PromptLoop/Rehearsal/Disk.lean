import PromptLoop.Rehearsal.Folder

/-!
# A rehearsed disk

A command is rehearsed in a folder of its own, on a disk that holds little else: the folders that
every disk has, and a file that stays empty. A path from the root is followed there, every other
path from the command's folder.

## Main definitions

* `Rehearsal.Disk`: the folder of the command, and the root
* `Rehearsal.Disk.read?`: the contents of the file that a path leads to
* `Rehearsal.Disk.opens`: what opening a file to write at its end comes to
* `Rehearsal.Disk.created`: the written files that were not there
-/

namespace PromptLoop.Rehearsal

open Text

/-- The folder that a command is rehearsed in, and the root of the disk. -/
structure Disk where
  here : Folder (List Nat) := {}
  root : Folder (List Nat) := { isRoot := true }
  deriving Repr

namespace Disk

/-- The folders that every disk has. -/
def commonFolders : List String :=
  ["/bin", "/boot", "/dev/shm", "/etc", "/home", "/lib", "/media", "/mnt", "/opt", "/root", "/run",
   "/sbin", "/srv", "/tmp", "/usr/bin", "/usr/lib", "/usr/local/bin", "/usr/local/lib", "/usr/sbin",
   "/usr/share", "/var/cache", "/var/lib", "/var/log", "/var/tmp"]

/-- The files that every disk has. -/
def commonFiles : List (String × List Nat) := [("/dev/null", [])]

/-- The disk with these files beside the common ones, those with rooted paths at the root. -/
def ofList (files : List (String × List Nat)) : Disk where
  here := .ofList (files.filter fun (path, _) => !isRooted path)
  root := { Folder.ofList (commonFiles ++ files.filter fun (path, _) => isRooted path) with
    folders := commonFolders.map normalParts
    isRoot := true }

/-- The folder that a path is followed in. -/
def start (disk : Disk) (path : String) : Folder (List Nat) :=
  if isRooted path then disk.root else disk.here

/-- The octets of the file that a path leads to, if there is one. -/
def read? (disk : Disk) (path : String) : Option (List Nat) := (disk.start path).read? path

/-- A path that leads out of the command's folder, but not from the root. -/
def leadsOut (path : String) : Bool :=
  !isRooted path && (normalParts path).head? == some goingBack

/-- Opens a file to write at its end. What is outside the command's folder is not known, and taken
to be there. -/
def opens (disk : Disk) (path : String) : Except Failure Unit :=
  if holdsNull path then .error nullInPath
  else if leadsOut path then .ok ()
  else ((disk.start path).opens path).mapError (·.failure path)

/-- Of written files, given by their paths, those in the command's folder that were not there
before. -/
def created {β : Type} (disk : Disk) (written : List (String × β)) : List (String × β) :=
  written.filter fun (path, _) =>
    !isRooted path && !leadsOut path && (disk.here.at? (normalParts path)).isNone

example : ((ofList []).opens "/none/a.log").isOk = false := by decide +kernel

example : ((ofList []).opens "/dev/null").isOk = true := by decide +kernel

end Disk

end PromptLoop.Rehearsal
