import ApiContract.Files.Path
import ApiContract.Files.Tree

/-!
A disk with a current directory: reading, listing and writing by path. What stands there may be
withheld, and a change may be refused at any of its steps; a file is replaced whole or not at all.
-/

set_option autoImplicit false

namespace ApiContract.Files

-- What a change asks for, one step after the other.
inductive Step where
  | makeDirectory (place : List String)
  | create (place : List String)
  | fill (place : List String) (content : ByteArray)
  | rename (place target : List String)

structure Disk where
  root : Entry
  here : List String
  -- What is refused though the tree allows it, as for want of a right or of space.
  refuses : Entry → Step → Option Fault := fun _ _ => none
  -- What may not be read or listed though it stands in the tree, told by its place.
  withholds : List String → Option Fault := fun _ => none

-- What a change comes to: it may fail after a part of it is done.
@[ext]
structure Attempt where
  disk : Disk
  outcome : Except Fault Unit

namespace Disk

-- Follows the parts of a path from the directory that `back` leads to, innermost name first. All
-- but the last part have to be directories.
def walk (root : Entry) (back : List String) : List String → Except Fault (List String)
  | [] => .ok back
  | part :: rest =>
      match root.get back.reverse with
      | .error fault => .error fault
      | .ok (.file _) => .error .notDirectory
      | .ok (.directory entries) =>
          if part = "." then walk root back rest
          else if part = ".." then walk root back.tail rest
          else
            match Entry.find part entries with
            | none => .error .notFound
            | some _ => walk root (part :: back) rest

def origin (disk : Disk) (path : String) : List String :=
  if isAbsolute path then [] else disk.here.reverse

def resolve (disk : Disk) (path : String) : Except Fault (List String) :=
  if path.isEmpty then .error .notFound
  else (walk disk.root (disk.origin path) (parts path)).map List.reverse

def get (disk : Disk) (path : String) : Except Fault Entry :=
  match disk.resolve path with
  | .error fault => .error fault
  | .ok names => disk.root.get names

def isPresent (disk : Disk) (path : String) : Bool :=
  match disk.get path with
  | .ok _ => true
  | .error _ => false

def isFile (disk : Disk) (path : String) : Bool :=
  match disk.get path with
  | .ok entry => entry.isFile
  | .error _ => false

def isDirectory (disk : Disk) (path : String) : Bool :=
  match disk.get path with
  | .ok entry => entry.isDirectory
  | .error _ => false

def readText (disk : Disk) (path : String) : Except Fault String :=
  match disk.resolve path with
  | .error fault => .error fault
  | .ok names =>
      match disk.root.get names, disk.withholds names with
      | .error fault, _ => .error fault
      | .ok _, some fault => .error fault
      | .ok (.directory _), none => .error .isDirectory
      | .ok (.file content), none =>
          match String.fromUTF8? content with
          | some text => .ok text
          | none => .error .notText

def list (disk : Disk) (path : String) : Except Fault (List (String × Entry)) :=
  match disk.resolve path with
  | .error fault => .error fault
  | .ok names =>
      match disk.root.get names, disk.withholds names with
      | .error fault, _ => .error fault
      | .ok (.file _), _ => .error .notDirectory
      | .ok (.directory _), some fault => .error fault
      | .ok (.directory entries), none => .ok entries

def absolute (names : List String) : String :=
  "/" ++ Text.join "/" names

def place (disk : Disk) (path : String) : Except Fault (List String × String) :=
  let all := parts path
  match all.getLast? with
  | none => .error .notFound
  | some last =>
      (walk disk.root (disk.origin path) all.dropLast).map fun back => (back.reverse, last)

def withoutSlash (path : String) : String :=
  let back := path.toList.reverse.dropWhile (· == '/')
  if back.isEmpty then path else String.ofList back.reverse

-- Changes the entries of a directory by one step, unless it is refused.
def change (disk : Disk) (step : Step) (names : List String)
    (how : List (String × Entry) → List (String × Entry)) : Except Fault Disk :=
  match disk.refuses disk.root step with
  | some fault => .error fault
  | none => (disk.root.modify how names).map fun root => { disk with root := root }

def makeDirectory (disk : Disk) (path : String) : Except Fault Disk :=
  match disk.place (withoutSlash path) with
  | .error fault => .error fault
  | .ok (names, name) =>
      match disk.root.get names with
      | .error fault => .error fault
      | .ok (.file _) => .error .notDirectory
      | .ok (.directory entries) =>
          if name = "." ∨ name = ".." ∨ (Entry.find name entries).isSome then
            .error .alreadyExists
          else
            disk.change (.makeDirectory (names ++ [name])) names (Entry.set name (.directory []))

-- Makes a directory or finds it there.
def settleDirectory (disk : Disk) (path : String) : Attempt :=
  match disk.makeDirectory path with
  | .ok made => ⟨made, .ok ()⟩
  | .error fault => ⟨disk, if disk.isDirectory path then .ok () else .error fault⟩

def makeDirectories : Nat → Disk → String → Attempt
  | 0, disk, _ => ⟨disk, .error .notFound⟩
  | fuel + 1, disk, path =>
      if path.isEmpty then ⟨disk, .ok ()⟩
      else
        match disk.makeDirectory path with
        | .error .notFound =>
            match parent? path with
            | none => ⟨disk, .error .notFound⟩
            | some parent =>
                let around := makeDirectories fuel disk parent
                match around.outcome with
                | .error fault => ⟨around.disk, .error fault⟩
                | .ok () => around.disk.settleDirectory path
        | _ => disk.settleDirectory path

-- Makes the directory of a path and all that it stands in; those made stay when a later one fails.
def ensureDirectory (disk : Disk) (path : String) : Attempt :=
  makeDirectories (path.length + 1) disk path

-- What was just made may be read.
def grant (disk : Disk) (place : List String) : Disk :=
  { disk with withholds := fun other => if other = place then none else disk.withholds other }

def putFile (disk : Disk) (path : String) (content : ByteArray) : Except Fault Disk :=
  match disk.place path with
  | .error fault => .error fault
  | .ok (names, name) =>
      match disk.root.get names with
      | .error fault => .error fault
      | .ok (.file _) => .error .notDirectory
      | .ok (.directory entries) =>
          if name = "." ∨ name = ".." then .error .isDirectory
          else
            match Entry.find name entries with
            | some (.directory _) => .error .isDirectory
            | _ =>
                (disk.root.modify (Entry.set name (.file content)) names).map fun root =>
                  { disk with root := root }.grant (names ++ [name])

-- Does something in the directory of a path, which is made first.
def inDirectoryOf (disk : Disk) (path : String) (act : Disk → Attempt) : Attempt :=
  let around := disk.ensureDirectory ((parent? path).getD "")
  match around.outcome with
  | .error fault => ⟨around.disk, .error fault⟩
  | .ok () => act around.disk

def writeFile (disk : Disk) (path : String) (content : ByteArray) : Attempt :=
  disk.inDirectoryOf path fun around =>
    match around.putFile path content with
    | .error fault => ⟨around, .error fault⟩
    | .ok after => ⟨after, .ok ()⟩

def namesLength : List (String × Entry) → Nat
  | [] => 0
  | entry :: rest => entry.1.length + namesLength rest

-- A name that is longer than those of the entries.
def freshName (entries : List (String × Entry)) : String :=
  String.ofList ('.' :: 't' :: 'm' :: 'p' :: List.replicate (namesLength entries) '0')

def createTemporary (disk : Disk) (names : List String) : Except Fault (Disk × String) :=
  match disk.root.get names with
  | .error fault => .error fault
  | .ok (.file _) => .error .notDirectory
  | .ok (.directory entries) =>
      let name := freshName entries
      (disk.change (.create (names ++ [name])) names (Entry.set name (.file .empty))).map fun made =>
        (made, name)

def fill (disk : Disk) (names : List String) (name : String) (content : ByteArray) :
    Except Fault Disk :=
  disk.change (.fill (names ++ [name]) content) names (Entry.set name (.file content))

-- Gives a file of a directory the name of another, which it replaces.
def rename (disk : Disk) (names : List String) (name target : String) : Except Fault Disk :=
  match disk.root.get names with
  | .error fault => .error fault
  | .ok (.file _) => .error .notDirectory
  | .ok (.directory entries) =>
      if target = "." ∨ target = ".." then .error .isDirectory
      else
        match Entry.find target entries, Entry.find name entries with
        | some (.directory _), _ => .error .isDirectory
        | _, none => .error .notFound
        | _, some entry =>
            disk.change (.rename (names ++ [name]) (names ++ [target])) names fun entries =>
              Entry.set target entry (Entry.remove name entries)

-- A temporary file that cannot be put in place is removed again.
def discard (disk : Disk) (names : List String) (name : String) : Disk :=
  match disk.root.modify (Entry.remove name) names with
  | .error _ => disk
  | .ok root => { disk with root := root }

def swapFile (disk : Disk) (path : String) (content : ByteArray) : Attempt :=
  match disk.place path with
  | .error fault => ⟨disk, .error fault⟩
  | .ok (names, name) =>
      match disk.createTemporary names with
      | .error fault => ⟨disk, .error fault⟩
      | .ok (created, temporary) =>
          match created.fill names temporary content with
          | .error fault => ⟨created.discard names temporary, .error fault⟩
          | .ok filled =>
              match filled.rename names temporary name with
              | .error fault => ⟨filled.discard names temporary, .error fault⟩
              | .ok swapped => ⟨swapped.grant (names ++ [name]), .ok ()⟩

-- Replaces a file as a whole, or makes it: the content is written beside it first.
def replaceFile (disk : Disk) (path : String) (content : ByteArray) : Attempt :=
  disk.inDirectoryOf path fun around => around.swapFile path content

def remove (disk : Disk) (path : String) : Except Fault Disk :=
  match disk.resolve path with
  | .error fault => .error fault
  | .ok names =>
      match names.getLast? with
      | none => .error .invalidArgument
      | some name =>
          (disk.root.modify (Entry.remove name) names.dropLast).map fun root =>
            { disk with root := root }

def bare (here : String) : Disk :=
  let names := parts here
  { root := names.foldr (fun name entry => .directory [(name, entry)]) (.directory [])
    here := names }

end Disk

mutual

def filesBelow (lead : String) : Entry → List (String × ByteArray)
  | .file _ => []
  | .directory entries => filesOf lead entries

def filesOf (lead : String) : List (String × Entry) → List (String × ByteArray)
  | [] => []
  | (name, entry) :: rest =>
      (match entry with
       | .file content => [(lead ++ name, content)]
       | .directory _ => filesBelow (lead ++ name ++ "/") entry) ++ filesOf lead rest

end

def Disk.filesSince (disk before : Disk) : List (String × ByteArray) :=
  let old := filesBelow "/" before.root
  (filesBelow "/" disk.root).filter fun file => !old.any fun o => o.1 == file.1 && o.2 == file.2

mutual

def pathsBelow (lead : String) : Entry → List String
  | .file _ => []
  | .directory entries => pathsOf lead entries

def pathsOf (lead : String) : List (String × Entry) → List String
  | [] => []
  | (name, entry) :: rest =>
      let path := lead ++ name
      ((if entry.isDirectory then path ++ "/" else path) :: pathsBelow (path ++ "/") entry) ++
        pathsOf lead rest

end

end ApiContract.Files
