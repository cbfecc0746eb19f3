/-!
Trees of files and directories. The entries of a directory have the order in which they are listed.
-/

set_option autoImplicit false

namespace ApiContract.Files

inductive Entry where
  | file (content : ByteArray)
  | directory (entries : List (String × Entry))
deriving Inhabited

inductive Fault where
  | notFound
  | alreadyExists
  | notDirectory
  | isDirectory
  | invalidArgument
  | notText
  -- Any other refusal, told in the words of the system.
  | refused (reason : String) (number : Nat)
deriving DecidableEq

def Fault.message : Fault → String
  | .notFound => "No such file or directory (os error 2)"
  | .alreadyExists => "File exists (os error 17)"
  | .notDirectory => "Not a directory (os error 20)"
  | .isDirectory => "Is a directory (os error 21)"
  | .invalidArgument => "Invalid argument (os error 22)"
  | .notText => "stream did not contain valid UTF-8"
  | .refused reason number => reason ++ " (os error " ++ toString number ++ ")"

namespace Entry

def isFile : Entry → Bool
  | .file _ => true
  | .directory _ => false

def isDirectory : Entry → Bool
  | .file _ => false
  | .directory _ => true

def find (name : String) : List (String × Entry) → Option Entry
  | [] => none
  | entry :: rest => if entry.1 = name then some entry.2 else find name rest

-- Sets the entry of a name; a new name comes last.
def set (name : String) (new : Entry) : List (String × Entry) → List (String × Entry)
  | [] => [(name, new)]
  | entry :: rest => if entry.1 = name then (name, new) :: rest else entry :: set name new rest

def remove (name : String) (entries : List (String × Entry)) : List (String × Entry) :=
  entries.filter fun entry => entry.1 != name

def get (names : List String) (entry : Entry) : Except Fault Entry :=
  match names with
  | [] => .ok entry
  | name :: rest =>
      match entry with
      | .file _ => .error .notDirectory
      | .directory entries =>
          match find name entries with
          | none => .error .notFound
          | some next => get rest next

def modify (change : List (String × Entry) → List (String × Entry)) (names : List String)
    (entry : Entry) : Except Fault Entry :=
  match entry with
  | .file _ => .error .notDirectory
  | .directory entries =>
      match names with
      | [] => .ok (.directory (change entries))
      | name :: rest =>
          match find name entries with
          | none => .error .notFound
          | some next =>
              (modify change rest next).map fun changed =>
                .directory (set name changed entries)

theorem find_set_same (name : String) (new : Entry) (entries : List (String × Entry)) :
    find name (set name new entries) = some new := by
  induction entries with
  | nil => simp [set, find]
  | cons entry rest ih =>
      by_cases same : entry.1 = name <;> simp [set, find, same, ih]

theorem find_set_other (name other : String) (new : Entry) (entries : List (String × Entry))
    (different : other ≠ name) : find other (set name new entries) = find other entries := by
  induction entries with
  | nil => simp [set, find, Ne.symm different]
  | cons entry rest ih =>
      by_cases same : entry.1 = name
      · simp [set, find, same, Ne.symm different]
      · simp [set, find, same, ih]

end Entry

end ApiContract.Files
