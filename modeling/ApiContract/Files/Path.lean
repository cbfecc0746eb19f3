import ApiContract.Text.Lines

/-!
Paths as texts: joining a directory and a path below it, and taking a path apart.
-/

set_option autoImplicit false

namespace ApiContract

-- A path below a directory; an absolute path stays what it is.
def joinPath (directory : String) (path : String) : String :=
  if path.startsWith "/" then path
  else if directory.isEmpty then path
  else if directory.endsWith "/" then directory ++ path
  else directory ++ "/" ++ path

namespace Files

-- The parts of a path. A slash at the end asks for a directory, as a point does.
def parts (path : String) : List String :=
  let cs := path.toList
  let names := ((Text.pieces (· == '/') cs).filter fun p => !p.isEmpty).map String.ofList
  if cs.getLast? = some '/' then names ++ ["."] else names

def isAbsolute (path : String) : Bool :=
  path.toList.head? == some '/'

def trimEnd : List Char → List Char
  | '/' :: rest => if rest.isEmpty then ['/'] else trimEnd rest
  | '.' :: '/' :: rest => if rest.isEmpty then ['/'] else trimEnd rest
  | cs => cs

-- What stands before the last part of a path; none if there is no part.
def parent? (path : String) : Option String :=
  let back := trimEnd path.toList.reverse
  if back.isEmpty || back == ['/'] then none
  else
    let before := back.dropWhile (· != '/')
    some (String.ofList (trimEnd before).reverse)

def name? (path : String) : Option String :=
  let name := String.ofList ((trimEnd path.toList.reverse).takeWhile (· != '/')).reverse
  if name.isEmpty || name == ".." || name == "." then none else some name

def extension? (path : String) : Option String :=
  match name? path with
  | none => none
  | some name =>
      let back := name.toList.reverse
      match back.dropWhile (· != '.') with
      | '.' :: _ :: _ => some (String.ofList (back.takeWhile (· != '.')).reverse)
      | _ => none

end Files

end ApiContract
