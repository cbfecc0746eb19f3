import ApiContract.Code.TypeExpr

/-!
Which type of generated code stands for which field type of a schema.
-/

set_option autoImplicit false

namespace ApiContract

structure TypeMap where
  entries : List (String × Code.TypeExpr)

namespace TypeMap

def putEntry (name : String) (type : Code.TypeExpr) :
    List (String × Code.TypeExpr) → List (String × Code.TypeExpr)
  | [] => [(name, type)]
  | entry :: rest =>
      if entry.1 = name then (name, type) :: rest else entry :: putEntry name type rest

-- Sets the type of a name; a name that has one takes the new one.
def register (types : TypeMap) (name : String) (type : Code.TypeExpr) : TypeMap :=
  ⟨putEntry name type types.entries⟩

def lookup (name : String) : List (String × Code.TypeExpr) → Option Code.TypeExpr
  | [] => none
  | entry :: rest => if entry.1 = name then some entry.2 else lookup name rest

def resolve (types : TypeMap) (name : String) : Option Code.TypeExpr :=
  lookup name types.entries

def contains (types : TypeMap) (name : String) : Bool :=
  (types.resolve name).isSome

def standard : TypeMap := ⟨[
  ("string", .named "string"), ("text", .named "string"), ("uuid", .named "string"),
  ("email", .named "string"), ("url", .named "string"), ("integer", .named "number"),
  ("int", .named "number"), ("float", .named "number"), ("number", .named "number"),
  ("decimal", .named "number"), ("boolean", .named "boolean"), ("bool", .named "boolean"),
  ("date", .named "string"), ("datetime", .named "string"), ("timestamp", .named "string"),
  ("json", .named "unknown")]⟩

def withTypes (extra : List (String × String)) : TypeMap :=
  extra.foldl (fun types entry => types.register entry.1 (.named entry.2)) standard

theorem lookup_put_same (name : String) (type : Code.TypeExpr)
    (entries : List (String × Code.TypeExpr)) :
    lookup name (putEntry name type entries) = some type := by
  induction entries with
  | nil => simp [putEntry, lookup]
  | cons entry rest ih =>
      by_cases same : entry.1 = name <;> simp [putEntry, lookup, same, ih]

theorem lookup_put_other (name other : String) (type : Code.TypeExpr)
    (entries : List (String × Code.TypeExpr)) (different : other ≠ name) :
    lookup other (putEntry name type entries) = lookup other entries := by
  induction entries with
  | nil => simp [putEntry, lookup, Ne.symm different]
  | cons entry rest ih =>
      by_cases same : entry.1 = name
      · simp [putEntry, lookup, same, Ne.symm different]
      · simp [putEntry, lookup, same, ih]

end TypeMap

end ApiContract
