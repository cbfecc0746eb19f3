/-!
Paths with placeholders in braces.
-/

set_option autoImplicit false

namespace ApiContract.Schema

-- The names of the placeholders: runs of other characters between an opening brace and the next
-- brace, which closes. `run` holds what was read since the last opening brace, backwards.
def placeholdersFrom : Option (List Char) → List Char → List String
  | _, [] => []
  | run, c :: rest =>
      if c = '\x7b' then placeholdersFrom (some []) rest
      else if c = '\x7d' then
        match run with
        | some (d :: run) => String.ofList (d :: run).reverse :: placeholdersFrom none rest
        | _ => placeholdersFrom none rest
      else placeholdersFrom (run.map (c :: ·)) rest

def placeholders (path : String) : List String :=
  placeholdersFrom none path.toList

inductive Segment where
  | text (text : String)
  | hole (name : String)
deriving DecidableEq

def textSegment (backwards : List Char) : List Segment :=
  if backwards.isEmpty then [] else [.text (String.ofList backwards.reverse)]

-- The pieces of a path: what stands between an opening brace and the next closing brace is a hole,
-- and an opening brace that is never closed is text. `text` holds the text before, and `hole` what
-- was read since an opening brace, both backwards.
def segmentsFrom (text : List Char) : Option (List Char) → List Char → List Segment
  | none, [] => textSegment text
  | some hole, [] => textSegment (hole ++ '\x7b' :: text)
  | none, c :: rest =>
      if c = '\x7b' then segmentsFrom text (some []) rest
      else segmentsFrom (c :: text) none rest
  | some hole, c :: rest =>
      if c = '\x7d' then
        textSegment text ++ .hole (String.ofList hole.reverse) :: segmentsFrom [] none rest
      else segmentsFrom text (some (c :: hole)) rest

def trimBase (base : String) : List Char :=
  (base.toList.reverse.dropWhile (· == '/')).reverse

def segments (base : Option String) (path : String) : List Segment :=
  segmentsFrom (trimBase (base.getD "")).reverse none path.toList

end ApiContract.Schema
