/-!
Cutting a text into lines and pieces, and joining texts with a separator.
-/

set_option autoImplicit false

namespace ApiContract.Text

-- The lines of a text: a line ends at a line feed, which takes one carriage return before it with
-- it. A line feed at the very end opens no further line.
def lines : List Char → List (List Char)
  | [] => []
  | '\n' :: rest => [] :: lines rest
  | '\r' :: '\n' :: rest => [] :: lines rest
  | c :: rest =>
      match lines rest with
      | [] => [[c]]
      | first :: others => (c :: first) :: others

-- The pieces between the characters that satisfy `cut`; there is always at least one piece.
def pieces (cut : Char → Bool) : List Char → List (List Char)
  | [] => [[]]
  | c :: rest =>
      if cut c then [] :: pieces cut rest
      else
        match pieces cut rest with
        | [] => [[c]]
        | first :: others => (c :: first) :: others

def join (sep : String) : List String → String
  | [] => ""
  | [only] => only
  | first :: second :: others => first ++ sep ++ join sep (second :: others)

def cutAt? (wanted : List Char) : List Char → Option (List Char × List Char)
  | [] => if wanted.isEmpty then some ([], []) else none
  | c :: rest =>
      if wanted.isPrefixOf (c :: rest) then some ([], (c :: rest).drop wanted.length)
      else (cutAt? wanted rest).map fun parts => (c :: parts.1, parts.2)

end ApiContract.Text
