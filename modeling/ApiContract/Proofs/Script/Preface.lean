import ApiContract.Proofs.Script.Derived
import ApiContract.Script.Reader

/-!
What stands in front of a program: a comment in a line of its own is one more node in front of the
others, and an empty line is nothing.
-/

set_option autoImplicit false

namespace ApiContract.Script

-- The root of the syntax tree of a text with a comment in a line of its own in front.
def Node.behindComment (root : Node) (comment source : List Char) : Node :=
  let text := comment ++ '\n' :: source
  { root with
    text := text
    left := text.length
    children := commentNode comment text.length :: root.children }

-- What a parser of the language does with a line in front of a text without errors. Only a line that
-- names a program has to be the first.
structure LineLaws [Parser] : Prop where
  comment : ∀ line rest : String, (∀ c ∈ line.toList, isLineEnd c = false) →
    rest.toList.head? ≠ some '#' → (Parser.parse rest).hasError = false →
      Parser.parse ("//" ++ line ++ "\n" ++ rest) =
        (Parser.parse rest).behindComment ("//" ++ line).toList rest.toList
  empty : ∀ rest : String, rest.toList.head? ≠ some '#' → (Parser.parse rest).hasError = false →
    Parser.parse ("\n" ++ rest) = Parser.parse rest

@[simp] theorem behind_comment_has_error (root : Node) (comment source : List Char) :
    (root.behindComment comment source).hasError = root.hasError := by
  have own (left : Nat) : (commentNode comment left).hasError = false := by
    rw [Node.has_error_eq]
    rfl
  rw [Node.has_error_eq, Node.has_error_eq root]
  simp [Node.behindComment, own]

theorem comment_nodes_line (line own : List Char) (behind : Nat)
    (within : ∀ c ∈ line, isLineEnd c = false) :
    commentNodes ('/' :: '/' :: (line ++ '\n' :: own)) behind =
      commentNode ('/' :: '/' :: line) (line.length + own.length + 3 + behind) ::
        commentNodes own behind := by
  have found := comments_line line own ['/', '/'] '\n' within rfl
  rw [commentNodes, commentsFrom, found]
  have size : ['/', '/'].length + line.length + own.length + 1 = line.length + own.length + 3 := by
    simp only [List.length_cons, List.length_nil]
    omega
  rw [size]
  rfl

theorem read_behind_comment (line rest : List Char) (within : ∀ c ∈ line, isLineEnd c = false) :
    readSource ('/' :: '/' :: (line ++ '\n' :: rest)) =
      (readSource rest).behindComment ('/' :: '/' :: line) rest := by
  have cut := gap_of_cut (@GapOf.line line [] '\n' _ within rfl .nil) rest
  rw [List.cons_append, List.cons_append, List.append_assoc, List.singleton_append] at cut
  have whole := cut_gap_whole .blanks rest
  rcases split : cutGap .blanks rest with ⟨own, code⟩
  rw [split] at cut whole
  have size : line.length + own.length + 3 + code.length =
      ('/' :: '/' :: line ++ '\n' :: rest).length := by
    rw [← whole]
    simp only [List.length_cons, List.length_append]
    omega
  have found : commentNodes ('/' :: '/' :: (line ++ ['\n']) ++ own) code.length =
      commentNode ('/' :: '/' :: line) ('/' :: '/' :: line ++ '\n' :: rest).length ::
        commentNodes own code.length := by
    rw [← size, ← comment_nodes_line line own code.length within]
    simp
  rw [readSource, readSource, cut, split]
  simp only [found]
  rfl

theorem read_behind_feed (rest : List Char) : readSource ('\n' :: rest) = readSource rest := by
  have found (own : List Char) :
      commentsFrom .blanks [] ('\n' :: own) = commentsFrom .blanks [] own := by
    rw [commentsFrom] <;> simp
  rw [readSource, readSource, cut_gap_blank _ _ rfl]
  simp only [keep, commentNodes, found]
  rfl

theorem reader_laws : LineLaws where
  comment line rest within _ _ := by
    have read := read_behind_comment line.toList rest.toList within
    have source : ("//" ++ line ++ "\n" ++ rest).toList =
        '/' :: '/' :: (line.toList ++ '\n' :: rest.toList) := by simp
    have comment : ("//" ++ line).toList = '/' :: '/' :: line.toList := by simp
    change readSource _ = (readSource _).behindComment _ _
    rw [source, comment, read]
  empty rest _ _ := by
    have source : ("\n" ++ rest).toList = '\n' :: rest.toList := by simp
    change readSource _ = readSource _
    rw [source, read_behind_feed]

end ApiContract.Script
