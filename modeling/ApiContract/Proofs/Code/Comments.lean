import ApiContract.Code.SourceFile
import ApiContract.Emit.Client
import ApiContract.Proofs.Text.Lines
import ApiContract.Schema.Load
import ApiContract.Script.Token.Basic

/-!
Text that is put into comments. A doc is closed by its own end alone exactly when its text does not
hold that end; a comment of lines covers all of its lines exactly when whatever a line end inside
one of them begins is marked as a comment by itself.
-/

set_option autoImplicit false

namespace ApiContract.Code

-- Whether the end of a comment stands somewhere in a text.
def Closes (cs : List Char) : Prop :=
  ∃ before after, cs = before ++ '*' :: '/' :: after

-- The end of a comment stands nowhere but right before the last line feed.
def ClosedLast (cs : List Char) : Prop :=
  ∀ before after, cs = before ++ '*' :: '/' :: after → after = ['\n']

def Marked (line : List Char) : Prop :=
  ['/', '/'] <+: line

-- Every line of code begins as a comment; what ends a line is what the language says.
def Commented (cs : List Char) : Prop :=
  ∀ line ∈ Text.pieces Script.isLineEnd cs, Marked line

-- What a line end inside one of the lines begins is marked already.
def InnerMarked (lines : List (List Char)) : Prop :=
  ∀ line ∈ lines, ∀ inner ∈ (Text.pieces Script.isLineEnd line).tail, Marked inner

def headerText (lines : List String) : String :=
  Text.join "\n" (lines.map ("// " ++ ·))

theorem closes_nil : ¬ Closes [] := by
  rintro ⟨before, after, same⟩
  simp at same

theorem closes_cons (c : Char) (rest : List Char) :
    Closes (c :: rest) ↔ (c = '*' ∧ rest.head? = some '/') ∨ Closes rest := by
  constructor
  · rintro ⟨before, after, same⟩
    cases before with
    | nil =>
        cases same
        exact .inl ⟨rfl, rfl⟩
    | cons d before =>
        cases same
        exact .inr ⟨before, after, rfl⟩
  · rintro (⟨rfl, slash⟩ | ⟨before, after, rfl⟩)
    · obtain ⟨after, rfl⟩ := List.head?_eq_some_iff.mp slash
      exact ⟨[], after, rfl⟩
    · exact ⟨c :: before, after, rfl⟩

theorem closes_append (first second : List Char) :
    Closes (first ++ second) ↔ Closes first ∨ Closes second ∨
      (first.getLast? = some '*' ∧ second.head? = some '/') := by
  induction first with
  | nil => simp [closes_nil]
  | cons c rest ih =>
      rw [List.cons_append, closes_cons, closes_cons, ih]
      cases rest with
      | nil => simp [closes_nil, or_comm]
      | cons d others => simp [or_assoc]

theorem closes_blanks (blanks : List Char) (allBlank : ∀ c ∈ blanks, Text.isBlank c = true) :
    ¬ Closes blanks := by
  rintro ⟨before, after, rfl⟩
  exact absurd (allBlank '*' (by simp)) (by decide)

theorem closes_trim (cs : List Char) : Closes (Text.trim cs) ↔ Closes cs := by
  obtain ⟨before, after, same, beforeBlank, afterBlank⟩ := Text.trim_drops cs
  have noStar : before.getLast? ≠ some '*' := fun last =>
    absurd (beforeBlank '*' (List.mem_of_getLast? last)) (by decide)
  have noSlash : after.head? ≠ some '/' := fun first =>
    absurd (afterBlank '/' (List.mem_of_head? first)) (by decide)
  conv_rhs => rw [same]
  rw [closes_append, closes_append]
  simp [closes_blanks before beforeBlank, closes_blanks after afterBlank, noStar, noSlash]

theorem lines_head (cs first : List Char) (others : List (List Char)) (c : Char)
    (noFeed : c ≠ '\n') (noReturn : c ≠ '\r') (cut : Text.lines cs = first :: others) :
    first.head? = some c ↔ cs.head? = some c := by
  revert cut
  fun_cases Text.lines cs with
  | case1 => simp
  | case2 rest =>
      rintro ⟨rfl, rfl⟩
      simp [Ne.symm noFeed]
  | case3 rest =>
      rintro ⟨rfl, rfl⟩
      simp [Ne.symm noReturn]
  | case4 d rest _ _ whole =>
      rintro ⟨rfl, rfl⟩
      simp
  | case5 d rest _ _ line more whole =>
      rintro ⟨rfl, rfl⟩
      simp

theorem closes_lines (cs : List Char) : Closes cs ↔ ∃ line ∈ Text.lines cs, Closes line := by
  fun_induction Text.lines cs with
  | case1 => simp [closes_nil]
  | case2 rest ih => simp [closes_cons, closes_nil, ih]
  | case3 rest ih => simp [closes_cons, closes_nil, ih]
  | case4 c rest _ _ whole ih =>
      cases (Text.lines_empty_iff rest).mp whole
      simp [closes_cons, closes_nil]
  | case5 c rest _ _ line more whole ih =>
      have head := lines_head rest line more '/' (by decide) (by decide) whole
      simp [closes_cons, ih, whole, head, or_assoc]

theorem doc_line_closes (line : List Char) :
    Closes (docLine line).toList ↔ Closes line := by
  rw [docLine, ← closes_trim line]
  split
  · rename_i empty
    rw [List.isEmpty_iff.mp empty]
    simp [closes_cons, closes_nil]
  · simp [closes_cons, closes_append, closes_nil]

theorem doc_line_head (line : List Char) : (docLine line).toList.head? = some ' ' := by
  rw [docLine]
  split <;> simp

theorem doc_lines_close (lines : List (List Char)) :
    Closes (String.join (lines.map docLine)).toList ↔ ∃ line ∈ lines, Closes line := by
  induction lines with
  | nil => simp [closes_nil]
  | cons line rest ih =>
      have noSlash : (String.join (rest.map docLine)).toList.head? ≠ some '/' := by
        cases rest with
        | nil => simp
        | cons next others => simp [doc_line_head]
      rw [List.map_cons, String.join_cons, String.toList_append, closes_append, doc_line_closes, ih]
      simp only [noSlash, and_false, or_false, List.mem_cons, exists_eq_or_imp]

-- What stands in front of the end of a doc; none where the text gives no doc.
theorem doc_body (text : String) :
    docText (some text) = "" ∧ ¬ Closes text.toList ∨
      ∃ body, (docText (some text)).toList = body ++ [' ', '*', '/', '\n'] ∧
        (Closes body ↔ Closes text.toList) := by
  rw [docText, ← closes_trim text.toList, closes_lines]
  cases Text.lines (Text.trim text.toList) with
  | nil => exact .inl ⟨rfl, by simp⟩
  | cons first others =>
      refine .inr ?_
      cases others with
      | nil =>
          refine ⟨"/** ".toList ++ Text.trim first, by simp, ?_⟩
          simp [closes_cons, closes_trim]
      | cons second rest =>
          refine ⟨"/**\n".toList ++ (String.join ((first :: second :: rest).map docLine)).toList,
            by simp, ?_⟩
          rw [closes_append, doc_lines_close]
          simp [closes_cons, closes_nil]

theorem closed_by_end (body before after : List Char) (free : ¬ Closes body)
    (same : body ++ [' ', '*', '/', '\n'] = before ++ '*' :: '/' :: after) : after = ['\n'] := by
  rcases List.append_eq_append_iff.mp same with ⟨middle, -, ending⟩ | ⟨middle, rfl, ending⟩
  · rcases middle with _ | ⟨_, _ | ⟨_, middle⟩⟩
    · simp at ending
    · exact (List.cons.inj (List.cons.inj (List.cons.inj ending).2).2).2.symm
    · have twoLeft : ['/', '\n'] = middle ++ '*' :: '/' :: after :=
        (List.cons.inj (List.cons.inj ending).2).2
      cases middle with
      | nil => simp at twoLeft
      | cons c rest =>
          have tooLong := congrArg List.length twoLeft
          simp only [List.length_append, List.length_cons, List.length_nil] at tooLong
          omega
  · rcases middle with _ | ⟨_, _ | ⟨_, middle⟩⟩
    · simp at ending
    · simp at ending
    · cases ending
      exact absurd ⟨before, middle, rfl⟩ free

theorem doc_closed_last_iff (text : String) :
    ClosedLast (docText (some text)).toList ↔ ¬ Closes text.toList := by
  rcases doc_body text with ⟨empty, free⟩ | ⟨body, whole, closes⟩
  · rw [empty]
    exact ⟨fun _ => free, fun _ before after same => by simp at same⟩
  · rw [whole, ← closes]
    constructor
    · rintro last ⟨before, after, rfl⟩
      have tooLong := last before (after ++ [' ', '*', '/', '\n']) (by simp)
      simpa using congrArg List.length tooLong
    · exact fun free before after => closed_by_end body before after free

theorem commented_feed (first rest : List Char) :
    Commented (first ++ '\n' :: rest) ↔ Commented first ∧ Commented rest := by
  rw [Commented, Text.pieces_cut Script.isLineEnd '\n' rfl, List.forall_mem_append]
  rfl

theorem commented_line (line : List Char) :
    Commented ("// ".toList ++ line) ↔
      ∀ inner ∈ (Text.pieces Script.isLineEnd line).tail, Marked inner := by
  obtain ⟨first, others, cut, marked⟩ :=
    Text.pieces_after Script.isLineEnd "// ".toList line (by simp [Script.isLineEnd])
  rw [Commented, marked, cut, List.forall_mem_cons, List.tail_cons]
  exact and_iff_right ⟨' ' :: first, rfl⟩

theorem commented_bare : Commented "//".toList ↔
    ∀ inner ∈ (Text.pieces Script.isLineEnd []).tail, Marked inner := by
  simp [Commented, Text.pieces, Script.isLineEnd, Marked]

-- Lines put one below the other, each with its own mark.
theorem commented_lines (mark : List Char → String) (lines : List (List Char))
    (nonempty : lines ≠ [])
    (each : ∀ line ∈ lines, Commented (mark line).toList ↔
      ∀ inner ∈ (Text.pieces Script.isLineEnd line).tail, Marked inner) :
    Commented (Text.join "\n" (lines.map mark)).toList ↔ InnerMarked lines := by
  induction lines with
  | nil => exact absurd rfl nonempty
  | cons line rest ih =>
      obtain ⟨own, later⟩ := List.forall_mem_cons.mp each
      rw [InnerMarked, List.forall_mem_cons, ← own]
      cases rest with
      | nil => simp [Text.join]
      | cons next others =>
          rw [List.map_cons, Text.join_cons _ _ _ (by simp), String.toList_append,
            String.toList_append, List.append_assoc]
          exact (commented_feed _ _).trans (and_congr_right fun _ => ih (by simp) later)

theorem comment_lines_commented_iff (text : String) :
    Commented (commentLines text).toList ↔ InnerMarked (Text.lines text.toList) := by
  rw [commentLines]
  split
  · rename_i empty
    rw [String.isEmpty_iff.mp empty, commented_bare]
    simp [InnerMarked, Text.lines, Text.pieces]
  · rename_i nonempty
    refine commented_lines _ _ ?_ fun line _ => ?_
    · rw [ne_eq, Text.lines_empty_iff]
      simpa using nonempty
    · split
      · rename_i empty
        rw [List.isEmpty_iff.mp empty]
        exact commented_bare
      · simpa using commented_line line

theorem header_commented_iff (first : String) (others : List String) :
    Commented (headerText (first :: others)).toList ↔
      InnerMarked ((first :: others).map String.toList) := by
  have whole := commented_lines (fun line => "// " ++ String.ofList line)
    ((first :: others).map String.toList) (by simp) fun line _ => by
      simpa using commented_line line
  rw [← whole, headerText, List.map_map]
  simp [Function.comp_def]

theorem header_in_front (first : String) (others : List String) (imports items : List Decl) :
    ∃ rest, (SourceFile.render ⟨first :: others, imports, items⟩).toList =
      (headerText (first :: others)).toList ++ '\n' :: rest := by
  obtain ⟨parts, whole⟩ : ∃ parts, SourceFile.render ⟨first :: others, imports, items⟩ =
      Text.join "\n\n" (headerText (first :: others) :: parts) ++ "\n" := ⟨_, rfl⟩
  rw [whole]
  cases parts with
  | nil => exact ⟨[], by simp [Text.join]⟩
  | cons next more =>
      refine ⟨'\n' :: (Text.join "\n\n" (next :: more)).toList ++ ['\n'], ?_⟩
      rw [Text.join_cons _ _ _ (by simp)]
      simp

theorem method_doc_closes (op : Schema.Operation) :
    Closes (Emit.methodDoc op).toList ↔ Closes (op.description.getD op.path).toList := by
  rw [Emit.methodDoc]
  cases op.description with
  | some text => rfl
  | none =>
      have word : ¬ Closes (op.method.word ++ " ").toList := by
        cases op.method <;> simp [closes_cons, closes_nil, Schema.HttpMethod.word]
      have blank : (op.method.word ++ " ").toList.getLast? ≠ some '*' := by
        simp
      rw [Option.getD_none, Option.getD_none, String.toList_append, closes_append]
      simp only [word, blank, false_and, false_or, or_false]

theorem comments_keep_text_iff (text : String) (op : Schema.Operation) (first : String)
    (others : List String) (imports items : List Decl) :
    (ClosedLast (docText (some text)).toList ↔ ¬ Closes text.toList) ∧
      (ClosedLast (docText (some (Emit.methodDoc op))).toList ↔
        ¬ Closes (op.description.getD op.path).toList) ∧
      (Commented (Stmt.comment text).render.toList ↔ InnerMarked (Text.lines text.toList)) ∧
      ∃ rest, (SourceFile.render ⟨first :: others, imports, items⟩).toList =
          (headerText (first :: others)).toList ++ '\n' :: rest ∧
        (Commented (headerText (first :: others)).toList ↔
          InnerMarked ((first :: others).map String.toList)) := by
  have method := (doc_closed_last_iff (Emit.methodDoc op)).trans (method_doc_closes op).not
  have comment : Commented (Stmt.comment text).render.toList ↔
      InnerMarked (Text.lines text.toList) := by
    rw [Stmt.render]
    exact comment_lines_commented_iff text
  obtain ⟨rest, inFront⟩ := header_in_front first others imports items
  exact ⟨doc_closed_last_iff text, method, comment, rest, inFront,
    header_commented_iff first others⟩

-- An accepted operation whose path ends the doc of its method.
def metaOfFiles : Schema.Operation :=
  { name := "getMeta", method := .get, path := "/files/*/meta" }

theorem comments_lose_text :
    Schema.build "files-api" {} { operations := [metaOfFiles] } =
        .ok ⟨"files-api", [], none, [metaOfFiles]⟩ ∧
      ¬ ClosedLast (docText (some (Emit.methodDoc metaOfFiles))).toList ∧
      ¬ Commented (Stmt.comment "first\rsecond").render.toList ∧
      ¬ Commented (headerText ["first\nsecond"]).toList := by
  have ended : Closes (Emit.methodDoc metaOfFiles).toList :=
    ⟨"GET /files/".toList, "meta".toList, by decide⟩
  refine ⟨rfl, fun last => (doc_closed_last_iff _).mp last ended, ?_, ?_⟩
  · intro all
    have second := all "second".toList (by rw [Stmt.render]; decide)
    simp [Marked] at second
  · intro all
    have second := all "second".toList (by decide)
    simp [Marked] at second

end ApiContract.Code
