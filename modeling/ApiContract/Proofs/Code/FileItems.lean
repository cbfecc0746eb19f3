import ApiContract.Proofs.Code.StatementItems

/-!
A whole file is derived from the items of its parts, so that a parser of the language gives what
these declare, without errors. Its header goes in front of its first item.
-/

set_option autoImplicit false

namespace ApiContract.Code

open Script

-- Items behind a gap that make up a text and declare this, wherever they stand between others.
def WrittenAs (lead text : List Char) (found : List Outline.Declaration) : Prop :=
  ∃ items, items ≠ [] ∧ charsOf items = lead ++ text ∧ (∀ next, FitAll false items next) ∧
    Declares items found

def StandsFor (d : Decl) (found : List Outline.Declaration) : Prop :=
  ∀ lead : String, IsGap lead.toList → WrittenAs lead.toList d.render.toList found

-- A comment in front of a declaration is part of the gap in front of it.
theorem stands_behind_doc (d : Decl) (doc rest : String) (found : List Outline.Declaration)
    (docGap : IsGap doc.toList) (renders : d.render = doc ++ "\n" ++ rest)
    (written : ∀ lead : String, IsGap lead.toList → WrittenAs lead.toList rest.toList found) :
    StandsFor d found := by
  intro lead gap
  have feed : IsGap ['\n'] := gap_blanks _ (by decide)
  obtain ⟨items, some_, chars, fits, declares⟩ := written (lead ++ doc ++ "\n") (by
    simpa using gap_append _ _ gap (gap_append _ _ docGap feed))
  exact ⟨items, some_, by rw [chars, renders]; simp, fits, declares⟩

theorem written_parsed [Parser] (text : String) (lead body : List Char)
    (found : List Outline.Declaration) (written : WrittenAs lead body found)
    (spelled : text.toList = lead ++ body ++ ['\n']) (follows : FollowsGrammar text) :
    Outline.Module.ofCode text = ⟨found, []⟩ := by
  obtain ⟨items, some_, chars, fits, declares⟩ := written
  obtain ⟨nodes, rows, taken⟩ := declares ['\n'].length
  have parsed : Parses text (programNode text.toList nodes) :=
    .mk some_ (by rw [spelled, chars]) (fits _) rfl rows
  rw [declarationsOf] at taken
  rw [Outline.Module.ofCode, follows _ parsed, Outline.Module.ofTree, parses_fine _ _ parsed]
  simp [programNode, taken]

-- Declarations with empty lines between them, the first behind a lead.
theorem declarations_written (d : Decl) (rest : List Decl)
    (found : Decl → List Outline.Declaration) (stand : ∀ e ∈ d :: rest, StandsFor e (found e))
    (lead : String) (gap : IsGap lead.toList) :
    WrittenAs lead.toList (Text.join "\n\n" ((d :: rest).map Decl.render)).toList
      ((d :: rest).flatMap found) := by
  induction rest generalizing d lead with
  | nil => simpa [Text.join] using stand d (by simp) lead gap
  | cons e others ih =>
      obtain ⟨own, later⟩ := List.forall_mem_cons.mp stand
      obtain ⟨items, some_, chars, fits, declares⟩ := own lead gap
      obtain ⟨more, -, moreChars, moreFits, moreDeclare⟩ := ih e later "\n\n" (by simp +decide)
      refine ⟨items ++ more, by simp [some_], ?_, fun next => ?_, ?_⟩
      · rw [chars_of_append, chars, moreChars]
        simp [Text.join]
      · exact (fit_all_append _ _ _ _).mpr ⟨fits _, moreFits next⟩
      · exact declares_append _ _ _ _ declares moreDeclare

-- The header of a file, with the empty line behind it.
def headerLead (header : List String) : String :=
  if header.isEmpty then "" else Text.join "\n" (header.map ("// " ++ ·)) ++ "\n\n"

theorem header_gap (header : List String)
    (lines : ∀ line ∈ header, ∀ c ∈ line.toList, isLineEnd c = false) :
    IsGap (headerLead header).toList := by
  have each (line : String) (whole : ∀ c ∈ line.toList, isLineEnd c = false) :
      IsGap ("// " ++ line ++ "\n").toList := by
    have gap := gap_line_comment (' ' :: line.toList) (List.forall_mem_cons.mpr ⟨rfl, whole⟩)
    simpa using gap
  have feed : IsGap ['\n'] := gap_blanks _ (by decide)
  have all (rest : List String) (first : String)
      (whole : ∀ line ∈ first :: rest, ∀ c ∈ line.toList, isLineEnd c = false) :
      IsGap ((Text.join "\n" ((first :: rest).map ("// " ++ ·))).toList ++ ['\n']) := by
    induction rest generalizing first with
    | nil => simpa [Text.join] using each first (whole first (by simp))
    | cons second others ih =>
        obtain ⟨own, later⟩ := List.forall_mem_cons.mp whole
        have one := gap_append _ _ (each first own) (ih second later)
        simpa [Text.join] using one
  cases header with
  | nil => exact gap_nil
  | cons first rest =>
      have both := gap_append _ _ (all rest first lines) feed
      simpa [headerLead] using both

theorem join_nested (sep : String) (first : List String) (texts : List String)
    (nonempty : texts ≠ []) :
    Text.join sep (first ++ [Text.join sep texts]) = Text.join sep (first ++ texts) := by
  induction first with
  | nil => rfl
  | cons text rest ih =>
      rw [List.cons_append, List.cons_append, Text.join_cons _ _ _ (by simp),
        Text.join_cons _ _ _ (by simp [nonempty]), ih]

theorem file_render (file : SourceFile) (atMostOne : file.imports.length ≤ 1)
    (nonempty : file.items ≠ []) :
    file.render = headerLead file.header ++
      Text.join "\n\n" ((file.imports ++ file.items).map Decl.render) ++ "\n" := by
  obtain ⟨header, imports, items⟩ := file
  have level (texts : List String) : texts.map (indent 0) = texts :=
    (List.map_congr_left fun _ _ => if_pos rfl).trans (List.map_id texts)
  have some_ : items.isEmpty = false := by simpa using nonempty
  have inner : items.map Decl.render ≠ [] := by simpa using nonempty
  have importTexts : (if imports.isEmpty then [] else [stack 0 (imports.map Decl.render)]) =
      imports.map Decl.render := by
    match imports, atMostOne with
    | [], _ => rfl
    | [only], _ => rw [stack, level]; rfl
  rw [SourceFile.render]
  simp only [importTexts, some_, stackApart, level, Bool.false_eq_true, if_false,
    join_nested _ _ _ inner, List.map_append]
  cases header with
  | nil => simp [headerLead]
  | cons first rest =>
      have more : imports.map Decl.render ++ items.map Decl.render ≠ [] := by simp [nonempty]
      simp only [List.isEmpty_cons, Bool.false_eq_true, if_false, headerLead, List.cons_append,
        List.nil_append]
      rw [Text.join_cons _ _ _ more]

-- A file declares what its declarations stand for.
theorem file_read [Parser] (file : SourceFile) (found : Decl → List Outline.Declaration)
    (atMostOne : file.imports.length ≤ 1) (nonempty : file.items ≠ [])
    (lines : ∀ line ∈ file.header, ∀ c ∈ line.toList, isLineEnd c = false)
    (stand : ∀ d ∈ file.imports ++ file.items, StandsFor d (found d))
    (follows : FollowsGrammar file.render) :
    Outline.Module.ofCode file.render = ⟨(file.imports ++ file.items).flatMap found, []⟩ := by
  obtain ⟨d, rest, whole⟩ : ∃ d rest, file.imports ++ file.items = d :: rest :=
    List.exists_cons_of_ne_nil (by simp [nonempty])
  have text := file_render file atMostOne nonempty
  rw [whole] at stand text ⊢
  have written := declarations_written d rest found stand (headerLead file.header)
    (header_gap _ lines)
  exact written_parsed _ _ _ _ written (by rw [text]; simp) follows

end ApiContract.Code
