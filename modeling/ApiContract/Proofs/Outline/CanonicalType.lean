import ApiContract.Code.TypeExpr
import ApiContract.Outline.CanonicalType
import ApiContract.Proofs.Identifier
import ApiContract.Proofs.Text.Lines

/-!
The text of a type is its own canonical spelling. Each part of a type is written as it stands,
whatever stands in front of it, as long as that does not end with a word.
-/

set_option autoImplicit false

namespace ApiContract.Outline

open Code (TypeExpr)

mutual

-- Names are of some kind, and a union has members.
def WellSpelled (isName : String → Prop) : TypeExpr → Prop
  | .named name => isName name
  | .arrayOf element => WellSpelled isName element
  | .union members => members ≠ [] ∧ WellSpelledAll isName members
  | .generic name args => isName name ∧ WellSpelledAll isName args
  | .literal _ => True

def WellSpelledAll (isName : String → Prop) : List TypeExpr → Prop
  | [] => True
  | t :: rest => WellSpelled isName t ∧ WellSpelledAll isName rest

end

def IsIdentifier (name : String) : Prop :=
  Name.isIdentifier name = true

def Solid (cs : List Char) : Prop :=
  startsWith (fun c => !Text.isBlank c) cs = true

-- A text that is written as it stands behind whatever does not end with a word.
structure Steady (cs : List Char) : Prop where
  kept : ∀ written gap, startsWith isWordChar written = false →
    cs.foldl Scan.step ⟨written, .code gap⟩ = ⟨cs.reverse ++ written, .code false⟩
  starts_solid : Solid cs
  ends_solid : Solid cs.reverse

-- What stands between two parts and leaves a gap.
def Separates (sep : List Char) : Prop :=
  ∀ written, Solid written →
    ∃ before, sep.reverse ++ written = ' ' :: before ∧
      sep.foldl Scan.step ⟨written, .code false⟩ = ⟨' ' :: before, .code true⟩

theorem solid_cons_iff (c : Char) (rest : List Char) :
    Solid (c :: rest) ↔ Text.isBlank c = false := by
  simp [Solid, startsWith]

theorem solid_append (first second : List Char) (solid : Solid first) : Solid (first ++ second) := by
  cases first with
  | nil => simp [Solid, startsWith] at solid
  | cons c rest => exact solid

theorem trim_left_solid (cs : List Char) (solid : Solid cs) : Text.trimLeft cs = cs := by
  cases cs with
  | nil => rfl
  | cons c rest => simp [Text.trimLeft, (solid_cons_iff c rest).mp solid]

theorem trim_right_solid (cs : List Char) (solid : Solid cs.reverse) : Text.trimRight cs = cs := by
  induction cs with
  | nil => rfl
  | cons c rest ih =>
      cases rest with
      | nil =>
          have whole : Text.isBlank c = false := (solid_cons_iff c []).mp solid
          simp [Text.trimRight, whole]
      | cons d others =>
          have later : Solid (d :: others).reverse := by
            rw [List.reverse_cons] at solid
            cases turned : (d :: others).reverse with
            | nil => simp at turned
            | cons e more =>
                rw [turned] at solid
                exact solid
          rw [Text.trimRight, ih later]

theorem starts_with_blank (written : List Char) (solid : Solid written) :
    startsWith (· == ' ') written = false := by
  cases written with
  | nil => rfl
  | cons c rest =>
      have whole := (solid_cons_iff c rest).mp solid
      rw [startsWith, beq_eq_false_iff_ne]
      rintro rfl
      exact absurd whole (by decide)

theorem part_spelled (c : Char) (part : Name.isPart c = true) :
    Text.isBlank c = false ∧ isQuote c = false ∧ isWordChar c = true ∧
      c ∉ ['|', '&', ',', ':', ';'] :=
  Name.part_all (fun c => Text.isBlank c = false ∧ isQuote c = false ∧ isWordChar c = true ∧
    c ∉ ['|', '&', ',', ':', ';']) (by decide) c part

-- A character that is written as it stands.
theorem code_kept (written : List Char) (gap : Bool) (c : Char) (solid : Text.isBlank c = false)
    (unquoted : isQuote c = false) (plain : c ∉ ['|', '&', ',', ':', ';'])
    (apart : startsWith (· == ' ') written = true → isWordChar c = true ∨ c = '(')
    (free : gap = true → startsWith isWordChar written = false) :
    Scan.step ⟨written, .code gap⟩ c = ⟨c :: written, .code false⟩ := by
  obtain ⟨notBar, notAnd, notComma, notColon, notSemi⟩ :
      (c == '|') = false ∧ (c == '&') = false ∧ (c == ',') = false ∧ (c == ':') = false ∧
        (c == ';') = false := by
    simpa using plain
  have noTrim : (startsWith (· == ' ') written && !isWordChar c && c != '(' && c != '\x7b' &&
      c != '[') = false := by
    cases blank : startsWith (· == ' ') written with
    | false => rfl
    | true =>
        rcases apart blank with word | rfl
        · simp [word]
        · simp
  have noSpace : (gap && startsWith isWordChar written && isWordChar c) = false := by
    cases gap with
    | false => rfl
    | true => simp [free rfl]
  simp only [Scan.step, Scan.code, solid, unquoted, notBar, notAnd, notComma, notColon, notSemi,
    noTrim, noSpace, Bool.or_false, if_false, Bool.false_eq_true]

theorem word_kept (cs written : List Char) (gap : Bool) (parts : ∀ c ∈ cs, Name.isPart c = true)
    (free : startsWith isWordChar written = false) (nonempty : cs ≠ []) :
    cs.foldl Scan.step ⟨written, .code gap⟩ = ⟨cs.reverse ++ written, .code false⟩ := by
  have onward (rest : List Char) : ∀ written : List Char, (∀ c ∈ rest, Name.isPart c = true) →
      rest.foldl Scan.step ⟨written, .code false⟩ = ⟨rest.reverse ++ written, .code false⟩ := by
    induction rest with
    | nil => exact fun _ _ => rfl
    | cons c others ih =>
        intro written parts
        obtain ⟨own, later⟩ := List.forall_mem_cons.mp parts
        obtain ⟨solid, unquoted, word, plain⟩ := part_spelled c own
        rw [List.foldl_cons, code_kept written false c solid unquoted plain (fun _ => .inl word)
          (fun none_ => by cases none_), ih _ later]
        simp
  cases cs with
  | nil => exact absurd rfl nonempty
  | cons c rest =>
      obtain ⟨own, later⟩ := List.forall_mem_cons.mp parts
      obtain ⟨solid, unquoted, word, plain⟩ := part_spelled c own
      rw [List.foldl_cons, code_kept written gap c solid unquoted plain (fun _ => .inl word)
        (fun _ => free), onward rest _ later]
      simp

theorem identifier_steady (name : String) (named : Name.isIdentifier name = true) :
    Steady name.toList := by
  obtain ⟨c, rest, spelled, -, parts⟩ := Name.identifier_parts name named
  have solid (d : Char) (member : d ∈ name.toList) : Text.isBlank d = false :=
    (part_spelled d (parts d member)).1
  have nonempty : name.toList ≠ [] := by simp [spelled]
  refine ⟨fun written gap free => word_kept _ written gap parts free nonempty, ?_, ?_⟩
  · rw [spelled]
    exact (solid_cons_iff c rest).mpr (solid c (by simp [spelled]))
  · cases turned : name.toList.reverse with
    | nil => exact absurd (List.reverse_eq_nil_iff.mp turned) nonempty
    | cons d others =>
        exact (solid_cons_iff d others).mpr (solid d (List.mem_reverse.mp (by simp [turned])))

theorem escaped_kept (text written : List Char) :
    (text.flatMap Code.escapeChar).foldl Scan.step ⟨written, .literal '"' false⟩ =
      ⟨(text.flatMap Code.escapeChar).reverse ++ written, .literal '"' false⟩ := by
  induction text generalizing written with
  | nil => rfl
  | cons c rest ih =>
      rw [List.flatMap_cons, List.foldl_append]
      have own : (Code.escapeChar c).foldl Scan.step ⟨written, .literal '"' false⟩ =
          ⟨(Code.escapeChar c).reverse ++ written, .literal '"' false⟩ := by
        rw [Code.escapeChar]
        split_ifs with quote slash feed return_ tab
        · simp [Scan.step]
        · simp [Scan.step]
        · simp [Scan.step]
        · simp [Scan.step]
        · simp [Scan.step]
        · simp [Scan.step, quote, slash]
      rw [own, ih]
      simp

theorem literal_steady (value : String) : Steady (Code.quoted value).toList := by
  rw [Code.quoted, String.toList_ofList]
  refine ⟨fun written gap free => ?_, rfl, ?_⟩
  · have opened : Scan.step ⟨written, .code gap⟩ '"' = ⟨'"' :: written, .literal '"' false⟩ := by
      have noBlank : Text.isBlank '"' = false := by decide
      have quote : isQuote '"' = true := by decide
      simp [Scan.step, Scan.code, noBlank, quote, free]
    rw [List.foldl_cons, opened, List.foldl_append, escaped_kept]
    simp [Scan.step]
  · rw [List.reverse_cons, List.reverse_append]
    rfl

theorem separates_bar : Separates " | ".toList := by
  intro written solid
  refine ⟨'|' :: ' ' :: written, rfl, ?_⟩
  have kept := trim_left_solid written solid
  cases written with
  | nil => simp [Solid, startsWith] at solid
  | cons c rest => simp [Scan.step, Scan.code, kept, Text.isBlank, isQuote]

theorem separates_comma : Separates ", ".toList := by
  intro written solid
  refine ⟨',' :: written, rfl, ?_⟩
  have kept := trim_left_solid written solid
  simp [Scan.step, Scan.code, kept, Text.isBlank, isQuote]

theorem join_steady (sep : String) (separates : Separates sep.toList) (texts : List String)
    (nonempty : texts ≠ []) (each : ∀ text ∈ texts, Steady text.toList) :
    Steady (Text.join sep texts).toList := by
  induction texts with
  | nil => exact absurd rfl nonempty
  | cons first others ih =>
      obtain ⟨own, later⟩ := List.forall_mem_cons.mp each
      cases others with
      | nil => exact own
      | cons second more =>
          have rest := ih (by simp) later
          rw [Text.join_cons sep first _ (by simp), String.toList_append, String.toList_append]
          refine ⟨fun written gap free => ?_, ?_, ?_⟩
          · obtain ⟨before, turned, left⟩ :=
              separates (first.toList.reverse ++ written) (solid_append _ _ own.ends_solid)
            rw [List.foldl_append, List.foldl_append, own.kept written gap free, left,
              rest.kept _ true rfl, ← turned]
            simp
          · exact solid_append _ _ (solid_append _ _ own.starts_solid)
          · rw [List.reverse_append]
            exact solid_append _ _ rest.ends_solid

-- A closing mark right behind a part, or an opening one that is no parenthesis.
theorem mark_kept (written : List Char) (c : Char) (mark : c ∈ ['[', ']', '<', '>', ')'])
    (solid : Solid written) :
    Scan.step ⟨written, .code false⟩ c = ⟨c :: written, .code false⟩ := by
  have noBlank := starts_with_blank written solid
  simp only [List.mem_cons, List.not_mem_nil, or_false] at mark
  apply code_kept written false c
  · rcases mark with rfl | rfl | rfl | rfl | rfl <;> decide
  · rcases mark with rfl | rfl | rfl | rfl | rfl <;> decide
  · rcases mark with rfl | rfl | rfl | rfl | rfl <;> decide
  · exact fun blank => by rw [noBlank] at blank; cases blank
  · exact fun none_ => by cases none_

theorem brackets_steady (cs : List Char) (steady : Steady cs) : Steady (cs ++ "[]".toList) := by
  refine ⟨fun written gap free => ?_, solid_append _ _ steady.starts_solid, by simp; rfl⟩
  have solid : Solid (cs.reverse ++ written) := solid_append _ _ steady.ends_solid
  have opened : Solid ('[' :: (cs.reverse ++ written)) := rfl
  rw [List.foldl_append, steady.kept written gap free]
  simp [mark_kept _ '[' (by simp) solid, mark_kept _ ']' (by simp) opened]

theorem parentheses_steady (cs : List Char) (steady : Steady cs) :
    Steady ("(".toList ++ cs ++ ")".toList) := by
  refine ⟨fun written gap free => ?_, rfl, by simp; rfl⟩
  have opened : Scan.step ⟨written, .code gap⟩ '(' = ⟨'(' :: written, .code false⟩ :=
    code_kept written gap '(' rfl rfl (by decide) (fun _ => .inr rfl) (fun _ => free)
  have solid : Solid (cs.reverse ++ '(' :: written) := solid_append _ _ steady.ends_solid
  rw [List.foldl_append, List.foldl_append]
  simp [opened, steady.kept ('(' :: written) false rfl, mark_kept _ ')' (by simp) solid]

theorem array_steady (element : TypeExpr) (steady : Steady element.render.toList) :
    Steady (TypeExpr.arrayOf element).render.toList := by
  have brackets := brackets_steady _ steady
  cases element with
  | union members =>
      have wrapped := brackets_steady _ (parentheses_steady _ steady)
      simpa [TypeExpr.render] using wrapped
  | named name => simpa [TypeExpr.render] using brackets
  | arrayOf inner => simpa [TypeExpr.render] using brackets
  | generic name args => simpa [TypeExpr.render] using brackets
  | literal value => simpa [TypeExpr.render] using brackets

theorem generic_steady (name : String) (args : List String)
    (named : Name.isIdentifier name = true) (each : ∀ arg ∈ args, Steady arg.toList) :
    Steady (name ++ "<" ++ Text.join ", " args ++ ">").toList := by
  have steady := identifier_steady name named
  refine ⟨fun written gap free => ?_, ?_, ?_⟩
  · have solid : Solid (name.toList.reverse ++ written) := solid_append _ _ steady.ends_solid
    have opened := mark_kept _ '<' (by simp) solid
    cases args with
    | nil =>
        have closed := mark_kept ('<' :: (name.toList.reverse ++ written)) '>' (by simp) rfl
        simp [steady.kept written gap free, opened, closed, Text.join]
    | cons first others =>
        have inner := join_steady ", " separates_comma (first :: others) (by simp) each
        have closed := mark_kept _ '>' (by simp)
          (solid_append _ ('<' :: (name.toList.reverse ++ written)) inner.ends_solid)
        simp only [String.toList_append, List.foldl_append, steady.kept written gap free]
        simp [opened, inner.kept ('<' :: (name.toList.reverse ++ written)) false rfl, closed]
  · simp only [String.toList_append, List.append_assoc]
    exact solid_append _ _ steady.starts_solid
  · simp only [String.toList_append, List.reverse_append]
    rfl

mutual

theorem render_steady : ∀ t : TypeExpr, WellSpelled IsIdentifier t → Steady t.render.toList
  | .named name, named => by
      rw [TypeExpr.render]
      exact identifier_steady name named
  | .arrayOf element, spelled => array_steady element (render_steady element spelled)
  | .union members, ⟨nonempty, spelled⟩ => by
      rw [TypeExpr.render]
      refine join_steady " | " separates_bar _ ?_ (render_all_steady members spelled)
      cases members with
      | nil => exact absurd rfl nonempty
      | cons first others => simp [TypeExpr.renderAll]
  | .generic name args, ⟨named, spelled⟩ => by
      rw [TypeExpr.render]
      exact generic_steady name _ named (render_all_steady args spelled)
  | .literal value, _ => by
      rw [TypeExpr.render]
      exact literal_steady value

theorem render_all_steady : ∀ ts : List TypeExpr, WellSpelledAll IsIdentifier ts →
    ∀ text ∈ TypeExpr.renderAll ts, Steady text.toList
  | [], _ => by simp [TypeExpr.renderAll]
  | t :: rest, ⟨own, later⟩ => by
      rw [TypeExpr.renderAll]
      exact List.forall_mem_cons.mpr ⟨render_steady t own, render_all_steady rest later⟩

end

theorem canonical_blanks (blanks cs : List Char) (allBlank : ∀ c ∈ blanks, Text.isBlank c = true) :
    canonicalChars (blanks ++ cs) = canonicalChars cs := by
  have dropped : Text.trimLeft (blanks ++ cs) = Text.trimLeft cs :=
    List.dropWhile_append_of_pos allBlank
  rw [canonicalChars, Text.trim, dropped]
  rfl

theorem canonical_steady (cs : List Char) (steady : Steady cs) : canonicalChars cs = cs := by
  rw [canonicalChars, Text.trim, trim_left_solid cs steady.starts_solid,
    trim_right_solid cs steady.ends_solid, steady.kept [] false rfl]
  simp only [List.append_nil, trim_left_solid _ steady.ends_solid, List.reverse_reverse]

-- What stands in front of a type does not change its canonical spelling, which is its text.
theorem canonical_of_render (blanks : List Char) (t : TypeExpr)
    (allBlank : ∀ c ∈ blanks, Text.isBlank c = true) (spelled : WellSpelled IsIdentifier t) :
    canonicalChars (blanks ++ t.render.toList) = t.render.toList :=
  (canonical_blanks blanks _ allBlank).trans (canonical_steady _ (render_steady t spelled))

theorem rendered_is_canonical (t : TypeExpr) (spelled : WellSpelled IsIdentifier t) :
    canonicalType t.render = t.render := by
  rw [canonicalType, ← List.nil_append t.render.toList, canonical_of_render [] t nofun spelled,
    String.ofList_toList]

-- The literals hold the marks that mean something to the canonical spelling outside of them.
def markedType : TypeExpr :=
  .arrayOf (.union [.literal "a|b ,c", .generic "Map" [.named "string", .arrayOf (.literal "\"[ \x60\\")],
    .generic "Empty" []])

theorem marks_in_literals_kept :
    WellSpelled IsIdentifier markedType ∧
      canonicalType "(\"a|b ,c\" | Map<string, \"\\\"[ \x60\\\\\"[]> | Empty<>)[]" =
        "(\"a|b ,c\" | Map<string, \"\\\"[ \x60\\\\\"[]> | Empty<>)[]" := by
  have spelled : WellSpelled IsIdentifier markedType := by
    simp only [markedType, WellSpelled, WellSpelledAll, IsIdentifier, ne_eq, reduceCtorEq,
      not_false_eq_true, and_true, true_and]
    decide
  have first : Code.quoted "a|b ,c" = "\"a|b ,c\"" := by decide
  have second : Code.quoted "\"[ \x60\\" = "\"\\\"[ \x60\\\\\"" := by decide
  have text : markedType.render = "(\"a|b ,c\" | Map<string, \"\\\"[ \x60\\\\\"[]> | Empty<>)[]" := by
    simp [markedType, TypeExpr.render, TypeExpr.renderAll, Text.join, first, second]
  rw [← text]
  exact ⟨spelled, rendered_is_canonical markedType spelled⟩

end ApiContract.Outline
