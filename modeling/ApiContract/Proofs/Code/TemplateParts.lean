import ApiContract.Proofs.Code.Template

/-!
A template is read back as its parts. Each text part is escaped by itself, so a dollar sign at the
end of one and a brace at the start of the next come through as the beginning of a substitution.
Where no part is cut there, the literal means its parts.
-/

set_option autoImplicit false

namespace ApiContract.Grammar

open Code

-- What the parts mean: the texts between two substitutions are one text.
def meaning : List TemplatePart → Template
  | [] => .empty
  | .text text :: rest => (meaning rest).after text.toList
  | .hole value :: rest => (meaning rest).hole value

-- A text without a carriage return, or a name.
inductive PlainPart : TemplatePart → Prop where
  | text (text : String) (noReturn : '\r' ∉ text.toList) : PlainPart (.text text)
  | hole (name : String) (identifier : Name.isIdentifier name = true) :
      PlainPart (.hole (.ident name))

-- The next character of the texts up to the next substitution.
def ahead : List TemplatePart → Option Char
  | .text text :: rest => text.toList.head?.or (ahead rest)
  | _ => none

-- No dollar sign is cut off from a brace.
def Uncut : List TemplatePart → Prop
  | [] => True
  | .text text :: rest =>
      (text.toList.getLast? = some '$' → ahead rest ≠ some '\x7b') ∧ Uncut rest
  | .hole _ :: rest => Uncut rest

theorem read_escaped (c : Char) (rest : List Char) (special : c = '\\' ∨ c = '\x60' ∨ c = '$') :
    readTemplate ('\\' :: c :: rest) = (readTemplate rest).map (Template.after [c]) := by
  rw [readTemplate, if_neg (by decide), if_pos rfl]
  rcases special with rfl | rfl | rfl <;> rfl

theorem read_plain (c : Char) (rest : List Char) (noTick : c ≠ '\x60') (noSlash : c ≠ '\\')
    (noReturn : c ≠ '\r') (noHole : c = '$' → rest.head? ≠ some '\x7b') :
    readTemplate (c :: rest) = (readTemplate rest).map (Template.after [c]) := by
  rw [readTemplate, if_neg noTick, if_neg noSlash, if_neg (fun both => noHole both.1 both.2),
    if_neg noReturn]

theorem read_close : readTemplate ['\x60'] = some .empty := by
  rw [readTemplate, if_pos rfl, if_pos rfl]

-- A substitution stands behind no text.
theorem read_hole_lead (rest : List Char) (t : Template)
    (reads : readTemplate ('$' :: '\x7b' :: rest) = some t) : t.lead = [] := by
  rw [readTemplate, if_neg (by decide), if_neg (by decide), if_pos ⟨rfl, rfl⟩] at reads
  dsimp only at reads
  split at reads
  · obtain ⟨inner, -, rfl⟩ := Option.map_eq_some_iff.mp reads
    rfl
  · cases reads

theorem read_hole (name : String) (rest : List Char) (identifier : Name.isIdentifier name = true) :
    readTemplate ('$' :: '\x7b' :: (name.toList ++ '\x7d' :: rest)) =
      (readTemplate rest).map (Template.hole (.ident name)) := by
  obtain ⟨-, -, -, -, parts⟩ := Name.identifier_parts name identifier
  have taken : (name.toList ++ '\x7d' :: rest).takeWhile Name.isPart = name.toList := by
    rw [List.takeWhile_append_of_pos parts, List.takeWhile_cons_of_neg (by decide), List.append_nil]
  rw [readTemplate, if_neg (by decide), if_neg (by decide), if_pos ⟨rfl, rfl⟩]
  simp only [List.tail_cons, taken, String.ofList_toList, List.drop_left, List.head?_cons,
    identifier, and_self, if_true]
  have behind : ('\x7b' :: (name.toList ++ '\x7d' :: rest)).drop (name.toList.length + 2) = rest := by
    rw [List.drop_succ_cons, ← List.drop_drop, List.drop_left, List.drop_one, List.tail_cons]
  rw [behind]

-- Escaping neither takes nor gives a brace at the start.
theorem template_text_head (text rest : List Char) :
    (templateText text ++ rest).head? = some '\x7b' ↔ (text ++ rest).head? = some '\x7b' := by
  fun_cases templateText text with
  | case1 => rfl
  | case2 text => simp
  | case3 c text _ special => rcases special with rfl | rfl <;> simp
  | case4 c text _ plain => simp

theorem template_text_cons (c : Char) (text : List Char)
    (apart : c = '$' → text.head? ≠ some '\x7b') :
    templateText (c :: text) =
      if c = '\\' ∨ c = '\x60' then '\\' :: c :: templateText text else c :: templateText text := by
  refine templateText.eq_3 c text ?_
  rintro rest rfl rfl
  exact apart rfl rfl

theorem last_behind (c : Char) (text : List Char) (last : text.getLast? = some '$') :
    (c :: text).getLast? = some '$' := by
  rw [List.getLast?_cons, last, Option.getD_some]

-- What stands behind a character of a text, the text's rest or what comes behind the text.
theorem head_behind (c : Char) (text rest : List Char)
    (whole : (c :: text).getLast? = some '$' → rest.head? ≠ some '\x7b')
    (apart : c = '$' → text.head? ≠ some '\x7b') :
    c = '$' → (text ++ rest).head? ≠ some '\x7b' := by
  rintro rfl
  cases text with
  | nil => exact whole rfl
  | cons d text => exact apart rfl

theorem dollar_apart (c : Char) (text : List Char)
    (pair : ∀ rest, c = '$' → text = '\x7b' :: rest → False) :
    c = '$' → text.head? ≠ some '\x7b' := by
  intro dollar head
  obtain ⟨rest, same⟩ := List.head?_eq_some_iff.mp head
  exact pair rest dollar same

-- By induction on the first text: each of two texts is escaped by itself, unless the cut between
-- them parts a dollar sign from a brace.
theorem template_text_append (first second : List Char)
    (whole : first.getLast? = some '$' → second.head? ≠ some '\x7b') :
    templateText (first ++ second) = templateText first ++ templateText second := by
  fun_induction templateText first with
  | case1 => rfl
  | case2 rest ih =>
      have later := ih (fun last => whole (last_behind '$' _ (last_behind '\x7b' rest last)))
      simp only [List.cons_append, templateText, later]
  | case3 c rest pair special ih =>
      have later := ih (fun last => whole (last_behind c rest last))
      have apart := head_behind c rest second whole (dollar_apart c rest pair)
      rw [List.cons_append, template_text_cons c _ apart,
        if_pos special, later, List.cons_append, List.cons_append]
  | case4 c rest pair plain ih =>
      have later := ih (fun last => whole (last_behind c rest last))
      have apart := head_behind c rest second whole (dollar_apart c rest pair)
      rw [List.cons_append, template_text_cons c _ apart,
        if_neg plain, later, List.cons_append]

-- By induction on the text: what is escaped is read as it was.
theorem read_text (text rest : List Char) (noReturn : '\r' ∉ text)
    (whole : text.getLast? = some '$' → rest.head? ≠ some '\x7b') :
    readTemplate (templateText text ++ rest) = (readTemplate rest).map (Template.after text) := by
  fun_induction templateText text with
  | case1 =>
      have same : Template.after [] = id := rfl
      rw [same, Option.map_id_fun, id, List.nil_append]
  | case2 text ih =>
      have later := ih (by simp_all) (fun last => whole (last_behind '$' _ (last_behind '\x7b' text last)))
      rw [List.cons_append, List.cons_append, List.cons_append, read_escaped '$' _ (by simp),
        read_plain '\x7b' _ (by decide) (by decide) (by decide) nofun, later, Option.map_map,
        Option.map_map]
      congr 1
  | case3 c text pair special ih =>
      have later := ih (by simp_all) (fun last => whole (last_behind c text last))
      rw [List.cons_append, List.cons_append, read_escaped c _ (by tauto), later, Option.map_map]
      congr 1
  | case4 c text pair plain ih =>
      have later := ih (by simp_all) (fun last => whole (last_behind c text last))
      obtain ⟨noSlash, noTick⟩ := not_or.mp plain
      have noHole := head_behind c text rest whole (dollar_apart c text pair)
      rw [List.cons_append, read_plain c _ noTick noSlash (by rintro rfl; simp at noReturn)
        (fun dollar => mt (template_text_head text rest).mp (noHole dollar)), later, Option.map_map]
      congr 1

-- A dollar sign cut off from its brace begins a substitution, and the text ends in front of it.
theorem read_cut_text (text rest : List Char) (noReturn : '\r' ∉ text) (t : Template)
    (dollar : text.getLast? = some '$') (brace : rest.head? = some '\x7b') :
    readTemplate (templateText text ++ rest) ≠ some (t.after text) := by
  obtain ⟨front, rfl⟩ := List.getLast?_eq_some_iff.mp dollar
  obtain ⟨others, rfl⟩ := List.head?_eq_some_iff.mp brace
  have single : templateText ['$'] = ['$'] := rfl
  rw [template_text_append front ['$'] (fun _ => by decide), single, List.append_assoc,
    List.singleton_append, read_text front _ (by simp_all) (fun _ => by simp)]
  intro reads
  obtain ⟨inner, innerReads, same⟩ := Option.map_eq_some_iff.mp reads
  have lead := congrArg (fun t => t.lead.length) same
  simp only [Template.after, read_hole_lead others inner innerReads, List.length_append,
    List.length_nil, List.length_singleton] at lead
  omega

theorem ahead_head (parts : List TemplatePart) :
    ((Expr.renderParts parts).toList ++ ['\x60']).head? = some '\x7b' ↔
      ahead parts = some '\x7b' := by
  induction parts with
  | nil => simp [Expr.renderParts, ahead]
  | cons part rest ih =>
      cases part with
      | text text =>
          rw [Expr.renderParts, String.toList_append, String.toList_ofList, List.append_assoc,
            template_text_head, ahead]
          cases text.toList with
          | nil => simpa using ih
          | cons c text => simp
      | hole value => simp [Expr.renderParts, ahead]

theorem after_injective (text : List Char) : Function.Injective (Template.after text) := by
  rintro ⟨lead, holes⟩ ⟨lead', holes'⟩ same
  simpa [Template.after] using same

theorem hole_injective (value : Expr) : Function.Injective (Template.hole value) := by
  rintro ⟨lead, holes⟩ ⟨lead', holes'⟩ same
  simpa [Template.hole] using same

-- By induction on the parts.
theorem read_parts_iff (parts : List TemplatePart) (plain : ∀ part ∈ parts, PlainPart part) :
    readTemplate ((Expr.renderParts parts).toList ++ ['\x60']) = some (meaning parts) ↔
      Uncut parts := by
  induction parts with
  | nil => simp [Expr.renderParts, read_close, meaning, Uncut]
  | cons part rest ih =>
      obtain ⟨first, others⟩ := List.forall_mem_cons.mp plain
      have later := ih others
      cases first with
      | text text noReturn =>
          rw [Expr.renderParts, String.toList_append, String.toList_ofList, List.append_assoc,
            meaning, Uncut]
          by_cases cut : text.toList.getLast? = some '$' ∧ ahead rest = some '\x7b'
          · have misread := read_cut_text text.toList _ noReturn (meaning rest) cut.1
              ((ahead_head rest).mpr cut.2)
            exact iff_of_false misread (fun whole => whole.1 cut.1 cut.2)
          · have whole : text.toList.getLast? = some '$' → ahead rest ≠ some '\x7b' :=
              fun dollar brace => cut ⟨dollar, brace⟩
            rw [read_text text.toList _ noReturn (fun dollar => mt (ahead_head rest).mp (whole dollar)),
              ← later]
            simp only [Option.map_eq_some_iff, (after_injective _).eq_iff]
            simpa using fun _ => whole
      | hole name identifier =>
          have text : (Expr.renderParts (.hole (.ident name) :: rest)).toList ++ ['\x60'] =
              '$' :: '\x7b' :: (name.toList ++
                '\x7d' :: ((Expr.renderParts rest).toList ++ ['\x60'])) := by
            simp [Expr.renderParts, Expr.render]
          rw [text, read_hole name _ identifier, meaning, Uncut, ← later]
          simp only [Option.map_eq_some_iff, (hole_injective _).eq_iff]
          simp

theorem template_means_parts_iff (parts : List TemplatePart)
    (plain : ∀ part ∈ parts, PlainPart part) :
    readLiteral (Expr.template parts).render = some (meaning parts) ↔ Uncut parts := by
  have text : (Expr.template parts).render.toList =
      '\x60' :: ((Expr.renderParts parts).toList ++ ['\x60']) := by
    simp [Expr.render]
  rw [readLiteral, text]
  exact read_parts_iff parts plain

def price : List TemplatePart := [
  .text "cost: \x60$", .hole (.ident "amount"), .text " $\x7braw\x7d \\", .text "\x7b", .text "$"]

example : (Expr.template price).render = "\x60cost: \\\x60$$\x7bamount\x7d \\$\x7braw\x7d \\\\\x7b$\x60" := by
  rfl

theorem price_means_parts : (∀ part ∈ price, PlainPart part) ∧
    readLiteral (Expr.template price).render =
      some ⟨"cost: \x60$".toList, [(.ident "amount", " $\x7braw\x7d \\\x7b$".toList)]⟩ := by
  have plain : ∀ part ∈ price, PlainPart part := by
    simp only [price, List.forall_mem_cons]
    exact ⟨.text _ (by decide), .hole _ (by decide), .text _ (by decide), .text _ (by decide),
      .text _ (by decide), List.forall_mem_nil _⟩
  have uncut : Uncut price := by
    simp [price, Uncut, ahead]
  exact ⟨plain, (template_means_parts_iff price plain).mpr uncut⟩

def cutHole : List TemplatePart := [.text "$", .text "\x7bx\x7d"]

theorem cut_hole_substituted : (∀ part ∈ cutHole, PlainPart part) ∧
    meaning cutHole = ⟨"$\x7bx\x7d".toList, []⟩ ∧
    readLiteral (Expr.template cutHole).render = some ⟨[], [(.ident "x", [])]⟩ := by
  have plain : ∀ part ∈ cutHole, PlainPart part := by
    simp only [cutHole, List.forall_mem_cons]
    exact ⟨.text _ (by decide), .text _ (by decide), List.forall_mem_nil _⟩
  have reads := read_hole "x" ['\x60'] (by decide)
  rw [read_close] at reads
  exact ⟨plain, rfl, reads⟩

end ApiContract.Grammar
