import ApiContract.Code.Stmt
import ApiContract.Proofs.Code.Literals
import ApiContract.Proofs.Code.TemplateParts
import ApiContract.Proofs.Code.TypeItems
import ApiContract.Proofs.Number.Characters

/-!
What is read of the text of an expression. Without raw code, and with names that hold no marks of
literals, comments or braces, an expression is read to its end as code, and its literals hold a line
end exactly when the texts of its templates do.
-/

set_option autoImplicit false

namespace ApiContract.Literals

open Code
open Grammar (Uncut ahead dollar_apart last_behind)
open Spot

-- A character that begins a literal or a comment, or opens or closes a hole.
def isMark (c : Char) : Bool :=
  c == '"' || c == '\'' || c == '\x60' || c == '/' || c == '\x7b' || c == '\x7d'

def isClear (text : String) : Bool :=
  !text.toList.any isMark

def ClearName (name : String) : Prop :=
  isClear name = true

mutual

def ClearType : TypeExpr → Prop
  | .named name => ClearName name
  | .arrayOf element => ClearType element
  | .union members => ClearTypes members
  | .generic name args => ClearName name ∧ ClearTypes args
  | .literal _ => True

def ClearTypes : List TypeExpr → Prop
  | [] => True
  | t :: rest => ClearType t ∧ ClearTypes rest

end

def ClearSuffix : Option TypeExpr → Prop
  | some t => ClearType t
  | none => True

mutual

-- No raw code, clear names, and no dollar sign of a template cut off from its brace.
def ClearExpr : Expr → Prop
  | .raw _ => False
  | .ident name => ClearName name
  | .literal _ => True
  | .call callee args => ClearExpr callee ∧ ClearArgs args
  | .construct callee args => ClearExpr callee ∧ ClearArgs args
  | .member target property _ => ClearExpr target ∧ ClearName property
  | .index target key => ClearExpr target ∧ ClearExpr key
  | .binary left _ right => ClearExpr left ∧ ClearExpr right
  | .unary _ operand => ClearExpr operand
  | .await operand => ClearExpr operand
  | .object fields => ClearFields fields
  | .array items => ClearArgs items
  | .template parts => Uncut parts ∧ ClearParts parts
  | .arrow params body _ => ClearParams params ∧ ClearExpr body
  | .cast operand type => ClearExpr operand ∧ ClearType type
  | .conditional test whenTrue whenFalse =>
      ClearExpr test ∧ ClearExpr whenTrue ∧ ClearExpr whenFalse

def ClearArgs : List Expr → Prop
  | [] => True
  | e :: rest => ClearExpr e ∧ ClearArgs rest

def ClearFields : List (String × Expr) → Prop
  | [] => True
  | (_, value) :: rest => ClearExpr value ∧ ClearFields rest

def ClearParts : List TemplatePart → Prop
  | [] => True
  | .text _ :: rest => ClearParts rest
  | .hole value :: rest => ClearExpr value ∧ ClearParts rest

def ClearParams : List Param → Prop
  | [] => True
  | .mk name type _ default :: rest =>
      ClearName name ∧ ClearSuffix type ∧
        (match default with
         | some value => ClearExpr value
         | none => True) ∧ ClearParams rest

end

mutual

-- The texts of the templates of an expression.
def templates : Expr → List String
  | .raw _ => []
  | .ident _ => []
  | .literal _ => []
  | .call callee args => templates callee ++ argTemplates args
  | .construct callee args => templates callee ++ argTemplates args
  | .member target _ _ => templates target
  | .index target key => templates target ++ templates key
  | .binary left _ right => templates left ++ templates right
  | .unary _ operand => templates operand
  | .await operand => templates operand
  | .object fields => fieldTemplates fields
  | .array items => argTemplates items
  | .template parts => partTemplates parts
  | .arrow params body _ => paramTemplates params ++ templates body
  | .cast operand _ => templates operand
  | .conditional test whenTrue whenFalse =>
      templates test ++ templates whenTrue ++ templates whenFalse

def argTemplates : List Expr → List String
  | [] => []
  | e :: rest => templates e ++ argTemplates rest

def fieldTemplates : List (String × Expr) → List String
  | [] => []
  | (_, value) :: rest => templates value ++ fieldTemplates rest

def partTemplates : List TemplatePart → List String
  | [] => []
  | .text text :: rest => text :: partTemplates rest
  | .hole value :: rest => templates value ++ partTemplates rest

def paramTemplates : List Param → List String
  | [] => []
  | .mk _ _ _ default :: rest =>
      (match default with
       | some value => templates value
       | none => []) ++ paramTemplates rest

end

def Fed (texts : List String) : Prop :=
  ∃ text ∈ texts, '\n' ∈ text.toList

@[simp] theorem fed_nil : ¬ Fed [] := by
  simp [Fed]

@[simp] theorem fed_append (first second : List String) :
    Fed (first ++ second) ↔ Fed first ∨ Fed second := by
  simp [Fed, or_and_right, exists_or]

@[simp] theorem fed_cons (text : String) (rest : List String) :
    Fed (text :: rest) ↔ '\n' ∈ text.toList ∨ Fed rest := by
  simp [Fed]

-- A text that is read as code from wherever code stands, with line ends in its literals when the
-- templates have them.
structure Reads (text : String) (texts : List String) : Prop where
  spot : ∀ holes, (run ⟨.code, holes⟩ text.toList).2 = ⟨.code, holes⟩
  feeds : ∀ holes, .text '\n' ∈ (run ⟨.code, holes⟩ text.toList).1 ↔ Fed texts

theorem Reads.append {first second : String} {texts more : List String} (left : Reads first texts)
    (right : Reads second more) : Reads (first ++ second) (texts ++ more) where
  spot holes := by rw [String.toList_append, run_append, left.spot, right.spot]
  feeds holes := by
    rw [String.toList_append, run_append, left.spot, List.mem_append, left.feeds, right.feeds,
      fed_append]

theorem reads_same {text : String} {texts more : List String} (reads : Reads text texts)
    (same : Fed texts ↔ Fed more) : Reads text more :=
  ⟨reads.spot, fun holes => (reads.feeds holes).trans same⟩

theorem clear_step (holes : List Nat) (c : Char) (noMark : isMark c = false) :
    step ⟨.code, holes⟩ c = (outside c, ⟨.code, holes⟩) := by
  simp only [isMark, Bool.or_eq_false_iff, beq_eq_false_iff_ne] at noMark
  simp [step, inCode, noMark]

theorem outside_free (c d : Char) : .text d ∉ outside c := by
  rw [outside]
  split <;> simp

theorem reads_clear (text : String) (clear : isClear text = true) : Reads text [] := by
  have each (cs : List Char) (clear : ∀ c ∈ cs, isMark c = false) (holes : List Nat) :
      (run ⟨.code, holes⟩ cs).2 = ⟨.code, holes⟩ ∧
        .text '\n' ∉ (run ⟨.code, holes⟩ cs).1 := by
    induction cs with
    | nil => exact ⟨rfl, List.not_mem_nil⟩
    | cons c rest ih =>
        obtain ⟨own, later⟩ := List.forall_mem_cons.mp clear
        obtain ⟨spot, free⟩ := ih later
        rw [run_cons, clear_step holes c own]
        exact ⟨spot, by simp [outside_free, free]⟩
  have free : ∀ c ∈ text.toList, isMark c = false := by
    simpa [isClear] using clear
  exact ⟨fun holes => (each text.toList free holes).1,
    fun holes => iff_of_false (each text.toList free holes).2 fed_nil⟩

theorem reads_wrap (needed : Bool) {text : String} {texts : List String} (reads : Reads text texts) :
    Reads (Expr.wrapIf needed text) texts := by
  cases needed with
  | false => exact reads
  | true =>
      have wrapped := Reads.append (Reads.append (reads_clear "(" rfl) reads)
        (reads_clear ")" rfl)
      simpa [Expr.wrapIf] using wrapped

theorem join_reads (sep : String) {text : String} {rest texts more : List String}
    (apart : ClearName sep) (first : Reads text texts) (later : Reads (Text.join sep rest) more) :
    Reads (Text.join sep (text :: rest)) (texts ++ more) := by
  by_cases none_ : rest = []
  · subst none_
    have free : ¬ Fed more := fun fed => List.not_mem_nil ((later.feeds []).mpr fed)
    exact reads_same first (by simp [free])
  · rw [Text.join_cons sep text rest none_]
    have whole := Reads.append (Reads.append first (reads_clear sep apart)) later
    simpa using whole

theorem reads_nothing : Reads "" [] :=
  reads_clear "" rfl

theorem reads_braces {text : String} {texts : List String} (reads : Reads text texts) :
    Reads ("\x7b " ++ text ++ " \x7d") texts := by
  have opened (holes : List Nat) : run ⟨.code, holes⟩ "\x7b ".toList =
      ([.code '\x7b'], ⟨.code, holes.modifyHead (· + 1)⟩) := rfl
  have closed (holes : List Nat) : run ⟨.code, holes.modifyHead (· + 1)⟩ " \x7d".toList =
      ([.code '\x7d'], ⟨.code, holes⟩) := by
    cases holes <;> rfl
  constructor
  · intro holes
    rw [String.toList_append, String.toList_append, run_append, run_append, opened, reads.spot,
      closed]
  · intro holes
    rw [String.toList_append, String.toList_append, run_append, run_append, opened, reads.spot,
      closed]
    simp [reads.feeds]

theorem reads_no_braces : Reads "\x7b\x7d" [] := by
  have both (holes : List Nat) : run ⟨.code, holes⟩ "\x7b\x7d".toList =
      ([.code '\x7b', .code '\x7d'], ⟨.code, holes⟩) := by
    cases holes <;> rfl
  exact ⟨fun holes => by rw [both], fun holes => by rw [both]; simp⟩

theorem reads_operator (op : BinaryOp) : Reads (" " ++ op.symbol ++ " ") [] := by
  cases op with
  | div =>
      have slash (holes : List Nat) : run ⟨.code, holes⟩ " / ".toList =
          ([.code '/'], ⟨.code, holes⟩) := rfl
      exact ⟨fun holes => congrArg Prod.snd (slash holes), fun holes => by
        rw [show " " ++ BinaryOp.div.symbol ++ " " = " / " from rfl, slash]
        simp⟩
  | _ => exact reads_clear _ rfl

theorem escaped_read (c : Char) (holes : List Nat) :
    (run ⟨.literal '"', holes⟩ (escapeChar c)).2 = ⟨.literal '"', holes⟩ ∧
      .text '\n' ∉ (run ⟨.literal '"', holes⟩ (escapeChar c)).1 := by
  by_cases special : c = '"' ∨ c = '\\' ∨ c = '\n' ∨ c = '\r' ∨ c = '\t'
  · rcases special with rfl | rfl | rfl | rfl | rfl <;>
      simp [escapeChar, run, step, inLiteral]
  · simp only [not_or] at special
    simp [escapeChar, run, step, inLiteral, special, Ne.symm special.2.2.1]

theorem reads_quoted (text : String) : Reads (quoted text) [] := by
  have inner (cs : List Char) (holes : List Nat) :
      (run ⟨.literal '"', holes⟩ (cs.flatMap escapeChar)).2 = ⟨.literal '"', holes⟩ ∧
        .text '\n' ∉ (run ⟨.literal '"', holes⟩ (cs.flatMap escapeChar)).1 := by
    induction cs with
    | nil => exact ⟨rfl, List.not_mem_nil⟩
    | cons c rest ih =>
        obtain ⟨spot, free⟩ := escaped_read c holes
        rw [List.flatMap_cons, run_append, spot]
        exact ⟨ih.1, by simp [free, ih.2]⟩
  have whole (holes : List Nat) : run ⟨.code, holes⟩ (quoted text).toList =
      (.opens '"' :: ((run ⟨.literal '"', holes⟩ (text.toList.flatMap escapeChar)).1 ++ [.closes]),
        ⟨.code, holes⟩) := by
    rw [quoted, String.toList_ofList, run_cons, run_append]
    have opened : step ⟨.code, holes⟩ '"' = ([.opens '"'], ⟨.literal '"', holes⟩) := rfl
    rw [opened, (inner text.toList holes).1]
    rfl
  exact ⟨fun holes => by rw [whole], fun holes => by rw [whole]; simp [(inner text.toList holes).2]⟩

theorem spelled_clear (text : String) (spelled : Number.Spelled text) : ClearName text := by
  have each : ∀ c ∈ text.toList, isMark c = false := by
    intro c member
    have own := spelled c member
    by_contra mark
    simp only [isMark, Bool.not_eq_false, Bool.or_eq_true, beq_iff_eq, or_assoc] at mark
    rcases mark with rfl | rfl | rfl | rfl | rfl | rfl <;> cases own
  simpa [ClearName, isClear] using each

theorem literal_reads (value : Literal) : Reads value.render [] := by
  cases value with
  | text value => exact reads_quoted value
  | _ => exact reads_clear _ (spelled_clear _ (Number.literal_spelled _ nofun))

mutual

theorem type_reads : ∀ t : TypeExpr, ClearType t → Reads t.render []
  | .named name, clear => reads_clear name clear
  | .arrayOf element, clear => by
      have inner := reads_wrap element.isUnion (type_reads element clear)
      have whole := Reads.append inner (reads_clear "[]" rfl)
      rw [array_render]
      cases isUnion : element.isUnion <;> simpa [Expr.wrapIf, isUnion] using whole
  | .union members, clear => types_read " | " rfl members clear
  | .generic name args, ⟨named, inner⟩ => by
      have opened := Reads.append (reads_clear name named) (reads_clear "<" rfl)
      have whole := Reads.append (Reads.append opened
        (types_read ", " rfl args inner)) (reads_clear ">" rfl)
      simpa [TypeExpr.render] using whole
  | .literal value, _ => reads_quoted value

theorem types_read (sep : String) (apart : ClearName sep) :
    ∀ ts : List TypeExpr, ClearTypes ts → Reads (Text.join sep (TypeExpr.renderAll ts)) []
  | [], _ => reads_nothing
  | t :: rest, ⟨own, later⟩ =>
      join_reads sep apart (type_reads t own) (types_read sep apart rest later)

end

theorem type_suffix_reads (type : Option TypeExpr) (clear : ClearSuffix type) :
    Reads (typeSuffix type) [] := by
  cases type with
  | none => exact reads_nothing
  | some t => exact Reads.append (reads_clear ": " rfl) (type_reads t clear)

-- A place in a template, right behind a dollar sign or not.
def InTemplate (place : Place) : Prop :=
  place = .literal '\x60' ∨ place = .dollar

theorem literal_no_dollar (p : Prop) (same : Place.literal '\x60' = .dollar) : p := by
  cases same

-- The dollar sign that was held back until the character behind it is known.
def held (place : Place) : List Piece :=
  if place = .dollar then [.text '$'] else []

theorem held_no_feed (place : Place) : .text '\n' ∉ held place := by
  rw [held]
  split <;> simp

theorem template_step (place : Place) (holes : List Nat) (c : Char) (inside : InTemplate place)
    (apart : place = .dollar → c ≠ '\x7b') :
    step ⟨place, holes⟩ c =
      (held place ++ (inLiteral holes '\x60' c).1, (inLiteral holes '\x60' c).2) := by
  rcases inside with rfl | rfl
  · rfl
  · simp [step, held, apart rfl]

theorem template_dollar (place : Place) (holes : List Nat) (inside : InTemplate place) :
    step ⟨place, holes⟩ '$' = (held place, ⟨.dollar, holes⟩) := by
  rw [template_step place holes '$' inside (fun _ => by decide)]
  simp [inLiteral]

-- By induction on the text: it is read as it was, and ends behind a dollar sign only if its last
-- character is one.
theorem template_text_reads (text : List Char) (place : Place) (holes : List Nat)
    (inside : InTemplate place) (apart : place = .dollar → text.head? ≠ some '\x7b') :
    ∃ last, (run ⟨place, holes⟩ (templateText text)).2 = ⟨last, holes⟩ ∧ InTemplate last ∧
      (last = .dollar → text.getLast? = some '$' ∨ text = [] ∧ place = .dollar) ∧
      (.text '\n' ∈ (run ⟨place, holes⟩ (templateText text)).1 ↔ '\n' ∈ text) := by
  fun_induction templateText text generalizing place with
  | case1 => exact ⟨place, rfl, inside, fun dollar => .inr ⟨rfl, dollar⟩, by simp [run]⟩
  | case2 rest ih =>
      obtain ⟨last, spot, within, ends, feeds⟩ :=
        ih (.literal '\x60') (.inl rfl) (literal_no_dollar _)
      have escaped : run ⟨place, holes⟩ ('\\' :: '$' :: '\x7b' :: templateText rest) =
          (held place ++ (.text '\\' :: .text '$' :: .text '\x7b' ::
            (run ⟨.literal '\x60', holes⟩ (templateText rest)).1),
            (run ⟨.literal '\x60', holes⟩ (templateText rest)).2) := by
        rw [run_cons, template_step place holes '\\' inside (fun _ => by decide), List.append_assoc]
        rfl
      refine ⟨last, by rw [escaped, spot], within, fun dollar => .inl ?_, ?_⟩
      · rcases ends dollar with same | ⟨-, same⟩
        · exact last_behind '$' _ (last_behind '\x7b' _ same)
        · cases same
      · rw [escaped]
        simp [held_no_feed, feeds]
  | case3 c rest pair special ih =>
      obtain ⟨last, spot, within, ends, feeds⟩ :=
        ih (.literal '\x60') (.inl rfl) (literal_no_dollar _)
      have noFeed : c ≠ '\n' := by rcases special with rfl | rfl <;> decide
      have escaped : run ⟨place, holes⟩ ('\\' :: c :: templateText rest) =
          (held place ++ (.text '\\' :: .text c ::
            (run ⟨.literal '\x60', holes⟩ (templateText rest)).1),
            (run ⟨.literal '\x60', holes⟩ (templateText rest)).2) := by
        rw [run_cons, template_step place holes '\\' inside (fun _ => by decide), List.append_assoc]
        rcases special with rfl | rfl <;> rfl
      refine ⟨last, by rw [escaped, spot], within, fun dollar => .inl ?_, ?_⟩
      · rcases ends dollar with same | ⟨-, same⟩
        · exact last_behind c _ same
        · cases same
      · rw [escaped]
        simp [held_no_feed, feeds, Ne.symm noFeed]
  | case4 c rest pair plain ih =>
      obtain ⟨noSlash, noTick⟩ := not_or.mp plain
      by_cases dollar : c = '$'
      · subst dollar
        obtain ⟨last, spot, within, ends, feeds⟩ :=
          ih .dollar (.inr rfl) (fun _ => dollar_apart '$' rest pair rfl)
        rw [run_cons, template_dollar place holes inside]
        refine ⟨last, spot, within, fun same => .inl ?_, by simp [held_no_feed, feeds]⟩
        rcases ends same with later | ⟨none_, -⟩
        · exact last_behind '$' _ later
        · rw [none_]
          rfl
      · have behind : step ⟨place, holes⟩ c =
            (held place ++ [.text c], ⟨.literal '\x60', holes⟩) := by
          rw [template_step place holes c inside fun same => by simpa using apart same]
          simp [inLiteral, noSlash, noTick, dollar]
        obtain ⟨last, spot, within, ends, feeds⟩ :=
          ih (.literal '\x60') (.inl rfl) (literal_no_dollar _)
        rw [run_cons, behind]
        refine ⟨last, spot, within, fun same => .inl ?_, by simp [held_no_feed, feeds, eq_comm]⟩
        rcases ends same with later | ⟨-, same⟩
        · exact last_behind c _ later
        · cases same

-- A template from a place in it to behind the backtick that closes it.
structure PartsRead (parts : List TemplatePart) : Prop where
  spot : ∀ place holes, InTemplate place → (place = .dollar → ahead parts ≠ some '\x7b') →
    (run ⟨place, holes⟩ ((Expr.renderParts parts).toList ++ ['\x60'])).2 = ⟨.code, holes⟩
  feeds : ∀ place holes, InTemplate place → (place = .dollar → ahead parts ≠ some '\x7b') →
    (.text '\n' ∈ (run ⟨place, holes⟩ ((Expr.renderParts parts).toList ++ ['\x60'])).1 ↔
      Fed (partTemplates parts))

theorem no_parts_read : PartsRead [] := by
  have closed (place : Place) (holes : List Nat) (inside : InTemplate place) :
      run ⟨place, holes⟩ ['\x60'] = (held place ++ [.closes], ⟨.code, holes⟩) := by
    rw [run_cons, template_step place holes '\x60' inside (fun _ => by decide)]
    simp [inLiteral, run]
  constructor
  · intro place holes inside apart
    simp [Expr.renderParts, closed place holes inside]
  · intro place holes inside apart
    simp [Expr.renderParts, closed place holes inside, held_no_feed, partTemplates]

theorem text_part_reads (text : String) (rest : List TemplatePart)
    (whole : text.toList.getLast? = some '$' → ahead rest ≠ some '\x7b') (later : PartsRead rest) :
    PartsRead (.text text :: rest) := by
  have both (place : Place) (holes : List Nat) (inside : InTemplate place)
      (apart : place = .dollar → ahead (.text text :: rest) ≠ some '\x7b') :
      ∃ last, run ⟨place, holes⟩ ((Expr.renderParts (.text text :: rest)).toList ++ ['\x60']) =
          ((run ⟨place, holes⟩ (templateText text.toList)).1 ++
              (run ⟨last, holes⟩ ((Expr.renderParts rest).toList ++ ['\x60'])).1,
            (run ⟨last, holes⟩ ((Expr.renderParts rest).toList ++ ['\x60'])).2) ∧
        InTemplate last ∧ (last = .dollar → ahead rest ≠ some '\x7b') ∧
        (.text '\n' ∈ (run ⟨place, holes⟩ (templateText text.toList)).1 ↔ '\n' ∈ text.toList) := by
    have head : place = .dollar → text.toList.head? ≠ some '\x7b' := by
      intro dollar brace
      exact apart dollar (by rw [ahead, brace, Option.some_or])
    obtain ⟨last, spot, within, ends, feeds⟩ :=
      template_text_reads text.toList place holes inside head
    refine ⟨last, ?_, within, fun dollar => ?_, feeds⟩
    · rw [Expr.renderParts, String.toList_append, String.toList_ofList, List.append_assoc,
        run_append, spot]
    · rcases ends dollar with same | ⟨none_, before⟩
      · exact whole same
      · have behind := apart before
        rwa [ahead, none_, List.head?_nil, Option.none_or] at behind
  constructor
  · intro place holes inside apart
    obtain ⟨last, text, within, behind, -⟩ := both place holes inside apart
    rw [text, later.spot last holes within behind]
  · intro place holes inside apart
    obtain ⟨last, text, within, behind, feeds⟩ := both place holes inside apart
    rw [text, List.mem_append, feeds, later.feeds last holes within behind, partTemplates, fed_cons]

theorem hole_part_reads (value : Expr) (rest : List TemplatePart)
    (reads : Reads value.render (templates value)) (later : PartsRead rest) :
    PartsRead (.hole value :: rest) := by
  have both (place : Place) (holes : List Nat) (inside : InTemplate place) :
      run ⟨place, holes⟩ ((Expr.renderParts (.hole value :: rest)).toList ++ ['\x60']) =
        (held place ++ (.closes :: .code '$' :: .code '\x7b' ::
            ((run ⟨.code, 0 :: holes⟩ value.render.toList).1 ++ (.code '\x7d' :: .opens '\x60' ::
              (run ⟨.literal '\x60', holes⟩ ((Expr.renderParts rest).toList ++ ['\x60'])).1))),
          (run ⟨.literal '\x60', holes⟩ ((Expr.renderParts rest).toList ++ ['\x60'])).2) := by
    have text : (Expr.renderParts (.hole value :: rest)).toList ++ ['\x60'] =
        '$' :: '\x7b' :: (value.render.toList ++
          '\x7d' :: ((Expr.renderParts rest).toList ++ ['\x60'])) := by
      simp [Expr.renderParts]
    have brace : step ⟨.dollar, holes⟩ '\x7b' =
        ([.closes, .code '$', .code '\x7b'], ⟨.code, 0 :: holes⟩) := rfl
    have closed : step ⟨.code, 0 :: holes⟩ '\x7d' =
        ([.code '\x7d', .opens '\x60'], ⟨.literal '\x60', holes⟩) := rfl
    rw [text, run_cons, template_dollar place holes inside, run_cons, brace, run_append, reads.spot,
      run_cons, closed]
    rfl
  constructor
  · intro place holes inside apart
    rw [both place holes inside, later.spot _ holes (.inl rfl) (literal_no_dollar _)]
  · intro place holes inside apart
    rw [both place holes inside]
    simp [held_no_feed, reads.feeds, later.feeds _ holes (.inl rfl) (literal_no_dollar _), partTemplates]

theorem template_reads (parts : List TemplatePart) (inner : PartsRead parts) :
    Reads (Expr.template parts).render (partTemplates parts) := by
  have whole (holes : List Nat) : run ⟨.code, holes⟩ (Expr.template parts).render.toList =
      (.opens '\x60' ::
          (run ⟨.literal '\x60', holes⟩ ((Expr.renderParts parts).toList ++ ['\x60'])).1,
        (run ⟨.literal '\x60', holes⟩ ((Expr.renderParts parts).toList ++ ['\x60'])).2) := by
    have text : (Expr.template parts).render.toList =
        '\x60' :: ((Expr.renderParts parts).toList ++ ['\x60']) := by
      simp [Expr.render]
    rw [text, run_cons]
    rfl
  constructor
  · intro holes
    rw [whole, inner.spot _ holes (.inl rfl) (literal_no_dollar _)]
  · intro holes
    rw [whole]
    simp [inner.feeds _ holes (.inl rfl) (literal_no_dollar _)]

theorem key_clear (key : String) (identifier : Name.isIdentifier key = true) : ClearName key := by
  obtain ⟨-, -, -, -, parts⟩ := Name.identifier_parts key identifier
  apply spelled_clear
  intro c member
  simp [Number.isSpelled, parts c member]

theorem key_reads (key : String) : Reads (Expr.keyText key) [] := by
  rw [Expr.keyText]
  split
  · rename_i identifier
    exact reads_clear key (key_clear key identifier)
  · exact reads_quoted key

theorem named_value (key : String) (value : Expr) (same : value.isIdent key = true) :
    value = .ident key := by
  cases value with
  | ident name => simpa [Expr.isIdent] using same
  | _ => cases same

mutual

theorem expr_reads : ∀ e : Expr, ClearExpr e → Reads e.render (templates e)
  | .ident name, clear => reads_clear name clear
  | .literal value, _ => literal_reads value
  | .call callee args, ⟨first, later⟩ => by
      have callee := reads_wrap (decide (callee.strength < Expr.primary)) (expr_reads callee first)
      have whole := Reads.append (Reads.append (Reads.append callee
        (reads_clear "(" rfl)) (args_read args later)) (reads_clear ")" rfl)
      simpa [Expr.render, templates] using whole
  | .construct callee args, ⟨first, later⟩ => by
      have callee := reads_wrap (decide (callee.strength < Expr.primary)) (expr_reads callee first)
      have made := Reads.append (reads_clear "new " rfl) callee
      have whole := Reads.append (Reads.append (Reads.append made
        (reads_clear "(" rfl)) (args_read args later)) (reads_clear ")" rfl)
      simpa [Expr.render, templates] using whole
  | .member target property optional, ⟨first, named⟩ => by
      have target := reads_wrap (decide (target.strength < Expr.primary)) (expr_reads target first)
      have dot : ClearName (if optional then "?." else ".") := by cases optional <;> rfl
      have whole := Reads.append (Reads.append target (reads_clear _ dot))
        (reads_clear property named)
      simpa [Expr.render, templates] using whole
  | .index target key, ⟨first, later⟩ => by
      have target := reads_wrap (decide (target.strength < Expr.primary)) (expr_reads target first)
      have whole := Reads.append (Reads.append (Reads.append target
        (reads_clear "[" rfl)) (expr_reads key later)) (reads_clear "]" rfl)
      simpa [Expr.render, templates] using whole
  | .binary left op right, ⟨first, later⟩ => by
      have left := reads_wrap (Expr.operandNeedsWrap op false left) (expr_reads left first)
      have right := reads_wrap (Expr.operandNeedsWrap op true right) (expr_reads right later)
      have whole := Reads.append (Reads.append left (reads_operator op)) right
      simpa [Expr.render, templates, String.append_assoc] using whole
  | .unary op operand, clear => by
      have operand := reads_wrap (decide (operand.strength < Expr.prefixed))
        (expr_reads operand clear)
      have sign : ClearName op.symbol := by cases op <;> rfl
      simpa [Expr.render, templates] using Reads.append (reads_clear _ sign) operand
  | .await operand, clear => by
      have operand := reads_wrap (decide (operand.strength < Expr.prefixed))
        (expr_reads operand clear)
      have whole := Reads.append (reads_clear "await " rfl) operand
      simpa [Expr.render, templates] using whole
  | .object [], _ => reads_no_braces
  | .object (field :: rest), clear => by
      have whole := reads_braces (fields_read (field :: rest) clear)
      simpa [Expr.render, templates] using whole
  | .array items, clear => by
      have whole := Reads.append (Reads.append (reads_clear "[" rfl)
        (args_read items clear)) (reads_clear "]" rfl)
      simpa [Expr.render, templates] using whole
  | .template parts, ⟨uncut, clear⟩ => template_reads parts (parts_read parts uncut clear)
  | .arrow params body isAsync, ⟨first, later⟩ => by
      have lead : ClearName (if isAsync then "async (" else "(") := by cases isAsync <;> rfl
      have body := reads_wrap (body.isObject || decide (body.strength < Expr.arrowing))
        (expr_reads body later)
      have whole := Reads.append (Reads.append (Reads.append
        (reads_clear _ lead) (params_read params first)) (reads_clear ") => " rfl)) body
      simpa only [Expr.render, templates, List.nil_append, List.append_nil] using whole
  | .cast operand type, ⟨first, typed⟩ => by
      have operand := reads_wrap (decide (operand.strength < Expr.primary))
        (expr_reads operand first)
      have whole := Reads.append (Reads.append operand
        (reads_clear " as " rfl)) (type_reads type typed)
      simpa [Expr.render, templates] using whole
  | .conditional test whenTrue whenFalse, ⟨first, second, third⟩ => by
      have test := reads_wrap (decide (test.strength < Expr.choosing + 1)) (expr_reads test first)
      have yes := reads_wrap (decide (whenTrue.strength < Expr.choosing))
        (expr_reads whenTrue second)
      have no := reads_wrap (decide (whenFalse.strength < Expr.choosing))
        (expr_reads whenFalse third)
      have whole := Reads.append (Reads.append (Reads.append
        (Reads.append test (reads_clear " ? " rfl)) yes)
        (reads_clear " : " rfl)) no
      simpa [Expr.render, templates] using whole

theorem args_read : ∀ es : List Expr, ClearArgs es →
    Reads (Text.join ", " (Expr.renderArgs es)) (argTemplates es)
  | [], _ => reads_nothing
  | e :: rest, ⟨own, later⟩ =>
      join_reads ", " rfl (reads_wrap _ (expr_reads e own)) (args_read rest later)

theorem fields_read : ∀ fields : List (String × Expr), ClearFields fields →
    Reads (Text.join ", " (Expr.renderFields fields)) (fieldTemplates fields)
  | [], _ => reads_nothing
  | (key, value) :: rest, ⟨own, later⟩ => by
      refine join_reads ", " rfl ?_ (fields_read rest later)
      have reads := expr_reads value own
      split
      · rename_i named
        obtain rfl := named_value key value named
        exact reads
      · have wrapped := reads_wrap (decide (value.strength < Expr.arrowing)) reads
        have whole := Reads.append (Reads.append (key_reads key)
          (reads_clear ": " rfl)) wrapped
        simpa using whole

theorem parts_read : ∀ parts : List TemplatePart, Uncut parts → ClearParts parts → PartsRead parts
  | [], _, _ => no_parts_read
  | .text text :: rest, ⟨whole, uncut⟩, clear =>
      text_part_reads text rest whole (parts_read rest uncut clear)
  | .hole value :: rest, uncut, ⟨own, later⟩ =>
      hole_part_reads value rest (expr_reads value own) (parts_read rest uncut later)

theorem params_read : ∀ params : List Param, ClearParams params →
    Reads (Text.join ", " (Expr.renderParams params)) (paramTemplates params)
  | [], _ => reads_nothing
  | .mk name type optional none :: rest, ⟨named, typed, _, later⟩ => by
      have mark : ClearName (if optional then "?" else "") := by cases optional <;> rfl
      have plain := Reads.append (Reads.append (reads_clear name named) (reads_clear _ mark))
        (type_suffix_reads type typed)
      exact join_reads ", " rfl (Reads.append plain reads_nothing) (params_read rest later)
  | .mk name type optional (some value) :: rest, ⟨named, typed, valued, later⟩ => by
      have mark : ClearName (if optional then "?" else "") := by cases optional <;> rfl
      have plain := Reads.append (Reads.append (reads_clear name named) (reads_clear _ mark))
        (type_suffix_reads type typed)
      have init := Reads.append (reads_clear " = " rfl) (expr_reads value valued)
      exact join_reads ", " rfl (Reads.append plain init) (params_read rest later)

end

end ApiContract.Literals
