import ApiContract.Emit.Client
import ApiContract.Outline.Request
import ApiContract.Proofs.Code.Layout
import ApiContract.Proofs.Code.MethodItems
import ApiContract.Proofs.Emit.PlainModules

/-!
The address of a request as the items of a template, and what is read from it: the base of the
client, the base path without its last slashes, and the path with its placeholders filled in.
-/

set_option autoImplicit false

namespace ApiContract.Emit

open Code (Expr IsBoundName IsPlainName TemplatePart bound_name_token plain_name_token)
open Schema (PlainPath Segment)
open Script
open Text (Unbroken)

-- A text that stands in a template, and in a line, as it is.
def PlainText (text : List Char) : Prop :=
  Quiet text ∧ Unbroken text

theorem quiet_nil : Quiet [] := ⟨by simp, by simp, by simp⟩

theorem quiet_append (first second : List Char) (one : Quiet first) (two : Quiet second)
    (apart : first.getLast? = some '$' → second.head? ≠ some '\x7b') :
    Quiet (first ++ second) := by
  induction first with
  | nil => exact two
  | cons c rest ih =>
      obtain ⟨noTick, noSlash, noHole, later⟩ := quiet_cons c rest one
      have goesOn : rest.getLast? = some '$' → second.head? ≠ some '\x7b' := by
        cases rest with
        | nil => simp
        | cons d others => simpa using apart
      obtain ⟨restTick, restSlash, restHole⟩ := ih later goesOn
      refine ⟨by simpa using ⟨Ne.symm noTick, by simpa using restTick⟩,
        by simpa using ⟨Ne.symm noSlash, by simpa using restSlash⟩, ?_⟩
      intro before after same
      cases before with
      | nil =>
          obtain ⟨rfl, opens⟩ := List.cons.inj same
          cases rest with
          | nil => exact apart rfl (by simpa using congrArg List.head? opens)
          | cons d others => exact noHole rfl (by simpa using congrArg List.head? opens)
      | cons d others => exact restHole others after (List.cons.inj same).2

theorem quiet_front (first second : List Char) (quiet : Quiet (first ++ second)) :
    Quiet first := by
  obtain ⟨noTick, noSlash, noHole⟩ := quiet
  simp only [List.mem_append, not_or] at noTick noSlash
  refine ⟨noTick.1, noSlash.1, fun before after same => noHole before (after ++ second) ?_⟩
  simp [same]

theorem quiet_without_dollar (text : List Char) (noTick : '\x60' ∉ text) (noSlash : '\\' ∉ text)
    (noDollar : '$' ∉ text) : Quiet text :=
  ⟨noTick, noSlash, fun before after same => noDollar (by simp [same])⟩

theorem template_text_quiet (text : List Char) (quiet : Quiet text) :
    Code.templateText text = text := by
  induction text with
  | nil => rfl
  | cons c rest ih =>
      obtain ⟨noTick, noSlash, noHole, later⟩ := quiet_cons c rest quiet
      rw [Code.templateText]
      · simp [noTick, noSlash, ih later]
      · rintro others rfl rfl
        exact noHole rfl rfl

theorem quiet_one (c : Char) (noTick : c ≠ '\x60') (noSlash : c ≠ '\\') : Quiet [c] := by
  refine ⟨by simpa using noTick.symm, by simpa using noSlash.symm, fun before after same => ?_⟩
  have size := congrArg List.length same
  simp only [List.length_append, List.length_cons, List.length_nil] at size
  omega

theorem path_char_quiet (c : Char) (plain : Schema.isPathChar c = true) : Quiet [c] :=
  quiet_one c (Schema.path_char_ne c _ plain (by decide)) (Schema.path_char_ne c _ plain (by decide))

theorem identifier_quiet (name : String) (named : Name.isIdentifier name = true) :
    Quiet name.toList := by
  have free (other : Char) := Schema.part_ne name named other
  exact ⟨free _ (by decide), free _ (by decide), fun before after same =>
    free '\x7b' (by decide) (by simp [same])⟩

theorem plain_path_quiet (cs : List Char) (plain : PlainPath cs) : Quiet cs := by
  induction plain with
  | nil => exact quiet_nil
  | char c rest own _ ih =>
      exact quiet_append [c] rest (path_char_quiet c own) ih fun dollar =>
        absurd (by simpa using dollar) (Schema.path_char_ne c '$' own (by decide))
  | placeholder name rest named _ ih =>
      have close : Quiet ('\x7d' :: rest) :=
        quiet_append ['\x7d'] rest (quiet_one _ (by decide) (by decide)) ih (by simp)
      have inner := quiet_append name.toList _ (identifier_quiet name named) close (by simp)
      exact quiet_append ['\x7b'] _ (quiet_one _ (by decide) (by decide)) inner (by simp)

theorem plain_path_unbroken (cs : List Char) (plain : PlainPath cs) : Unbroken cs :=
  ⟨Schema.plain_path_free cs plain _ (by decide) (by decide) (by decide),
    Schema.plain_path_free cs plain _ (by decide) (by decide) (by decide)⟩

theorem plain_text_nil : PlainText [] := ⟨quiet_nil, Code.unbroken_nil⟩

theorem plain_base_text (base : String) (plain : PlainPath base.toList) :
    PlainText (Schema.trimBase base) := by
  obtain ⟨slashes, split, -⟩ := Schema.trim_base_splits base
  rw [split] at plain
  exact ⟨quiet_front _ slashes (plain_path_quiet _ plain),
    ((Code.unbroken_append _ slashes).mp (plain_path_unbroken _ plain)).1⟩

-- A text with one more path character at its end.
theorem plain_text_snoc (text : List Char) (c : Char) (before : PlainText text)
    (plain : Schema.isPathChar c = true) : PlainText (text ++ [c]) := by
  have other (d : Char) := Schema.path_char_ne c d plain
  refine ⟨quiet_append text [c] before.1 (path_char_quiet c plain) ?_, ?_⟩
  · simpa using fun _ => other '\x7b' (by decide)
  · simpa [before.2] using ⟨other '\n' (by decide), other '\r' (by decide)⟩

def holeStart : String := "$\x7bencodeURIComponent(String("

def holeEnd : String := "))\x7d"

-- What stands for a piece of a path in an address.
def pieceChars : Segment → List Char
  | .text text => text.toList
  | .hole name => holeStart.toList ++ name.toList ++ holeEnd.toList

theorem filled_in_plain (c : Char) (rest : List Char) (noOpening : c ≠ '\x7b')
    (noClosing : c ≠ '\x7d') : filledIn (c :: rest) = c :: filledIn rest := by
  simp [filledIn, fillChar, noOpening, noClosing]

theorem filled_in_placeholder (name rest : List Char) (noOpening : '\x7b' ∉ name)
    (noClosing : '\x7d' ∉ name) : filledIn ('\x7b' :: (name ++ '\x7d' :: rest)) =
      holeStart.toList ++ name ++ holeEnd.toList ++ filledIn rest := by
  have inner : filledIn (name ++ '\x7d' :: rest) = name ++ (holeEnd.toList ++ filledIn rest) := by
    induction name with
    | nil => rfl
    | cons c others ih =>
        obtain ⟨ownOpening, laterOpening⟩ := List.ne_and_not_mem_of_not_mem_cons noOpening
        obtain ⟨ownClosing, laterClosing⟩ := List.ne_and_not_mem_of_not_mem_cons noClosing
        rw [List.cons_append, filled_in_plain c _ ownOpening.symm ownClosing.symm,
          ih laterOpening laterClosing, List.cons_append]
  have opened (cs : List Char) : filledIn ('\x7b' :: cs) = holeStart.toList ++ filledIn cs := rfl
  rw [opened, inner]
  simp

structure PlainPieces (pieces : List Segment) : Prop where
  texts_plain : ∀ text, Segment.text text ∈ pieces → PlainText text.toList
  holes_named : ∀ name, Segment.hole name ∈ pieces → Name.isIdentifier name = true

theorem plain_pieces_later (piece : Segment) (rest : List Segment)
    (plain : PlainPieces (piece :: rest)) : PlainPieces rest :=
  ⟨fun text member => plain.texts_plain text (List.mem_cons_of_mem piece member),
    fun name member => plain.holes_named name (List.mem_cons_of_mem piece member)⟩

theorem text_segment_plain (backwards : List Char) (before : PlainText backwards.reverse) :
    PlainPieces (Schema.textSegment backwards) := by
  rw [Schema.textSegment]
  split
  · exact ⟨by simp, by simp⟩
  · exact ⟨by simpa using before, by simp⟩

theorem text_segment_chars (backwards : List Char) :
    (Schema.textSegment backwards).flatMap pieceChars = backwards.reverse := by
  rw [Schema.textSegment]
  split
  · simp_all
  · simp [pieceChars]

-- The pieces of a plain path behind a plain text.
theorem plain_path_pieces (cs : List Char) (plain : PlainPath cs) (backwards : List Char)
    (before : PlainText backwards.reverse) :
    PlainPieces (Schema.segmentsFrom backwards none cs) ∧
      (Schema.segmentsFrom backwards none cs).flatMap pieceChars =
        backwards.reverse ++ filledIn cs := by
  induction plain generalizing backwards with
  | nil =>
      exact ⟨text_segment_plain backwards before,
        (text_segment_chars backwards).trans (List.append_nil _).symm⟩
  | char c rest own _ ih =>
      have other (d : Char) := Schema.path_char_ne c d own
      have onward : PlainText (c :: backwards).reverse := by
        simpa using plain_text_snoc backwards.reverse c before own
      obtain ⟨pieces, chars⟩ := ih (c :: backwards) onward
      rw [Schema.segments_char backwards c rest own]
      refine ⟨pieces, ?_⟩
      rw [chars, filled_in_plain c rest (other _ (by decide)) (other _ (by decide))]
      simp
  | placeholder name rest named _ ih =>
      obtain ⟨pieces, chars⟩ := ih [] plain_text_nil
      have first := text_segment_plain backwards before
      have free (other : Char) := Schema.part_ne name named other
      rw [Schema.segments_placeholder backwards name rest named]
      refine ⟨⟨fun text member => ?_, fun other member => ?_⟩, ?_⟩
      · simp only [List.mem_append, List.mem_cons, reduceCtorEq, false_or] at member
        exact member.elim (first.texts_plain text) (pieces.texts_plain text)
      · simp only [List.mem_append, List.mem_cons, Segment.hole.injEq] at member
        rcases member with own | rfl | later
        · exact first.holes_named other own
        · exact named
        · exact pieces.holes_named other later
      · rw [List.flatMap_append, List.flatMap_cons, text_segment_chars, chars,
          filled_in_placeholder _ rest (free _ (by decide)) (free _ (by decide))]
        simp [pieceChars]

theorem plain_segments (base : Option String) (path : String)
    (plainBase : PlainPath (base.getD "").toList) (plainPath : PlainPath path.toList) :
    PlainPieces (Schema.segments base path) ∧
      (Schema.segments base path).flatMap pieceChars =
        Schema.trimBase (base.getD "") ++ filledIn path.toList := by
  have before := plain_base_text _ plainBase
  have pieces := plain_path_pieces _ plainPath (Schema.trimBase (base.getD "")).reverse
    (by simpa using before)
  rwa [List.reverse_reverse] at pieces

def parens (items : List Item) : Item :=
  groupItem "" "(" items "" ")"

def holeItem (items : List Item) : Item :=
  groupItem "" "$\x7b" items "" "\x7d"

def pieceItem : Segment → Item
  | .text text => charsItem text
  | .hole name =>
      holeItem [wordItem "" "encodeURIComponent",
        parens [wordItem "" "String", parens [wordItem "" name]]]

def baseItem : Item :=
  holeItem [wordItem "" "this", markItem "" ".", wordItem "" "baseUrl"]

def addressItem (pieces : List Segment) : Item :=
  groupItem "" "\x60" (baseItem :: pieces.map pieceItem) "" "\x60"

def baseText : String := "$\x7bthis.baseUrl\x7d"

theorem base_chars : baseItem.chars = baseText.toList := by
  simp [baseItem, holeItem, baseText]

theorem piece_chars (piece : Segment) : (pieceItem piece).chars = pieceChars piece := by
  cases piece <;> simp [pieceItem, pieceChars, holeItem, parens, holeStart, holeEnd]

theorem pieces_chars (pieces : List Segment) :
    charsOf (pieces.map pieceItem) = pieces.flatMap pieceChars := by
  induction pieces with
  | nil => rfl
  | cons piece rest ih => rw [List.map_cons, chars_of_cons, piece_chars, ih, List.flatMap_cons]

theorem pieces_render (pieces : List Segment) (plain : PlainPieces pieces) :
    (Expr.renderParts (pieces.map addressPart)).toList = pieces.flatMap pieceChars := by
  induction pieces with
  | nil => rfl
  | cons piece rest ih =>
      have later := ih (plain_pieces_later piece rest plain)
      cases piece with
      | text text =>
          have quiet := (plain.texts_plain text (by simp)).1
          simp [addressPart, Expr.renderParts, pieceChars, template_text_quiet _ quiet, later]
      | hole name =>
          simp [addressPart, call, Expr.renderParts, Expr.render, Expr.renderArgs, Expr.wrapIf,
            Expr.strength, Expr.primary, Expr.arrowing, Text.join, pieceChars, holeStart, holeEnd,
            later]

theorem address_chars (base : Option String) (path : String)
    (plain : PlainPieces (Schema.segments base path)) :
    (address base path).render.toList = (addressItem (Schema.segments base path)).chars := by
  rw [addressItem, group_item_chars, chars_of_cons, base_chars, pieces_chars, ← pieces_render _ plain]
  simp [address, Expr.render, Expr.renderParts, Expr.wrapIf, Expr.strength, baseText]

theorem hole_start_ends (rest : List Char) : endsChars (holeStart.toList ++ rest) :=
  .inr ⟨"encodeURIComponent(String(".toList ++ rest, by simp [holeStart]⟩

theorem pieces_fit (pieces : List Segment) (next : List Char)
    (alternating : Schema.Alternating pieces) (plain : PlainPieces pieces) :
    FitAll true (pieces.map pieceItem) ('\x60' :: next) := by
  induction pieces with
  | nil => trivial
  | cons piece rest ih =>
      have laterPlain := plain_pieces_later piece rest plain
      cases piece with
      | hole name =>
          have named := identifier_spells name (plain.holes_named name (by simp))
          have later := ih (by simpa [Schema.Alternating] using alternating) laterPlain
          simp +decide [pieceItem, holeItem, parens, named, later]
      | text text =>
          have quiet := (plain.texts_plain text (by simp)).1
          cases rest with
          | nil =>
              have nonempty : text.toList ≠ [] := alternating
              exact ⟨(chars_fit _ _).mpr ⟨nonempty, quiet, .inl ⟨_, rfl⟩⟩, trivial⟩
          | cons second others =>
              cases second with
              | text => exact alternating.elim
              | hole name =>
                  have later := ih alternating.2 laterPlain
                  refine ⟨(chars_fit _ _).mpr ⟨alternating.1, quiet, ?_⟩, later⟩
                  rw [List.map_cons, chars_of_cons, piece_chars, pieceChars]
                  simpa using hole_start_ends _

theorem address_fits (pieces : List Segment) (next : List Char)
    (alternating : Schema.Alternating pieces) (plain : PlainPieces pieces) :
    (addressItem pieces).Fits false next := by
  have inner := pieces_fit pieces next alternating plain
  have base : baseItem.Fits true (charsOf (pieces.map pieceItem) ++ '\x60' :: next) := by
    simp +decide [baseItem, holeItem]
  simp +decide [addressItem, base, inner]

theorem identifier_solid (name : String) (named : Name.isIdentifier name = true) :
    ∀ c ∈ name.toList, Text.isBlank c = false := by
  obtain ⟨c, rest, -, -, parts⟩ := Name.identifier_parts name named
  exact fun d member => Name.part_all (fun d => Text.isBlank d = false) (by decide) d
    (parts d member)

theorem pieces_no_backtick (pieces : List Segment) (plain : PlainPieces pieces) :
    '\x60' ∉ pieces.flatMap pieceChars := by
  intro member
  obtain ⟨piece, own, within⟩ := List.mem_flatMap.mp member
  cases piece with
  | text text => exact (plain.texts_plain text own).1.no_backtick within
  | hole name =>
      have free := Schema.part_ne name (plain.holes_named name own) '\x60' (by decide)
      simp only [pieceChars, List.mem_append] at within
      rcases within with (start | inner) | ends
      · revert start
        simp [holeStart]
      · exact free inner
      · revert ends
        simp [holeEnd]

theorem squeeze_solid (cs : List Char) (solid : ∀ c ∈ cs, Text.isBlank c = false) :
    Text.squeeze cs = cs := by
  rw [Text.squeeze, List.filter_eq_self]
  exact fun c member => by simp [solid c member]

theorem stripped_between (test : Char → Bool) (first last : Char) (text : List Char)
    (opens : test first = true) (closes : test last = true) (nonempty : text ≠ [])
    (free : ∀ c ∈ text, test c = false) :
    Outline.stripped test (first :: (text ++ [last])) = text := by
  have front : (first :: (text ++ [last])).dropWhile test = text ++ [last] := by
    obtain ⟨c, rest, rfl⟩ := List.exists_cons_of_ne_nil nonempty
    simp [opens, free c (by simp)]
  have back : (last :: text.reverse).dropWhile test = text.reverse := by
    obtain ⟨c, rest, starts⟩ := List.exists_cons_of_ne_nil (List.reverse_ne_nil_iff.mpr nonempty)
    simp [closes, starts, free c (List.mem_reverse.mp (by simp [starts]))]
  rw [Outline.stripped, front, List.reverse_append, List.reverse_singleton, List.singleton_append,
    back, List.reverse_reverse]

-- A name by itself, as a value that may be called.
theorem name_operand (lead name : String) (place : Nat) (plain : IsPlainName name) :
    ValueNodes .primary [.token ((written .word lead name).settle place)]
      [((written .word lead name).settle place).nameNode] :=
  .operand (operand_plain _ (plain_name_token lead name place plain))

theorem parens_tight (first last : Nat) :
    isParens ((written .opening "" "(").settle first) ((written .closing "" ")").settle last) =
      true :=
  parens_settled "" "" tight_none tight_none first last

-- The placeholder of a hole, put into text.
theorem hole_value (name : String) (bound : IsBoundName name) (behind : Nat) :
    ∃ n, ValueNodes .whole (settleAll behind [wordItem "" "encodeURIComponent",
      parens [wordItem "" "String", parens [wordItem "" name]]]) [n] := by
  have bare (place : Nat) : ValueNodes .whole [.token ((written .word "" name).settle place)]
      [((written .word "" name).settle place).nameNode] :=
    .bare (bound_name_token "" name place bound)
  have inner : ∃ n, ValueNodes .whole
      (settleAll (1 + (0 + behind)) [wordItem "" "String", parens [wordItem "" name]]) [n] :=
    ⟨_, .single (.chain (item_call (name_operand "" "String" _ (by decide)) (parens_tight _ _)
      (one_entry rfl (bare _))))⟩
  obtain ⟨n, derived⟩ := inner
  exact ⟨_, .single (.chain (item_call (name_operand "" "encodeURIComponent" _ (by decide))
    (parens_tight _ _) (one_entry rfl derived)))⟩

-- An item that is a piece of a template wherever it stands, and in which blanks make no difference.
def IsPiece (item : Item) : Prop :=
  ∀ place, ∃ n, n.named = true ∧
    (n.kind = "template_substitution" → n.text = item.chars ∧
      n.left = item.chars.length + place ∧ Text.squeeze n.text = n.text) ∧
    ∀ rest nodes, ValueNodes .pieces rest nodes →
      ValueNodes .pieces (item.settle place :: rest) (n :: nodes)

theorem text_is_piece (text : String) : IsPiece (charsItem text) := fun place =>
  ⟨((written .chars "" text).settle place).leaf "string_fragment", rfl, by simp,
    fun rest nodes later => .chars rfl later⟩

theorem hole_is_piece (items : List Item) (tight : startsTight items = true)
    (solid : ∀ c ∈ (holeItem items).chars, Text.isBlank c = false)
    (value : ∀ behind, ∃ n, ValueNodes .whole (settleAll behind items) [n]) :
    IsPiece (holeItem items) := by
  intro place
  obtain ⟨n, derived⟩ := value (1 + place)
  have text : spelled [(holeItem items).settle place] = (holeItem items).chars := by
    rw [holeItem, group_spelled]
    simp
  have left : leftOf [(holeItem items).settle place] = (holeItem items).chars.length + place := by
    rw [holeItem, group_left]
    simp
  exact ⟨nodeOf "template_substitution" [(holeItem items).settle place] _, rfl,
    fun _ => ⟨text, left, by rw [node_of_text, text]; exact squeeze_solid _ solid⟩,
    fun rest nodes later => .hole rfl rfl (by simpa using tight) derived later⟩

theorem base_is_piece : IsPiece baseItem := by
  refine hole_is_piece _ rfl ?_ fun behind => ?_
  · have solid : baseText.toList.any Text.isBlank = false := by decide
    exact base_chars ▸ (by simpa using solid)
  · exact ⟨_, .single (.chain (item_member (.operand rfl) rfl rfl
      (plain_name_token "" "baseUrl" _ (by decide))))⟩

theorem segment_is_piece (piece : Segment) (bound : ∀ name, piece = .hole name → IsBoundName name) :
    IsPiece (pieceItem piece) := by
  cases piece with
  | text text => exact text_is_piece text
  | hole name =>
      have own := bound name rfl
      refine hole_is_piece _ rfl ?_ (hole_value name own)
      have spells : ∀ c ∈ pieceChars (.hole name), Text.isBlank c = false := by
        intro c member
        simp only [pieceChars, List.mem_append] at member
        have blankless (text : String) (none_ : text.toList.all fun c => !Text.isBlank c)
            (within : c ∈ text.toList) : Text.isBlank c = false := by
          simpa using List.all_eq_true.mp none_ c within
        rcases member with (start | inner) | ends
        · exact blankless holeStart (by decide) start
        · exact identifier_solid name own.1 c inner
        · exact blankless holeEnd (by decide) ends
      rwa [← piece_chars] at spells

-- The text between two places of a template that ends in what stands behind the first of them.
theorem between_ends (template : Node) (front first text : List Char)
    (spells : template.text = front ++ first ++ text)
    (fits : template.text.length ≤ template.left) :
    Outline.between template ((first ++ text).length + template.leftAfter)
      (text.length + template.leftAfter) = first := by
  have skipped : template.left - ((first ++ text).length + template.leftAfter) = front.length := by
    have size := congrArg List.length spells
    simp only [List.length_append] at size
    rw [Node.leftAfter, List.length_append]
    omega
  have size : (first ++ text).length + template.leftAfter - (text.length + template.leftAfter) =
      first.length := by
    rw [List.length_append]
    omega
  rw [Outline.between, skipped, size, spells, List.append_assoc, List.drop_left, List.take_left]

-- Pieces are derived as nodes from which their text is taken as it stands, together with the text
-- in front of them that is not taken yet.
theorem pieces_derived (items : List Item) (each : ∀ item ∈ items, IsPiece item) (behind : Nat) :
    ∃ nodes, ValueNodes .pieces (settleAll behind items) nodes ∧ (∀ n ∈ nodes, n.named = true) ∧
      ∀ (template : Node) (front pending after : List Char),
        template.text = front ++ pending ++ (charsOf items ++ after) →
        template.text.length ≤ template.left → behind = after.length + template.leftAfter →
        Outline.templateFrom template
            ((pending ++ (charsOf items ++ after)).length + template.leftAfter) nodes =
          pending ++ (charsOf items ++ after) := by
  induction items with
  | nil =>
      refine ⟨[], .noPieces, by simp, fun template front pending after spells fits _ => ?_⟩
      have last := between_ends template front (pending ++ after) [] (by simpa using spells) fits
      simpa [Outline.templateFrom] using last
  | cons item rest ih =>
      obtain ⟨own, later⟩ := List.forall_mem_cons.mp each
      obtain ⟨nodes, derived, named, taken⟩ := ih later
      obtain ⟨n, isNamed, hole, piece⟩ := own ((charsOf rest).length + behind)
      refine ⟨n :: nodes, piece _ _ derived, List.forall_mem_cons.mpr ⟨isNamed, named⟩,
        fun template front pending after spells fits place => ?_⟩
      have whole : charsOf (item :: rest) ++ after = item.chars ++ (charsOf rest ++ after) := by
        simp
      rw [whole] at spells ⊢
      rw [Outline.templateFrom]
      split
      · rename_i isHole
        obtain ⟨text, left, squeezed⟩ := hole (by simpa using isHole)
        have starts : n.left =
            (item.chars ++ (charsOf rest ++ after)).length + template.leftAfter := by
          simp only [left, place, List.length_append]
          omega
        have ends : n.leftAfter = ([] ++ (charsOf rest ++ after)).length + template.leftAfter := by
          rw [Node.leftAfter, starts, text]
          simp only [List.length_append, List.length_nil]
          omega
        rw [squeezed, text, ends, starts, between_ends template front pending _ spells fits,
          taken template (front ++ pending ++ item.chars) [] after (by simp [spells]) fits place,
          List.nil_append, List.append_assoc]
      · have onward := taken template front (pending ++ item.chars) after (by simp [spells]) fits place
        simpa using onward

-- A template of pieces, from which their text is taken without the quotes.
theorem template_derived (items : List Item) (each : ∀ item ∈ items, IsPiece item)
    (nonempty : charsOf items ≠ []) (free : ∀ c ∈ charsOf items, (c == '\x60') = false)
    (place : Nat) :
    ∃ n, ValueNodes .primary [(groupItem "" "\x60" items "" "\x60").settle place] [n] ∧
      n.named = true ∧ Outline.address n = charsOf items := by
  obtain ⟨nodes, derived, named, taken⟩ := pieces_derived items each (1 + place)
  have text : spelled [(groupItem "" "\x60" items "" "\x60").settle place] =
      '\x60' :: (charsOf items ++ ['\x60']) := group_spelled _ _ _ _ _ _
  have left : leftOf [(groupItem "" "\x60" items "" "\x60").settle place] =
      (spelled [(groupItem "" "\x60" items "" "\x60").settle place]).length + place := by
    rw [group_left, group_spelled]
  obtain ⟨opening, closing, opens, closes, settled⟩ : ∃ opening closing,
      opening.text = "\x60".toList ∧ closing.text = "\x60".toList ∧
        (groupItem "" "\x60" items "" "\x60").settle place =
          .group opening (settleAll (1 + place) items) (some closing) := ⟨_, _, rfl, rfl, rfl⟩
  rw [settled] at text left ⊢
  refine ⟨_, .template opens closes derived, rfl, ?_⟩
  generalize isTemplate : nodeOf "template_string" _ (enclosed opening nodes closing) = n
  have spells : n.text = '\x60' :: (charsOf items ++ ['\x60']) := by rw [← isTemplate]; exact text
  have starts : n.left = n.text.length + place := by rw [← isTemplate]; exact left
  have kind : n.kind = "template_string" := by rw [← isTemplate]; rfl
  have ends : n.leftAfter = place := by rw [Node.leftAfter, starts, Nat.add_sub_cancel_left]
  have children : n.namedChildren = nodes := by
    have marks : ∀ t : Token, t.plain.named = false := fun _ => rfl
    simpa [← isTemplate, Node.namedChildren, enclosed, marks] using named
  have whole := taken n [] ['\x60'] ['\x60'] spells (by omega) (by rw [ends]; rfl)
  rw [List.singleton_append, ← spells, ends, ← starts] at whole
  rw [Outline.address, kind, if_pos (beq_self_eq_true _), children, whole, spells]
  exact stripped_between _ _ _ _ rfl rfl nonempty free

theorem address_derived (pieces : List Segment) (plain : PlainPieces pieces)
    (bound : ∀ name, .hole name ∈ pieces → IsBoundName name) (place : Nat) :
    ∃ n, ValueNodes .primary [(addressItem pieces).settle place] [n] ∧ n.named = true ∧
      Outline.address n = baseText.toList ++ pieces.flatMap pieceChars := by
  have each : ∀ item ∈ baseItem :: pieces.map pieceItem, IsPiece item :=
    List.forall_mem_cons.mpr ⟨base_is_piece, List.forall_mem_map.mpr fun piece member =>
      segment_is_piece piece fun name same => bound name (same ▸ member)⟩
  have spells : charsOf (baseItem :: pieces.map pieceItem) =
      baseText.toList ++ pieces.flatMap pieceChars := by
    rw [chars_of_cons, base_chars, pieces_chars]
  have free : ∀ c ∈ baseText.toList ++ pieces.flatMap pieceChars, (c == '\x60') = false := by
    intro c member
    rw [beq_eq_false_iff_ne]
    rintro rfl
    rcases List.mem_append.mp member with own | later
    · revert own
      simp [baseText]
    · exact pieces_no_backtick pieces plain later
  rw [← spells] at free ⊢
  exact template_derived _ each (by simp [spells, baseText]) free place

end ApiContract.Emit
