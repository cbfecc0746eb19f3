import ApiContract.Code.SourceFile
import ApiContract.Outline.Code
import ApiContract.Proofs.Code.ClassItems
import ApiContract.Proofs.Code.Lines

/-!
The declarations of a file as items, what is taken from their nodes, and their text, which is the
text of their items; comments go with the item behind them.
-/

set_option autoImplicit false

namespace ApiContract.Code

open Outline (IsIdentifier)
open Script
open Text (Unbroken)

def declarationsOf (nodes : List Node) : List Outline.Declaration :=
  nodes.filterMap Outline.declared?

theorem declarations_of_append (first second : List Node) :
    declarationsOf (first ++ second) = declarationsOf first ++ declarationsOf second :=
  List.filterMap_append

-- Items that stand at the top of a file wherever they are, and declare this.
def Declares (items : List Item) (found : List Outline.Declaration) : Prop :=
  Gives TopNodes declarationsOf items found

theorem declares_append (first second : List Item) (found more : List Outline.Declaration)
    (one : Declares first found) (two : Declares second more) :
    Declares (first ++ second) (found ++ more) :=
  gives_append _ _ declarations_of_append first second found more one two

theorem comments_declare_nothing (behind : Nat) (comments : List (List Char × Nat)) :
    declarationsOf (commentsAt behind comments) = [] := by
  simp only [declarationsOf, commentsAt, List.filterMap_map, List.filterMap_eq_nil_iff]
  exact fun comment _ => rfl

theorem top_declares (item : Item) (items : List Item) (found : List Outline.Declaration)
    (gap : IsGap item.first.lead)
    (own : ∀ behind, ∃ nodes, TopNodes (settleAll behind (item :: items)) nodes ∧
      declarationsOf nodes = found) : Declares (item :: items) found :=
  gives_row _ _ declarations_of_append item items found gap comments_declare_nothing own

-- A declaration behind the word that exports it.
theorem export_declares (lead : String) (items : List Item) (found : Outline.Declaration)
    (gap : IsGap lead.toList)
    (own : ∀ behind, ∃ n, DeclarationNode (settleAll behind items) n ∧
      Outline.Declaration.ofNode? (n.as "declaration") = some found) :
    Declares (wordItem lead "export" :: items) [found] := by
  refine top_declares _ _ _ gap fun behind => ?_
  obtain ⟨n, derived, outline⟩ := own behind
  refine ⟨_, .export_ rfl derived, ?_⟩
  simp [declarationsOf, Outline.declared?, Node.child?, outline]

def aliasItems (lead name : String) (t : TypeExpr) : List Item :=
  wordItem lead "export" :: wordItem " " "type" :: wordItem " " name :: markItem " " "=" ::
    (typeItems " " t ++ [markItem "" ";"])

def aliasOutline (name : String) (t : TypeExpr) : Outline.Declaration :=
  ⟨name, .typeAlias, some t.render, [], []⟩

theorem alias_declares (lead name : String) (t : TypeExpr) (gap : IsGap lead.toList)
    (named : IsPlainName name) (plain : PlainType t) :
    Declares (aliasItems lead name t) [aliasOutline name t] := by
  refine export_declares lead _ _ gap fun behind => ?_
  rw [settle_all_cons, settle_all_cons, settle_all_cons, settle_all_append]
  obtain ⟨n, derived⟩ := type_derived t " " ((charsOf [markItem "" ";"]).length + behind) tight_blank
    plain
  have whole := whole_type t _ n derived
  have text : Outline.canonicalChars n.text = t.render.toList := by
    rw [type_text derived n rfl, spelled_settle_all, type_items_spelled t " " plain]
    simpa using Outline.canonical_of_render [] t (by simp) (plain_type_spelled t plain)
  refine ⟨_, .typeAlias rfl (tight_token .word " " name _ tight_blank)
    (plain_name_token " " name _ named) rfl whole rfl, ?_⟩
  simp +decide [Outline.Declaration.ofNode?, Outline.fieldText?, Outline.nodeText, Node.child?, text,
    aliasOutline]

def membersGroup (members : List Item) : Item :=
  groupItem " " "\x7b" members (if members.isEmpty then "" else "\n") "\x7d"

theorem members_braces (members : List Item) (first last : Nat) :
    isBraces ((written .opening " " "\x7b").settle first)
      ((written .closing (if members.isEmpty then "" else "\n") "\x7d").settle last) = true := by
  cases empty : members.isEmpty <;> rfl

-- The place of the members of a group.
def withinGroup (members : List Item) (behind : Nat) : Nat :=
  (closingChars (some (written .closing (if members.isEmpty then "" else "\n") "\x7d"))).length +
    (0 + behind)

def interfaceItems (lead name : String) (properties : List Property) : List Item :=
  [wordItem lead "export", wordItem " " "interface", wordItem " " name,
    membersGroup (propertiesItems "\n  " properties)]

def interfaceOutline (name : String) (properties : List Property) : Outline.Declaration :=
  ⟨name, .interface, none, properties.map outlineOf, []⟩

theorem interface_declares (lead name : String) (properties : List Property)
    (gap : IsGap lead.toList) (named : IsPlainName name)
    (plain : ∀ p ∈ properties, PlainProperty p) :
    Declares (interfaceItems lead name properties) [interfaceOutline name properties] := by
  refine export_declares lead _ _ gap fun behind => ?_
  obtain ⟨nodes, rows, taken⟩ := properties_derived "\n  " (gap_blanks _ (by decide)) properties plain
    (withinGroup (propertiesItems "\n  " properties) behind)
  have noMethod := properties_no_method rows
  refine ⟨_, .interface rfl (tight_token .word " " name _ tight_blank)
    (plain_name_token " " name _ named) (members_braces _ _ _) rows, ?_⟩
  rw [Outline.Declaration.ofNode?,
    members_of_body _ "property_signature" _ _ _ nodes "interface_body" rfl,
    members_of_body _ "method_signature" _ _ _ nodes "interface_body" rfl, noMethod]
  rw [propertiesOf] at taken
  simp +decide [Outline.fieldText?, Outline.nodeText, Node.child?, taken, interfaceOutline]

def classItems (lead name : String) (members : List Item) : List Item :=
  [wordItem lead "export", wordItem " " "class", wordItem " " name, membersGroup members]

def classOutline (name : String) (methods : List Outline.Method) : Outline.Declaration :=
  ⟨name, .class_, none, [], methods⟩

theorem class_declares (lead name : String) (members : List Item) (methods : List Outline.Method)
    (gap : IsGap lead.toList) (named : IsPlainName name) (gives : GivesMethods members methods) :
    Declares (classItems lead name members) [classOutline name methods] := by
  refine export_declares lead _ _ gap fun behind => ?_
  obtain ⟨nodes, rows, taken⟩ := gives (withinGroup members behind)
  refine ⟨_, .class_ rfl (tight_token .word " " name _ tight_blank)
    (plain_name_token " " name _ named) (members_braces _ _ _) rows, ?_⟩
  rw [Outline.Declaration.ofNode?, Outline.classMethods,
    members_of_body _ "method_definition" _ _ _ nodes "class_body" rfl]
  rw [methodsOf] at taken
  simp +decide [Outline.fieldText?, Outline.nodeText, Node.child?, taken, classOutline]

def moreNameItems (names : List String) : List Item :=
  names.flatMap fun name => [markItem "" ",", wordItem " " name]

def nameItems : List String → List Item
  | [] => []
  | name :: rest => wordItem " " name :: moreNameItems rest

def importItems (lead : String) (names : List String) (path : String) : List Item :=
  [wordItem lead "import", wordItem " " "type", groupItem " " "\x7b" (nameItems names) " " "\x7d",
    wordItem " " "from", stringItem " " (quoted path), markItem "" ";"]

theorem names_derived (name : String) (rest : List String)
    (named : ∀ other ∈ name :: rest, IsPlainName other) (behind : Nat) :
    ∃ nodes, Separated SpecifierNode
      (settleAll behind (wordItem " " name :: moreNameItems rest)) nodes := by
  induction rest generalizing name with
  | nil =>
      exact ⟨_, .last (.mk (tight_token .word " " name _ tight_blank)
        (plain_name_token " " name _ (named name (by simp))))⟩
  | cons second others ih =>
      obtain ⟨own, later⟩ := List.forall_mem_cons.mp named
      obtain ⟨nodes, more⟩ := ih second later
      exact ⟨_, .more (.mk (tight_token .word " " name _ tight_blank)
        (plain_name_token " " name _ own)) rfl more⟩

theorem import_declares (lead : String) (names : List String) (path : String)
    (gap : IsGap lead.toList) (named : ∀ name ∈ names, IsPlainName name) (plain : IsPlainText path) :
    Declares (importItems lead names path) [] := by
  refine top_declares _ _ _ gap fun behind => ?_
  have listed (within : Nat) : ∃ nodes,
      Listed SpecifierNode (settleAll within (nameItems names)) nodes := by
    cases names with
    | nil => exact ⟨[], .none⟩
    | cons name rest =>
        obtain ⟨nodes, derived⟩ := names_derived name rest named within
        exact ⟨nodes, .some derived⟩
  obtain ⟨nodes, derived⟩ := listed (2 +
    ((charsOf [wordItem " " "from", stringItem " " (quoted path), markItem "" ";"]).length + behind))
  exact ⟨_, .import_ rfl rfl rfl rfl derived rfl
    (tight_token .string " " (quoted path) _ tight_blank) (plain_string_token " " path _ plain) rfl,
    rfl⟩

theorem alias_items_chars (lead name : String) (t : TypeExpr) (plain : PlainType t) :
    charsOf (aliasItems lead name t) =
      (lead ++ (Decl.typeAlias name true t none).render).toList := by
  simp [aliasItems, plain_type_chars t " " plain, Decl.render, docText, exportLead]

theorem alias_items_fit (lead name : String) (t : TypeExpr) (next : List Char)
    (gap : IsGap lead.toList) (named : IsIdentifier name) (plain : PlainType t) :
    FitAll false (aliasItems lead name t) next := by
  have type := plain_type_fits t " " (';' :: next) (by simp +decide) plain rfl
  have chars := plain_type_chars t " " plain
  simp +decide [aliasItems, gap, identifier_spells name named, type, chars]

theorem properties_chars (properties : List Property)
    (plain : ∀ p ∈ properties, PlainProperty p) :
    charsOf (propertiesItems "\n  " properties) = bodyChars (properties.map Property.render) := by
  induction properties with
  | nil => rfl
  | cons p rest ih =>
      obtain ⟨own, later⟩ := List.forall_mem_cons.mp plain
      have others := ih later
      rw [propertiesItems] at others
      rw [propertiesItems, List.flatMap_cons, chars_of_append, property_items_chars _ p own, others,
        String.toList_append]
      rfl

theorem members_group_chars (members : List Item) (nonempty : members ≠ []) :
    (membersGroup members).chars =
      ' ' :: '\x7b' :: (charsOf members ++ ['\n', '\x7d']) := by
  simp [membersGroup, nonempty]

theorem interface_items_chars (lead name : String) (properties : List Property)
    (plain : ∀ p ∈ properties, PlainProperty p) :
    charsOf (interfaceItems lead name properties) =
      (lead ++ (Decl.interface name true [] properties none).render).toList := by
  by_cases none_ : properties = []
  · simp [none_, interfaceItems, membersGroup, propertiesItems, Decl.render, docText, exportLead,
      braced]
  · have lines : ∀ line ∈ properties.map Property.render, IsLine line := by
      simpa using fun p member => property_line p (plain p member)
    have body := braced_chars (properties.map Property.render) (by simpa using none_)
    have some_ : propertiesItems "\n  " properties ≠ [] := by
      obtain ⟨p, rest, rfl⟩ := List.exists_cons_of_ne_nil none_
      simp [propertiesItems, propertyItems, namedItems]
    have isEmpty : properties.isEmpty = false := by simpa using none_
    rw [← stack_lines 0 _ lines, Nat.zero_add] at body
    simp [interfaceItems, members_group_chars _ some_, properties_chars properties plain,
      Decl.render, docText, exportLead, isEmpty, body]

theorem properties_fit (properties : List Property) (next : List Char)
    (plain : ∀ p ∈ properties, PlainProperty p) :
    FitAll false (propertiesItems "\n  " properties) next := by
  induction properties with
  | nil => trivial
  | cons p rest ih =>
      obtain ⟨own, later⟩ := List.forall_mem_cons.mp plain
      have others := ih later
      rw [propertiesItems] at others
      rw [propertiesItems, List.flatMap_cons, fit_all_append]
      exact ⟨property_items_fit _ p _ (by simp +decide) own, others⟩

theorem members_group_fits (members : List Item) (next : List Char)
    (inner : ∀ after, FitAll false members after) : (membersGroup members).Fits false next := by
  cases empty : members.isEmpty <;> simp +decide [membersGroup, empty, inner]

theorem members_group_starts (members : List Item) :
    ∃ within, (membersGroup members).chars = ' ' :: within := ⟨_, rfl⟩

theorem interface_items_fit (lead name : String) (properties : List Property) (next : List Char)
    (gap : IsGap lead.toList) (named : IsIdentifier name)
    (plain : ∀ p ∈ properties, PlainProperty p) :
    FitAll false (interfaceItems lead name properties) next := by
  have members := members_group_fits _ next fun after => properties_fit properties after plain
  obtain ⟨within, starts⟩ := members_group_starts (propertiesItems "\n  " properties)
  simp +decide [interfaceItems, gap, identifier_spells name named, members, starts]

theorem class_items_chars (lead name : String) (members : List ClassMember)
    (block : List String) (others : List (List String))
    (renders : members.map ClassMember.render = (block :: others).map (Text.join "\n"))
    (full : ∀ ls ∈ block :: others, ls ≠ [] ∧ ∀ line ∈ ls, IsLine line) (items : List Item)
    (nonempty : items ≠ [])
    (chars : charsOf items = bodyChars block ++ others.flatMap fun ls => '\n' :: bodyChars ls) :
    charsOf (classItems lead name items) =
      (lead ++ (Decl.class_ name true none members none).render).toList := by
  have stacked := stack_apart_chars block others full
  have some_ : members.isEmpty = false := by
    cases members with
    | nil => simp at renders
    | cons => rfl
  rw [← renders, ← chars] at stacked
  simp [classItems, members_group_chars _ nonempty, ← stacked, Decl.render, docText, exportLead,
    some_, braced]

theorem class_items_fit (lead name : String) (items : List Item) (next : List Char)
    (gap : IsGap lead.toList) (named : IsIdentifier name)
    (inner : ∀ after, FitAll false items after) :
    FitAll false (classItems lead name items) next := by
  have members := members_group_fits items next inner
  obtain ⟨within, starts⟩ := members_group_starts items
  simp +decide [classItems, gap, identifier_spells name named, members, starts]

theorem more_name_items_chars (names : List String) :
    charsOf (moreNameItems names) = names.flatMap fun name => ", ".toList ++ name.toList := by
  induction names with
  | nil => rfl
  | cons name rest ih =>
      rw [moreNameItems] at ih
      simp [moreNameItems, ih]

theorem import_items_chars (lead first : String) (others : List String) (path : String)
    (plainPath : quoted path = "\"" ++ path ++ "\"") :
    charsOf (importItems lead (first :: others) path) =
      (lead ++ (Decl.import_ (first :: others) path true).render).toList := by
  simp [importItems, nameItems, more_name_items_chars, Decl.render, Text.join_chars, plainPath]

theorem import_items_fit (lead first : String) (others : List String) (path : String)
    (next : List Char) (gap : IsGap lead.toList)
    (named : ∀ name ∈ first :: others, IsIdentifier name) :
    FitAll false (importItems lead (first :: others) path) next := by
  obtain ⟨own, later⟩ := List.forall_mem_cons.mp named
  have more (after : List Char) : FitAll false (moreNameItems others) (' ' :: after) ∧
      isApart (charsOf (moreNameItems others) ++ ' ' :: after) = true := by
    clear named
    induction others with
    | nil => exact ⟨trivial, by simp +decide [moreNameItems]⟩
    | cons name rest ih =>
        obtain ⟨second, third⟩ := List.forall_mem_cons.mp later
        obtain ⟨fit, apart⟩ := ih third
        rw [moreNameItems] at fit apart
        refine ⟨?_, by simp +decide [moreNameItems]⟩
        simp only [moreNameItems, List.flatMap_cons, fit_all_append, fit, and_true]
        simpa +decide [identifier_spells name second] using apart
  have inner (after : List Char) := (more after).1
  have apart := (more next).2
  simpa +decide [importItems, nameItems, gap, identifier_spells first own, inner] using apart

theorem trim_mem (cs : List Char) (c : Char) (member : c ∈ Text.trim cs) : c ∈ cs := by
  obtain ⟨before, after, whole, -, -⟩ := Text.trim_drops cs
  rw [whole]
  simp [member]

theorem trim_nonempty (cs : List Char) (c : Char) (member : c ∈ cs)
    (solid : Text.isBlank c = false) : Text.trim cs ≠ [] := by
  obtain ⟨before, after, whole, front, back⟩ := Text.trim_drops cs
  intro empty
  rw [whole, empty, List.append_nil, List.mem_append] at member
  have blank : Text.isBlank c = true := member.elim (front c) (back c)
  exact Bool.false_ne_true (solid.symm.trans blank)

-- A text of one line as a comment in front of what follows it.
theorem doc_line (text : String) (unbroken : Unbroken text.toList) (free : '*' ∉ text.toList)
    (c : Char) (member : c ∈ text.toList) (solid : Text.isBlank c = false) :
    ∃ line : String, docText (some text) = line ++ "\n" ∧ IsLine line ∧ IsGap line.toList := by
  have whole : Text.lines (Text.trim text.toList) = [Text.trim text.toList] :=
    Text.lines_whole _ (trim_nonempty _ c member solid)
      ⟨fun feed => unbroken.1 (trim_mem _ _ feed), fun return_ => unbroken.2 (trim_mem _ _ return_)⟩
  have within (d : Char) (inner : d ∈ Text.trim (Text.trim text.toList)) : d ∈ text.toList :=
    trim_mem _ _ (trim_mem _ _ inner)
  have kept : Unbroken (Text.trim (Text.trim text.toList)) :=
    ⟨fun feed => unbroken.1 (within _ feed), fun return_ => unbroken.2 (within _ return_)⟩
  have gap := gap_doc (Text.trim (Text.trim text.toList) ++ [' '])
    (by simpa using fun star => free (within _ star))
  refine ⟨"/** " ++ String.ofList (Text.trim (Text.trim text.toList)) ++ " */", ?_, ?_, ?_⟩
  · simp only [docText, whole, String.append_assoc]
    rfl
  · simpa [IsLine] using kept
  · simpa using gap

theorem no_doc_text : docText none = "" := rfl

theorem interface_doc (name : String) (properties : List Property) (doc : Option String) :
    (Decl.interface name true [] properties doc).render =
      docText doc ++ (Decl.interface name true [] properties none).render := by
  simp only [Decl.render, no_doc_text, String.empty_append, String.append_assoc]

theorem class_doc (name : String) (members : List ClassMember) (doc : Option String) :
    (Decl.class_ name true none members doc).render =
      docText doc ++ (Decl.class_ name true none members none).render := by
  simp only [Decl.render, no_doc_text, String.empty_append, String.append_assoc]

end ApiContract.Code
