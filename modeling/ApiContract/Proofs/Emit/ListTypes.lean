import ApiContract.Emit.Types
import ApiContract.Proofs.Code.TypeOperands
import ApiContract.Proofs.Emit.MapAll
import ApiContract.Proofs.Emit.PlainModules
import ApiContract.Proofs.Emit.UsableNames
import Mathlib.Data.List.Induction

/-!
The types of list fields. The text that a project has for a type goes in front of the brackets as it
is, so the list takes the whole of it just where more can follow the text.
-/

set_option autoImplicit false

namespace ApiContract

namespace TypeMap

-- The text that stands for a type: the last that a project adds under its name, else the standard.
def registered? (extra : List (String × String)) (name : String) : Option String :=
  match extra.reverse.find? fun entry => entry.1 = name with
  | some entry => some entry.2
  | none => (standard.resolve name).map Code.TypeExpr.render

theorem registered_append (extra : List (String × String)) (entry : String × String)
    (name : String) : registered? (extra ++ [entry]) name =
      if entry.1 = name then some entry.2 else registered? extra name := by
  by_cases same : entry.1 = name <;> simp [registered?, same]

theorem with_types_append (extra : List (String × String)) (entry : String × String) :
    withTypes (extra ++ [entry]) = (withTypes extra).register entry.1 (.named entry.2) := by
  rw [withTypes, List.foldl_append]
  rfl

theorem with_types_resolved (extra : List (String × String)) (name : String) :
    (withTypes extra).resolve name = (registered? extra name).map .named := by
  induction extra using List.reverseRecOn with
  | nil =>
      change standard.resolve name = ((standard.resolve name).map Code.TypeExpr.render).map .named
      cases found : standard.resolve name with
      | none => rfl
      | some type =>
          obtain ⟨-, text, rfl, -⟩ := Emit.standard_resolved name type found
          rfl
  | append_singleton extra entry ih =>
      rw [with_types_append, registered_append, resolve, register]
      split
      · rename_i same
        rw [same, lookup_put_same]
        rfl
      · rename_i different
        rw [lookup_put_other _ _ _ _ (Ne.symm different)]
        exact ih

end TypeMap

namespace Emit

open Code (TypeExpr)
open Schema (Entity Module)
open TypeSyntax

def elementText? (extra : List (String × String)) (e : Entity) (f : Schema.Field) :
    Option String :=
  if f.type = "enum" then some (e.aliasName f) else TypeMap.registered? extra f.type

theorem element_type_iff (extra : List (String × String)) (m : Module) (e : Entity)
    (f : Schema.Field) (type : TypeExpr) :
    elementType (TypeMap.withTypes extra) m e f = .ok type ↔
      ∃ text, elementText? extra e f = some text ∧ type = .named text := by
  rw [elementType, elementText?, TypeMap.with_types_resolved]
  by_cases isEnum : f.type = "enum"
  · rw [if_pos isEnum, if_pos isEnum]
    simp [eq_comm]
  · rw [if_neg isEnum, if_neg isEnum]
    cases TypeMap.registered? extra f.type with
    | none => simp
    | some text => simp [eq_comm]

theorem list_property_iff (extra : List (String × String)) (m : Module) (e : Entity)
    (f : Schema.Field) (optional : Bool) (list : f.list = true) (present : f.nullable = false)
    (p : Code.Property) :
    fieldProperty (TypeMap.withTypes extra) m e optional f = .ok p ↔
      ∃ text, elementText? extra e f = some text ∧
        p = { name := f.name, type := .arrayOf (.named text), optional, doc := f.description } := by
  rw [fieldProperty, map_ok_iff]
  constructor
  · rintro ⟨type, typed, rfl⟩
    obtain ⟨element, found, rfl⟩ := (map_ok_iff _ _ _).mp typed
    obtain ⟨text, known, rfl⟩ := (element_type_iff extra m e f element).mp found
    exact ⟨text, known, by simp [list, present]⟩
  · rintro ⟨text, known, rfl⟩
    have found := (element_type_iff extra m e f _).mpr ⟨text, known, rfl⟩
    refine ⟨.arrayOf (.named text), ?_, rfl⟩
    rw [fieldType, found]
    simp [Except.map, list, present]

-- No sign of a union or a function stands bare in front of the last brackets.
def TakesWhole (rendered : String) : Prop :=
  ∃ front, rendered = front ++ "[]" ∧ bareSigns front = []

theorem takes_whole_iff (text : String) : TakesWhole (text ++ "[]") ↔ bareSigns text = [] := by
  constructor
  · rintro ⟨front, same, none_⟩
    have own : text = front := by
      apply String.toList_inj.mp
      have texts := congrArg String.toList same
      rw [String.toList_append, String.toList_append] at texts
      exact List.append_cancel_right texts
    rw [own]
    exact none_
  · exact fun none_ => ⟨text, rfl, none_⟩

theorem identifier_word (name : String) (named : Name.isIdentifier name = true) :
    Word name.toList := by
  obtain ⟨c, rest, spelled, -, parts⟩ := Name.identifier_parts name named
  refine ⟨by rw [spelled]; exact List.cons_ne_nil c rest, fun d member => ?_⟩
  exact Name.part_all (fun d => Script.isWordChar d = true) (by decide) d (parts d member)

-- Only the texts that a project adds can be other than names.
theorem unmapped_text_identifier (extra : List (String × String)) (m : Module)
    (accepted : Schema.Accepted m) (e : Entity) (inModule : e ∈ m.entities) (f : Schema.Field)
    (inEntity : f ∈ e.fields) (unmapped : f.type ≠ "enum" → ∀ entry ∈ extra, entry.1 ≠ f.type)
    (text : String) (known : elementText? extra e f = some text) :
    Name.isIdentifier text = true := by
  rw [elementText?] at known
  split at known
  · cases known
    have members := (((Schema.accepted_iff m).mp accepted).entities_sound e inModule).members_named
    have named := members f.name (List.mem_append_left _ (List.mem_map_of_mem inEntity))
    exact (alias_usable e f (entity_usable m accepted e inModule) named).identifier
  · rename_i other
    have unset : extra.reverse.find? (fun entry => entry.1 = f.type) = none := by
      simpa using unmapped other
    rw [TypeMap.registered?, unset] at known
    obtain ⟨type, found, rfl⟩ := Option.map_eq_some_iff.mp known
    obtain ⟨-, name, rfl, named⟩ := standard_resolved f.type type found
    exact named.1

theorem unmapped_list_whole (extra : List (String × String)) (m : Module)
    (accepted : Schema.Accepted m) (e : Entity) (inModule : e ∈ m.entities) (f : Schema.Field)
    (inEntity : f ∈ e.fields) (unmapped : f.type ≠ "enum" → ∀ entry ∈ extra, entry.1 ≠ f.type)
    (optional : Bool) (p : Code.Property) (list : f.list = true) (present : f.nullable = false)
    (made : fieldProperty (TypeMap.withTypes extra) m e optional f = .ok p) :
    TakesWhole p.type.render ∧ ∃ name, Reads p.type.render (.array (.operand name)) := by
  obtain ⟨text, known, rfl⟩ := (list_property_iff extra m e f optional list present p).mp made
  have named :=
    unmapped_text_identifier extra m accepted e inModule f inEntity unmapped text known
  have operand : ReadsOperand text (.operand text.toList) :=
    ⟨[], text.toList, [], (List.append_nil _).symm, .none, ⟨.none, by simp⟩,
      word_operand _ (identifier_word text named)⟩
  exact ⟨(takes_whole_iff text).mpr (operand_signless text _ operand), text.toList,
    (reads_array_iff text _).mpr operand⟩

theorem list_takes_whole_iff (extra : List (String × String)) (m : Module) (e : Entity)
    (f : Schema.Field) (optional : Bool) (list : f.list = true) (present : f.nullable = false) :
    ((∃ p, fieldProperty (TypeMap.withTypes extra) m e optional f = .ok p) ↔
        (elementText? extra e f).isSome) ∧
      ∀ p, fieldProperty (TypeMap.withTypes extra) m e optional f = .ok p →
        ∃ text, elementText? extra e f = some text ∧
          (TakesWhole p.type.render ↔ bareSigns text = []) ∧
          ∀ t, (Reads p.type.render (.array t) ↔ ReadsOperand text t) ∧
            (Reads p.type.render (.array t) → TakesWhole p.type.render) := by
  have made := list_property_iff extra m e f optional list present
  refine ⟨⟨fun ⟨p, gives⟩ => ?_, fun known => ?_⟩, fun p gives => ?_⟩
  · obtain ⟨text, known, -⟩ := (made p).mp gives
    exact Option.isSome_iff_exists.mpr ⟨text, known⟩
  · obtain ⟨text, has⟩ := Option.isSome_iff_exists.mp known
    exact ⟨_, (made _).mpr ⟨text, has, rfl⟩⟩
  · obtain ⟨text, known, rfl⟩ := (made p).mp gives
    refine ⟨text, known, takes_whole_iff text, fun t => ⟨reads_array_iff text t, fun reads => ?_⟩⟩
    have operand := (reads_array_iff text t).mp reads
    exact (takes_whole_iff text).mpr (operand_signless text t operand)

def userNotes : Schema.Field :=
  { name := "notes", type := "note", list := true }

def notedUser : Entity :=
  { name := "User", fields := [userNotes] }

def notesModule : Module :=
  ⟨"users-api", [notedUser], none, []⟩

theorem notes_accepted : Schema.Accepted notesModule :=
  ⟨"users-api", { entities := [notedUser] }, { operations := [] }, rfl⟩

def stringOrNull : Tree :=
  .join .either (.operand "string".toList) (.operand "null".toList)

theorem string_or (cs : List Char) (t : Tree) (spells : Spells .operand cs t) :
    Spells .type ("string | ".toList ++ cs) (.join .either (.operand "string".toList) t) := by
  have space : Gap [' '] := .blank ' ' [] (by decide) .none
  have string_ := operand_member _ _ (word_operand _ (identifier_word "string" (by decide)))
  have left := Spells.bare (.row .either) (.joined .both) _ _ rfl string_
  exact row_type _ _ (.join .either _ [' '] [' '] cs _ t space space left (operand_member cs t spells))

theorem string_or_null : Spells .type "string | null".toList stringOrNull :=
  string_or "null".toList _ (word_operand _ (identifier_word "null" (by decide)))

theorem parenthesised_notes_whole :
    Schema.Accepted notesModule ∧ userNotes.list = true ∧ userNotes.nullable = false ∧
      ∃ p, fieldProperty (TypeMap.withTypes [("note", "(string | null)")]) notesModule notedUser
          false userNotes = .ok p ∧
        p.type.render = "(string | null)[]" ∧ TakesWhole p.type.render ∧
        Reads p.type.render (.array stringOrNull) := by
  obtain ⟨p, made, rendered⟩ : ∃ p, fieldProperty (TypeMap.withTypes [("note", "(string | null)")])
      notesModule notedUser false userNotes = .ok p ∧ p.type.render = "(string | null)[]" :=
    ⟨_, rfl, by decide⟩
  obtain ⟨-, each⟩ := list_takes_whole_iff [("note", "(string | null)")] notesModule notedUser
    userNotes false rfl rfl
  obtain ⟨text, known, whole, reads⟩ := each p made
  have own : text = "(string | null)" := by
    have registered : elementText? [("note", "(string | null)")] notedUser userNotes =
      some "(string | null)" := by decide
    exact Option.some.inj (known.symm.trans registered)
  have operand : ReadsOperand text stringOrNull := by
    refine ⟨[], "(string | null)".toList, [], by rw [own]; rfl, .none, ⟨.none, by simp⟩, ?_⟩
    exact .parenthesised [] "string | null".toList [] _ .none .none string_or_null
  exact ⟨notes_accepted, rfl, rfl, p, made, rendered, whole.mpr (by rw [own]; decide),
    (reads stringOrNull).1.mpr operand⟩

theorem union_notes_split :
    Schema.Accepted notesModule ∧ userNotes.list = true ∧ userNotes.nullable = false ∧
      Reads "string | null" stringOrNull ∧
      ∃ p, fieldProperty (TypeMap.withTypes [("note", "string | null")]) notesModule notedUser
          false userNotes = .ok p ∧
        p.type.render = "string | null[]" ∧ ¬ TakesWhole p.type.render ∧
        (∀ t, ¬ Reads p.type.render (.array t)) ∧
        Reads p.type.render
          (.join .either (.operand "string".toList) (.array (.operand "null".toList))) := by
  have bare : bareSigns "string | null" ≠ [] := by decide
  refine ⟨notes_accepted, rfl, rfl, ⟨[], _, [], (List.append_nil _).symm, .none, .none,
    string_or_null⟩, _, rfl, by decide, ?_, fun t reads => ?_, ?_⟩
  · exact fun whole => bare ((takes_whole_iff "string | null").mp whole)
  · exact bare (operand_signless _ t ((reads_array_iff "string | null" t).mp reads))
  · have nulls := Spells.array "null".toList [] [] _ ⟨.none, by simp⟩ .none
      (word_operand _ (identifier_word "null" (by decide)))
    exact ⟨[], _, [], (List.append_nil _).symm, .none, .none, string_or _ _ nulls⟩

end Emit

end ApiContract
