import ApiContract.Emit.Client
import ApiContract.Emit.Kind
import ApiContract.Outline.Basic
import ApiContract.Proofs.Code.TypeItems
import ApiContract.Proofs.Name
import ApiContract.Proofs.Schema.Accepted
import ApiContract.Proofs.Schema.PlainPath
import ApiContract.Schema.Model
import ApiContract.Script.Tree
import ApiContract.TypeMap

/-!
What the files of a module declare, told from the module alone, for modules with plain names and
without descriptions. Their names, values and types stand in code as they are.
-/

set_option autoImplicit false

namespace ApiContract.Emit

open Code (IsPlainName IsPlainText IsTypeName PlainType TypeExpr)
open Outline (Declaration DeclKind Method Param Property)
open Schema (Accepted Entity Field Module Operation PlainPath Relation)

-- A lower case letter, then letters and digits, and no word of the language.
def isMemberName (name : String) : Bool :=
  Name.isLowerName name && !Script.isKeyword name

-- Letters, digits, underscores and hyphens.
def isPlainValue (value : String) : Bool :=
  !value.isEmpty && value.toList.all fun c => c.isAlphanum || c == '_' || c == '-'

structure PlainEntity (e : Entity) : Prop where
  named : Name.isUpperName e.name = true
  no_description : e.description = none
  fields_named : ∀ f ∈ e.fields, isMemberName f.name = true
  fields_bare : ∀ f ∈ e.fields, f.description = none
  values_plain : ∀ f ∈ e.fields, ∀ values, f.values = some values →
    ∀ value ∈ values, isPlainValue value = true
  relations_named : ∀ r ∈ e.relations, isMemberName r.name = true

structure PlainOperation (op : Operation) : Prop where
  named : isMemberName op.name = true
  no_description : op.description = none
  path_plain : PlainPath op.path.toList

structure PlainModule (m : Module) : Prop where
  named : Name.isHyphenName m.name = true
  base_plain : PlainPath (m.basePath.getD "").toList
  entities_plain : ∀ e ∈ m.entities, PlainEntity e
  operations_plain : ∀ op ∈ m.operations, PlainOperation op

-- The type that the standard registry has for a type of a schema.
def standardText (type : String) : String :=
  ((TypeMap.standard.resolve type).map TypeExpr.render).getD ""

def fieldText (e : Entity) (f : Field) : String :=
  (if f.type = "enum" then e.aliasName f else standardText f.type) ++
    (if f.list then "[]" else "") ++ (if f.nullable then " | null" else "")

def fieldOutline (e : Entity) (optional : Bool) (f : Field) : Property :=
  ⟨f.name, some (fieldText e f), optional⟩

def relationOutline (r : Relation) : Property :=
  ⟨r.name, some (r.target ++ (if r.cardinality = .many then "[]" else "")), true⟩

-- An enum field declares the union of its values.
def aliasOutline? (e : Entity) (f : Field) : Option Declaration :=
  f.values.map fun values =>
    ⟨e.aliasName f, .typeAlias, some (Text.join " | " (values.map Code.quoted)), [], []⟩

def entityOutline (e : Entity) : Declaration :=
  ⟨e.name, .interface, none,
    e.fields.map (fun f => fieldOutline e (!f.required) f) ++ e.relations.map relationOutline, []⟩

-- The fields that a request sends, each of them optional when a part of them may be sent.
def requestProperties (e : Entity) (request : Schema.RequestShape) : List Property :=
  let sent :=
    match request.fields with
    | some names => names.filterMap e.field?
    | none => e.fields
  sent.map fun f => fieldOutline e (request.partial_ || !f.required) f

def requestOutline? (m : Module) (op : Operation) : Option Declaration :=
  op.request.bind fun request => (m.entity? request.entity).map fun e =>
    ⟨op.requestType, .interface, none, requestProperties e request, []⟩

def typesOutline (m : Module) : List Declaration :=
  (m.entities.flatMap fun e => e.fields.filterMap (aliasOutline? e) ++ [entityOutline e]) ++
    m.operations.filterMap (requestOutline? m)

def responseText (op : Operation) : String :=
  match op.response with
  | some ⟨some entity, list⟩ => entity ++ (if list then "[]" else "")
  | _ => "void"

def paramOutlines (op : Operation) : List Param :=
  op.placeholders.map (fun name => ⟨name, some (standardText (op.paramType name)), false⟩) ++
    if op.request.isSome then [⟨"body", some op.requestType, false⟩] else []

def fillChar (c : Char) : List Char :=
  if c = '\x7b' then "$\x7bencodeURIComponent(String(".toList
  else if c = '\x7d' then "))\x7d".toList
  else [c]

-- A path with its placeholders filled in.
def filledIn (path : List Char) : List Char :=
  path.flatMap fillChar

def endpointOf (base : Option String) (op : Operation) : String :=
  op.method.word ++ " $\x7bthis.baseUrl\x7d" ++ String.ofList (Schema.trimBase (base.getD "")) ++
    String.ofList (filledIn op.path.toList)

def methodOutline (m : Module) (op : Operation) : Method :=
  ⟨op.name, paramOutlines op, some ("Promise<" ++ responseText op ++ ">"),
    some (endpointOf m.basePath op)⟩

def clientOutline (m : Module) : Declaration :=
  ⟨Name.pascal m.name ++ "Client", .class_, none, [], m.operations.map (methodOutline m)⟩

open Script

theorem member_lower (name : String) (named : isMemberName name = true) :
    Name.isLowerName name = true :=
  (Bool.and_eq_true_iff.mp named).1

theorem member_plain (name : String) (named : isMemberName name = true) : IsPlainName name := by
  obtain ⟨lower, free⟩ := Bool.and_eq_true_iff.mp named
  exact ⟨Name.lower_identifier name lower, by simpa using free⟩

theorem value_plain (value : String) (plain : isPlainValue value = true) : IsPlainText value := by
  intro c member
  have own := List.all_eq_true.mp (Bool.and_eq_true_iff.mp plain).2 c member
  have other (d : Char) (foreign : (d.isAlphanum || d == '_' || d == '-') = false) : c ≠ d := by
    rintro rfl
    exact Bool.false_ne_true (foreign.symm.trans own)
  simp [Code.escapeChar, other '"' rfl, other '\\' rfl, other '\n' rfl, other '\r' rfl,
    other '\t' rfl]

-- A name of a type is none of the words that begin in lower case.
theorem type_not_among (name : String) (type : Name.NamesType name) (words : List String)
    (small : ∀ word ∈ words, word.toList.head?.any Char.isUpper = false) : name ∉ words := by
  obtain ⟨⟨c, rest, spelled, upper⟩, -⟩ := type
  intro member
  have own := small name member
  simp [spelled, upper] at own

theorem type_plain (name : String) (type : Name.NamesType name) : IsPlainName name := by
  have notReserved := type_not_among name type Name.reservedWords (by decide)
  have notContextual := type_not_among name type contextualWords (by decide)
  exact ⟨Name.type_identifier name type, by
    simp [isKeyword, Name.isReservedWord, notReserved, notContextual]⟩

theorem plain_type_name (name : String) (plain : IsPlainName name) : IsTypeName name :=
  ⟨plain.1, .inr (.inr plain.2)⟩

theorem type_name (name : String) (type : Name.NamesType name) : IsTypeName name :=
  plain_type_name name (type_plain name type)

theorem lookup_mem (name : String) (entries : List (String × TypeExpr)) (type : TypeExpr)
    (found : TypeMap.lookup name entries = some type) : (name, type) ∈ entries := by
  induction entries with
  | nil => cases found
  | cons entry rest ih =>
      rw [TypeMap.lookup] at found
      split at found
      · rename_i same
        cases found
        cases same
        simp
      · exact List.mem_cons_of_mem entry (ih found)

def standardNames : List String :=
  ["string", "number", "boolean", "unknown"]

theorem standard_names (name : String) (member : name ∈ standardNames) : IsTypeName name :=
  (by decide : ∀ name ∈ standardNames,
    Name.isIdentifier name = true ∧ (predefinedTypes.contains name = true ∨ name = "null" ∨
      isKeyword name = false)) name member

-- All types of the standard registry are names.
theorem standard_resolved (name : String) (type : TypeExpr)
    (resolved : TypeMap.standard.resolve name = some type) :
    standardText name = type.render ∧ ∃ text, type = .named text ∧ IsTypeName text := by
  have each : ∀ entry ∈ TypeMap.standard.entries, ∃ text ∈ standardNames,
      entry.2 = .named text := by
    simp [TypeMap.standard, standardNames]
  obtain ⟨text, listed, same⟩ := each _ (lookup_mem name _ type resolved)
  exact ⟨by rw [standardText, resolved]; rfl, text, same, standard_names text listed⟩

theorem defined_type (m : Module) (plain : PlainModule m) (name : String)
    (defined : Schema.Defines ⟨m.entities⟩ name) : IsPlainName name := by
  obtain ⟨e, member, rfl⟩ := defined
  exact type_plain _ (Name.upper_name_type _ (plain.entities_plain e member).named)

theorem request_type (m : Module) (plain : PlainModule m) (op : Operation)
    (member : op ∈ m.operations) : IsPlainName op.requestType := by
  have named := Name.lower_pascal_type _ (member_lower _ (plain.operations_plain op member).named)
  exact type_plain _ (Name.type_append _ "Request" named
    (List.all_eq_true.mp (by decide)))

theorem response_type (m : Module) (accepted : Accepted m) (plain : PlainModule m)
    (op : Operation) (member : op ∈ m.operations) :
    PlainType (responseType op) ∧ (responseType op).render = responseText op := by
  have sound := ((Schema.accepted_iff m).mp accepted).operations_sound op member
  have named (entity : String) (list : Bool) (same : op.response = some ⟨some entity, list⟩) :
      IsTypeName entity :=
    plain_type_name _ (defined_type m plain entity (sound.response_defined _ entity same rfl))
  have void : IsTypeName "void" := by decide
  simp only [responseType, responseText]
  match response : op.response with
  | none => exact ⟨void, rfl⟩
  | some ⟨none, _⟩ => exact ⟨void, rfl⟩
  | some ⟨some entity, false⟩ =>
      simpa [TypeExpr.render, PlainType] using named entity false response
  | some ⟨some entity, true⟩ =>
      simpa [TypeExpr.render, PlainType] using named entity true response

end ApiContract.Emit
