import ApiContract.Code.Decl
import ApiContract.Outline.Code
import ApiContract.Proofs.Code.TypeItems
import ApiContract.Proofs.Script.Derived

/-!
The items of types behind names, of properties and of parameters, the nodes that they are derived
as, and what is taken from these.
-/

set_option autoImplicit false

namespace ApiContract.Code

open Outline (IsIdentifier)
open Script

-- A type with the colon in front of it.
def ascriptionItems (t : TypeExpr) : List Item :=
  markItem "" ":" :: typeItems " " t

theorem annotation_text (t : TypeExpr) (plain : PlainType t) :
    Outline.canonicalChars
        ((Text.trimLeft (spelled (ascriptionItems t))).dropWhile (· == ':')) = t.render.toList := by
  have chars := plain_type_chars t " " plain
  have whole : spelled (ascriptionItems t) = ':' :: ' ' :: t.render.toList := by
    change spelled (.token (written .mark "" ":") :: typeItems " " t) = _
    rw [spelled_token, chars]
    rfl
  have trimmed : Text.trimLeft (':' :: ' ' :: t.render.toList) = ':' :: ' ' :: t.render.toList := rfl
  rw [whole, trimmed]
  exact Outline.canonical_of_render " ".toList t (by simp; decide) (plain_type_spelled t plain)

theorem ascription_derived (t : TypeExpr) (plain : PlainType t) (behind : Nat) :
    ∃ n, AnnotationNode (settleAll behind (ascriptionItems t)) n ∧ n.kind = "type_annotation" ∧
      ∀ field, Outline.annotationType (n.as field) = t.render := by
  obtain ⟨n, derived⟩ := type_derived t " " behind tight_blank plain
  refine ⟨_, .mk rfl (whole_type t _ n derived), rfl, fun field => ?_⟩
  have text := annotation_text t plain
  rw [← spelled_settle_all _ behind] at text
  rw [Outline.annotationType, Node.as_kind, Node.as_text, node_of_kind, node_of_text]
  simp only [beq_self_eq_true, if_true]
  rw [← String.ofList_toList (s := t.render), ← text]
  rfl

def optionalItems (optional : Bool) : List Item :=
  if optional then [markItem "" "?"] else []

def namedItems (lead name : String) (optional : Bool) (t : TypeExpr) : List Item :=
  wordItem lead name :: (optionalItems optional ++ ascriptionItems t)

def propertyItems (lead : String) (p : Property) : List Item :=
  namedItems lead p.name p.optional p.type ++ [markItem "" ";"]

-- A property as it is made here: its name, a sign when it may be missing, and its type.
structure PlainProperty (p : Property) : Prop where
  no_doc : p.doc = none
  not_readonly : p.readonly = false
  named : IsPlainName p.name
  type_plain : PlainType p.type

theorem named_items_chars (lead name : String) (optional : Bool) (t : TypeExpr)
    (plain : PlainType t) :
    charsOf (namedItems lead name optional t) =
      (lead ++ name ++ (if optional then "?" else "") ++ ": " ++ t.render).toList := by
  cases optional <;>
    simp [namedItems, optionalItems, ascriptionItems, plain_type_chars t " " plain]

theorem property_items_chars (lead : String) (p : Property) (plain : PlainProperty p) :
    charsOf (propertyItems lead p) = (lead ++ p.render).toList := by
  obtain ⟨noDoc, notReadonly, -, type⟩ := plain
  rw [propertyItems, chars_of_append, named_items_chars _ _ _ _ type, Property.render, noDoc,
    notReadonly]
  simp [docText]

theorem named_items_fit (lead name : String) (optional : Bool) (t : TypeExpr) (next : List Char)
    (gap : IsGap lead.toList) (named : IsIdentifier name) (plain : PlainType t)
    (apart : isApart next = true) : FitAll false (namedItems lead name optional t) next := by
  have type := plain_type_fits t " " next (by simp +decide) plain apart
  cases optional <;>
    simp +decide [namedItems, optionalItems, ascriptionItems, gap, identifier_spells name named,
      type]

theorem property_items_fit (lead : String) (p : Property) (next : List Char)
    (gap : IsGap lead.toList) (plain : PlainProperty p) :
    FitAll false (propertyItems lead p) next := by
  have own := named_items_fit lead p.name p.optional p.type (';' :: next) gap plain.named.1
    plain.type_plain rfl
  simpa [propertyItems] using own

def outlineOf (p : Property) : Outline.Property :=
  ⟨p.name, some p.type.render, p.optional⟩

-- The nodes of a block that are of some kind, without its marks.
def picked (kind : String) (nodes : List Node) : List Node :=
  (nodes.filter Node.named).filter fun n => n.kind == kind

@[simp] theorem picked_append (kind : String) (first second : List Node) :
    picked kind (first ++ second) = picked kind first ++ picked kind second := by
  simp [picked]

@[simp] theorem picked_comments (kind : String) (behind : Nat) (comments : List (List Char × Nat))
    (other : ("comment" == kind) = false) : picked kind (commentsAt behind comments) = [] := by
  simp only [picked, commentsAt, List.filter_eq_nil_iff, List.mem_filter, List.mem_map]
  rintro n ⟨⟨comment, -, rfl⟩, -⟩
  simpa [commentNode] using other

-- The members of a declaration are those of the block that is its body.
theorem members_of_body (n : Node) (kind : String) (items : List Item) (opening closing : Token)
    (nodes : List Node) (blockKind : String)
    (body : n.child? "body" =
      some ((nodeOf blockKind items (enclosed opening nodes closing)).as "body")) :
    Outline.membersOf n kind = picked kind nodes := by
  have marks : picked kind (enclosed opening nodes closing) = picked kind nodes := by
    rw [enclosed, ← List.singleton_append, picked_append, picked_append]
    exact List.append_nil _
  rw [Outline.membersOf, body]
  exact marks

def propertiesOf (nodes : List Node) : List Outline.Property :=
  (picked "property_signature" nodes).filterMap Outline.Property.ofNode?

theorem properties_of_append (first second : List Node) :
    propertiesOf (first ++ second) = propertiesOf first ++ propertiesOf second := by
  simp [propertiesOf]

-- A property is the first of its two nodes, the mark that ends it the second.
theorem property_taken (n ends name type : Node) (kind : n.kind = "property_signature")
    (named : n.named = true) (unnamed : ends.named = false) (called : n.child? "name" = some name)
    (typed : n.child? "type" = some type) :
    propertiesOf [n, ends] = [⟨Outline.nodeText name, some (Outline.annotationType type),
      n.children.any fun c => c.kind == "?"⟩] := by
  simp [propertiesOf, picked, Outline.Property.ofNode?, Outline.fieldText?, kind, named, unnamed,
    called, typed]

theorem property_derived (lead : String) (p : Property) (plain : PlainProperty p) (behind : Nat) :
    ∃ nodes, PropertyNodes (settleAll behind (propertyItems lead p)) nodes ∧
      propertiesOf nodes = [outlineOf p] := by
  have named := plain_name_token lead p.name
  rw [propertyItems, namedItems, List.cons_append, settle_all_cons, settle_all_append]
  obtain ⟨n, derived, kind, text⟩ := ascription_derived p.type plain.type_plain
    ((charsOf [markItem "" ";"]).length + behind)
  cases optional : p.optional with
  | false =>
      refine ⟨_, .required (named _ plain.named) derived rfl, ?_⟩
      rw [property_taken _ _ _ _ rfl rfl rfl rfl rfl]
      simp [Outline.nodeText, kind, text, outlineOf, optional]
  | true =>
      refine ⟨_, .optional (named _ plain.named) rfl derived rfl, ?_⟩
      rw [property_taken _ _ _ _ rfl rfl rfl rfl rfl]
      simp [Outline.nodeText, kind, text, outlineOf, optional]

def propertiesItems (lead : String) (properties : List Property) : List Item :=
  properties.flatMap (propertyItems lead)

theorem properties_derived (lead : String) (gap : IsGap lead.toList) (properties : List Property)
    (plain : ∀ p ∈ properties, PlainProperty p) :
    Gives PropertyNodes propertiesOf (propertiesItems lead properties)
      (properties.map outlineOf) := by
  rw [List.map_eq_flatMap]
  exact gives_flat_map _ _ properties_of_append properties _ _ rfl fun p member =>
    gives_row _ _ properties_of_append _ _ _ gap
      (fun behind comments => by rw [propertiesOf, picked_comments _ _ _ rfl]; rfl)
      (property_derived lead p (plain p member))

-- An interface of properties has no methods.
theorem properties_no_method {items : List Item} {nodes : List Node}
    (rows : Rows PropertyNodes items nodes) : picked "method_signature" nodes = [] := by
  induction rows with
  | none => rfl
  | next gap own later ih =>
      rw [picked_append, picked_append, ih, picked_comments _ _ _ rfl]
      cases own <;> rfl

end ApiContract.Code
