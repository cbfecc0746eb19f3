import ApiContract.Proofs.Code.Lines
import ApiContract.Proofs.Code.MethodItems

/-!
The members of a class, one behind the other, the methods that are taken from them, and their text,
which is the text of their items.
-/

set_option autoImplicit false

namespace ApiContract.Code

open Outline (IsIdentifier)
open Script

-- Items that are members of a class wherever they stand, with these methods.
def GivesMethods (items : List Item) (methods : List Outline.Method) : Prop :=
  Gives MemberNodes methodsOf items methods

theorem member_gives (item : Item) (items : List Item) (methods : List Outline.Method)
    (gap : IsGap item.first.lead)
    (own : ∀ behind, ∃ nodes, MemberNodes (settleAll behind (item :: items)) nodes ∧
      methodsOf nodes = methods) : GivesMethods (item :: items) methods :=
  gives_row _ _ methods_of_append item items methods gap
    (fun behind comments => by rw [methodsOf, picked_comments _ _ _ rfl]; rfl) own

theorem method_gives (lead name : String) (params : List (String × TypeExpr)) (returns : TypeExpr)
    (body : List Item) (closingLead : String) (endpoint : Option String) (gap : IsGap lead.toList)
    (named : IsPlainName name) (notConstructor : name ≠ "constructor")
    (plain : ∀ p ∈ params, PlainParam p) (typed : PlainType returns)
    (closes : closingLead.toList.all isBlank = true) (requests : Requests body endpoint) :
    GivesMethods (methodItems lead name params returns body closingLead)
      [⟨name, params.map paramOutline, some returns.render, endpoint⟩] :=
  member_gives _ _ _ gap (method_derived lead name params returns body closingLead endpoint named
    notConstructor plain typed closes requests)

def constructorItems (lead : String) (params : List (String × TypeExpr)) (body : List Item)
    (closingLead : String) : List Item :=
  [wordItem lead "constructor", paramsGroup params, bodyGroup body closingLead]

theorem constructor_gives (lead : String) (params : List (String × TypeExpr)) (body : List Item)
    (closingLead : String) (endpoint : Option String) (gap : IsGap lead.toList)
    (plain : ∀ p ∈ params, PlainParam p) (closes : closingLead.toList.all isBlank = true)
    (requests : Requests body endpoint) :
    GivesMethods (constructorItems lead params body closingLead) [] := by
  refine member_gives _ _ _ gap fun behind => ?_
  obtain ⟨list, takes, -⟩ := params_group_derived params plain
    ((charsOf [bodyGroup body closingLead]).length + behind)
  obtain ⟨block, does, -⟩ := body_derived body closingLead endpoint closes requests (0 + behind)
  have named : IsPlainName "constructor" := by decide
  refine ⟨_, .method (plain_name_token lead "constructor" _ named) takes does, ?_⟩
  simp +decide [methodsOf, picked, Outline.Method.ofNode?, Outline.fieldText?, Outline.nodeText,
    Node.child?]

def fieldItems (lead name type : String) : List Item :=
  wordItem lead "private" :: wordItem " " "readonly" :: wordItem " " name ::
    (ascriptionItems (.named type) ++ [markItem "" ";"])

theorem field_gives (lead name type : String) (gap : IsGap lead.toList) (named : IsPlainName name)
    (typed : IsTypeName type) : GivesMethods (fieldItems lead name type) [] := by
  refine member_gives _ _ _ gap fun behind => ?_
  rw [settle_all_cons, settle_all_cons, settle_all_cons, settle_all_append]
  obtain ⟨n, derived, -, -⟩ := ascription_derived (.named type) typed
    ((charsOf [markItem "" ";"]).length + behind)
  exact ⟨_, .field rfl rfl (tight_token .word " " name _ tight_blank)
    (plain_name_token " " name _ named) derived rfl, rfl⟩

-- Members one behind the other, each with the methods that are taken from it.
theorem members_give (members : List (List Item × List Outline.Method))
    (each : ∀ m ∈ members, GivesMethods m.1 m.2) :
    GivesMethods (members.flatMap Prod.fst) (members.flatMap Prod.snd) :=
  gives_flat_map _ _ methods_of_append members Prod.fst Prod.snd rfl each

theorem params_group_chars (params : List (String × TypeExpr))
    (plain : ∀ p ∈ params, PlainParam p) :
    (paramsGroup params).chars = (paramList (params.map fun p => plainParam p.1 p.2)).toList := by
  rw [← param_items_chars params plain]
  simp [paramsGroup]

theorem params_group_fits (params : List (String × TypeExpr)) (next : List Char)
    (plain : ∀ p ∈ params, PlainParam p) : (paramsGroup params).Fits false next := by
  have inner := param_items_fit params next plain
  simp +decide [paramsGroup, inner]

theorem params_group_starts (params : List (String × TypeExpr)) :
    ∃ rest, (paramsGroup params).chars = '(' :: rest := ⟨_, rfl⟩

theorem method_items_chars (lead name : String) (params : List (String × TypeExpr))
    (returns : TypeExpr) (body : List Item) (closingLead : String)
    (plain : ∀ p ∈ params, PlainParam p) (typed : PlainType returns) :
    charsOf (methodItems lead name params returns body closingLead) =
      (lead ++ "async " ++ name ++ paramList (params.map fun p => plainParam p.1 p.2) ++ ": " ++
        returns.render ++ " \x7b").toList ++ charsOf body ++ (closingLead ++ "\x7d").toList := by
  have group := params_group_chars params plain
  have type := plain_type_chars returns " " typed
  simp [methodItems, ascriptionItems, bodyGroup, group, type]

theorem method_items_fit (lead name : String) (params : List (String × TypeExpr))
    (returns : TypeExpr) (body : List Item) (closingLead : String) (next : List Char)
    (gap : IsGap lead.toList) (closingGap : IsGap closingLead.toList) (named : IsIdentifier name)
    (plain : ∀ p ∈ params, PlainParam p) (typed : PlainType returns)
    (inner : ∀ after, FitAll false body after) :
    FitAll false (methodItems lead name params returns body closingLead) next := by
  have group (after : List Char) := params_group_fits params after plain
  obtain ⟨within, starts⟩ := params_group_starts params
  have type (after : List Char) := plain_type_fits returns " " (' ' :: after) (by simp +decide)
    typed (by simp +decide)
  simp +decide [methodItems, ascriptionItems, bodyGroup, gap, closingGap,
    identifier_spells name named, group, starts, type, inner]

theorem constructor_items_chars (lead : String) (params : List (String × TypeExpr))
    (body : List Item) (closingLead : String) (plain : ∀ p ∈ params, PlainParam p) :
    charsOf (constructorItems lead params body closingLead) =
      (lead ++ "constructor" ++ paramList (params.map fun p => plainParam p.1 p.2) ++
        " \x7b").toList ++ charsOf body ++ (closingLead ++ "\x7d").toList := by
  have group := params_group_chars params plain
  simp [constructorItems, bodyGroup, group]

theorem constructor_items_fit (lead : String) (params : List (String × TypeExpr))
    (body : List Item) (closingLead : String) (next : List Char) (gap : IsGap lead.toList)
    (closingGap : IsGap closingLead.toList) (plain : ∀ p ∈ params, PlainParam p)
    (inner : ∀ after, FitAll false body after) :
    FitAll false (constructorItems lead params body closingLead) next := by
  have group (after : List Char) := params_group_fits params after plain
  obtain ⟨within, starts⟩ := params_group_starts params
  simp +decide [constructorItems, bodyGroup, gap, closingGap, group, starts, inner]

theorem field_items_chars (lead name type : String) :
    charsOf (fieldItems lead name type) =
      (lead ++ (ClassMember.field name (some (.named type)) .private_ true none).render).toList := by
  simp [fieldItems, ascriptionItems, typeItems, ClassMember.render, Visibility.lead, typeSuffix,
    initSuffix, TypeExpr.render]

theorem field_items_fit (lead name type : String) (next : List Char) (gap : IsGap lead.toList)
    (named : IsIdentifier name) (typeNamed : IsIdentifier type) :
    FitAll false (fieldItems lead name type) next := by
  simp +decide [fieldItems, ascriptionItems, typeItems, gap, identifier_spells name named,
    identifier_spells type typeNamed]

end ApiContract.Code
