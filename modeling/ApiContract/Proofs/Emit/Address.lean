import ApiContract.Emit.Client
import ApiContract.Proofs.Emit.MapAll
import ApiContract.Proofs.Schema.PlainPath
import ApiContract.Schema.Integrity
import ApiContract.Schema.Load

/-!
The address of a request and the parameters of its method: the address is filled in with the
placeholders, each of them a parameter, exactly when the braces of the path enclose names. Put end to
end, with each name back in its braces, the parts of an address spell the base and the path, whatever
braces the path has.
-/

set_option autoImplicit false

namespace ApiContract.Emit

open Code (ClassMember Expr Param Stmt TemplatePart)
open Schema (Module Operation WellBraced holeNames)

def substituted? : TemplatePart → Option String
  | .hole (.call (.ident "encodeURIComponent") [.call (.ident "String") [.ident name]]) => some name
  | _ => none

def substitutedNames : Expr → List String
  | .template parts => parts.filterMap substituted?
  | _ => []

-- The first argument of the request that the body of a method begins with.
def requestAddress? : ClassMember → Option Expr
  | .method _ _ _ _ _
      (.declare .const "response" none (some (.await (.call (.ident "fetch") (url :: _)))) :: _) _ =>
      some url
  | _ => none

def paramName : Param → String
  | .mk name _ _ _ => name

def paramNames : ClassMember → List String
  | .method _ _ _ params _ _ _ => params.map paramName
  | _ => []

theorem substituted_address_part (piece : Schema.Segment) :
    substituted? (addressPart piece) = Schema.holeName? piece := by
  cases piece <;> rfl

theorem substituted_address (base : Option String) (path : String) :
    substitutedNames (address base path) = holeNames (Schema.segments base path) := by
  have base : substituted? (.hole (.member (.ident "this") "baseUrl" false)) = none := rfl
  simp only [address, substitutedNames, List.filterMap_cons, base, List.filterMap_map, holeNames]
  exact congrArg (fun f => List.filterMap f _) (funext substituted_address_part)

theorem placeholder_param_name (types : TypeMap) (m : Module) (op : Operation) (name : String)
    (made : Param) (succeeds : placeholderParam types m op name = .ok made) :
    paramName made = name := by
  rw [placeholderParam] at succeeds
  split at succeeds
  · cases succeeds
    rfl
  · cases succeeds

theorem method_params_names (types : TypeMap) (m : Module) (op : Operation) (params : List Param)
    (succeeds : methodParams types m op = .ok params) :
    params.map paramName = op.placeholders ++ (bodyParams op).map paramName := by
  obtain ⟨made, placed, rfl⟩ := (map_ok_iff _ _ _).mp succeeds
  have names : made.map paramName = op.placeholders.map id :=
    map_all_map (placeholderParam types m op) paramName id op.placeholders
      (fun name _ => placeholder_param_name types m op name) made placed
  rw [List.map_append, names, List.map_id]

theorem body_params_names (op : Operation) (name : String)
    (member : name ∈ (bodyParams op).map paramName) : name = "body" := by
  rw [bodyParams] at member
  split at member
  · simpa [param, paramName] using member
  · cases member

theorem method_ok (types : TypeMap) (m : Module) (op : Operation) (made : ClassMember)
    (succeeds : method types m op = .ok made) :
    requestAddress? made = some (address m.basePath op.path) ∧
      paramNames made = op.placeholders ++ (bodyParams op).map paramName := by
  obtain ⟨params, placed, rfl⟩ := (map_ok_iff _ _ _).mp succeeds
  exact ⟨rfl, method_params_names types m op params placed⟩

theorem param_names_plain (types : TypeMap) (m : Module) (op : Operation) (made : ClassMember)
    (succeeds : method types m op = .ok made) :
    ∀ name ∈ paramNames made, Schema.PlainName name := by
  intro name member
  rw [(method_ok types m op made succeeds).2, List.mem_append] at member
  rcases member with placeholder | body
  · exact Schema.placeholders_are_plain op.path name placeholder
  · rw [body_params_names op name body]
    simp [Schema.PlainName]

theorem address_names_placeholders_iff_well_braced (types : TypeMap) (m : Module)
    (op : Operation) :
    (substitutedNames (address m.basePath op.path) = op.placeholders ↔
        WellBraced op.path.toList) ∧
      ∀ made, method types m op = .ok made → ∃ url, requestAddress? made = some url ∧
        url = address m.basePath op.path ∧
        ((∀ name ∈ substitutedNames url, name ∈ paramNames made) ↔ WellBraced op.path.toList) ∧
        (WellBraced op.path.toList →
          ∀ name ∈ op.placeholders, name ∈ paramNames made ∧ name ∈ substitutedNames url) := by
  have agree : substitutedNames (address m.basePath op.path) = op.placeholders ↔
      WellBraced op.path.toList := by
    rw [substituted_address]
    exact Schema.hole_names_eq_placeholders_iff m.basePath op.path
  refine ⟨agree, fun made succeeds => ?_⟩
  obtain ⟨sends, params⟩ := method_ok types m op made succeeds
  have placeholders_are_params : ∀ name ∈ op.placeholders, name ∈ paramNames made := by
    intro name member
    rw [params]
    exact List.mem_append_left _ member
  refine ⟨address m.basePath op.path, sends, rfl, ⟨fun bound => ?_, fun braced => ?_⟩,
    fun braced name member => ⟨placeholders_are_params name member, ?_⟩⟩
  · apply Schema.well_braced_of_plain_holes m.basePath op.path
    rw [← substituted_address]
    exact fun name member => param_names_plain types m op made succeeds name (bound name member)
  · rw [agree.mpr braced]
    exact placeholders_are_params
  · rw [agree.mpr braced]
    exact member

def twoPlaceholders : Operation :=
  { name := "getMember", method := .get, path := "/teams/\x7bteamId\x7d/members/\x7bid\x7d",
    params := [{ name := "id", type := "uuid" }] }

theorem two_placeholders_fill_address :
    ∃ made, method TypeMap.standard ⟨"teams-api", [], none, [twoPlaceholders]⟩ twoPlaceholders =
        .ok made ∧
      WellBraced twoPlaceholders.path.toList ∧
      ∀ name ∈ ["teamId", "id"], name ∈ paramNames made := by
  obtain ⟨made, succeeds⟩ : ∃ made, method TypeMap.standard
      ⟨"teams-api", [], none, [twoPlaceholders]⟩ twoPlaceholders = .ok made := ⟨_, rfl⟩
  have filled := address_names_placeholders_iff_well_braced TypeMap.standard
    ⟨"teams-api", [], none, [twoPlaceholders]⟩ twoPlaceholders
  have braced : WellBraced twoPlaceholders.path.toList := filled.1.mp (by decide)
  have listed : twoPlaceholders.placeholders = ["teamId", "id"] := by decide
  obtain ⟨url, -, -, -, used⟩ := filled.2 made succeeds
  rw [listed] at used
  exact ⟨made, succeeds, braced, fun name member => (used braced name member).1⟩

-- A brace opened twice: the placeholder is read from the second brace on, the address from the
-- first one, and what is filled in there is no name.
def twiceOpened : Operation :=
  { name := "getUser", method := .get, path := "/users/\x7bv\x7bid\x7d" }

theorem twice_opened_accepted_and_misread :
    Schema.build "users-api" {} { operations := [twiceOpened] } =
        .ok ⟨"users-api", [], none, [twiceOpened]⟩ ∧
      twiceOpened.placeholders = ["id"] ∧
      substitutedNames (address none twiceOpened.path) = ["v\x7bid"] ∧
      ¬ WellBraced twiceOpened.path.toList := by
  refine ⟨rfl, by decide, by decide, fun braced => ?_⟩
  have inner := (braced "/users/".toList ['v', '\x7b', 'i', 'd'] [] rfl (by decide)).2
  exact absurd inner (by decide)

-- What parts of an address spell, with each name that is filled in written back in its braces.
inductive WritesBack : List TemplatePart → List Char → Prop where
  | none : WritesBack [] []
  | text (text : String) (parts : List TemplatePart) (cs : List Char)
      (later : WritesBack parts cs) : WritesBack (.text text :: parts) (text.toList ++ cs)
  | name (name : String) (parts : List TemplatePart) (cs : List Char)
      (later : WritesBack parts cs) :
      WritesBack
        (.hole (.call (.ident "encodeURIComponent") [.call (.ident "String") [.ident name]]) :: parts)
        ('\x7b' :: (name.toList ++ '\x7d' :: cs))

theorem segments_write_back (pieces : List Schema.Segment) :
    WritesBack (pieces.map addressPart) (pieces.flatMap Schema.Segment.chars) := by
  induction pieces with
  | nil => exact .none
  | cons piece rest ih =>
      cases piece with
      | text text => exact .text text _ _ ih
      | hole name => simpa [Schema.Segment.chars] using .name name _ _ ih

theorem address_parts_alternate (pieces : List Schema.Segment)
    (alternating : Schema.Alternating pieces) (before : List TemplatePart) (value : String)
    (behind : List TemplatePart)
    (split : pieces.map addressPart = before ++ .text value :: behind) :
    value ≠ "" ∧ ∀ other rest, behind ≠ .text other :: rest := by
  obtain ⟨front, back, rfl, -, backParts⟩ := List.map_eq_append_iff.mp split
  obtain ⟨piece, later, rfl, own, rfl⟩ := List.map_eq_cons_iff.mp backParts
  cases piece with
  | hole name => cases own
  | text text =>
      cases own
      have ⟨nonempty, apart⟩ := Schema.alternating_text value later
        (Schema.alternating_suffix front _ alternating)
      refine ⟨nonempty, fun other rest same => ?_⟩
      obtain ⟨next, others, rfl, second, -⟩ := List.map_eq_cons_iff.mp same
      cases next with
      | hole name => cases second
      | text text => exact apart text others rfl

theorem address_spells_path (base : Option String) (path : String) :
    ∃ parts kept slashes,
      address base path = .template (.hole (.member (.ident "this") "baseUrl" false) :: parts) ∧
      (∀ before value behind, parts = before ++ .text value :: behind →
        value ≠ "" ∧ ∀ other rest, behind ≠ .text other :: rest) ∧
      (base.getD "").toList = kept ++ slashes ∧ (∀ c ∈ slashes, c = '/') ∧
      kept.getLast? ≠ some '/' ∧ WritesBack parts (kept ++ path.toList) := by
  obtain ⟨slashes, whole, onlySlashes, noSlash⟩ := Schema.trim_base_splits (base.getD "")
  refine ⟨_, Schema.trimBase (base.getD ""), slashes, rfl, ?_, whole, onlySlashes, noSlash, ?_⟩
  · exact address_parts_alternate _ (Schema.segments_alternating _ _ _)
  · have spelled := segments_write_back (Schema.segments base path)
    rw [Schema.segments, Schema.segments_chars, List.reverse_reverse] at spelled
    exact spelled

-- A base that ends in two slashes, a name opened twice, and a brace that is never closed.
example : address (some "/api//") "/\x7b\x7bid\x7d\x7b" =
    .template [.hole (.member (.ident "this") "baseUrl" false), .text "/api/",
      addressPart (.hole "\x7bid"), .text "\x7b"] := by
  rfl

end ApiContract.Emit
