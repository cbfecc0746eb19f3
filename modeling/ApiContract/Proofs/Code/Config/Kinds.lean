import ApiContract.Code.Fragment
import ApiContract.Proofs.Json.Objects
import ApiContract.Proofs.Outcome

/-!
Kinds that no fragment has are refused wherever they stand. The check goes over the objects of a
config in the order of the document, and the first kind that is unknown decides what is told.
-/

set_option autoImplicit false

namespace ApiContract.Code

open Json (Step Entry objects objectsInFields objectsInItems)

def Place.add (text : String) : Step → String
  | .key name => text ++ "." ++ name
  | .index number => text ++ "[" ++ toString number ++ "]"

-- The path of a place, as errors tell it.
def Place.text (base : String) (place : List Step) : String :=
  place.foldl Place.add base

def KindKnown (fields : List (String × Json)) : Prop :=
  ∀ kind, Json.field? "kind" fields = some kind → ∃ word ∈ Config.knownKinds, kind = .text word

-- What is told of an object on its own.
def refusal (path : String) (fields : List (String × Json)) : Option ConfigError :=
  match Json.field? "kind" fields with
  | none => none
  | some (.text word) =>
      if (Config.familyOf word).isSome then none else some (.unknownKind word path)
  | some other => some (.kindNotText path other)

def Entry.refusal (path : String) (entry : Entry) : Option ConfigError :=
  Code.refusal (Place.text path entry.1) entry.2

theorem family_known_iff (word : String) :
    (Config.familyOf word).isSome = true ↔ word ∈ Config.knownKinds := by
  simp only [Config.familyOf, Option.isSome_map, List.find?_isSome, Config.knownKinds, List.mem_map,
    beq_iff_eq]

theorem refusal_none_iff (path : String) (fields : List (String × Json)) :
    refusal path fields = none ↔ KindKnown fields := by
  unfold refusal KindKnown
  cases found : Json.field? "kind" fields with
  | none => simp
  | some kind =>
      cases kind with
      | text word => simp [← family_known_iff, Option.isSome_iff_ne_none]
      | _ => simp

theorem refusal_word (path : String) (fields : List (String × Json)) (word : String)
    (found : Json.field? "kind" fields = some (.text word)) (unknown : ¬ KindKnown fields) :
    refusal path fields = some (.unknownKind word path) := by
  have family : ¬ (Config.familyOf word).isSome = true := by
    intro known
    apply unknown
    intro kind told
    rw [found] at told
    exact ⟨word, (family_known_iff word).mp known, (Option.some.inj told).symm⟩
  rw [refusal, found]
  exact if_neg family

theorem refusal_other (path : String) (fields : List (String × Json)) (kind : Json)
    (found : Json.field? "kind" fields = some kind) (noText : ∀ word, kind ≠ .text word) :
    refusal path fields = some (.kindNotText path kind) := by
  rw [refusal, found]
  cases kind with
  | text word => exact absurd rfl (noText word)
  | _ => rfl

theorem refusal_below (path : String) (step : Step) (entries : List Entry) :
    (entries.map (Entry.below step)).findSome? (Entry.refusal path) =
      entries.findSome? (Entry.refusal (Place.add path step)) := by
  rw [List.findSome?_map]
  rfl

mutual

-- The check tells what is told of the first object that is refused on its own.
theorem check_tells_first : ∀ (v : Json) (path : String),
    error? (checkKinds path v) = (objects v).findSome? (Entry.refusal path)
  | .object fields, path => by
      have below := fields_tell_first fields path
      have own : Entry.refusal path ([], fields) = refusal path fields := rfl
      rw [checkKinds, objects, List.findSome?_cons, ← below, own, refusal]
      cases Json.field? "kind" fields with
      | none => rfl
      | some kind =>
          cases kind with
          | text word => by_cases known : (Config.familyOf word).isSome <;> simp [known, error?]
          | _ => rfl
  | .array items, path => by
      rw [checkKinds, objects, items_tell_first items path 0]
  | .null, path => rfl
  | .bool _, path => rfl
  | .int _, path => rfl
  | .float _, path => rfl
  | .text _, path => rfl

theorem fields_tell_first : ∀ (fields : List (String × Json)) (path : String),
    error? (checkFields path fields) = (objectsInFields fields).findSome? (Entry.refusal path)
  | [], path => rfl
  | (name, value) :: rest, path => by
      have own := check_tells_first value (path ++ "." ++ name)
      have later := fields_tell_first rest path
      rw [objectsInFields, List.findSome?_append, refusal_below, Place.add, ← own, ← later,
        checkFields]
      cases checkKinds (path ++ "." ++ name) value with
      | error e => rfl
      | ok _ => rfl

theorem items_tell_first : ∀ (items : List Json) (path : String) (number : Nat),
    error? (checkItems path number items) =
      (objectsInItems number items).findSome? (Entry.refusal path)
  | [], path, number => rfl
  | value :: rest, path, number => by
      have own := check_tells_first value (path ++ "[" ++ toString number ++ "]")
      have later := items_tell_first rest path (number + 1)
      rw [objectsInItems, List.findSome?_append, refusal_below, Place.add, ← own, ← later,
        checkItems]
      cases checkKinds (path ++ "[" ++ toString number ++ "]") value with
      | error e => rfl
      | ok _ => rfl

end

-- The first object, in the order of the document, whose kind no fragment has.
def FirstUnknown (v : Json) (place : List Step) (fields : List (String × Json)) : Prop :=
  ∃ before after, objects v = before ++ (place, fields) :: after ∧
    (∀ entry ∈ before, KindKnown entry.2) ∧ ¬ KindKnown fields

theorem kind_of_unknown (fields : List (String × Json)) (unknown : ¬ KindKnown fields) :
    ∃ kind, Json.field? "kind" fields = some kind := by
  cases found : Json.field? "kind" fields with
  | some kind => exact ⟨kind, rfl⟩
  | none =>
      refine absurd ?_ unknown
      intro kind told
      rw [found] at told
      cases told

theorem first_unknown_exists (v : Json) (entry : Entry) (member : entry ∈ objects v)
    (unknown : ¬ KindKnown entry.2) : ∃ place fields, FirstUnknown v place fields := by
  cases first : (objects v).findSome? (Entry.refusal "$") with
  | none =>
      have passed := List.findSome?_eq_none_iff.mp first entry member
      exact absurd ((refusal_none_iff _ _).mp passed) unknown
  | some told =>
      obtain ⟨before, ⟨place, fields⟩, after, split, refused, known⟩ :=
        List.findSome?_eq_some_iff.mp first
      refine ⟨place, fields, before, after, split, ?_, ?_⟩
      · intro earlier inBefore
        exact (refusal_none_iff _ _).mp (known earlier inBefore)
      · intro passed
        have none : Entry.refusal "$" (place, fields) = none := (refusal_none_iff _ _).mpr passed
        rw [refused] at none
        cases none

theorem first_unknown_decides (v : Json) (place : List Step) (fields : List (String × Json))
    (told : ConfigError) (first : FirstUnknown v place fields)
    (refused : refusal (Place.text "$" place) fields = some told) :
    Fragment.ofJson v = .error told := by
  obtain ⟨before, after, split, known, -⟩ := first
  have decided : (objects v).findSome? (Entry.refusal "$") = some told := by
    apply List.findSome?_eq_some_iff.mpr
    refine ⟨before, (place, fields), after, split, refused, ?_⟩
    intro earlier inBefore
    exact (refusal_none_iff _ _).mpr (known earlier inBefore)
  have stopped : checkKinds "$" v = .error told :=
    (error_eq_some_iff _ _).mp ((check_tells_first v "$").trans decided)
  rw [Fragment.ofJson, stopped]

theorem known_of_read (v : Json) (fragment : Fragment) (read : Fragment.ofJson v = .ok fragment)
    (entry : Entry) (member : entry ∈ objects v) : KindKnown entry.2 := by
  by_cases known : KindKnown entry.2
  · exact known
  · obtain ⟨place, fields, first⟩ := first_unknown_exists v entry member known
    have unknown : ¬ KindKnown fields := by
      obtain ⟨-, -, -, -, unknown⟩ := first
      exact unknown
    cases refused : refusal (Place.text "$" place) fields with
    | none => exact absurd ((refusal_none_iff _ _).mp refused) unknown
    | some told =>
        rw [first_unknown_decides v place fields told first refused] at read
        cases read

theorem unknown_kinds_fail_closed (v : Json) :
    ((∃ place fields, v.Within place (.object fields) ∧ ¬ KindKnown fields) →
      ∃ place fields, FirstUnknown v place fields) ∧
    (∀ place fields, FirstUnknown v place fields →
      v.Within place (.object fields) ∧ ∃ kind, Json.field? "kind" fields = some kind ∧
        (∀ word, kind = .text word →
          Fragment.ofJson v = .error (.unknownKind word (Place.text "$" place))) ∧
        ((∀ word, kind ≠ .text word) →
          Fragment.ofJson v = .error (.kindNotText (Place.text "$" place) kind))) ∧
    (∀ fragment, Fragment.ofJson v = .ok fragment →
      ∀ place fields, v.Within place (.object fields) → KindKnown fields) := by
  refine ⟨?_, ?_, ?_⟩
  · intro unknown
    obtain ⟨place, fields, within, unknown⟩ := unknown
    exact first_unknown_exists v (place, fields) ((Json.objects_iff v place fields).mpr within)
      unknown
  · intro place fields first
    have decides := fun told => first_unknown_decides v place fields told first
    obtain ⟨before, after, split, -, unknown⟩ := first
    have member : (place, fields) ∈ objects v := by
      rw [split]
      exact List.mem_append_right before List.mem_cons_self
    obtain ⟨kind, found⟩ := kind_of_unknown fields unknown
    refine ⟨(Json.objects_iff v place fields).mp member, kind, found, ?_, ?_⟩
    · intro word same
      rw [same] at found
      exact decides _ (refusal_word _ fields word found unknown)
    · intro noText
      exact decides _ (refusal_other _ fields kind found noText)
  · intro fragment read place fields within
    exact known_of_read v fragment read (place, fields)
      ((Json.objects_iff v place fields).mpr within)

def yieldInBranch : Json :=
  .object [("kind", .text "if"), ("test", .text "ready"), ("then", .array [
    .object [("kind", .text "expression"), ("expression", .text "start()")],
    .object [("kind", .text "yield"), ("expression", .text "x")]])]

theorem yield_in_branch_refused :
    Fragment.ofJson yieldInBranch = .error (.unknownKind "yield" "$.then[1]") := by
  have branch : "if" ∈ Config.knownKinds := by decide
  have statement : "expression" ∈ Config.knownKinds := by decide
  have unknown : "yield" ∉ Config.knownKinds := by decide
  have first : FirstUnknown yieldInBranch [.key "then", .index 1]
      [("kind", .text "yield"), ("expression", .text "x")] := by
    refine ⟨[([], _), ([.key "then", .index 0], _)], [], rfl, ?_, ?_⟩
    · simp [KindKnown, Json.field?, Entry.below, branch, statement]
    · simp [KindKnown, Json.field?, unknown]
  obtain ⟨-, kind, found, told, -⟩ := (unknown_kinds_fail_closed yieldInBranch).2.1 _ _ first
  have path : Place.text "$" [.key "then", .index 1] = "$.then[1]" := by decide
  rw [← path]
  exact told "yield" (Option.some.inj found).symm

end ApiContract.Code
