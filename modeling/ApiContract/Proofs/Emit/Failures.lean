import ApiContract.Proofs.Emit.Output
import ApiContract.Proofs.Emit.Unresolved
import Mathlib.Data.List.Forall2

/-!
A module gives the files of all kinds that it has something of, or it fails as a whole, which it does
for a type that stands for nothing and for no other reason.
-/

set_option autoImplicit false

namespace ApiContract.Emit

open Schema (Entity Field Module Operation)

def hasKind (m : Module) : FileKind → Bool
  | .types => !m.entities.isEmpty
  | .client => !m.operations.isEmpty

def usesOf (m : Module) : FileKind → List TypeUse
  | .types => fieldUses m
  | .client => placeholderUses m

section Source

variable (s : Settings) (m : Module)

theorem source_error (built : s.types.Built) (accepted : Schema.Accepted m) (kind : FileKind) :
    error? (source? s m kind) = firstRefusal? s.types m (usesOf m kind) := by
  cases kind with
  | types =>
      rw [source?, usesOf]
      cases entities : m.entities with
      | nil => simp [fieldUses, entities, error?, firstRefusal?]
      | cons e rest => simp [error_map, type_decls_error s.types m accepted]
  | client =>
      rw [source?, usesOf]
      cases operations : m.operations with
      | nil => simp [placeholderUses, operations, error?, firstRefusal?]
      | cons op rest => simp [error_map, client_class_error s.types m built]

theorem source_present (kind : FileKind) (own : Option Code.SourceFile)
    (made : source? s m kind = .ok own) : own.isSome = hasKind m kind := by
  cases kind <;>
  · rw [source?] at made
    split at made
    · rename_i empty
      cases made
      simp [hasKind, empty]
    · rename_i present
      obtain ⟨decls, -, rfl⟩ := (map_ok_iff _ _ _).mp made
      simp [hasKind, present]

-- The errors of making a file are those of looking up its types, so none is of another sort.
theorem emit_file_error (built : s.types.Built) (accepted : Schema.Accepted m) (kind : FileKind) :
    error? (emitFile? s m kind) = firstRefusal? s.types m (usesOf m kind) := by
  rw [emitFile?, error_map, source_error s m built accepted]

def failed (kind : FileKind) (error : EmitError) : Failure :=
  ⟨m.name, kind, error.message⟩

theorem emit_kinds_error (built : s.types.Built) (accepted : Schema.Accepted m)
    (kinds : List FileKind) :
    error? (emitKinds s m kinds).1 =
      kinds.findSome? fun kind =>
        (firstRefusal? s.types m (usesOf m kind)).map (failed m kind) := by
  induction kinds with
  | nil => rfl
  | cons kind rest ih =>
      rw [List.findSome?_cons, ← emit_file_error s m built accepted kind, ← ih, emitKinds]
      cases emitFile? s m kind with
      | error e => rfl
      | ok own =>
          cases own with
          | none => rfl
          | some file => exact error_map _ _

-- A file of a kind of the module: made from it, and in its place.
structure IsFile (kind : FileKind) (file : GeneratedFile) : Prop where
  made : emitFile? s m kind = .ok (some file)
  module_eq : file.module = m.name
  kind_eq : file.kind = kind
  path_eq : file.path = joinPath m.name kind.fileName

theorem rendered_is_file (kind : FileKind) (source : Code.SourceFile)
    (made : source? s m kind = .ok (some source)) : IsFile s m kind (rendered m kind source) where
  made := by rw [emitFile?, made]; rfl
  module_eq := rfl
  kind_eq := rfl
  path_eq := rfl

theorem emit_kinds_made (kinds : List FileKind) (files : List GeneratedFile)
    (emitted : (emitKinds s m kinds).1 = .ok files) :
    List.Forall₂ (IsFile s m) (kinds.filter (hasKind m)) files := by
  induction kinds generalizing files with
  | nil =>
      cases emitted
      exact .nil
  | cons kind rest ih =>
      obtain ⟨own, others, made, later, rfl⟩ := (emit_kinds_cons_ok s m kind rest files).mp emitted
      have present := source_present s m kind own made
      cases own with
      | none =>
          rw [List.filter_cons_of_neg (by simp [← present])]
          exact ih others later
      | some source =>
          rw [List.filter_cons_of_pos (by simp [← present])]
          exact .cons (rendered_is_file s m kind source made) (ih others later)

end Source

section Module

variable (s : Settings) (m : Module)

def FieldUnresolved (types : TypeMap) : Prop :=
  ∃ e ∈ m.entities, ∃ f ∈ e.fields, f.type ≠ "enum" ∧ types.resolve f.type = none

def PlaceholderUnresolved (types : TypeMap) : Prop :=
  ∃ op ∈ m.operations, ∃ name ∈ op.placeholders, ∃ p ∈ op.params, p.name = name ∧
    types.resolve p.type = none

theorem unresolved_iff (types : TypeMap) (use : TypeUse) :
    isUnresolved types use = true ↔ types.resolve use.type = none := by
  simp [isUnresolved, TypeMap.contains]

theorem field_use_iff (e : Entity) (f : Field) (use : TypeUse) :
    fieldUse? e f = some use ↔
      f.type ≠ "enum" ∧ use = ⟨e.name ++ "." ++ f.name, f.type⟩ := by
  rw [fieldUse?]
  by_cases isEnum : f.type = "enum" <;> simp [isEnum, eq_comm]

theorem field_unresolved_iff (types : TypeMap) :
    FieldUnresolved m types ↔ ∃ use ∈ fieldUses m, isUnresolved types use = true := by
  simp only [unresolved_iff, FieldUnresolved, fieldUses, entityUses, List.mem_flatMap,
    List.mem_filterMap, field_use_iff]
  constructor
  · rintro ⟨e, member, f, field, other, missing⟩
    exact ⟨_, ⟨e, member, f, field, other, rfl⟩, missing⟩
  · rintro ⟨use, ⟨e, member, f, field, other, rfl⟩, missing⟩
    exact ⟨e, member, f, field, other, missing⟩

-- The parameters of an accepted operation have distinct names, so each one is the one its name
-- finds.
theorem placeholder_unresolved_iff (accepted : Schema.Accepted m) (types : TypeMap) :
    PlaceholderUnresolved m types ↔ ∃ use ∈ placeholderUses m, isUnresolved types use = true := by
  have formed := (Schema.accepted_iff m).mp accepted
  simp only [unresolved_iff, PlaceholderUnresolved, placeholderUses, operationUses,
    List.mem_flatMap, List.mem_filterMap, placeholderUse?, Option.map_eq_some_iff]
  constructor
  · rintro ⟨op, member, name, inPath, p, declared, named, missing⟩
    have distinct := (formed.operations_sound op member).params_distinct
    have found := (Schema.find_named_some Schema.PathParam.name op.params distinct name p).mpr
      ⟨declared, named⟩
    exact ⟨_, ⟨op, member, name, inPath, p, found, rfl⟩, missing⟩
  · rintro ⟨use, ⟨op, member, name, inPath, p, found, rfl⟩, missing⟩
    have distinct := (formed.operations_sound op member).params_distinct
    obtain ⟨declared, named⟩ :=
      (Schema.find_named_some Schema.PathParam.name op.params distinct name p).mp found
    exact ⟨op, member, name, inPath, p, declared, named, missing⟩

-- The one failure of a module: the first type of a field that stands for nothing, or else the first
-- such type of a placeholder.
structure TellsFirst (types : TypeMap) (failure : Failure) : Prop where
  module_eq : failure.module = m.name
  kind_iff : failure.kind = .types ↔ FieldUnresolved m types
  first : ∃ use, (usesOf m failure.kind).find? (isUnresolved types) = some use ∧
    failure.message = (EmitError.unsupportedType m.name use.subject use.type).message

-- What a module adds to an output: the files of all kinds that it has, or one failure.
structure AllOrNothing (part : Output) : Prop where
  fails_iff : part.failures ≠ [] ↔ FieldUnresolved m s.types ∨ PlaceholderUnresolved m s.types
  failed : part.failures ≠ [] →
    part.files = [] ∧ ∃ failure, part.failures = [failure] ∧ TellsFirst m s.types failure
  succeeded : part.failures = [] →
    List.Forall₂ (IsFile s m) (FileKind.all.filter (hasKind m)) part.files

theorem refused_iff (types : TypeMap) (uses : List TypeUse) :
    (∃ error, firstRefusal? types m uses = some error) ↔
      ∃ use ∈ uses, isUnresolved types use = true := by
  rw [← Option.isSome_iff_exists, firstRefusal?, Option.isSome_map, List.find?_isSome]

theorem emit_module_error (built : s.types.Built) (accepted : Schema.Accepted m) :
    error? (emitModule s m).1 =
      ((firstRefusal? s.types m (fieldUses m)).map (failed m .types)).or
        ((firstRefusal? s.types m (placeholderUses m)).map (failed m .client)) := by
  rw [emitModule, emit_kinds_error s m built accepted, FileKind.all, List.findSome?_cons]
  simp only [usesOf]
  cases firstRefusal? s.types m (fieldUses m) with
  | some error => rfl
  | none =>
      simp only [Option.map_none, List.findSome?_cons, List.findSome?_nil, Option.none_or]
      cases firstRefusal? s.types m (placeholderUses m) <;> rfl

theorem fails_iff_unresolved (built : s.types.Built) (accepted : Schema.Accepted m) :
    (∃ failure, (emitModule s m).1 = .error failure) ↔
      FieldUnresolved m s.types ∨ PlaceholderUnresolved m s.types := by
  simp only [← error_eq_some_iff, emit_module_error s m built accepted]
  rw [field_unresolved_iff, placeholder_unresolved_iff m accepted, ← refused_iff, ← refused_iff]
  cases firstRefusal? s.types m (fieldUses m) <;>
    cases firstRefusal? s.types m (placeholderUses m) <;> simp

theorem failure_tells_first (built : s.types.Built) (accepted : Schema.Accepted m)
    (failure : Failure) (fails : (emitModule s m).1 = .error failure) :
    TellsFirst m s.types failure := by
  rw [← error_eq_some_iff, emit_module_error s m built accepted] at fails
  cases fields : firstRefusal? s.types m (fieldUses m) with
  | some error =>
      rw [fields] at fails
      cases fails
      have found := (field_unresolved_iff m s.types).mpr
        ((refused_iff m s.types _).mp ⟨error, fields⟩)
      obtain ⟨use, first, rfl⟩ := Option.map_eq_some_iff.mp fields
      exact ⟨rfl, iff_of_true rfl found, use, first, rfl⟩
  | none =>
      have absent : ¬ FieldUnresolved m s.types := by
        rw [field_unresolved_iff, ← refused_iff m, fields]
        simp
      simp only [fields, Option.map_none, Option.none_or] at fails
      obtain ⟨error, placeholders, rfl⟩ := Option.map_eq_some_iff.mp fails
      obtain ⟨use, first, rfl⟩ := Option.map_eq_some_iff.mp placeholders
      exact ⟨rfl, iff_of_false nofun absent, use, first, rfl⟩

theorem module_all_or_nothing (built : s.types.Built) (accepted : Schema.Accepted m) :
    AllOrNothing s m ⟨filesOf s m, failuresOf s m⟩ := by
  have fails := fails_iff_unresolved s m built accepted
  cases emitted : (emitModule s m).1 with
  | ok files =>
      have made := emit_kinds_made s m FileKind.all files emitted
      rw [emitted] at fails
      simp only [filesOf, failuresOf, emitted]
      exact ⟨by simpa using fails, by simp, fun _ => made⟩
  | error failure =>
      have first := failure_tells_first s m built accepted failure emitted
      rw [emitted] at fails
      simp only [filesOf, failuresOf, emitted]
      exact ⟨by simpa using fails, fun _ => ⟨rfl, failure, rfl, first⟩, by simp⟩

end Module

theorem unknown_entity_impossible (s : Settings) (built : s.types.Built) (m : Module)
    (accepted : Schema.Accepted m) (kind : FileKind) (operation entity : String) :
    emitFile? s m kind ≠ .error (.unknownEntity operation entity) := by
  rw [ne_eq, ← error_eq_some_iff, emit_file_error s m built accepted, firstRefusal?]
  intro told
  obtain ⟨use, -, impossible⟩ := Option.map_eq_some_iff.mp told
  cases impossible

theorem emission_all_or_nothing (s : Settings) (built : s.types.Built) (modules : List Module)
    (accepted : ∀ m ∈ modules, Schema.Accepted m) :
    (∃ parts : List Output, List.Forall₂ (AllOrNothing s) modules parts ∧
      (emitAll s modules).1 = ⟨parts.flatMap Output.files, parts.flatMap Output.failures⟩) ∧
    (∀ kind, (emitOnly s kind modules).1.failures = (emitAll s modules).1.failures ∧
      (emitOnly s kind modules).1.files =
        (emitAll s modules).1.files.filter fun file => decide (file.kind = kind)) ∧
    ∀ m ∈ modules, ∀ kind operation entity,
      emitFile? s m kind ≠ .error (.unknownEntity operation entity) := by
  refine ⟨⟨modules.map fun m => ⟨filesOf s m, failuresOf s m⟩, ?_, ?_⟩, ?_, ?_⟩
  · rw [List.forall₂_map_right_iff, List.forall₂_same]
    exact fun m member => module_all_or_nothing s m built (accepted m member)
  · rw [emit_all_eq, List.flatMap_map, List.flatMap_map]
  · exact fun kind => by rw [emit_only_eq]; exact ⟨rfl, rfl⟩
  · exact fun m member => unknown_entity_impossible s built m (accepted m member)

theorem describe_first (m : Module) (types : TypeMap) (failure : Failure)
    (tells : TellsFirst m types failure) (kind : FileKind) (isKind : failure.kind = kind)
    (use : TypeUse) (first : (usesOf m kind).find? (isUnresolved types) = some use) :
    failure.describe = (failed m kind (refusal m use)).describe := by
  obtain ⟨found, isFirst, message⟩ := tells.first
  rw [isKind, first] at isFirst
  cases isFirst
  rw [Failure.describe, tells.module_eq, isKind, message]
  rfl

def places : Module where
  name := "places-api"
  entities :=
    [{ name := "Place", fields :=
        [{ name := "kind", type := "enum", values := some ["park"] },
         { name := "at", type := "geopoint" }] }]
  basePath := none
  operations := [{ name := "getPlace", method := .get, path := "/places/{id}" }]

def tickets : Module where
  name := "tickets-api"
  entities := [{ name := "Ticket", fields := [{ name := "price", type := "money" }] }]
  basePath := none
  operations :=
    [{ name := "getTicket", method := .get, path := "/tickets/{id}",
       params := [{ name := "id", type := "serial" }] }]

def accounts : Module where
  name := "accounts-api"
  entities := [{ name := "Account", fields := [{ name := "id", type := "key" }] }]
  basePath := none
  operations := []

def someTypes : TypeMap :=
  (TypeMap.withTypes [("money", "Money")]).register "key" (.named "Key")

theorem two_modules_fail_and_one_is_made :
    someTypes.Built ∧ (∀ m ∈ [places, tickets, accounts], Schema.Accepted m) ∧
      (emitAll ⟨someTypes, true⟩ [places, tickets, accounts]).1.failures.map Failure.describe =
        ["places-api (types): Unsupported field type 'geopoint' for Place.at in module 'places-api'",
         "tickets-api (client): Unsupported field type 'serial' for getTicket.id in module 'tickets-api'"] ∧
      (emitAll ⟨someTypes, true⟩ [places, tickets, accounts]).1.files.map GeneratedFile.path =
        ["accounts-api/types.ts"] ∧
      (emitOnly ⟨someTypes, true⟩ .client [places, tickets, accounts]).1.failures.length = 2 := by
  have built : someTypes.Built := .register _ _ _ (.withTypes _)
  have accepted : ∀ m ∈ [places, tickets, accounts], Schema.Accepted m := by
    simp only [List.forall_mem_cons, List.not_mem_nil, false_implies, implies_true, and_true]
    exact ⟨⟨"places-api", ⟨places.entities⟩, ⟨none, places.operations⟩, rfl⟩,
      ⟨"tickets-api", ⟨tickets.entities⟩, ⟨none, tickets.operations⟩, rfl⟩,
      ⟨"accounts-api", ⟨accounts.entities⟩, ⟨none, accounts.operations⟩, rfl⟩⟩
  obtain ⟨⟨parts, each, all⟩, only, -⟩ := emission_all_or_nothing ⟨someTypes, true⟩ built _ accepted
  obtain _ | ⟨placesGive, _ | ⟨ticketsGive, _ | ⟨accountsGive, ⟨⟩⟩⟩⟩ := each
  have geopoint : FieldUnresolved places someTypes :=
    ⟨_, .head _, _, .tail _ (.head _), by decide, by decide⟩
  have serial : PlaceholderUnresolved tickets someTypes :=
    ⟨_, .head _, "id", by decide, _, .head _, rfl, by decide⟩
  obtain ⟨noPlaces, first, onePlace, tellsPlace⟩ :=
    placesGive.failed (placesGive.fails_iff.mpr (.inl geopoint))
  obtain ⟨noTickets, second, oneTicket, tellsTicket⟩ :=
    ticketsGive.failed (ticketsGive.fails_iff.mpr (.inr serial))
  have ticketsTyped : ¬ FieldUnresolved tickets someTypes := by
    rw [field_unresolved_iff]
    decide
  have accountsResolve : ¬ (FieldUnresolved accounts someTypes ∨
      PlaceholderUnresolved accounts someTypes) := by
    rw [field_unresolved_iff, placeholder_unresolved_iff accounts (accepted _ (by simp))]
    decide
  have accountsMade := not_not.mp (mt accountsGive.fails_iff.mp accountsResolve)
  obtain ⟨types, _, isTypes, ⟨⟩, onlyTypes⟩ :=
    List.forall₂_cons_left_iff.mp (accountsGive.succeeded accountsMade)
  have firstDescribed := describe_first places someTypes first tellsPlace .types
    (tellsPlace.kind_iff.mpr geopoint) ⟨"Place.at", "geopoint"⟩ (by decide)
  have secondKind : second.kind = .client := by
    cases kind : second.kind with
    | types => exact absurd (tellsTicket.kind_iff.mp kind) ticketsTyped
    | client => rfl
  have secondDescribed := describe_first tickets someTypes second tellsTicket .client secondKind
    ⟨"getTicket.id", "serial"⟩ (by decide)
  have told : (emitAll ⟨someTypes, true⟩ [places, tickets, accounts]).1.failures =
      [first, second] := by
    simp [all, onePlace, oneTicket, accountsMade]
  refine ⟨built, accepted, ?_, ?_, ?_⟩
  · rw [told, List.map_cons, List.map_cons, firstDescribed, secondDescribed]
    decide
  · have placed : types.path = "accounts-api/types.ts" := isTypes.path_eq.trans (by decide +kernel)
    simp [all, noPlaces, noTickets, onlyTypes, placed]
  · rw [(only .client).1, told]
    rfl

end ApiContract.Emit
