import ApiContract.Proofs.Audit.Differences
import ApiContract.Proofs.Audit.Passes

/-!
One edit of an outline gives one finding, about what has been edited: nothing else is told, neither
by the pass over what is wanted nor by the pass over what is there.
-/

set_option autoImplicit false

namespace ApiContract.Audit

open Outline (Declaration DeclKind Method Module Property)

-- One edit of a list of named items, with the severity that it has and the name that it is about.
inductive ItemEdit {α : Type} (name : α → String) : List α → List α → Severity → String → Prop where
  | deleted (front : List α) (item : α) (back : List α) :
      ItemEdit name (front ++ item :: back) (front ++ back) .missing (name item)
  | added (front : List α) (item : α) (back : List α)
      (fresh : name item ∉ (front ++ back).map name) :
      ItemEdit name (front ++ back) (front ++ item :: back) .extra (name item)
  | replaced (front : List α) (old new : α) (back : List α) (named : name new = name old)
      (changed : new ≠ old) :
      ItemEdit name (front ++ old :: back) (front ++ new :: back) .mismatched (name old)

-- One edit of the declarations of an outline, with severity, kind and subject of what is to be told.
inductive Edit : List Declaration → List Declaration → Severity → Subject → String → Prop where
  | deleted (before : List Declaration) (d : Declaration) (after : List Declaration) :
      Edit (before ++ d :: after) (before ++ after) .missing .type d.name
  | added (before : List Declaration) (d : Declaration) (after : List Declaration)
      (fresh : d.name ∉ (before ++ after).map Declaration.name) :
      Edit (before ++ after) (before ++ d :: after) .extra .type d.name
  | aliased (before : List Declaration) (d : Declaration) (after : List Declaration)
      (type : Option String) (changed : type ≠ d.aliased) :
      Edit (before ++ d :: after) (before ++ { d with aliased := type } :: after)
        .mismatched .type d.name
  -- With its kind, a declaration may change in all but its name.
  | rekinded (before : List Declaration) (old new : Declaration) (after : List Declaration)
      (named : new.name = old.name) (changed : new.kind ≠ old.kind) :
      Edit (before ++ old :: after) (before ++ new :: after) .mismatched .type old.name
  | property (before : List Declaration) (d : Declaration) (after : List Declaration)
      (properties : List Property) (severity : Severity) (member : String)
      (edit : ItemEdit Property.name d.properties properties severity member) :
      Edit (before ++ d :: after) (before ++ { d with properties := properties } :: after)
        severity .field (memberName d.name member)
  | method (before : List Declaration) (d : Declaration) (after : List Declaration)
      (methods : List Method) (severity : Severity) (member : String)
      (edit : ItemEdit Method.name d.methods methods severity member) :
      Edit (before ++ d :: after) (before ++ { d with methods := methods } :: after)
        severity .operation (memberName d.name member)

-- One difference is told, with any texts.
def ToldOnce (told : List Difference) (severity : Severity) (kind : Subject) (subject : String) :
    Prop :=
  ∃ expected actual, told = [⟨subject, kind, severity, expected, actual⟩]

section Items

variable {α : Type} (name : α → String)

theorem distinct_without (front : List α) (item : α) (back : List α)
    (distinct : ((front ++ item :: back).map name).Nodup) : ((front ++ back).map name).Nodup :=
  distinct.sublist (((List.sublist_cons_self item back).append_left front).map name)

theorem distinct_with (front : List α) (item : α) (back : List α)
    (distinct : ((front ++ back).map name).Nodup) (fresh : name item ∉ (front ++ back).map name) :
    ((front ++ item :: back).map name).Nodup :=
  (List.perm_middle.map name).nodup_iff.mpr (List.nodup_cons.mpr ⟨fresh, distinct⟩)

theorem distinct_renamed (front : List α) (old new : α) (back : List α)
    (named : name new = name old) (distinct : ((front ++ old :: back).map name).Nodup) :
    ((front ++ new :: back).map name).Nodup := by
  simpa [named] using distinct

variable {judge : α → Option α → List Difference} {surplus : α → Difference}

theorem passes_without (front : List α) (item : α) (back : List α)
    (quiet : ∀ want ∈ front ++ back, judge want (some want) = [])
    (distinct : ((front ++ item :: back).map name).Nodup) :
    passes name judge surplus (front ++ item :: back) (front ++ back) = judge item none := by
  have told := passes_edited name judge surplus front back (some item) none quiet
    (by simpa using distinct) (by simpa using distinct_without name front item back distinct)
  simpa using told

theorem passes_with (front : List α) (item : α) (back : List α)
    (quiet : ∀ want ∈ front ++ back, judge want (some want) = [])
    (distinct : ((front ++ back).map name).Nodup)
    (fresh : name item ∉ (front ++ back).map name) :
    passes name judge surplus (front ++ back) (front ++ item :: back) = [surplus item] := by
  have told := passes_edited name judge surplus front back none (some item) quiet
    (by simpa using distinct) (by simpa using distinct_with name front item back distinct fresh)
  simpa using told

theorem passes_replaced (front : List α) (old new : α) (back : List α)
    (quiet : ∀ want ∈ front ++ back, judge want (some want) = []) (named : name new = name old)
    (distinct : ((front ++ old :: back).map name).Nodup) :
    passes name judge surplus (front ++ old :: back) (front ++ new :: back) =
      judge old (some new) := by
  have told := passes_edited name judge surplus front back (some old) (some new) quiet
    (by simpa using distinct) (by simpa using distinct_renamed name front old new back named distinct)
  simpa [Option.filter, named] using told

theorem passes_same (items : List α) (quiet : ∀ want ∈ items, judge want (some want) = [])
    (distinct : (items.map name).Nodup) : passes name judge surplus items items = [] := by
  have told := passes_edited name judge surplus items [] none none (by simpa using quiet)
    (by simpa using distinct) (by simpa using distinct)
  simpa using told

-- How members are judged: one difference for each that is lost, changed or found beside them.
structure JudgesMembers (judge : α → Option α → List Difference) (surplus : α → Difference)
    (owner : String) (kind : Subject) : Prop where
  kept : ∀ want, judge want (some want) = []
  lost : ∀ want, ToldOnce (judge want none) .missing kind (memberName owner (name want))
  changed : ∀ want got, got ≠ want →
    ToldOnce (judge want (some got)) .mismatched kind (memberName owner (name want))
  found : ∀ got, ToldOnce [surplus got] .extra kind (memberName owner (name got))

theorem member_edit_told_once (owner : String) (kind : Subject)
    (judges : JudgesMembers name judge surplus owner kind) (wants found : List α)
    (severity : Severity) (member : String) (distinct : (wants.map name).Nodup)
    (edit : ItemEdit name wants found severity member) :
    ToldOnce (passes name judge surplus wants found) severity kind (memberName owner member) := by
  cases edit with
  | deleted front item back =>
      rw [passes_without name front item back (fun want _ => judges.kept want) distinct]
      exact judges.lost item
  | added front item back fresh =>
      rw [passes_with name front item back (fun want _ => judges.kept want) distinct fresh]
      exact judges.found item
  | replaced front old new back named changed =>
      rw [passes_replaced name front old new back (fun want _ => judges.kept want) named distinct]
      exact judges.changed old new changed

end Items

theorem judges_properties (owner : String) :
    JudgesMembers Property.name (judgeProperty owner) (surplusProperty owner) owner .field where
  kept _ := if_pos rfl
  lost _ := ⟨_, _, rfl⟩
  changed _ _ changed := ⟨_, _, if_neg changed⟩
  found _ := ⟨_, _, rfl⟩

theorem judges_methods (owner : String) :
    JudgesMembers Method.name (judgeMethod owner) (surplusMethod owner) owner .operation where
  kept _ := if_pos rfl
  lost _ := ⟨_, _, rfl⟩
  changed _ _ changed := ⟨_, _, if_neg changed⟩
  found _ := ⟨_, _, rfl⟩

structure MembersDistinct (d : Declaration) : Prop where
  properties : (d.properties.map Property.name).Nodup
  methods : (d.methods.map Method.name).Nodup

theorem properties_kept (d : Declaration) (distinct : MembersDistinct d) :
    passes Property.name (judgeProperty d.name) (surplusProperty d.name) d.properties
      d.properties = [] :=
  passes_same Property.name d.properties (fun want _ => (judges_properties d.name).kept want)
    distinct.properties

theorem methods_kept (d : Declaration) (distinct : MembersDistinct d) :
    passes Method.name (judgeMethod d.name) (surplusMethod d.name) d.methods d.methods = [] :=
  passes_same Method.name d.methods (fun want _ => (judges_methods d.name).kept want)
    distinct.methods

theorem declaration_kept (d : Declaration) (distinct : MembersDistinct d) :
    judgeDeclaration d (some d) = [] := by
  simp [judgeDeclaration, diffDeclaration, diff_members_passes, properties_kept d distinct,
    methods_kept d distinct]

theorem aliased_told_once (d : Declaration) (type : Option String) (distinct : MembersDistinct d)
    (changed : type ≠ d.aliased) :
    ToldOnce (judgeDeclaration d (some { d with aliased := type })) .mismatched .type d.name := by
  have members : diffMembers d { d with aliased := type } = [] := by
    simp [diff_members_passes, properties_kept d distinct, methods_kept d distinct]
  have told : judgeDeclaration d (some { d with aliased := type }) =
      [⟨d.name, .type, .mismatched, some d.describe,
        some ({ d with aliased := type } : Declaration).describe⟩] := by
    simp only [judgeDeclaration, diffDeclaration, members, true_and, if_neg changed.symm, if_true,
      List.append_nil]
  exact ⟨_, _, told⟩

theorem rekinded_told_once (old new : Declaration) (changed : new.kind ≠ old.kind) :
    ToldOnce (judgeDeclaration old (some new)) .mismatched .type old.name := by
  have told : judgeDeclaration old (some new) =
      [⟨old.name, .type, .mismatched, some old.describe, some new.describe⟩] := by
    simp only [judgeDeclaration, diffDeclaration, changed.symm, false_and, if_false,
      List.append_nil]
  exact ⟨_, _, told⟩

theorem property_told_once (d : Declaration) (properties : List Property) (severity : Severity)
    (member : String) (distinct : MembersDistinct d)
    (edit : ItemEdit Property.name d.properties properties severity member) :
    ToldOnce (judgeDeclaration d (some { d with properties := properties })) severity .field
      (memberName d.name member) := by
  have told := member_edit_told_once Property.name d.name .field (judges_properties d.name)
    d.properties properties severity member distinct.properties edit
  simpa [judgeDeclaration, diffDeclaration, diff_members_passes, methods_kept d distinct] using told

theorem method_told_once (d : Declaration) (methods : List Method) (severity : Severity)
    (member : String) (distinct : MembersDistinct d)
    (edit : ItemEdit Method.name d.methods methods severity member) :
    ToldOnce (judgeDeclaration d (some { d with methods := methods })) severity .operation
      (memberName d.name member) := by
  have told := member_edit_told_once Method.name d.name .operation (judges_methods d.name)
    d.methods methods severity member distinct.methods edit
  simpa [judgeDeclaration, diffDeclaration, diff_members_passes, properties_kept d distinct]
    using told

theorem others_kept (before : List Declaration) (d : Declaration) (after : List Declaration)
    (members : ∀ want ∈ before ++ d :: after, MembersDistinct want) :
    ∀ want ∈ before ++ after, judgeDeclaration want (some want) = [] := fun want member =>
  declaration_kept want
    (members want (((List.sublist_cons_self d after).append_left before).subset member))

-- A declaration that is replaced by one of its name is the only one that is told about.
theorem declaration_replaced (before : List Declaration) (old new : Declaration)
    (after : List Declaration) (named : new.name = old.name)
    (distinct : ((before ++ old :: after).map Declaration.name).Nodup)
    (members : ∀ d ∈ before ++ old :: after, MembersDistinct d) :
    passes Declaration.name judgeDeclaration surplusDeclaration (before ++ old :: after)
      (before ++ new :: after) = judgeDeclaration old (some new) :=
  passes_replaced Declaration.name before old new after (others_kept before old after members) named
    distinct

theorem edit_told_once (wants found : List Declaration) (severity : Severity) (kind : Subject)
    (subject : String) (distinct : (wants.map Declaration.name).Nodup)
    (members : ∀ d ∈ wants, MembersDistinct d)
    (edit : Edit wants found severity kind subject) :
    ToldOnce (passes Declaration.name judgeDeclaration surplusDeclaration wants found)
      severity kind subject := by
  cases edit with
  | deleted before d after =>
      rw [passes_without Declaration.name before d after (others_kept before d after members) distinct]
      exact ⟨_, _, rfl⟩
  | added before d after fresh =>
      rw [passes_with Declaration.name before d after
        (fun want member => declaration_kept want (members want member)) distinct fresh]
      exact ⟨_, _, rfl⟩
  | aliased before d after type changed =>
      rw [declaration_replaced before d { d with aliased := type } after rfl distinct members]
      exact aliased_told_once d type (members d (by simp)) changed
  | rekinded before old new after named changed =>
      rw [declaration_replaced before old new after named distinct members]
      exact rekinded_told_once old new changed
  | property before d after properties severity member edit =>
      rw [declaration_replaced before d { d with properties := properties } after rfl distinct
        members]
      exact property_told_once d properties severity member (members d (by simp)) edit
  | method before d after methods severity member edit =>
      rw [declaration_replaced before d { d with methods := methods } after rfl distinct members]
      exact method_told_once d methods severity member (members d (by simp)) edit

theorem single_edit_single_finding (module file : String) (expected actual : Module)
    (severity : Severity) (kind : Subject) (subject : String) (distinct : NamesDistinct expected)
    (edit : Edit expected.declarations actual.declarations severity kind subject) :
    ∃ want got, diff module file expected actual =
      [⟨module, some file, subject, kind, severity, want, got⟩] := by
  have members : ∀ d ∈ expected.declarations, MembersDistinct d := fun d member =>
    ⟨distinct.properties d member, distinct.methods d member⟩
  obtain ⟨want, got, told⟩ := edit_told_once expected.declarations actual.declarations severity
    kind subject distinct.declarations members edit
  refine ⟨want, got, ?_⟩
  rw [diff, differences_passes, told]
  rfl

def usersOutline : Module :=
  ⟨[userInterface [idProperty, nameProperty], usersClient], []⟩

def usersOutlineWithoutOperation : Module :=
  ⟨[userInterface [idProperty, nameProperty], { usersClient with methods := [] }], []⟩

theorem lost_operation_is_one_finding :
    NamesDistinct usersOutline ∧
      Edit usersOutline.declarations usersOutlineWithoutOperation.declarations .missing .operation
        "UsersApiClient.getUser" ∧
      ∃ want got, diff "users-api" "users-api/client.ts" usersOutline usersOutlineWithoutOperation =
        [⟨"users-api", some "users-api/client.ts", "UsersApiClient.getUser", .operation, .missing,
          want, got⟩] := by
  have distinct : NamesDistinct usersOutline := ⟨by decide, by decide, by decide⟩
  have lost : ItemEdit Method.name usersClient.methods [] .missing "getUser" := .deleted [] _ []
  have edit : Edit usersOutline.declarations usersOutlineWithoutOperation.declarations .missing
      .operation "UsersApiClient.getUser" := .method [_] usersClient [] [] .missing "getUser" lost
  exact ⟨distinct, edit, single_edit_single_finding _ _ _ _ _ _ _ distinct edit⟩

end ApiContract.Audit
