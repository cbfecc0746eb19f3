import ApiContract.Proofs.Audit.SingleEdit

/-!
A comparison with its sides exchanged tells the same things the other way round: what was missing is
extra, and each text changes its place. Only the order of what is told may differ, since it follows
the side that is wanted.
-/

set_option autoImplicit false

namespace ApiContract.Audit

open Outline (Declaration Method Module Property)

open scoped List

section Passes

variable {α δ : Type} (name : α → String) (judge : α → Option α → List δ) (surplus : α → δ)

theorem flat_map_exchanged {β γ : Type} (xs : List α) (ys : List β) (f : α → β → List γ) :
    (xs.flatMap fun x => ys.flatMap (f x)).Perm (ys.flatMap fun y => xs.flatMap fun x => f x y) := by
  induction xs with
  | nil => simp
  | cons x rest ih =>
      simp only [List.flatMap_cons]
      exact (List.Perm.append_left _ ih).trans (List.flatMap_append_perm ys (f x) _)

-- What is told of the items that have no partner.
def unmatched (tell : α → List δ) (items others : List α) : List δ :=
  items.flatMap fun item =>
    if (others.find? fun other => name other == name item).isSome then [] else tell item

-- What is told of each pair of items of one name.
def matched (wants found : List α) : List δ :=
  wants.flatMap fun want => found.flatMap fun got =>
    if name got = name want then judge want (some got) else []

theorem partner_judged (found : List α) (distinct : (found.map name).Nodup) (want : α) :
    (found.flatMap fun got => if name got = name want then judge want (some got) else []) =
      (found.find? fun got => name got == name want).toList.flatMap
        fun got => judge want (some got) := by
  induction found with
  | nil => rfl
  | cons first rest ih =>
      obtain ⟨fresh, later⟩ := List.nodup_cons.mp distinct
      by_cases same : name first = name want
      · have nobody : (rest.find? fun got => name got == name want) = none := by
          rw [Schema.find_named_none, ← same]
          exact fresh
        rw [nobody] at ih
        simp [same, ih later]
      · simp [same, ih later]

theorem passes_sorted_out (wants found : List α) (distinct : (found.map name).Nodup) :
    (passes name judge surplus wants found).Perm
      (unmatched name (fun want => judge want none) wants found ++
        matched name judge wants found ++ unmatched name (fun got => [surplus got]) found wants) := by
  refine List.Perm.append_right _ ?_
  refine List.Perm.trans ?_ (List.flatMap_append_perm wants _ _).symm
  refine List.Perm.of_eq (List.flatMap_congr fun want _ => ?_)
  rw [partner_judged name judge found distinct want]
  cases found.find? fun got => name got == name want with
  | none => simp
  | some got => simp

-- A way to judge that tells the same of two items from either side, up to `mirror`.
structure JudgesAlike (mirror : δ → δ) (wants found : List α) : Prop where
  lost : ∀ want, (judge want none).map mirror = [surplus want]
  extra : ∀ got, [mirror (surplus got)] = judge got none
  pair : ∀ want ∈ wants, ∀ got ∈ found, name got = name want →
    (judge got (some want)).Perm ((judge want (some got)).map mirror)

theorem unmatched_mirrored (mirror : δ → δ) (tell told : α → List δ) (items others : List α)
    (each : ∀ item, (tell item).map mirror = told item) :
    unmatched name told items others = (unmatched name tell items others).map mirror := by
  rw [unmatched, unmatched, List.map_flatMap]
  refine List.flatMap_congr fun item _ => ?_
  by_cases partnered : (others.find? fun other => name other == name item).isSome
  · rw [if_pos partnered, if_pos partnered]
    rfl
  · rw [if_neg partnered, if_neg partnered]
    exact (each item).symm

variable {name judge surplus} {mirror : δ → δ} {wants found : List α}

theorem matched_mirrored (alike : JudgesAlike name judge surplus mirror wants found) :
    (matched name judge found wants).Perm ((matched name judge wants found).map mirror) := by
  rw [matched, matched, List.map_flatMap]
  refine (flat_map_exchanged found wants _).trans ?_
  refine List.Perm.flatMap_left wants fun want wanted => ?_
  rw [List.map_flatMap]
  refine List.Perm.flatMap_left found fun got member => ?_
  by_cases same : name got = name want
  · rw [if_pos same, if_pos same.symm]
    exact alike.pair want wanted got member same
  · rw [if_neg same, if_neg (Ne.symm same)]
    exact List.Perm.refl _

theorem passes_mirrored (alike : JudgesAlike name judge surplus mirror wants found)
    (wantsDistinct : (wants.map name).Nodup) (foundDistinct : (found.map name).Nodup) :
    (passes name judge surplus found wants).Perm
      ((passes name judge surplus wants found).map mirror) := by
  have here := (passes_sorted_out name judge surplus wants found foundDistinct).map mirror
  have lost := unmatched_mirrored name mirror (fun want => judge want none)
    (fun want => [surplus want]) wants found alike.lost
  have extra := unmatched_mirrored name mirror (fun got => [surplus got])
    (fun got => judge got none) found wants alike.extra
  rw [List.map_append, List.map_append, ← lost, ← extra, List.append_assoc] at here
  -- The two unmatched parts change places around the pairs.
  calc
    passes name judge surplus found wants
    _ ~ _ := passes_sorted_out name judge surplus found wants wantsDistinct
    _ ~ _ := List.Perm.append_right _ (List.Perm.append_left _ (matched_mirrored alike))
    _ ~ _ := List.perm_append_comm
    _ ~ _ := List.Perm.append_left _ List.perm_append_comm
    _ ~ (passes name judge surplus wants found).map mirror := here.symm

end Passes

def Severity.mirrored : Severity → Severity
  | .missing => .extra
  | .mismatched => .mismatched
  | .extra => .missing

def Difference.mirrored (d : Difference) : Difference :=
  { d with severity := d.severity.mirrored, expected := d.actual, actual := d.expected }

def Finding.mirrored (f : Finding) : Finding :=
  { f with severity := f.severity.mirrored, expected := f.actual, actual := f.expected }

theorem method_texts_exchanged (want got : Method) :
    methodTexts got want = ((methodTexts want got).2, (methodTexts want got).1) := by
  rw [methodTexts, methodTexts]
  by_cases same : got.describe = want.describe
  · rw [if_pos same, if_pos same.symm]
  · rw [if_neg same, if_neg (Ne.symm same)]

theorem properties_judged_alike (owner : String) (wants found : List Property) :
    JudgesAlike Property.name (judgeProperty owner) (surplusProperty owner) Difference.mirrored
      wants found where
  lost _ := rfl
  extra _ := rfl
  pair want _ got _ named := by
    by_cases same : got = want
    · simp [judgeProperty, same]
    · simp [judgeProperty, same, Ne.symm same, Difference.mirrored, Severity.mirrored, named]

theorem methods_judged_alike (owner : String) (wants found : List Method) :
    JudgesAlike Method.name (judgeMethod owner) (surplusMethod owner) Difference.mirrored
      wants found where
  lost _ := rfl
  extra _ := rfl
  pair want _ got _ named := by
    by_cases same : got = want
    · simp [judgeMethod, same]
    · simp [judgeMethod, same, Ne.symm same, Difference.mirrored, Severity.mirrored, named,
        method_texts_exchanged want got]

theorem members_mirrored (want got : Declaration) (named : got.name = want.name)
    (wantMembers : MembersDistinct want) (gotMembers : MembersDistinct got) :
    (diffMembers got want).Perm ((diffMembers want got).map Difference.mirrored) := by
  rw [diff_members_passes, diff_members_passes, List.map_append, named]
  exact (passes_mirrored (properties_judged_alike _ _ _) wantMembers.properties
    gotMembers.properties).append (passes_mirrored (methods_judged_alike _ _ _)
      wantMembers.methods gotMembers.methods)

theorem declaration_mirrored (want got : Declaration) (named : got.name = want.name)
    (wantMembers : MembersDistinct want) (gotMembers : MembersDistinct got) :
    (diffDeclaration got want).Perm ((diffDeclaration want got).map Difference.mirrored) := by
  have members := members_mirrored want got named wantMembers gotMembers
  rw [diffDeclaration, diffDeclaration, List.map_append]
  refine List.Perm.append (List.Perm.of_eq ?_) ?_
  · by_cases same : want.kind = got.kind ∧ want.aliased = got.aliased
    · rw [if_pos same, if_pos ⟨same.1.symm, same.2.symm⟩]
      rfl
    · rw [if_neg same, if_neg fun other => same ⟨other.1.symm, other.2.symm⟩, named]
      rfl
  · by_cases same : want.kind = got.kind
    · rw [if_pos same, if_pos same.symm]
      exact members
    · rw [if_neg same, if_neg (Ne.symm same)]
      exact List.Perm.refl _

theorem declarations_judged_alike (expected actual : Module) (wantsDistinct : NamesDistinct expected)
    (foundDistinct : NamesDistinct actual) :
    JudgesAlike Declaration.name judgeDeclaration surplusDeclaration Difference.mirrored
      expected.declarations actual.declarations where
  lost _ := rfl
  extra _ := rfl
  pair want wanted got found named :=
    declaration_mirrored want got named
      ⟨wantsDistinct.properties want wanted, wantsDistinct.methods want wanted⟩
      ⟨foundDistinct.properties got found, foundDistinct.methods got found⟩

theorem exchanged_sides_mirror_findings (module file : String) (expected actual : Module)
    (wantsDistinct : NamesDistinct expected) (foundDistinct : NamesDistinct actual) :
    (diff module file actual expected).Perm
      ((diff module file expected actual).map Finding.mirrored) := by
  have told := passes_mirrored
    (declarations_judged_alike expected actual wantsDistinct foundDistinct)
    wantsDistinct.declarations foundDistinct.declarations
  have commutes : (diff module file expected actual).map Finding.mirrored =
      ((differences expected actual).map Difference.mirrored).map
        (Difference.finding module file) := by
    rw [diff, List.map_map, List.map_map]
    rfl
  rw [commutes, diff, differences_passes, differences_passes]
  exact told.map _

-- Against `usersOutline`: a property is missing, one has another type, the operation answers from
-- another address, and an interface is extra.
def usersOutlineDrifted : Module where
  declarations := [
    ⟨"Team", .interface, none, [idProperty], []⟩,
    { usersClient with methods := usersClient.methods.map fun m =>
        { m with endpoint := some "GET /people/$\x7bid\x7d" } },
    userInterface [⟨"id", some "number", false⟩]]
  syntaxErrors := []

theorem drifted_users_mirrored :
    NamesDistinct usersOutline ∧ NamesDistinct usersOutlineDrifted ∧
      (diff "users-api" "users-api/types.ts" usersOutline usersOutlineDrifted).map
          (fun f => (f.severity, f.subject)) =
        [(.mismatched, "User.id"), (.missing, "User.name"),
         (.mismatched, "UsersApiClient.getUser"), (.extra, "Team")] ∧
      (diff "users-api" "users-api/types.ts" usersOutlineDrifted usersOutline).Perm
        ((diff "users-api" "users-api/types.ts" usersOutline usersOutlineDrifted).map
          Finding.mirrored) := by
  have wants : NamesDistinct usersOutline := ⟨by decide, by decide, by decide⟩
  have found : NamesDistinct usersOutlineDrifted := ⟨by decide, by decide, by decide⟩
  exact ⟨wants, found, by decide +kernel, exchanged_sides_mirror_findings _ _ _ _ wants found⟩

end ApiContract.Audit
