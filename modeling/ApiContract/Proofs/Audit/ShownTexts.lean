import ApiContract.Outline.Code
import ApiContract.Proofs.Audit.Matching
import ApiContract.Proofs.Audit.Passes
import ApiContract.Proofs.Outline.Signatures
import ApiContract.Script.Reader

/-!
What a mismatch shows: its two texts differ, unless it is about two methods that are told alike, by
the same signature and the same request. Where the signatures are closed, no two are told alike.
-/

set_option autoImplicit false

namespace ApiContract.Audit

open Outline (Declaration Method Module Param Property)

-- A wanted declaration and the one that it is compared with, the first of its name.
def Paired (expected actual : Module) (want got : Declaration) : Prop :=
  want ∈ expected.declarations ∧ actual.declaration? want.name = some got

-- Two methods that are compared, in declarations of one kind.
def Compared (expected actual : Module) (m n : Method) : Prop :=
  ∃ want got, Paired expected actual want got ∧ want.kind = got.kind ∧ m ∈ want.methods ∧
    got.method? m.name = some n

def ToldAlike (m n : Method) : Prop :=
  m.describe = n.describe ∧ m.endpoint = n.endpoint

def ClosedSignatures (m : Module) : Prop :=
  ∀ d ∈ m.declarations, ∀ method ∈ d.methods, method.Closed

def declarationMismatch (want got : Declaration) : Difference :=
  ⟨want.name, .type, .mismatched, some want.describe, some got.describe⟩

def propertyMismatch (owner : String) (p q : Property) : Difference :=
  ⟨memberName owner p.name, .field, .mismatched, some p.describe, some q.describe⟩

def methodMismatch (owner : String) (m n : Method) : Difference :=
  ⟨memberName owner m.name, .operation, .mismatched, (methodTexts m n).1, (methodTexts m n).2⟩

-- In two passes, only a pair of items of one name can be a mismatch.
theorem passes_mismatch_iff {α : Type} (name : α → String)
    (judge : α → Option α → List Difference) (surplus : α → Difference)
    (lost : ∀ want, ∀ d ∈ judge want none, d.severity ≠ .mismatched)
    (spare : ∀ got, (surplus got).severity ≠ .mismatched) (wants found : List α) (d : Difference)
    (mismatched : d.severity = .mismatched) :
    d ∈ passes name judge surplus wants found ↔
      ∃ want ∈ wants, ∃ got, found.find? (fun item => name item == name want) = some got ∧
        d ∈ judge want (some got) := by
  have noSurplus : d ∉ found.flatMap fun got =>
      if (wants.find? fun item => name item == name got).isSome then [] else [surplus got] := by
    rw [List.mem_flatMap]
    rintro ⟨got, -, member⟩
    split at member
    · cases member
    · cases List.mem_singleton.mp member
      exact spare got mismatched
  rw [passes, List.mem_append, or_iff_left noSurplus, List.mem_flatMap]
  refine exists_congr fun want => and_congr_right fun _ => ?_
  cases found.find? fun item => name item == name want with
  | none => simpa using fun member => lost want d member mismatched
  | some got => simp

theorem property_mismatch_iff (owner : String) (wants found : List Property) (d : Difference)
    (mismatched : d.severity = .mismatched) :
    d ∈ passes Property.name (judgeProperty owner) (surplusProperty owner) wants found ↔
      ∃ p ∈ wants, ∃ q, found.find? (fun item => item.name == p.name) = some q ∧ q ≠ p ∧
        d = propertyMismatch owner p q := by
  rw [passes_mismatch_iff Property.name _ _ (by simp [judgeProperty, missing])
    (by simp [surplusProperty, extra]) wants found d mismatched]
  simp only [judgeProperty, List.mem_ite_nil_left, List.mem_singleton, ne_eq, propertyMismatch]

theorem method_mismatch_iff (owner : String) (wants found : List Method) (d : Difference)
    (mismatched : d.severity = .mismatched) :
    d ∈ passes Method.name (judgeMethod owner) (surplusMethod owner) wants found ↔
      ∃ m ∈ wants, ∃ n, found.find? (fun item => item.name == m.name) = some n ∧ n ≠ m ∧
        d = methodMismatch owner m n := by
  rw [passes_mismatch_iff Method.name _ _ (by simp [judgeMethod, missing])
    (by simp [surplusMethod, extra]) wants found d mismatched]
  simp only [judgeMethod, List.mem_ite_nil_left, List.mem_singleton, ne_eq, methodMismatch]

-- All that a comparison tells as a mismatch, by the level where it does.
theorem mismatch_iff (expected actual : Module) (d : Difference)
    (mismatched : d.severity = .mismatched) :
    d ∈ differences expected actual ↔
      ∃ want got, Paired expected actual want got ∧
        (¬ (want.kind = got.kind ∧ want.aliased = got.aliased) ∧ d = declarationMismatch want got ∨
          want.kind = got.kind ∧
            ((∃ p ∈ want.properties, ∃ q, got.property? p.name = some q ∧ q ≠ p ∧
                d = propertyMismatch want.name p q) ∨
              ∃ m ∈ want.methods, ∃ n, got.method? m.name = some n ∧ n ≠ m ∧
                d = methodMismatch want.name m n)) := by
  have members (want got : Declaration) : d ∈ diffDeclaration want got ↔
      ¬ (want.kind = got.kind ∧ want.aliased = got.aliased) ∧ d = declarationMismatch want got ∨
        want.kind = got.kind ∧ d ∈ diffMembers want got := by
    simp only [diffDeclaration, List.mem_append, List.mem_ite_nil_left, List.mem_ite_nil_right,
      List.mem_singleton, declarationMismatch]
  rw [differences_passes, passes_mismatch_iff Declaration.name _ _
    (by simp [judgeDeclaration, missing]) (by simp [surplusDeclaration, extra]) _ _ d mismatched]
  simp only [judgeDeclaration, members, diff_members_passes, List.mem_append,
    property_mismatch_iff _ _ _ d mismatched, method_mismatch_iff _ _ _ d mismatched]
  simp only [Paired, and_assoc, exists_and_left]
  rfl

theorem declaration_mismatch_shows (expected actual : Module) (want got : Declaration)
    (paired : Paired expected actual want got)
    (differ : ¬ (want.kind = got.kind ∧ want.aliased = got.aliased)) :
    (declarationMismatch want got).expected ≠ (declarationMismatch want got).actual := by
  intro same
  have named := (named_of_find Declaration.name _ _ got paired.2).2
  exact differ (Outline.declaration_described want got named.symm (Option.some.inj same))

theorem property_mismatch_shows (owner : String) (p q : Property) (named : q.name = p.name)
    (differ : q ≠ p) :
    (propertyMismatch owner p q).expected ≠ (propertyMismatch owner p q).actual := by
  intro same
  exact differ (Outline.property_described q p named (Option.some.inj same).symm)

-- Where the signatures are one text, it is the requests that are shown.
theorem method_mismatch_silent_iff (owner : String) (m n : Method) :
    (methodMismatch owner m n).expected = (methodMismatch owner m n).actual ↔ ToldAlike m n := by
  simp only [methodMismatch, methodTexts, ToldAlike]
  split
  case isTrue same => simp [same]
  case isFalse differ => simp [Ne.symm differ]

theorem told_alike_of_closed (m n : Method) (closed : m.Closed) (otherClosed : n.Closed)
    (named : n.name = m.name) (alike : ToldAlike m n) : m = n := by
  obtain ⟨params, returns⟩ := Outline.method_described m n closed otherClosed named.symm alike.1
  obtain ⟨name, own, result, endpoint⟩ := m
  obtain ⟨other, given, found, request⟩ := n
  cases named
  cases params
  cases returns
  cases alike.2
  rfl

theorem compared_closed (expected actual : Module) (m n : Method)
    (closed : ClosedSignatures expected) (otherClosed : ClosedSignatures actual)
    (compared : Compared expected actual m n) : m.Closed ∧ n.Closed ∧ n.name = m.name := by
  obtain ⟨want, got, ⟨wanted, hit⟩, -, member, found⟩ := compared
  obtain ⟨given, named⟩ := named_of_find Method.name _ _ n found
  have declared := (named_of_find Declaration.name _ _ got hit).1
  exact ⟨closed want wanted m member, otherClosed got declared n given, named⟩

-- A mismatch that shows nothing is one of methods that differ and are told alike.
theorem silent_mismatch (expected actual : Module) (d : Difference)
    (member : d ∈ differences expected actual) (mismatched : d.severity = .mismatched)
    (silent : d.expected = d.actual) :
    d.kind = .operation ∧ ∃ m n, Compared expected actual m n ∧ ToldAlike m n ∧ m ≠ n := by
  obtain ⟨want, got, paired, told⟩ := (mismatch_iff expected actual d mismatched).mp member
  rcases told with ⟨differ, rfl⟩ | ⟨kinds, property | method⟩
  · exact absurd silent (declaration_mismatch_shows expected actual want got paired differ)
  · obtain ⟨p, -, q, hit, differ, rfl⟩ := property
    have named := (named_of_find Property.name _ _ q hit).2
    exact absurd silent (property_mismatch_shows want.name p q named differ)
  · obtain ⟨m, wanted, n, hit, differ, rfl⟩ := method
    exact ⟨rfl, m, n, ⟨want, got, paired, kinds, wanted, hit⟩,
      (method_mismatch_silent_iff want.name m n).mp silent, differ.symm⟩

theorem alike_mismatch (expected actual : Module) (m n : Method)
    (compared : Compared expected actual m n) (differ : m ≠ n) :
    ∃ owner, methodMismatch owner m n ∈ differences expected actual := by
  obtain ⟨want, got, paired, kinds, wanted, hit⟩ := compared
  refine ⟨want.name, (mismatch_iff expected actual _ rfl).mpr ⟨want, got, paired, .inr ⟨kinds, ?_⟩⟩⟩
  exact .inr ⟨m, wanted, n, hit, differ.symm, rfl⟩

theorem mismatch_shows_difference_iff (module file : String) (expected actual : Module) :
    ((∀ finding ∈ diff module file expected actual, finding.severity = .mismatched →
        finding.expected ≠ finding.actual) ↔
      ∀ m n, Compared expected actual m n → ToldAlike m n → m = n) ∧
    (∀ finding ∈ diff module file expected actual, finding.severity = .mismatched →
      finding.kind ≠ .operation → finding.expected ≠ finding.actual) ∧
    (ClosedSignatures expected → ClosedSignatures actual →
      ∀ finding ∈ diff module file expected actual, finding.severity = .mismatched →
        finding.expected ≠ finding.actual) := by
  simp only [diff, List.forall_mem_map, Difference.finding]
  have shown (known : ∀ m n, Compared expected actual m n → ToldAlike m n → m = n) :
      ∀ d ∈ differences expected actual, d.severity = .mismatched → d.expected ≠ d.actual := by
    intro d member mismatched silent
    obtain ⟨-, m, n, compared, alike, differ⟩ :=
      silent_mismatch expected actual d member mismatched silent
    exact differ (known m n compared alike)
  refine ⟨⟨fun shows m n compared alike => ?_, shown⟩, ?_, fun closed otherClosed => shown ?_⟩
  · by_contra differ
    obtain ⟨owner, member⟩ := alike_mismatch expected actual m n compared differ
    exact shows _ member rfl ((method_mismatch_silent_iff owner m n).mpr alike)
  · intro d member mismatched other silent
    exact other (silent_mismatch expected actual d member mismatched silent).1
  · intro m n compared alike
    obtain ⟨own, given, named⟩ := compared_closed expected actual m n closed otherClosed compared
    exact told_alike_of_closed m n own given named alike

def searchClass (params : List Param) : Declaration :=
  ⟨"Search", .class_, none, [], [⟨"find", params, none, none⟩]⟩

def keyParam : Param := ⟨"key", some "Id | Name", false⟩

def kindParam : Param := ⟨"kind", some "Id | Name", false⟩

theorem lost_parameter_is_shown :
    ClosedSignatures ⟨[searchClass [keyParam, kindParam]], []⟩ ∧
      ClosedSignatures ⟨[searchClass [keyParam]], []⟩ ∧
      (∀ finding ∈ diff "search-api" "search-api/client.ts"
          ⟨[searchClass [keyParam, kindParam]], []⟩ ⟨[searchClass [keyParam]], []⟩,
        finding.severity = .mismatched → finding.expected ≠ finding.actual) ∧
      diff "search-api" "search-api/client.ts" ⟨[searchClass [keyParam, kindParam]], []⟩
          ⟨[searchClass [keyParam]], []⟩ =
        [⟨"search-api", some "search-api/client.ts", "Search.find", .operation, .mismatched,
          some "find(key: Id | Name, kind: Id | Name)", some "find(key: Id | Name)"⟩] := by
  have key : keyParam.Closed := ⟨by decide, by decide, by rintro type ⟨⟩; decide⟩
  have kind : kindParam.Closed := ⟨by decide, by decide, by rintro type ⟨⟩; decide⟩
  have closed : ClosedSignatures ⟨[searchClass [keyParam, kindParam]], []⟩ := by
    simp only [ClosedSignatures, searchClass, Method.Closed, List.forall_mem_cons]
    exact ⟨⟨⟨key, kind, by simp⟩, by simp⟩, by simp⟩
  have otherClosed : ClosedSignatures ⟨[searchClass [keyParam]], []⟩ := by
    simp only [ClosedSignatures, searchClass, Method.Closed, List.forall_mem_cons]
    exact ⟨⟨⟨key, by simp⟩, by simp⟩, by simp⟩
  exact ⟨closed, otherClosed,
    (mismatch_shows_difference_iff _ _ _ _).2.2 closed otherClosed, by decide⟩

def twoParams : String :=
  "class Search \x7b\n  find(key: Id | // /*\n    Name, kind: Id | //*/\n    Name) \x7b\x7d\n\x7d\n"

def oneParam : String :=
  "class Search \x7b\n  find(key: Id | //\n    /*Name, kind: Id | //*/ Name) \x7b\x7d\n\x7d\n"

-- The line ends that close the comments are not in the texts of the types, so what a comment hides is
-- no longer told from what it does not hide.
theorem commented_parameter_shows_nothing :
    diff "search-api" "search-api/client.ts" (Outline.Module.ofCode twoParams)
        (Outline.Module.ofCode oneParam) =
      [⟨"search-api", some "search-api/client.ts", "Search.find", .operation, .mismatched,
        none, none⟩] ∧
      ¬ ∀ finding ∈ diff "search-api" "search-api/client.ts" (Outline.Module.ofCode twoParams)
          (Outline.Module.ofCode oneParam),
        finding.severity = .mismatched → finding.expected ≠ finding.actual := by
  have two : Outline.Module.ofCode twoParams =
      ⟨[searchClass [⟨"key", some "Id |///*Name", false⟩, ⟨"kind", some "Id |//*/Name", false⟩]],
        []⟩ := by
    decide +kernel
  have one : Outline.Module.ofCode oneParam =
      ⟨[searchClass [⟨"key", some "Id |///*Name, kind: Id |//*/Name", false⟩]], []⟩ := by
    decide +kernel
  have silent : diff "search-api" "search-api/client.ts" (Outline.Module.ofCode twoParams)
      (Outline.Module.ofCode oneParam) =
        [⟨"search-api", some "search-api/client.ts", "Search.find", .operation, .mismatched,
          none, none⟩] := by
    rw [two, one]
    decide
  refine ⟨silent, fun shows => ?_⟩
  rw [silent] at shows
  exact shows _ List.mem_cons_self rfl rfl

end ApiContract.Audit
