import ApiContract.Outline.Basic
import ApiContract.Proofs.Code.TypeSyntax
import ApiContract.Proofs.Text.Lines

/-!
What the text of a signature tells. The texts of properties and declarations tell all but their name
and members; the text of a method tells its parameters and its result where the names and types in it
close what they open, and show none of the marks between them outside of brackets, quotes and
comments.
-/

set_option autoImplicit false

namespace ApiContract.Outline

open TypeSyntax (Within after afterCode)

-- All that is opened is closed, and no mark stands outside of it.
def sealedFrom (marks : List Char) : List Within → List Char → Bool
  | inside, [] => inside.isEmpty
  | inside, c :: rest =>
      (!inside.isEmpty || !marks.contains c) && sealedFrom marks (after inside c rest.head?) rest

def Sealed (marks : List Char) (text : String) : Prop :=
  sealedFrom marks [] text.toList = true
deriving Decidable

-- The marks behind a parameter, and those behind its name.
def paramEnds : List Char := [',', ')']

def nameEnds : List Char := [',', ')', ':', '?']

structure Param.Closed (p : Param) : Prop where
  named : p.name ≠ ""
  name_sealed : Sealed nameEnds p.name
  type_sealed : ∀ type, p.type = some type → Sealed paramEnds type

def Method.Closed (m : Method) : Prop :=
  ∀ p ∈ m.params, p.Closed

-- None of the marks makes a mark of two with the character before it.
theorem after_mark (inside : List Within) (c d : Char) (mark : d ∈ nameEnds) :
    after inside c (some d) = after inside c none := by
  have apart : d ≠ '\x7b' ∧ d ≠ '>' ∧ d ≠ '/' ∧ d ≠ '*' := by
    have each : nameEnds.all (fun d => d ≠ '\x7b' ∧ d ≠ '>' ∧ d ≠ '/' ∧ d ≠ '*') = true := by decide
    simpa using List.all_eq_true.mp each d mark
  match inside with
  | [] | .bracket _ :: _ => simp [after, afterCode, apart]
  | .second :: _ | .quotes _ :: _ | .lineComment :: _ | .blockComment :: _ => simp [after, apart]

theorem after_ahead (inside : List Within) (c : Char) (text behind : List Char)
    (marked : ∀ d ∈ behind.head?, d ∈ nameEnds) :
    after inside c text.head? = after inside c (text ++ behind).head? := by
  cases text with
  | cons d rest => rfl
  | nil =>
      cases behind with
      | nil => rfl
      | cons d rest => exact (after_mark inside c d (marked d rfl)).symm

theorem sealed_mark (marks : List Char) (inside : List Within) (d : Char) (rest : List Char)
    (shut : inside.isEmpty = true) (isSealed : sealedFrom marks inside (d :: rest) = true) :
    d ∉ marks := by
  simp only [sealedFrom, shut, Bool.not_true, Bool.false_or, Bool.and_eq_true, Bool.not_eq_true',
    List.contains_eq_mem, decide_eq_false_iff_not] at isSealed
  exact isSealed.1

-- By induction on the first text, both being inside of the same: a sealed text ends in front of the
-- first mark behind it.
theorem sealed_cut (marks : List Char) (known : ∀ d ∈ marks, d ∈ nameEnds) (inside : List Within)
    (first second behind others : List Char) (firstSealed : sealedFrom marks inside first = true)
    (secondSealed : sealedFrom marks inside second = true)
    (behindMarked : ∀ d ∈ behind.head?, d ∈ marks) (othersMarked : ∀ d ∈ others.head?, d ∈ marks)
    (same : first ++ behind = second ++ others) : first = second ∧ behind = others := by
  induction first generalizing inside second with
  | nil =>
      cases second with
      | nil => exact ⟨rfl, same⟩
      | cons d rest =>
          rw [List.nil_append] at same
          exact absurd (behindMarked d (by simp [same]))
            (sealed_mark marks inside d rest firstSealed secondSealed)
  | cons c text ih =>
      cases second with
      | nil =>
          rw [List.nil_append] at same
          exact absurd (othersMarked c (by simp [← same]))
            (sealed_mark marks inside c text secondSealed firstSealed)
      | cons d rest =>
          simp only [List.cons_append, List.cons.injEq] at same
          obtain ⟨rfl, later⟩ := same
          rw [sealedFrom, Bool.and_eq_true] at firstSealed secondSealed
          have spot : after inside c text.head? = after inside c rest.head? := by
            rw [after_ahead inside c text behind fun d front => known d (behindMarked d front), later,
              ← after_ahead inside c rest others fun d front => known d (othersMarked d front)]
          obtain ⟨rfl, rest_⟩ := ih _ rest firstSealed.2 (spot ▸ secondSealed.2) later
          exact ⟨rfl, rest_⟩

-- A text that may be absent, behind what announces it.
def announced (lead : String) : Option String → List Char
  | none => []
  | some text => lead.toList ++ text.toList

theorem announced_injective (lead : String) (nonempty : lead ≠ "") (first second : Option String)
    (same : announced lead first = announced lead second) : first = second := by
  cases first <;> cases second <;> simp_all [announced, String.toList_inj]

def flag (optional : Bool) : List Char :=
  if optional then ['?'] else []

theorem signature_chars (name : String) (optional : Bool) (type : Option String) :
    (signature name optional type).toList =
      name.toList ++ (flag optional ++ announced ": " type) := by
  cases optional <;> cases type <;> simp [signature, flag, announced]

theorem declaration_chars (d : Declaration) :
    d.describe.toList =
      d.kind.keyword.toList ++ ' ' :: (d.name.toList ++ announced " = " d.aliased) := by
  cases aliased : d.aliased <;> simp [Declaration.describe, aliased, announced]

-- The flag of a parameter is told from what may stand behind it.
theorem flag_cut (first second : Bool) (behind others : List Char)
    (behindPlain : behind.head? ≠ some '?') (othersPlain : others.head? ≠ some '?')
    (same : flag first ++ behind = flag second ++ others) : first = second ∧ behind = others := by
  cases first with
  | false =>
      cases second with
      | false => exact ⟨rfl, same⟩
      | true => exact absurd (congrArg List.head? same) behindPlain
  | true =>
      cases second with
      | false => exact absurd (congrArg List.head? same).symm othersPlain
      | true => exact ⟨rfl, (List.cons.inj same).2⟩

theorem announced_plain (type : Option String) : (announced ": " type).head? ≠ some '?' := by
  cases type <;> simp [announced]

theorem property_described (first second : Property) (named : first.name = second.name)
    (same : first.describe = second.describe) : first = second := by
  obtain ⟨name, type, optional⟩ := first
  obtain ⟨other, given, missing⟩ := second
  cases named
  have chars := congrArg String.toList same
  simp only [Property.describe, signature_chars, List.append_cancel_left_eq] at chars
  obtain ⟨rfl, types⟩ := flag_cut optional missing _ _ (announced_plain type) (announced_plain given) chars
  rw [announced_injective ": " (by decide) type given types]

theorem keyword_cut (first second : DeclKind) (behind others : List Char)
    (same : first.keyword.toList ++ behind = second.keyword.toList ++ others) :
    first = second ∧ behind = others := by
  cases first <;> cases second <;> simp_all [DeclKind.keyword]

theorem declaration_described (first second : Declaration) (named : first.name = second.name)
    (same : first.describe = second.describe) :
    first.kind = second.kind ∧ first.aliased = second.aliased := by
  have chars := congrArg String.toList same
  rw [declaration_chars, declaration_chars, named] at chars
  obtain ⟨kinds, behind⟩ := keyword_cut _ _ _ _ chars
  rw [List.cons.injEq, List.append_cancel_left_eq] at behind
  exact ⟨kinds, announced_injective " = " (by decide) _ _ behind.2⟩

-- What stands behind a parameter begins with one of its marks.
def EndsParam (behind : List Char) : Prop :=
  ∃ d ∈ paramEnds, behind.head? = some d

theorem type_cut (first second : Option String)
    (firstSealed : ∀ type, first = some type → Sealed paramEnds type)
    (secondSealed : ∀ type, second = some type → Sealed paramEnds type)
    (behind others : List Char) (behindMarked : EndsParam behind) (othersMarked : EndsParam others)
    (same : announced ": " first ++ behind = announced ": " second ++ others) :
    first = second ∧ behind = others := by
  obtain ⟨mark, known, front⟩ := behindMarked
  obtain ⟨other, alsoKnown, alsoFront⟩ := othersMarked
  have noColon : ':' ∉ paramEnds := by decide
  cases first with
  | none =>
      cases second with
      | none => exact ⟨rfl, same⟩
      | some type =>
          have colon : behind.head? = some ':' := by
            simpa [announced] using congrArg List.head? same
          rw [front, Option.some.injEq] at colon
          exact absurd (colon ▸ known) noColon
  | some type =>
      cases second with
      | none =>
          have colon : others.head? = some ':' := by
            simpa [announced] using (congrArg List.head? same).symm
          rw [alsoFront, Option.some.injEq] at colon
          exact absurd (colon ▸ alsoKnown) noColon
      | some given =>
          simp only [announced, List.append_assoc, List.append_cancel_left_eq] at same
          have ⟨texts, rest⟩ := sealed_cut paramEnds (by simp [paramEnds, nameEnds]) [] _ _ _ _
            (firstSealed type rfl) (secondSealed given rfl) (by simpa [front] using known)
            (by simpa [alsoFront] using alsoKnown) same
          exact ⟨congrArg some (String.toList_inj.mp texts), rest⟩

-- By the marks of a parameter: the name ends at the first of them, and where there is a type, it ends
-- in front of the next parameter or the end of the list.
theorem param_cut (first second : Param) (firstClosed : first.Closed) (secondClosed : second.Closed)
    (behind others : List Char) (behindMarked : EndsParam behind) (othersMarked : EndsParam others)
    (same : first.describe.toList ++ behind = second.describe.toList ++ others) :
    first = second ∧ behind = others := by
  have marked (optional : Bool) (type : Option String) (rest : List Char) (ends : EndsParam rest) :
      ∀ d ∈ (flag optional ++ (announced ": " type ++ rest)).head?, d ∈ nameEnds := by
    obtain ⟨mark, known, front⟩ := ends
    have mark_ : mark ∈ nameEnds := by
      rcases List.mem_pair.mp known with rfl | rfl <;> decide
    cases optional <;> cases type <;> simp_all [flag, announced, nameEnds]
  have plain (type : Option String) (rest : List Char) (ends : EndsParam rest) :
      (announced ": " type ++ rest).head? ≠ some '?' := by
    obtain ⟨mark, known, front⟩ := ends
    cases type with
    | none =>
        rintro question
        rw [announced, List.nil_append, front, Option.some.injEq] at question
        exact absurd (question ▸ known) (by decide)
    | some text => simp [announced]
  simp only [Param.describe, signature_chars, List.append_assoc] at same
  obtain ⟨names, tails⟩ := sealed_cut nameEnds (fun _ mark => mark) [] _ _ _ _
    firstClosed.name_sealed secondClosed.name_sealed (marked _ _ _ behindMarked)
    (marked _ _ _ othersMarked) same
  obtain ⟨flags, types⟩ := flag_cut _ _ _ _ (plain _ _ behindMarked) (plain _ _ othersMarked) tails
  obtain ⟨sameType, rest⟩ := type_cut first.type second.type firstClosed.type_sealed
    secondClosed.type_sealed behind others behindMarked othersMarked types
  obtain ⟨name, type, optional⟩ := first
  obtain ⟨other, given, missing⟩ := second
  cases String.toList_inj.mp names
  cases flags
  cases sameType
  exact ⟨rfl, rest⟩

-- The parameters behind the first one.
def moreParams (params : List Param) : List Char :=
  params.flatMap fun p => ", ".toList ++ p.describe.toList

theorem more_end (params : List Param) (behind : List Char) :
    EndsParam (moreParams params ++ ')' :: behind) := by
  cases params with
  | nil => exact ⟨')', by decide, rfl⟩
  | cons p rest => exact ⟨',', by decide, rfl⟩

theorem more_cut (first second : List Param) (firstClosed : ∀ p ∈ first, p.Closed)
    (secondClosed : ∀ p ∈ second, p.Closed) (behind others : List Char)
    (same : moreParams first ++ ')' :: behind = moreParams second ++ ')' :: others) :
    first = second ∧ behind = others := by
  induction first generalizing second with
  | nil =>
      cases second with
      | nil => exact ⟨rfl, by simpa [moreParams] using same⟩
      | cons q rest => simp [moreParams] at same
  | cons p params ih =>
      cases second with
      | nil => simp [moreParams] at same
      | cons q rest =>
          obtain ⟨own, later⟩ := List.forall_mem_cons.mp firstClosed
          obtain ⟨given, further⟩ := List.forall_mem_cons.mp secondClosed
          simp only [moreParams, List.flatMap_cons, List.append_assoc,
            List.append_cancel_left_eq] at same
          obtain ⟨rfl, tails⟩ := param_cut p q own given _ _ (more_end params behind)
            (more_end rest others) same
          obtain ⟨rfl, ends⟩ := ih rest later further tails
          exact ⟨rfl, ends⟩

theorem described_mark (p : Param) (closed : p.Closed) (behind others : List Char) :
    p.describe.toList ++ behind ≠ ')' :: others := by
  have nonempty : p.name.toList ≠ [] := by simpa using closed.named
  obtain ⟨c, rest, spelled⟩ := List.exists_cons_of_ne_nil nonempty
  have noMark := sealed_mark nameEnds [] c rest rfl (spelled ▸ closed.name_sealed)
  rw [Param.describe, signature_chars, spelled]
  intro same
  exact absurd ((List.cons.inj same).1 ▸ noMark) (by decide)

theorem params_cut (first second : List Param) (firstClosed : ∀ p ∈ first, p.Closed)
    (secondClosed : ∀ p ∈ second, p.Closed) (behind others : List Char)
    (same : (Text.join ", " (first.map Param.describe)).toList ++ ')' :: behind =
      (Text.join ", " (second.map Param.describe)).toList ++ ')' :: others) :
    first = second ∧ behind = others := by
  have joined (p : Param) (rest : List Param) :
      (Text.join ", " ((p :: rest).map Param.describe)).toList =
        p.describe.toList ++ moreParams rest := by
    rw [List.map_cons, Text.join_chars, List.flatMap_map, moreParams]
  match first, second with
  | [], [] => exact ⟨rfl, by simpa [Text.join] using same⟩
  | [], q :: rest =>
      rw [joined, List.append_assoc] at same
      exact absurd same.symm (described_mark q (secondClosed q List.mem_cons_self) _ _)
  | p :: params, [] =>
      rw [joined, List.append_assoc] at same
      exact absurd same (described_mark p (firstClosed p List.mem_cons_self) _ _)
  | p :: params, q :: rest =>
      obtain ⟨own, later⟩ := List.forall_mem_cons.mp firstClosed
      obtain ⟨given, further⟩ := List.forall_mem_cons.mp secondClosed
      rw [joined, joined, List.append_assoc, List.append_assoc] at same
      obtain ⟨rfl, tails⟩ := param_cut p q own given _ _ (more_end params behind)
        (more_end rest others) same
      obtain ⟨rfl, ends⟩ := more_cut params rest later further behind others tails
      exact ⟨rfl, ends⟩

theorem method_chars (m : Method) :
    m.describe.toList = m.name.toList ++ '(' ::
      ((Text.join ", " (m.params.map Param.describe)).toList ++ ')' :: announced ": " m.returns) := by
  cases returns : m.returns <;> simp [Method.describe, returns, announced]

theorem method_described (first second : Method) (firstClosed : first.Closed)
    (secondClosed : second.Closed) (named : first.name = second.name)
    (same : first.describe = second.describe) :
    first.params = second.params ∧ first.returns = second.returns := by
  have chars := congrArg String.toList same
  rw [method_chars, method_chars, named, List.append_cancel_left_eq, List.cons.injEq] at chars
  obtain ⟨params, results⟩ := params_cut _ _ firstClosed secondClosed _ _ chars.2
  exact ⟨params, announced_injective ": " (by decide) _ _ results⟩

end ApiContract.Outline
