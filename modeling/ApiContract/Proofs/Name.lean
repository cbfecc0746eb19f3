import ApiContract.Proofs.Identifier
import ApiContract.Proofs.Text.Lines

/-!
Names that begin with a letter and go on with letters and digits, and their Pascal spelling.
-/

set_option autoImplicit false

namespace ApiContract.Name

-- An upper case letter, then letters and digits.
def isUpperName (name : String) : Bool :=
  match name.toList with
  | [] => false
  | c :: rest => c.isUpper && rest.all Char.isAlphanum

-- A lower case letter, then letters and digits.
def isLowerName (name : String) : Bool :=
  match name.toList with
  | [] => false
  | c :: rest => c.isLower && rest.all Char.isAlphanum

-- A lower case letter, then lower case letters, digits and hyphens.
def isHyphenName (name : String) : Bool :=
  match name.toList with
  | [] => false
  | c :: rest => c.isLower && rest.all fun d => d.isLower || d.isDigit || d == '-'

-- A name of a type: an identifier that begins with an upper case letter.
structure NamesType (name : String) : Prop where
  starts : ∃ c rest, name.toList = c :: rest ∧ c.isUpper = true
  parts : ∀ c ∈ name.toList, isPart c = true

theorem alphanum_part (c : Char) (alphanum : c.isAlphanum = true) : isPart c = true := by
  simp [isPart, alphanum]

theorem upper_alphanum (c : Char) (upper : c.isUpper = true) : c.isAlphanum = true := by
  unfold Char.isAlphanum Char.isAlpha
  simp [upper]

theorem lower_alphanum (c : Char) (lower : c.isLower = true) : c.isAlphanum = true := by
  unfold Char.isAlphanum Char.isAlpha
  simp [lower]

theorem upper_start (c : Char) (upper : c.isUpper = true) : isStart c = true := by
  unfold isStart Char.isAlpha
  simp [upper]

theorem lower_start (c : Char) (lower : c.isLower = true) : isStart c = true := by
  unfold isStart Char.isAlpha
  simp [lower]

theorem upper_name_type (name : String) (upper : isUpperName name = true) : NamesType name := by
  rw [isUpperName] at upper
  split at upper
  · cases upper
  · rename_i c rest spelled
    simp only [Bool.and_eq_true, List.all_eq_true] at upper
    refine ⟨⟨c, rest, spelled, upper.1⟩, ?_⟩
    rw [spelled]
    exact List.forall_mem_cons.mpr ⟨alphanum_part c (upper_alphanum c upper.1), fun d member =>
      alphanum_part d (upper.2 d member)⟩

theorem type_identifier (name : String) (type : NamesType name) : isIdentifier name = true := by
  obtain ⟨⟨c, rest, spelled, upper⟩, parts⟩ := type
  rw [spelled] at parts
  simp only [isIdentifier, spelled, upper_start c upper, Bool.true_and, List.all_eq_true]
  exact fun d member => parts d (List.mem_cons_of_mem c member)

theorem type_append (first second : String) (type : NamesType first)
    (parts : ∀ c ∈ second.toList, isPart c = true) : NamesType (first ++ second) := by
  obtain ⟨⟨c, rest, spelled, upper⟩, own⟩ := type
  refine ⟨⟨c, rest ++ second.toList, by simp [spelled], upper⟩, ?_⟩
  rw [String.toList_append, List.forall_mem_append]
  exact ⟨own, parts⟩

theorem lower_identifier (name : String) (lower : isLowerName name = true) :
    isIdentifier name = true := by
  rw [isLowerName] at lower
  split at lower
  · cases lower
  · rename_i c rest spelled
    simp only [Bool.and_eq_true, List.all_eq_true] at lower
    simp only [isIdentifier, spelled, lower_start c lower.1, Bool.true_and, List.all_eq_true]
    exact fun d member => alphanum_part d (lower.2 d member)

theorem uppercase_parts (c : Char) (part : isPart c = true) :
    ∀ d ∈ Text.uppercase c, isPart d = true :=
  List.all_eq_true.mp
    (part_all (fun c => (Text.uppercase c).all isPart = true) (by decide) c part)

theorem uppercase_lower (c : Char) (lower : c.isLower = true) :
    Text.uppercase c = [c.toUpper] ∧ c.toUpper.isUpper = true :=
  part_all (fun c => c.isLower = true → Text.uppercase c = [c.toUpper] ∧ c.toUpper.isUpper = true)
    (by decide) c (alphanum_part c (lower_alphanum c lower)) lower

-- The Pascal spelling of a text of parts and hyphens has parts only.
theorem pascal_parts (name : String)
    (parts : ∀ c ∈ name.toList, isPart c = true ∨ c = '-') :
    ∀ c ∈ (pascal name).toList, isPart c = true := by
  intro d member
  rw [pascal, String.toList_ofList] at member
  obtain ⟨piece, own, inner⟩ := List.mem_flatMap.mp member
  have each : ∀ c ∈ piece, isPart c = true := by
    intro c within
    have uncut := Text.pieces_uncut _ _ piece own c within
    rcases parts c (Text.pieces_mem _ _ piece own c within) with part | rfl
    · exact part
    · cases uncut
  cases piece with
  | nil => cases inner
  | cons c rest =>
      obtain ⟨first, later⟩ := List.forall_mem_cons.mp each
      rcases List.mem_append.mp inner with front | back
      · exact uppercase_parts c first d front
      · exact later d back

theorem pascal_type (name : String) (c : Char) (rest : List Char) (spelled : name.toList = c :: rest)
    (lower : c.isLower = true) (parts : ∀ c ∈ name.toList, isPart c = true ∨ c = '-') :
    NamesType (pascal name) := by
  obtain ⟨raised, upper⟩ := uppercase_lower c lower
  have uncut : (fun c => c == '_' || c == '-') c = false := by
    have other (d : Char) (notLower : d.isLower = false) : c ≠ d := by
      rintro rfl
      exact Bool.false_ne_true (notLower.symm.trans lower)
    simp [other '_' rfl, other '-' rfl]
  obtain ⟨first, others, -, following⟩ :=
    Text.pieces_after (fun c => c == '_' || c == '-') [c] rest (by simpa using uncut)
  refine ⟨⟨c.toUpper, first ++ others.flatMap capitalize, ?_, upper⟩, pascal_parts name parts⟩
  rw [pascal, spelled, ← List.singleton_append, following, String.toList_ofList]
  simp [capitalize, raised]

theorem lower_pascal_type (name : String) (lower : isLowerName name = true) :
    NamesType (pascal name) := by
  rw [isLowerName] at lower
  split at lower
  · cases lower
  · rename_i c rest spelled
    simp only [Bool.and_eq_true, List.all_eq_true] at lower
    refine pascal_type name c rest spelled lower.1 ?_
    rw [spelled]
    exact List.forall_mem_cons.mpr ⟨.inl (alphanum_part c (lower_alphanum c lower.1)),
      fun d member => .inl (alphanum_part d (lower.2 d member))⟩

theorem hyphen_parts (name : String) (plain : isHyphenName name = true) :
    ∃ c rest, name.toList = c :: rest ∧ c.isLower = true ∧
      ∀ d ∈ name.toList, isPart d = true ∨ d = '-' := by
  rw [isHyphenName] at plain
  split at plain
  · cases plain
  · rename_i c rest spelled
    simp only [Bool.and_eq_true, List.all_eq_true, Bool.or_eq_true, beq_iff_eq] at plain
    refine ⟨c, rest, spelled, plain.1, ?_⟩
    rw [spelled]
    refine List.forall_mem_cons.mpr ⟨.inl (alphanum_part c (lower_alphanum c plain.1)), ?_⟩
    intro d member
    rcases plain.2 d member with (small | digit) | hyphen
    · exact .inl (alphanum_part d (lower_alphanum d small))
    · exact .inl (alphanum_part d (by simp [Char.isAlphanum, digit]))
    · exact .inr hyphen

theorem hyphen_pascal_type (name : String) (plain : isHyphenName name = true) :
    NamesType (pascal name) := by
  obtain ⟨c, rest, spelled, lower, parts⟩ := hyphen_parts name plain
  exact pascal_type name c rest spelled lower parts

theorem identifier_append (first second : String) (named : isIdentifier first = true)
    (parts : ∀ c ∈ second.toList, isPart c = true) : isIdentifier (first ++ second) = true := by
  obtain ⟨c, rest, spelled, start, own⟩ := identifier_parts first named
  rw [spelled] at own
  simp only [isIdentifier, String.toList_append, spelled, List.cons_append, start, Bool.true_and,
    List.all_eq_true, List.forall_mem_append]
  exact ⟨fun d member => own d (List.mem_cons_of_mem c member), parts⟩

-- An identifier is cut at its underscores; those in front of it leave empty pieces.
def behindUnderscores (name : String) : List Char :=
  name.toList.dropWhile (· == '_')

def digitLeads (name : String) : Bool :=
  (behindUnderscores name).head?.any Char.isDigit

theorem capitalized_behind (cs : List Char) :
    (Text.pieces (fun c => c == '_' || c == '-') cs).flatMap capitalize =
      (Text.pieces (fun c => c == '_' || c == '-') (cs.dropWhile (· == '_'))).flatMap
        capitalize := by
  induction cs with
  | nil => rfl
  | cons c rest ih =>
      by_cases under : c = '_'
      · simpa [Text.pieces, under, capitalize] using ih
      · simp [under]

theorem part_raised (c : Char) (part : isPart c = true) (other : c ≠ '_') :
    Text.uppercase c = [c.toUpper] ∧ c.toUpper.isLower = false ∧
      isStart c.toUpper = !c.isDigit := by
  have each := part_all (fun c => c ≠ '_' → Text.uppercase c = [c.toUpper] ∧
    c.toUpper.isLower = false ∧ isStart c.toUpper = !c.isDigit) (by decide) c part
  exact each other

theorem pascal_behind (name : String) :
    (pascal name).toList =
      (Text.pieces (fun c => c == '_' || c == '-') (behindUnderscores name)).flatMap
        capitalize := by
  rw [pascal, String.toList_ofList, capitalized_behind, behindUnderscores]

-- The spelling of an identifier is empty, or begins with a character that was raised where it could.
theorem pascal_spelled (name : String) (parts : ∀ c ∈ name.toList, isPart c = true) :
    (digitLeads name = false ∧ pascal name = "") ∨
      ∃ c rest, (pascal name).toList = c :: rest ∧ c.isLower = false ∧
        isStart c = !digitLeads name := by
  have spelled := pascal_behind name
  have first := List.head?_dropWhile_not (· == '_') name.toList
  rw [digitLeads]
  rw [← behindUnderscores] at first
  cases behind : behindUnderscores name with
  | nil =>
      rw [behind] at spelled
      exact .inl ⟨rfl, String.toList_eq_nil_iff.mp spelled⟩
  | cons c rest =>
      rw [behind] at spelled first
      have other : c ≠ '_' := by simpa using first
      have part : isPart c = true :=
        parts c ((List.dropWhile_sublist _).subset (behind ▸ List.mem_cons_self))
      obtain ⟨raised, notLower, starts⟩ := part_raised c part other
      have uncut : ∀ d ∈ [c], (d == '_' || d == '-') = false := by
        have noHyphen : c ≠ '-' := by
          rintro rfl
          cases part
        simp [other, noHyphen]
      obtain ⟨piece, others, -, following⟩ :=
        Text.pieces_after (fun c => c == '_' || c == '-') [c] rest uncut
      rw [← List.singleton_append, following] at spelled
      refine .inr ⟨c.toUpper, piece ++ others.flatMap capitalize, ?_, notLower, by simpa using starts⟩
      simpa [capitalize, raised] using spelled

theorem reserved_lower (name : String) (reserved : isReservedType name = true) :
    ∀ c ∈ name.toList, c.isLower = true := by
  have words : ∀ word ∈ reservedWords ++ builtinTypes, word.toList.all Char.isLower = true := by
    decide
  simp only [isReservedType, isReservedWord, Bool.or_eq_true, List.contains_iff_mem] at reserved
  exact List.all_eq_true.mp (words name (List.mem_append.mpr reserved))

theorem not_reserved (name : String) (c : Char) (member : c ∈ name.toList)
    (notLower : c.isLower = false) : isReservedType name = false := by
  cases reserved : isReservedType name with
  | false => rfl
  | true => exact absurd (reserved_lower name reserved c member) (by simp [notLower])

end ApiContract.Name
