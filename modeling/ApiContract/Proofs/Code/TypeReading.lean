import ApiContract.Proofs.Outline.CanonicalType

/-!
The text of a type determines the type, up to how its unions are grouped. The text is read one
character at a time, whatever is open in front of it; behind the text of a type, the members of the
type have been read.
-/

set_option autoImplicit false

namespace ApiContract.Code.TypeExpr

open Outline (IsIdentifier WellSpelled WellSpelledAll)

-- A union of one member is that member.
def ofMembers : List TypeExpr → TypeExpr
  | [t] => t
  | ts => .union ts

mutual

-- The members of a union and of the unions in it; any other type is its only member.
def members : TypeExpr → List TypeExpr
  | .named name => [.named name]
  | .arrayOf element => [.arrayOf (ofMembers (members element))]
  | .union ts => allMembers ts
  | .generic name args => [.generic name (flattenAll args)]
  | .literal value => [.literal value]

def allMembers : List TypeExpr → List TypeExpr
  | [] => []
  | t :: rest => members t ++ allMembers rest

def flattenAll : List TypeExpr → List TypeExpr
  | [] => []
  | t :: rest => ofMembers (members t) :: flattenAll rest

end

-- The type without unions in unions, and without unions of one member, anywhere in it.
def flatten (t : TypeExpr) : TypeExpr :=
  ofMembers t.members

def IsUnion : TypeExpr → Prop
  | .union _ => True
  | _ => False

mutual

def Flat : TypeExpr → Prop
  | .named _ => True
  | .arrayOf element => Flat element
  | .union ts => ts.length ≠ 1 ∧ (∀ t ∈ ts, ¬ IsUnion t) ∧ AllFlat ts
  | .generic _ args => AllFlat args
  | .literal _ => True

def AllFlat : List TypeExpr → Prop
  | [] => True
  | t :: rest => Flat t ∧ AllFlat rest

end

theorem all_flat_iff (ts : List TypeExpr) : AllFlat ts ↔ ∀ t ∈ ts, Flat t := by
  induction ts with
  | nil => simp [AllFlat]
  | cons t rest ih => simp [AllFlat, ih]

theorem of_members_flat (ts : List TypeExpr) (flat : ∀ t ∈ ts, ¬ IsUnion t ∧ Flat t) :
    Flat (ofMembers ts) := by
  match ts with
  | [] => exact ⟨by simp, nofun, trivial⟩
  | [t] => exact (flat t List.mem_cons_self).2
  | t :: u :: rest =>
      refine ⟨by simp, ?_, (all_flat_iff _).mpr ?_⟩
      · exact fun m member => (flat m member).1
      · exact fun m member => (flat m member).2

mutual

theorem members_flat : ∀ t : TypeExpr, ∀ m ∈ members t, ¬ IsUnion m ∧ Flat m
  | .named name => by simp [members, IsUnion, Flat]
  | .arrayOf element => by
      have flat := of_members_flat _ (members_flat element)
      simpa [members, IsUnion, Flat] using flat
  | .union ts => all_members_flat ts
  | .generic name args => by simpa [members, IsUnion, Flat] using flatten_all_flat args
  | .literal value => by simp [members, IsUnion, Flat]

theorem all_members_flat : ∀ ts : List TypeExpr, ∀ m ∈ allMembers ts, ¬ IsUnion m ∧ Flat m
  | [] => nofun
  | t :: rest => by
      rw [allMembers]
      exact List.forall_mem_append.mpr ⟨members_flat t, all_members_flat rest⟩

theorem flatten_all_flat : ∀ ts : List TypeExpr, AllFlat (flattenAll ts)
  | [] => trivial
  | t :: rest => ⟨of_members_flat _ (members_flat t), flatten_all_flat rest⟩

end

theorem flatten_flat (t : TypeExpr) : Flat t.flatten :=
  of_members_flat _ (members_flat t)

theorem of_members_many (ts : List TypeExpr) (many : ts.length ≠ 1) : ofMembers ts = .union ts := by
  match ts with
  | [] => rfl
  | [t] => exact absurd rfl many
  | t :: u :: rest => rfl

theorem members_single (t : TypeExpr) (alone : ¬ IsUnion t) : members t = [t.flatten] := by
  cases t with
  | union ts => exact absurd trivial alone
  | _ => rfl

mutual

theorem flatten_of_flat : ∀ t : TypeExpr, Flat t → t.flatten = t
  | .named name, _ => rfl
  | .arrayOf element, flat => congrArg arrayOf (flatten_of_flat element flat)
  | .union ts, ⟨many, alone, flat⟩ => by
      have same : allMembers ts = ts := all_members_of_flat ts alone flat
      rw [flatten, members, same, of_members_many ts many]
  | .generic name args, flat => congrArg (generic name) (flatten_all_of_flat args flat)
  | .literal value, _ => rfl

theorem all_members_of_flat : ∀ ts : List TypeExpr, (∀ t ∈ ts, ¬ IsUnion t) → AllFlat ts →
    allMembers ts = ts
  | [], _, _ => rfl
  | t :: rest, alone, ⟨own, later⟩ => by
      obtain ⟨ownAlone, laterAlone⟩ := List.forall_mem_cons.mp alone
      rw [allMembers, members_single t ownAlone, flatten_of_flat t own,
        all_members_of_flat rest laterAlone later]
      rfl

theorem flatten_all_of_flat : ∀ ts : List TypeExpr, AllFlat ts → flattenAll ts = ts
  | [], _ => rfl
  | t :: rest, ⟨own, later⟩ => by
      have first : ofMembers t.members = t := flatten_of_flat t own
      rw [flattenAll, first, flatten_all_of_flat rest later]

end

-- What is open at a place of a text: a parenthesis, or the arguments of a name. The rows are of the
-- members read so far of the union around it, and the arguments are those read before, all with the
-- last one first.
inductive Open where
  | parenthesis (row : List TypeExpr)
  | arguments (name : String) (args row : List TypeExpr)

inductive Place where
  | code
  | word
  | literal
  | escape

structure Reading where
  opened : List Open
  row : List TypeExpr
  place : Place

namespace Reading

-- Adds a character to the name or the literal that is being read.
def spell (c : Char) : TypeExpr → TypeExpr
  | .named name => .named (name.push c)
  | .literal value => .literal (value.push c)
  | other => other

def unescape (c : Char) : Char :=
  if c = 'n' then '\n' else if c = 'r' then '\r' else if c = 't' then '\t' else c

-- An argument ends; there is none between brackets with nothing in them.
def endArgument (row args : List TypeExpr) : List TypeExpr :=
  if row.isEmpty then args else ofMembers row.reverse :: args

def letter (r : Reading) (c : Char) : Reading :=
  match r.place with
  | .word => { r with row := r.row.modifyHead (spell c) }
  | _ => { r with row := .named (String.singleton c) :: r.row, place := .word }

def mark (opened : List Open) (row : List TypeExpr) (c : Char) : Reading :=
  match c, opened, row with
  | '"', opened, row => ⟨opened, .literal "" :: row, .literal⟩
  | '(', opened, row => ⟨.parenthesis row :: opened, [], .code⟩
  | ')', .parenthesis outer :: opened, row => ⟨opened, ofMembers row.reverse :: outer, .code⟩
  | '<', opened, .named name :: row => ⟨.arguments name [] row :: opened, [], .code⟩
  | ',', .arguments name args outer :: opened, row =>
      ⟨.arguments name (endArgument row args) outer :: opened, [], .code⟩
  | '>', .arguments name args outer :: opened, row =>
      ⟨opened, .generic name (endArgument row args).reverse :: outer, .code⟩
  | ']', opened, element :: row => ⟨opened, .arrayOf element :: row, .code⟩
  | _, opened, row => ⟨opened, row, .code⟩

def step (r : Reading) (c : Char) : Reading :=
  match r.place with
  | .literal =>
      if c = '"' then { r with place := .code }
      else if c = '\\' then { r with place := .escape }
      else { r with row := r.row.modifyHead (spell c) }
  | .escape => { r with row := r.row.modifyHead (spell (unescape c)), place := .literal }
  | _ => if Name.isPart c then r.letter c else mark r.opened r.row c

end Reading

open Reading

def read (text : String) : List TypeExpr :=
  (text.toList.foldl step ⟨[], [], .code⟩).row.reverse

-- Behind a text the given members have been read, whatever stands in front of it.
def Reads (cs : List Char) (ts : List TypeExpr) : Prop :=
  ∀ opened row, ∃ place, (place = .code ∨ place = .word) ∧
    cs.foldl step ⟨opened, row, .code⟩ = ⟨opened, ts.reverse ++ row, place⟩

theorem step_mark (opened : List Open) (row : List TypeExpr) (place : Place) (c : Char)
    (free : place = .code ∨ place = .word) (other : Name.isPart c = false) :
    step ⟨opened, row, place⟩ c = mark opened row c := by
  rcases free with rfl | rfl <;> simp [step, other]

theorem letters_read (cs : List Char) (opened : List Open) (name : String) (row : List TypeExpr)
    (parts : ∀ c ∈ cs, Name.isPart c = true) :
    cs.foldl step ⟨opened, .named name :: row, .word⟩ =
      ⟨opened, .named (name ++ String.ofList cs) :: row, .word⟩ := by
  induction cs generalizing name with
  | nil => simp
  | cons c rest ih =>
      obtain ⟨own, later⟩ := List.forall_mem_cons.mp parts
      have first : step ⟨opened, .named name :: row, .word⟩ c =
          ⟨opened, .named (name.push c) :: row, .word⟩ := by
        simp [step, own, letter, spell]
      have whole : name.push c ++ String.ofList rest = name ++ String.ofList (c :: rest) := by
        apply String.toList_inj.mp
        simp
      rw [List.foldl_cons, first, ih _ later, whole]

theorem name_read (name : String) (named : IsIdentifier name) (opened : List Open)
    (row : List TypeExpr) :
    name.toList.foldl step ⟨opened, row, .code⟩ = ⟨opened, .named name :: row, .word⟩ := by
  obtain ⟨c, rest, spelled, -, parts⟩ := Name.identifier_parts name named
  rw [spelled] at parts
  obtain ⟨own, later⟩ := List.forall_mem_cons.mp parts
  have first : step ⟨opened, row, .code⟩ c =
      ⟨opened, .named (String.singleton c) :: row, .word⟩ := by
    simp [step, own, letter]
  have whole : String.singleton c ++ String.ofList rest = name := by
    apply String.toList_inj.mp
    simp [spelled]
  rw [spelled, List.foldl_cons, first, letters_read rest opened _ row later, whole]

theorem escaped_read (cs : List Char) (opened : List Open) (value : String) (row : List TypeExpr) :
    (cs.flatMap escapeChar).foldl step ⟨opened, .literal value :: row, .literal⟩ =
      ⟨opened, .literal (value ++ String.ofList cs) :: row, .literal⟩ := by
  induction cs generalizing value with
  | nil => simp
  | cons c rest ih =>
      have own : (escapeChar c).foldl step ⟨opened, .literal value :: row, .literal⟩ =
          ⟨opened, .literal (value.push c) :: row, .literal⟩ := by
        rw [escapeChar]
        split_ifs with quote slash feed return_ tab
        · simp [step, spell, unescape, quote]
        · simp [step, spell, unescape, slash]
        · simp [step, spell, unescape, feed]
        · simp [step, spell, unescape, return_]
        · simp [step, spell, unescape, tab]
        · simp [step, spell, quote, slash]
      have whole : value.push c ++ String.ofList rest = value ++ String.ofList (c :: rest) := by
        apply String.toList_inj.mp
        simp
      rw [List.flatMap_cons, List.foldl_append, own, ih, whole]

theorem literal_reads (value : String) : Reads (quoted value).toList [.literal value] := by
  intro opened row
  refine ⟨.code, .inl rfl, ?_⟩
  have opens : step ⟨opened, row, .code⟩ '"' = ⟨opened, .literal "" :: row, .literal⟩ :=
    step_mark opened row .code '"' (.inl rfl) (by decide)
  rw [quoted, String.toList_ofList, List.foldl_cons, opens, List.foldl_append, escaped_read]
  simp [step]

theorem bar_read (opened : List Open) (row : List TypeExpr) (place : Place)
    (free : place = .code ∨ place = .word) :
    " | ".toList.foldl step ⟨opened, row, place⟩ = ⟨opened, row, .code⟩ := by
  have blank : step ⟨opened, row, place⟩ ' ' = ⟨opened, row, .code⟩ :=
    step_mark opened row place ' ' free (by decide)
  have bar : step ⟨opened, row, .code⟩ '|' = ⟨opened, row, .code⟩ :=
    step_mark opened row .code '|' (.inl rfl) (by decide)
  have gap : step ⟨opened, row, .code⟩ ' ' = ⟨opened, row, .code⟩ :=
    step_mark opened row .code ' ' (.inl rfl) (by decide)
  simp [blank, bar, gap]

theorem comma_read (opened : List Open) (name : String) (args outer row : List TypeExpr)
    (place : Place) (free : place = .code ∨ place = .word) :
    ", ".toList.foldl step ⟨.arguments name args outer :: opened, row, place⟩ =
      ⟨.arguments name (endArgument row args) outer :: opened, [], .code⟩ := by
  have comma : step ⟨.arguments name args outer :: opened, row, place⟩ ',' =
      ⟨.arguments name (endArgument row args) outer :: opened, [], .code⟩ :=
    step_mark _ row place ',' free (by decide)
  have gap (inner : List Open) : step ⟨inner, [], .code⟩ ' ' = ⟨inner, [], .code⟩ :=
    step_mark inner [] .code ' ' (.inl rfl) (by decide)
  simp [comma, gap]

theorem brackets_reads (cs : List Char) (element : TypeExpr) (reads : Reads cs [element]) :
    Reads (cs ++ "[]".toList) [.arrayOf element] := by
  intro opened row
  obtain ⟨place, free, behind⟩ := reads opened row
  have opens : step ⟨opened, element :: row, place⟩ '[' = ⟨opened, element :: row, .code⟩ :=
    step_mark opened _ place '[' free (by decide)
  have closes : step ⟨opened, element :: row, .code⟩ ']' =
      ⟨opened, .arrayOf element :: row, .code⟩ :=
    step_mark opened _ .code ']' (.inl rfl) (by decide)
  refine ⟨.code, .inl rfl, ?_⟩
  rw [List.foldl_append, behind]
  simp [opens, closes]

theorem parentheses_reads (cs : List Char) (ts : List TypeExpr) (reads : Reads cs ts) :
    Reads ("(".toList ++ cs ++ ")".toList) [ofMembers ts] := by
  intro opened row
  obtain ⟨place, free, behind⟩ := reads (.parenthesis row :: opened) []
  have opens : step ⟨opened, row, .code⟩ '(' = ⟨.parenthesis row :: opened, [], .code⟩ :=
    step_mark opened row .code '(' (.inl rfl) (by decide)
  have closes : step ⟨.parenthesis row :: opened, ts.reverse, place⟩ ')' =
      ⟨opened, ofMembers ts.reverse.reverse :: row, .code⟩ :=
    step_mark _ _ place ')' free (by decide)
  refine ⟨.code, .inl rfl, ?_⟩
  rw [List.foldl_append, List.foldl_append]
  simp only [List.append_nil] at behind
  simp [opens, behind, closes]

-- The arguments of a name up to the bracket behind them, those before them having been read.
def ArgumentsRead (cs : List Char) (ts : List TypeExpr) : Prop :=
  ∀ opened name args outer,
    (cs ++ ['>']).foldl step ⟨.arguments name args outer :: opened, [], .code⟩ =
      ⟨opened, .generic name (args.reverse ++ ts) :: outer, .code⟩

theorem arguments_end (opened : List Open) (name : String) (args outer row : List TypeExpr)
    (place : Place) (free : place = .code ∨ place = .word) :
    step ⟨.arguments name args outer :: opened, row, place⟩ '>' =
      ⟨opened, .generic name (endArgument row args).reverse :: outer, .code⟩ :=
  step_mark _ row place '>' free (by decide)

theorem end_argument_some (ts args : List TypeExpr) (some_ : ts ≠ []) :
    endArgument ts.reverse args = ofMembers ts :: args := by
  simp [endArgument, some_]

mutual

theorem members_some : ∀ t : TypeExpr, WellSpelled IsIdentifier t → members t ≠ []
  | .union ts, ⟨some_, spelled⟩ => all_members_some ts some_ spelled
  | .named _, _ => List.cons_ne_nil _ _
  | .arrayOf _, _ => List.cons_ne_nil _ _
  | .generic _ _, _ => List.cons_ne_nil _ _
  | .literal _, _ => List.cons_ne_nil _ _

theorem all_members_some : ∀ ts : List TypeExpr, ts ≠ [] → WellSpelledAll IsIdentifier ts →
    allMembers ts ≠ []
  | [], some_, _ => absurd rfl some_
  | t :: rest, _, ⟨own, _⟩ => by
      rw [allMembers]
      exact List.append_ne_nil_of_left_ne_nil (members_some t own) _

end

theorem array_reads (element : TypeExpr) (reads : Reads element.render.toList element.members) :
    Reads (arrayOf element).render.toList [.arrayOf element.flatten] := by
  by_cases union : IsUnion element
  · cases element with
    | union ts =>
        have inner := brackets_reads _ _ (parentheses_reads _ _ reads)
        simpa [render, flatten] using inner
    | _ => exact absurd union id
  · rw [members_single element union] at reads
    have inner := brackets_reads _ _ reads
    cases element with
    | union ts => exact absurd trivial union
    | _ => simpa [render] using inner

theorem generic_reads (name : String) (args : List String) (ts : List TypeExpr)
    (named : IsIdentifier name) (read : ArgumentsRead (Text.join ", " args).toList ts) :
    Reads (name ++ "<" ++ Text.join ", " args ++ ">").toList [.generic name ts] := by
  intro opened row
  have opens : step ⟨opened, .named name :: row, .word⟩ '<' =
      ⟨.arguments name [] row :: opened, [], .code⟩ :=
    step_mark opened _ .word '<' (.inr rfl) (by decide)
  have inner := read opened name [] row
  refine ⟨.code, .inl rfl, ?_⟩
  rw [List.foldl_append] at inner
  simp only [String.toList_append, List.foldl_append, name_read name named]
  simpa [opens] using inner

mutual

theorem render_reads : ∀ t : TypeExpr, WellSpelled IsIdentifier t → Reads t.render.toList t.members
  | .named name, isName => fun opened row => by
      rw [render]
      exact ⟨.word, .inr rfl, name_read name isName opened row⟩
  | .arrayOf element, spelled => array_reads element (render_reads element spelled)
  | .union ts, ⟨some_, spelled⟩ => by
      rw [render, members]
      exact row_reads ts some_ spelled
  | .generic name args, ⟨isName, spelled⟩ => by
      rw [render, members]
      exact generic_reads name _ _ isName (arguments_read args spelled)
  | .literal value, _ => by
      rw [render]
      exact literal_reads value

theorem row_reads : ∀ ts : List TypeExpr, ts ≠ [] → WellSpelledAll IsIdentifier ts →
    Reads (Text.join " | " (renderAll ts)).toList (allMembers ts)
  | [], some_, _ => absurd rfl some_
  | [t], _, ⟨own, _⟩ => by simpa [renderAll, Text.join, allMembers] using render_reads t own
  | t :: u :: rest, _, ⟨own, later⟩ => fun opened row => by
      obtain ⟨place, free, first⟩ := render_reads t own opened row
      obtain ⟨last, ends, others⟩ :=
        row_reads (u :: rest) (List.cons_ne_nil _ _) later opened (t.members.reverse ++ row)
      refine ⟨last, ends, ?_⟩
      rw [renderAll, Text.join_cons " | " _ _ (by simp [renderAll]), String.toList_append,
        String.toList_append, List.foldl_append, List.foldl_append, first,
        bar_read opened _ place free, others]
      simp [allMembers]

theorem arguments_read : ∀ ts : List TypeExpr, WellSpelledAll IsIdentifier ts →
    ArgumentsRead (Text.join ", " (renderAll ts)).toList (flattenAll ts)
  | [], _ => fun opened name args outer => by
      simp [renderAll, Text.join, arguments_end, endArgument, flattenAll]
  | [t], ⟨own, _⟩ => fun opened name args outer => by
      obtain ⟨place, free, first⟩ := render_reads t own (.arguments name args outer :: opened) []
      rw [List.append_nil] at first
      rw [show Text.join ", " (renderAll [t]) = t.render from rfl, List.foldl_append, first]
      simp [arguments_end _ _ _ _ _ place free, end_argument_some _ _ (members_some t own),
        flattenAll]
  | t :: u :: rest, ⟨own, later⟩ => fun opened name args outer => by
      obtain ⟨place, free, first⟩ := render_reads t own (.arguments name args outer :: opened) []
      rw [List.append_nil] at first
      have others := arguments_read (u :: rest) later opened name (t.flatten :: args) outer
      rw [renderAll, Text.join_cons ", " _ _ (by simp [renderAll]), String.toList_append,
        String.toList_append, List.append_assoc, List.append_assoc, List.foldl_append, first,
        List.foldl_append, comma_read _ _ _ _ _ place free,
        end_argument_some _ _ (members_some t own)]
      simpa [flattenAll, flatten] using others

end

theorem read_render (t : TypeExpr) (spelled : WellSpelled IsIdentifier t) :
    read t.render = t.members := by
  obtain ⟨place, -, behind⟩ := render_reads t spelled [] []
  simp [read, behind]

theorem same_text_same_type (s t : TypeExpr) (spelled : WellSpelled IsIdentifier s)
    (otherSpelled : WellSpelled IsIdentifier t) (same : s.render = t.render) :
    s.flatten = t.flatten ∧ Flat s.flatten ∧ (Flat s → Flat t → s = t) := by
  have members : s.members = t.members := by
    rw [← read_render s spelled, same, read_render t otherSpelled]
  have flattened : s.flatten = t.flatten := congrArg ofMembers members
  refine ⟨flattened, flatten_flat s, fun flat otherFlat => ?_⟩
  rwa [flatten_of_flat s flat, flatten_of_flat t otherFlat] at flattened

-- Two types whose unions are grouped in different ways. The literals hold marks that mean something
-- outside of them.
def groupedFirst : TypeExpr :=
  .generic "Map" [.union [.union [.literal "a | b", .named "string"], .named "null"],
    .arrayOf (.union [.union [.named "Key"], .literal ">, \""])]

def groupedLast : TypeExpr :=
  .generic "Map" [.union [.literal "a | b", .union [.named "string", .named "null"]],
    .arrayOf (.union [.named "Key", .union [.literal ">, \""]])]

theorem grouped_types_alike :
    WellSpelled IsIdentifier groupedFirst ∧ WellSpelled IsIdentifier groupedLast ∧
      groupedFirst.render = groupedLast.render ∧ groupedFirst.flatten = groupedLast.flatten := by
  have first : WellSpelled IsIdentifier groupedFirst := by
    simp only [groupedFirst, WellSpelled, WellSpelledAll, IsIdentifier, ne_eq, reduceCtorEq,
      not_false_eq_true, and_true, true_and]
    decide
  have last : WellSpelled IsIdentifier groupedLast := by
    simp only [groupedLast, WellSpelled, WellSpelledAll, IsIdentifier, ne_eq, reduceCtorEq,
      not_false_eq_true, and_true, true_and]
    decide
  have same : groupedFirst.render = groupedLast.render := by
    simp [groupedFirst, groupedLast, render, renderAll, Text.join, String.append_assoc]
  exact ⟨first, last, same, (same_text_same_type _ _ first last same).1⟩

end ApiContract.Code.TypeExpr
