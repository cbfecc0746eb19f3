import ApiContract.Proofs.Code.Layout

/-!
Indentation character by character: a margin goes in front of each line that is not empty. Two
indentations of a text of whole lines are one by both levels, and texts put one below the other are
moved in each by itself.
-/

set_option autoImplicit false

namespace ApiContract.Code

open Text (Unbroken)

-- A text with `pad` in front of each line that is not empty; `start` says that a line begins here.
-- A carriage return goes with the line feed behind it, and no line feed stays at the very end.
def padLines (pad : List Char) (start : Bool) : List Char → List Char
  | [] => []
  | c :: rest =>
      if c = '\n' then
        if rest = [] then [] else '\n' :: padLines pad true rest
      else if c = '\r' ∧ rest.head? = some '\n' then padLines pad start rest
      else (if start then pad else []) ++ c :: padLines pad false rest

-- A text that is not empty and ends inside a line, without a carriage return anywhere.
structure WholeLines (cs : List Char) : Prop where
  nonempty : cs ≠ []
  open_end : cs.getLast? ≠ some '\n'
  no_return : '\r' ∉ cs

instance (cs : List Char) : Decidable (WholeLines cs) :=
  decidable_of_iff (cs ≠ [] ∧ cs.getLast? ≠ some '\n' ∧ '\r' ∉ cs)
    ⟨fun ⟨some_, openEnd, noReturn⟩ => ⟨some_, openEnd, noReturn⟩,
      fun ⟨some_, openEnd, noReturn⟩ => ⟨some_, openEnd, noReturn⟩⟩

theorem pad_nil (pad : List Char) (start : Bool) : padLines pad start [] = [] := rfl

theorem pad_feed (pad : List Char) (start : Bool) (rest : List Char) (more : rest ≠ []) :
    padLines pad start ('\n' :: rest) = '\n' :: padLines pad true rest := by
  rw [padLines, if_pos rfl, if_neg more]

theorem pad_return (pad : List Char) (start : Bool) (rest : List Char) :
    padLines pad start ('\r' :: '\n' :: rest) = padLines pad start ('\n' :: rest) := by
  rw [padLines, if_neg (by decide), if_pos ⟨rfl, rfl⟩]

theorem pad_inside (pad : List Char) (start : Bool) (c : Char) (rest : List Char)
    (noFeed : c ≠ '\n') (noReturn : c = '\r' → rest.head? ≠ some '\n') :
    padLines pad start (c :: rest) = (if start then pad else []) ++ c :: padLines pad false rest := by
  rw [padLines, if_neg noFeed, if_neg (fun both => noReturn both.1 both.2)]

def paddedLine (pad line : List Char) : List Char :=
  if line.isEmpty then [] else pad ++ line

-- By induction on the text: the first line is padded where it begins, the others always.
theorem pad_lines (pad : List Char) (cs : List Char) :
    ∀ start first others, Text.lines cs = first :: others →
      padLines pad start cs = (if start then paddedLine pad first else first) ++
        others.flatMap fun line => '\n' :: paddedLine pad line := by
  induction cs with
  | nil => simp [Text.lines]
  | cons c rest ih =>
      intro start first others cut
      by_cases feed : c = '\n'
      · subst feed
        obtain ⟨rfl, rfl⟩ := List.cons.inj (cut.symm.trans (Text.lines.eq_2 rest))
        cases following : Text.lines rest with
        | nil =>
            rw [(Text.lines_empty_iff rest).mp following]
            cases start <;> rfl
        | cons second more =>
            have some_ : rest ≠ [] := by
              rintro rfl
              cases following
            rw [pad_feed pad start rest some_, ih true second more following]
            cases start <;> simp [paddedLine]
      · by_cases return_ : c = '\r' ∧ rest.head? = some '\n'
        · obtain ⟨rfl, head⟩ := return_
          obtain ⟨after, rfl⟩ := List.head?_eq_some_iff.mp head
          rw [pad_return]
          exact ih start first others cut
        · have plain : ∀ after, c = '\r' → rest = '\n' :: after → False := by
            rintro after same rfl
            exact return_ ⟨same, rfl⟩
          rw [Text.lines.eq_4 c rest feed plain] at cut
          rw [pad_inside pad start c rest feed (fun same head => return_ ⟨same, head⟩)]
          cases later : Text.lines rest with
          | nil =>
              rw [later] at cut
              obtain ⟨rfl, rfl⟩ := List.cons.inj cut.symm
              rw [(Text.lines_empty_iff rest).mp later]
              cases start <;> simp [padLines, paddedLine]
          | cons second more =>
              rw [later] at cut
              obtain ⟨rfl, rfl⟩ := List.cons.inj cut.symm
              rw [ih false second others later]
              cases start <;> simp [paddedLine]

theorem indent_line_chars (level : Nat) (line : List Char) :
    (indentLine level line).toList = paddedLine (margin level) line := by
  rw [indentLine, paddedLine]
  split <;> simp

theorem indent_zero (text : String) : indent 0 text = text := rfl

theorem indent_padded (level : Nat) (text : String) :
    (indent (level + 1) text).toList = padLines (margin (level + 1)) true text.toList := by
  rw [indent, if_neg (Nat.succ_ne_zero level)]
  cases cut : Text.lines text.toList with
  | nil =>
      rw [(Text.lines_empty_iff _).mp cut]
      rfl
  | cons first others =>
      rw [pad_lines _ _ true first others cut, List.map_cons, Text.join_chars, indent_line_chars,
        List.flatMap_map]
      simp [indent_line_chars]

theorem margin_add (a b : Nat) : margin b ++ margin a = margin (a + b) := by
  rw [margin, margin, margin, List.replicate_append_replicate]
  congr 1
  omega

theorem last_behind_cons (c : Char) (rest : List Char) (some_ : rest ≠ []) :
    (c :: rest).getLast? = rest.getLast? := by
  obtain ⟨d, others, rfl⟩ := List.exists_cons_of_ne_nil some_
  exact List.getLast?_cons_cons

theorem open_behind (c : Char) (rest : List Char) (openEnd : (c :: rest).getLast? ≠ some '\n') :
    rest.getLast? ≠ some '\n' := by
  by_cases none_ : rest = []
  · rw [none_]
    exact nofun
  · rwa [last_behind_cons c rest none_] at openEnd

-- By induction on the first text: what stands behind an open line goes on with it.
theorem pad_onward (pad : List Char) (start : Bool) (cs rest : List Char) (some_ : cs ≠ [])
    (openEnd : cs.getLast? ≠ some '\n') (noReturn : '\r' ∉ cs) :
    padLines pad start (cs ++ rest) = padLines pad start cs ++ padLines pad false rest := by
  induction cs generalizing start with
  | nil => exact absurd rfl some_
  | cons c others ih =>
      obtain ⟨own, later⟩ := List.ne_and_not_mem_of_not_mem_cons noReturn
      have plain (cs : List Char) : c = '\r' → cs.head? ≠ some '\n' :=
        fun same => absurd same.symm own
      by_cases last : others = []
      · subst last
        have noFeed : c ≠ '\n' := by
          rintro rfl
          exact openEnd rfl
        rw [List.singleton_append, pad_inside pad start c _ noFeed (plain _),
          pad_inside pad start c _ noFeed (plain _)]
        simp [pad_nil]
      · have onward (start : Bool) := ih start last (open_behind c others openEnd) later
        by_cases feed : c = '\n'
        · subst feed
          rw [List.cons_append, pad_feed pad start _ (by simp [last]), pad_feed pad start _ last,
            onward true, List.cons_append]
        · rw [List.cons_append, pad_inside pad start c _ feed (plain _),
            pad_inside pad start c _ feed (plain _), onward false]
          simp

theorem pad_append (pad : List Char) (start : Bool) (cs rest : List Char)
    (openEnd : cs.getLast? ≠ some '\n') (noReturn : '\r' ∉ cs) (more : rest ≠ []) :
    padLines pad start (cs ++ '\n' :: rest) =
      padLines pad start cs ++ '\n' :: padLines pad true rest := by
  by_cases none_ : cs = []
  · subst none_
    exact pad_feed pad start rest more
  · rw [pad_onward pad start cs _ none_ openEnd noReturn, pad_feed pad false rest more]

theorem pad_behind_line (pad line rest : List Char) (unbroken : Unbroken line) :
    padLines pad false (line ++ rest) = line ++ padLines pad false rest := by
  induction line with
  | nil => rfl
  | cons c others ih =>
      obtain ⟨noFeed, noReturn, later⟩ := (unbroken_cons c others).mp unbroken
      rw [List.cons_append, pad_inside pad false c _ noFeed fun same => absurd same noReturn,
        ih later]
      rfl

theorem pad_line (pad line : List Char) (unbroken : Unbroken line) :
    padLines pad false line = line := by
  have whole := pad_behind_line pad line [] unbroken
  rwa [pad_nil, List.append_nil] at whole

theorem pad_first (pad : List Char) (c : Char) (rest : List Char) (noFeed : c ≠ '\n')
    (noReturn : c ≠ '\r') :
    padLines pad true (c :: rest) = pad ++ padLines pad false (c :: rest) := by
  rw [pad_inside pad true c rest noFeed fun same => absurd same noReturn,
    pad_inside pad false c rest noFeed fun same => absurd same noReturn]
  rfl

theorem pad_with_nothing (start : Bool) (cs : List Char) (openEnd : cs.getLast? ≠ some '\n')
    (noReturn : '\r' ∉ cs) : padLines [] start cs = cs := by
  induction cs generalizing start with
  | nil => rfl
  | cons c rest ih =>
      obtain ⟨own, later⟩ := List.ne_and_not_mem_of_not_mem_cons noReturn
      have onward (start : Bool) := ih start (open_behind c rest openEnd) later
      by_cases feed : c = '\n'
      · subst feed
        have some_ : rest ≠ [] := by
          rintro rfl
          exact openEnd rfl
        rw [pad_feed [] start rest some_, onward true]
      · rw [pad_inside [] start c rest feed fun same => absurd same.symm own, onward false]
        cases start <;> rfl

theorem pad_blanks (pad : List Char) (count : Nat) (cs : List Char) :
    padLines pad false (List.replicate count ' ' ++ cs) =
      List.replicate count ' ' ++ padLines pad false cs := by
  induction count with
  | zero => rfl
  | succ count ih =>
      rw [List.replicate_succ, List.cons_append, pad_inside pad false ' ' _ (by decide) nofun, ih]
      rfl

theorem pad_margin (pad : List Char) (level : Nat) (cs : List Char) :
    padLines pad true (margin (level + 1) ++ cs) =
      pad ++ margin (level + 1) ++ padLines pad false cs := by
  have first : margin (level + 1) = ' ' :: List.replicate (2 * level + 1) ' ' := rfl
  rw [first, List.cons_append, pad_inside pad true ' ' _ (by decide) nofun, pad_blanks]
  simp

theorem pad_nonempty (pad : List Char) (start : Bool) (cs : List Char) (some_ : cs ≠ [])
    (openEnd : cs.getLast? ≠ some '\n') (noReturn : '\r' ∉ cs) : padLines pad start cs ≠ [] := by
  obtain ⟨c, rest, rfl⟩ := List.exists_cons_of_ne_nil some_
  by_cases feed : c = '\n'
  · subst feed
    have more : rest ≠ [] := by
      rintro rfl
      exact openEnd rfl
    rw [pad_feed pad start rest more]
    exact List.cons_ne_nil _ _
  · obtain ⟨own, -⟩ := List.ne_and_not_mem_of_not_mem_cons noReturn
    rw [pad_inside pad start c rest feed fun same => absurd same.symm own]
    simp

-- By induction on the text: a line that was padded begins with a blank, so it is padded once more.
theorem pad_pad (outer : List Char) (level : Nat) (start : Bool) (cs : List Char)
    (openEnd : cs.getLast? ≠ some '\n') (noReturn : '\r' ∉ cs) :
    padLines outer start (padLines (margin (level + 1)) start cs) =
      padLines (outer ++ margin (level + 1)) start cs := by
  induction cs generalizing start with
  | nil => rfl
  | cons c rest ih =>
      obtain ⟨own, later⟩ := List.ne_and_not_mem_of_not_mem_cons noReturn
      have openLater := open_behind c rest openEnd
      by_cases feed : c = '\n'
      · subst feed
        have some_ : rest ≠ [] := by
          rintro rfl
          exact openEnd rfl
        rw [pad_feed _ start rest some_, pad_feed _ start rest some_,
          pad_feed _ start _ (pad_nonempty _ true rest some_ openLater later),
          ih true openLater later]
      · have plain (cs : List Char) : c = '\r' → cs.head? ≠ some '\n' :=
          fun same => absurd same.symm own
        rw [pad_inside _ start c rest feed (plain _), pad_inside _ start c rest feed (plain _)]
        cases start with
        | true =>
            rw [if_pos rfl, pad_margin, pad_inside _ false c _ feed (plain _),
              ih false openLater later]
            simp
        | false =>
            rw [if_neg Bool.false_ne_true, List.nil_append, pad_inside _ false c _ feed (plain _),
              ih false openLater later]
            simp

theorem pad_last (pad : List Char) (start : Bool) (cs : List Char)
    (openEnd : cs.getLast? ≠ some '\n') (noReturn : '\r' ∉ cs) :
    (padLines pad start cs).getLast? = cs.getLast? := by
  induction cs generalizing start with
  | nil => rfl
  | cons c rest ih =>
      obtain ⟨own, later⟩ := List.ne_and_not_mem_of_not_mem_cons noReturn
      have openLater := open_behind c rest openEnd
      by_cases feed : c = '\n'
      · subst feed
        have some_ : rest ≠ [] := by
          rintro rfl
          exact openEnd rfl
        rw [pad_feed pad start rest some_, last_behind_cons _ _ some_,
          last_behind_cons _ _ (pad_nonempty pad true rest some_ openLater later),
          ih true openLater later]
      · rw [pad_inside pad start c rest feed fun same => absurd same.symm own,
          List.getLast?_append_of_ne_nil _ (List.cons_ne_nil _ _)]
        by_cases none_ : rest = []
        · rw [none_, pad_nil]
        · rw [last_behind_cons _ _ none_,
            last_behind_cons _ _ (pad_nonempty pad false rest none_ openLater later),
            ih false openLater later]

theorem pad_no_return (pad : List Char) (start : Bool) (cs : List Char) (noPad : '\r' ∉ pad)
    (noReturn : '\r' ∉ cs) : '\r' ∉ padLines pad start cs := by
  fun_induction padLines pad start cs with
  | case1 => exact nofun
  | case2 => exact nofun
  | case3 start rest more ih => simpa using ih (by simp_all)
  | case4 start c rest noFeed both ih => exact absurd (both.1 ▸ List.mem_cons_self) noReturn
  | case5 start c rest noFeed both ih =>
      obtain ⟨own, later⟩ := List.ne_and_not_mem_of_not_mem_cons noReturn
      have lead : '\r' ∉ (if start then pad else []) := by
        cases start <;> simp [noPad]
      simp [lead, own, ih later]

theorem margin_no_return (level : Nat) : '\r' ∉ margin level := by
  intro member
  cases List.eq_of_mem_replicate member

theorem indent_whole (level : Nat) (text : String) (whole : WholeLines text.toList) :
    WholeLines (indent level text).toList := by
  cases level with
  | zero => exact whole
  | succ level =>
      obtain ⟨nonempty, openEnd, noReturn⟩ := whole
      rw [indent_padded]
      refine ⟨pad_nonempty _ true _ nonempty openEnd noReturn, ?_,
        pad_no_return _ true _ (margin_no_return _) noReturn⟩
      rwa [pad_last _ true _ openEnd noReturn]

theorem indent_chars (level : Nat) (text : String) (whole : WholeLines text.toList) :
    (indent level text).toList = padLines (margin level) true text.toList := by
  cases level with
  | zero => exact (pad_with_nothing true _ whole.open_end whole.no_return).symm
  | succ level => exact indent_padded level text

theorem lines_padded (pad : List Char) (unbroken : Unbroken pad) (start : Bool) (cs : List Char)
    (openEnd : cs.getLast? ≠ some '\n') (noReturn : '\r' ∉ cs) :
    Text.lines (padLines pad start cs) =
      match Text.lines cs with
      | [] => []
      | first :: others =>
          (if start then paddedLine pad first else first) :: others.map (paddedLine pad) := by
  induction cs generalizing start with
  | nil => rfl
  | cons c rest ih =>
      obtain ⟨ownReturn, laterReturn⟩ := List.ne_and_not_mem_of_not_mem_cons noReturn
      by_cases feed : c = '\n'
      · subst feed
        have more : rest ≠ [] := by
          rintro rfl
          exact openEnd rfl
        have later := ih true (last_behind_cons '\n' rest more ▸ openEnd) laterReturn
        rw [pad_feed pad start rest more, Text.lines.eq_2, Text.lines.eq_2, later]
        cases Text.lines rest <;> cases start <;> simp [paddedLine]
      · have later := ih false (open_behind c rest openEnd) laterReturn
        have lead : Unbroken ((if start then pad else []) ++ [c]) := by
          cases start <;> simp [unbroken, feed, Ne.symm ownReturn]
        rw [pad_inside pad start c rest feed (fun same => absurd same.symm ownReturn),
          List.append_cons, Text.lines_behind _ _ (by simp) lead, later,
          Text.lines.eq_4 c rest feed fun _ same _ => ownReturn same.symm]
        cases Text.lines rest <;> cases start <;> simp [paddedLine]

-- What a level does to the lines of a text, in blanks.
theorem indent_lines (level : Nat) (text : String) (whole : WholeLines text.toList) :
    Text.lines (indent level text).toList =
      (Text.lines text.toList).map fun line =>
        if line.isEmpty then [] else List.replicate (2 * level) ' ' ++ line := by
  have unbroken : Unbroken (margin level) :=
    ⟨fun member => absurd (List.eq_of_mem_replicate member) (by decide), margin_no_return level⟩
  rw [indent_chars level text whole,
    lines_padded _ unbroken true _ whole.open_end whole.no_return]
  cases Text.lines text.toList <;> rfl

theorem indent_indent (a b : Nat) (text : String) (whole : WholeLines text.toList) :
    indent b (indent a text) = indent (a + b) text := by
  cases a with
  | zero => rw [indent_zero, Nat.zero_add]
  | succ a =>
      cases b with
      | zero => rfl
      | succ b =>
          rw [← String.toList_inj, indent_padded, indent_padded, ← Nat.add_assoc, indent_padded,
            pad_pad _ a true _ whole.open_end whole.no_return, margin_add]
          rfl

theorem indent_below (level : Nat) (first second : String)
    (openEnd : first.toList.getLast? ≠ some '\n') (noReturn : '\r' ∉ first.toList) (more : second ≠ "") :
    indent level (first ++ "\n" ++ second) =
      indent level first ++ "\n" ++ indent level second := by
  cases level with
  | zero => rfl
  | succ level =>
      have apart := pad_append (margin (level + 1)) true first.toList second.toList openEnd noReturn
        (by simpa using more)
      rw [← String.toList_inj, indent_padded]
      simpa [indent_padded] using apart

theorem stack_cons (level : Nat) (first : String) (others : List String) (more : others ≠ []) :
    stack level (first :: others) = indent level first ++ "\n" ++ stack level others := by
  rw [stack, List.map_cons, Text.join_cons _ _ _ (by simpa using more)]
  rfl

theorem stack_nonempty (level : Nat) (texts : List String) (some_ : texts ≠ [])
    (whole : ∀ text ∈ texts, WholeLines text.toList) : stack level texts ≠ "" := by
  obtain ⟨first, others, rfl⟩ := List.exists_cons_of_ne_nil some_
  have own := (indent_whole level first (whole first (by simp))).nonempty
  intro empty
  have chars := Text.join_chars "\n" (indent level first) (others.map (indent level))
  rw [stack, List.map_cons] at empty
  rw [empty] at chars
  exact own (List.append_eq_nil_iff.mp chars.symm).1

-- What is put one below the other is moved in each by itself.
theorem indent_stack (a b : Nat) (texts : List String)
    (whole : ∀ text ∈ texts, WholeLines text.toList) :
    indent b (stack a texts) = stack (a + b) texts := by
  induction texts with
  | nil => cases b <;> rfl
  | cons text rest ih =>
      obtain ⟨own, later⟩ := List.forall_mem_cons.mp whole
      by_cases last : rest = []
      · subst last
        exact indent_indent a b text own
      · have moved := indent_whole a text own
        rw [stack_cons a text rest last, stack_cons (a + b) text rest last,
          indent_below b _ _ moved.open_end moved.no_return (stack_nonempty a rest last later),
          ih later, indent_indent a b text own]

end ApiContract.Code
