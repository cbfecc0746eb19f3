import ApiContract.Proofs.Code.Indentation
import ApiContract.Proofs.Code.Template

/-!
Which characters of code stand in string and template literals. A text is read one character at a
time; what is read of it is the content of each literal, and the characters outside of literals
without the blanks. Patterns between slashes are not read, and neither is a line end behind a
backslash.
-/

set_option autoImplicit false

namespace ApiContract.Literals

open Code
open Grammar (endsLine)

inductive Piece where
  | code (c : Char)
  | opens (quote : Char)
  | text (c : Char)
  | closes
deriving DecidableEq

inductive Place where
  | code
  | slash
  | line
  | block
  | star
  | literal (quote : Char)
  | escaped (quote : Char)
  | dollar
  | broken
deriving DecidableEq

-- A place in a text, and the braces that are open in each hole of a template around it.
structure Spot where
  place : Place
  holes : List Nat
deriving DecidableEq

namespace Spot

def start : Spot := ⟨.code, []⟩

def outside (c : Char) : List Piece :=
  if c = ' ' ∨ c = '\n' ∨ c = '\r' then [] else [.code c]

def inCode (holes : List Nat) (c : Char) : List Piece × Spot :=
  if c = '"' ∨ c = '\'' ∨ c = '\x60' then ([.opens c], ⟨.literal c, holes⟩)
  else if c = '/' then (outside c, ⟨.slash, holes⟩)
  else if c = '\x7b' then (outside c, ⟨.code, holes.modifyHead (· + 1)⟩)
  else if c = '\x7d' then
    match holes with
    | 0 :: outer => ([.code c, .opens '\x60'], ⟨.literal '\x60', outer⟩)
    | (inner + 1) :: outer => (outside c, ⟨.code, inner :: outer⟩)
    | [] => (outside c, ⟨.code, []⟩)
  else (outside c, ⟨.code, holes⟩)

-- Only a template goes on behind the end of a line.
def inLiteral (holes : List Nat) (quote c : Char) : List Piece × Spot :=
  if quote ≠ '\x60' ∧ (c = '\n' ∨ c = '\r') then ([], ⟨.broken, holes⟩)
  else if c = quote then ([.closes], ⟨.code, holes⟩)
  else if c = '\\' then ([.text c], ⟨.escaped quote, holes⟩)
  else if quote = '\x60' ∧ c = '$' then ([], ⟨.dollar, holes⟩)
  else ([.text c], ⟨.literal quote, holes⟩)

def step (s : Spot) (c : Char) : List Piece × Spot :=
  match s.place with
  | .code => inCode s.holes c
  | .slash =>
      if c = '/' then (outside c, ⟨.line, s.holes⟩)
      else if c = '*' then (outside c, ⟨.block, s.holes⟩)
      else inCode s.holes c
  | .line => (outside c, ⟨if endsLine c then .code else .line, s.holes⟩)
  | .block => (outside c, ⟨if c = '*' then .star else .block, s.holes⟩)
  | .star =>
      (outside c, ⟨if c = '/' then .code else if c = '*' then .star else .block, s.holes⟩)
  | .literal quote => inLiteral s.holes quote c
  | .escaped quote =>
      if c = '\n' ∨ c = '\r' then ([], ⟨.broken, s.holes⟩)
      else ([.text c], ⟨.literal quote, s.holes⟩)
  | .dollar =>
      if c = '\x7b' then ([.closes, .code '$', .code c], ⟨.code, 0 :: s.holes⟩)
      else (.text '$' :: (inLiteral s.holes '\x60' c).1, (inLiteral s.holes '\x60' c).2)
  | .broken => ([], s)

def run (s : Spot) : List Char → List Piece × Spot
  | [] => ([], s)
  | c :: rest => ((s.step c).1 ++ ((s.step c).2.run rest).1, ((s.step c).2.run rest).2)

-- The end of the line ends all that is read here.
def Rests (s : Spot) : Prop :=
  (s.step '\n').2 = start

instance (s : Spot) : Decidable s.Rests :=
  inferInstanceAs (Decidable ((s.step '\n').2 = start))

end Spot

open Spot

def pieces (text : String) : List Piece :=
  (start.run text.toList).1

-- A text that is read to its end as code.
def Readable (text : String) : Prop :=
  (start.run text.toList).2 = start

theorem run_cons (s : Spot) (c : Char) (rest : List Char) :
    s.run (c :: rest) = ((s.step c).1 ++ ((s.step c).2.run rest).1, ((s.step c).2.run rest).2) :=
  rfl

theorem run_append (s : Spot) (first second : List Char) :
    s.run (first ++ second) =
      ((s.run first).1 ++ ((s.run first).2.run second).1, ((s.run first).2.run second).2) := by
  induction first generalizing s with
  | nil => rfl
  | cons c rest ih => rw [List.cons_append, run_cons, run_cons, ih, List.append_assoc]

-- What the end of a line does in each place.
def Spot.feed (s : Spot) : List Piece × Spot :=
  match s.place with
  | .code | .slash | .line => ([], ⟨.code, s.holes⟩)
  | .block | .star => ([], ⟨.block, s.holes⟩)
  | .literal quote =>
      if quote = '\x60' then ([.text '\n'], ⟨.literal '\x60', s.holes⟩) else ([], ⟨.broken, s.holes⟩)
  | .dollar => ([.text '$', .text '\n'], ⟨.literal '\x60', s.holes⟩)
  | .escaped _ | .broken => ([], ⟨.broken, s.holes⟩)

theorem step_feed (s : Spot) : s.step '\n' = s.feed := by
  obtain ⟨place, holes⟩ := s
  cases place with
  | literal quote =>
      by_cases tick : quote = '\x60'
      · subst tick
        rfl
      · simp [step, feed, inLiteral, tick]
  | _ => rfl

-- A line end in two characters is read as the one that it ends with, but for a literal it is in.
theorem return_feed (s : Spot) :
    s.run ['\r', '\n'] = s.feed ∨
      (s.run ['\r', '\n']).2 = s.feed.2 ∧ s.feed.2.place = .literal '\x60' ∧
        ∃ before, s.feed.1 = before ++ [.text '\n'] ∧
          (s.run ['\r', '\n']).1 = before ++ [.text '\r', .text '\n'] := by
  obtain ⟨place, holes⟩ := s
  cases place with
  | literal quote =>
      by_cases tick : quote = '\x60'
      · subst tick
        exact .inr ⟨rfl, rfl, [], rfl, rfl⟩
      · exact .inl (by simp [run, step, feed, inLiteral, tick])
  | dollar => exact .inr ⟨rfl, rfl, [.text '$'], rfl, rfl⟩
  | _ => exact .inl rfl

theorem rests_iff (s : Spot) :
    s.Rests ↔ s.holes = [] ∧ (s.place = .code ∨ s.place = .slash ∨ s.place = .line) := by
  obtain ⟨place, holes⟩ := s
  rw [Rests, step_feed]
  cases place with
  | literal quote => by_cases tick : quote = '\x60' <;> simp [feed, start, tick]
  | _ => simp [feed, start]

theorem rests_feed (s : Spot) (rests : s.Rests) : s.feed = ([], start) := by
  obtain ⟨holes, places⟩ := (rests_iff s).mp rests
  rcases places with place | place | place <;> simp [feed, start, place, holes]

-- Where a line may begin.
def Spot.Fresh (s : Spot) : Prop :=
  s.place = .code ∨ s.place = .block ∨ s.place = .broken ∨ s.place = .literal '\x60'

theorem feed_fresh (s : Spot) : s.feed.2.Fresh := by
  obtain ⟨place, holes⟩ := s
  cases place with
  | literal quote => by_cases tick : quote = '\x60' <;> simp [feed, Fresh, tick]
  | _ => simp [feed, Fresh]

theorem feed_literal (s : Spot) : .text '\n' ∈ s.feed.1 ↔ s.feed.2.place = .literal '\x60' := by
  obtain ⟨place, holes⟩ := s
  cases place with
  | literal quote => by_cases tick : quote = '\x60' <;> simp [feed, tick]
  | _ => simp [feed]

theorem run_blanks (s : Spot) (count : Nat) (fresh : s.Fresh) (free : s.place ≠ .literal '\x60') :
    s.run (List.replicate count ' ') = ([], s) := by
  have still : s.step ' ' = ([], s) := by
    obtain ⟨place, holes⟩ := s
    rcases fresh with rfl | rfl | rfl | rfl
    · rfl
    · rfl
    · rfl
    · exact absurd rfl free
  induction count with
  | zero => rfl
  | succ count ih =>
      rw [List.replicate_succ, run_cons, still, ih]
      rfl

theorem run_literal_blanks (s : Spot) (count : Nat) (inside : s.place = .literal '\x60') :
    s.run (List.replicate count ' ') = (List.replicate count (.text ' '), s) := by
  have still : s.step ' ' = ([.text ' '], s) := by
    obtain ⟨place, holes⟩ := s
    subst inside
    rfl
  induction count with
  | zero => rfl
  | succ count ih =>
      rw [List.replicate_succ, run_cons, still, ih]
      rfl

-- Only a line end is read as a line end.
theorem step_no_feed (s : Spot) (c : Char) (noFeed : c ≠ '\n') : .text '\n' ∉ (s.step c).1 := by
  have outer : .text '\n' ∉ outside c := by
    rw [outside]
    split <;> simp
  have inner (holes : List Nat) : .text '\n' ∉ (inCode holes c).1 := by
    unfold inCode
    repeat' split
    all_goals simp [outer]
  have literal (holes : List Nat) (quote : Char) : .text '\n' ∉ (inLiteral holes quote c).1 := by
    rw [inLiteral]
    repeat' split
    all_goals simp [Ne.symm noFeed]
  obtain ⟨place, holes⟩ := s
  cases place with
  | code => exact inner holes
  | slash =>
      dsimp only [step]
      repeat' split
      · exact outer
      · exact outer
      · exact inner holes
  | line => exact outer
  | block => exact outer
  | star => exact outer
  | literal quote => exact literal holes quote
  | escaped quote =>
      dsimp only [step]
      split <;> simp [Ne.symm noFeed]
  | dollar =>
      dsimp only [step]
      split
      · simp
      · simpa using literal holes '\x60'
  | broken => exact List.not_mem_nil

-- The blanks and carriage returns of literals taken out.
def thin (read : List Piece) : List Piece :=
  read.filter fun piece => piece ≠ .text ' ' ∧ piece ≠ .text '\r'

@[simp] theorem thin_append (first second : List Piece) :
    thin (first ++ second) = thin first ++ thin second := by
  simp [thin]

def spaces (read : List Piece) : Nat :=
  read.count (.text ' ')

@[simp] theorem spaces_append (first second : List Piece) :
    spaces (first ++ second) = spaces first + spaces second := by
  simp [spaces]

-- A text that is moved in as what it has to be compared with: it is the same, unless a line of it
-- that begins in a literal was moved; that literal has more blanks then.
structure Moves (own : List Piece) (read : List Piece × Spot) (moved : Prop) : Prop where
  rests : read.2.Rests
  thinned : thin read.1 = thin own
  fewer : spaces own ≤ spaces read.1
  kept : ¬ moved → read.1 = own
  grown : moved → spaces own < spaces read.1

theorem moves_behind (before : List Piece) {own : List Piece} {read : List Piece × Spot}
    {moved : Prop} (moves : Moves own read moved) :
    Moves (before ++ own) (before ++ read.1, read.2) moved where
  rests := moves.rests
  thinned := by simp [moves.thinned]
  fewer := by simpa using moves.fewer
  kept still := by rw [moves.kept still]
  grown more := by simpa using moves.grown more

theorem still_moves (read : List Piece × Spot) (rests : read.2.Rests) (moved : Prop)
    (still : ¬ moved) : Moves read.1 read moved :=
  ⟨rests, rfl, Nat.le_refl _, fun _ => rfl, fun more => absurd more still⟩

theorem moves_congr {own : List Piece} {read : List Piece × Spot} {moved same : Prop}
    (moves : Moves own read moved) (iff : moved ↔ same) : Moves own read same :=
  propext iff ▸ moves

-- More blanks in a literal.
theorem moves_blanks (count : Nat) {own : List Piece} {read : List Piece × Spot} {moved : Prop}
    (moves : Moves own read moved) :
    Moves own (List.replicate (count + 1) (.text ' ') ++ read.1, read.2) True where
  rests := moves.rests
  thinned := by
    have gone : thin (List.replicate (count + 1) (.text ' ')) = [] := by simp [thin]
    rw [thin_append, gone, List.nil_append, moves.thinned]
  fewer := by
    have fewer := moves.fewer
    simp only [spaces_append]
    omega
  kept still := absurd trivial still
  grown _ := by
    have fewer := moves.fewer
    have some_ : spaces (List.replicate (count + 1) (.text ' ')) = count + 1 := by simp [spaces]
    simp only [spaces_append, some_]
    omega

theorem rests_free (s : Spot) (rests : s.Rests) : s.place ≠ .literal '\x60' := by
  intro inside
  have places := ((rests_iff s).mp rests).2
  simp [inside] at places

theorem feed_to_rest (s : Spot) (rests : s.feed.2.Rests) : s.Rests := by
  obtain ⟨place, holes⟩ := s
  obtain ⟨none_, places⟩ := (rests_iff _).mp rests
  rw [rests_iff]
  cases place with
  | literal quote => by_cases tick : quote = '\x60' <;> simp_all [feed]
  | _ => simp_all [feed]

theorem literal_feed (s : Spot) (inside : s.place = .literal '\x60') :
    s.feed.2.place = .literal '\x60' := by
  rw [feed, inside]
  rfl

-- By induction on the text. What is put in front of a line is read as nothing, unless the line
-- begins in a literal.
theorem pad_moves (count : Nat) (atLine : Bool) (cs : List Char) (s : Spot)
    (fresh : atLine = true → s.Fresh) (rests : (s.run cs).2.Rests) :
    Moves (s.run cs).1 (s.run (padLines (List.replicate (count + 1) ' ') atLine cs))
      (.text '\n' ∈ (s.run cs).1 ∨ atLine = true ∧ s.place = .literal '\x60') := by
  fun_induction padLines (List.replicate (count + 1) ' ') atLine cs generalizing s with
  | case1 atLine =>
      refine still_moves (s.run []) rests _ ?_
      rintro (feed | ⟨-, inside⟩)
      · cases feed
      · exact rests_free s rests inside
  | case2 atLine =>
      rw [run_cons, step_feed] at rests ⊢
      have resting := feed_to_rest s rests
      rw [rests_feed s resting]
      refine still_moves (s.run []) resting _ ?_
      rintro (feed | ⟨-, inside⟩)
      · cases feed
      · exact rests_free s resting inside
  | case3 atLine rest more ih =>
      rw [run_cons, step_feed] at rests ⊢
      rw [run_cons, step_feed]
      have later := ih s.feed.2 (fun _ => feed_fresh s) rests
      refine moves_congr (moves_behind s.feed.1 later) ?_
      rw [List.mem_append, feed_literal]
      constructor
      · rintro (feed | ⟨-, inside⟩)
        · exact .inl (.inr feed)
        · exact .inl (.inl inside)
      · rintro ((inside | feed) | ⟨-, inside⟩)
        · exact .inr ⟨rfl, inside⟩
        · exact .inl feed
        · exact .inr ⟨rfl, literal_feed s inside⟩
  | case4 atLine c rest noFeed both ih =>
      obtain ⟨rfl, head⟩ := both
      obtain ⟨after, rfl⟩ := List.head?_eq_some_iff.mp head
      have split : s.run ('\r' :: '\n' :: after) =
          ((s.run ['\r', '\n']).1 ++ ((s.run ['\r', '\n']).2.run after).1,
            ((s.run ['\r', '\n']).2.run after).2) :=
        run_append s ['\r', '\n'] after
      have alone : s.run ('\n' :: after) =
          (s.feed.1 ++ (s.feed.2.run after).1, (s.feed.2.run after).2) := by
        rw [run_cons, step_feed]
      rcases return_feed s with same | ⟨spot, -, before, feed, return_⟩
      · rw [same] at split
        rw [split, ← alone] at rests ⊢
        exact ih s fresh rests
      · rw [spot, return_] at split
        rw [split] at rests ⊢
        have later := ih s fresh (by rwa [alone])
        rw [alone, feed] at later
        exact {
          rests := later.rests
          thinned := by rw [later.thinned]; simp [thin]
          fewer := by simpa [spaces] using later.fewer
          kept := fun still => absurd (by simp) still
          grown := fun _ => by simpa [spaces] using later.grown (by simp) }
  | case5 atLine c rest noFeed both ih =>
      rw [run_cons] at rests ⊢
      have free : false = true → (s.step c).2.Fresh := fun same => absurd same Bool.false_ne_true
      have later := moves_behind (s.step c).1 (ih (s.step c).2 free rests)
      have own := step_no_feed s c noFeed
      cases atLine with
      | false =>
          refine moves_congr later ?_
          simp [own]
      | true =>
          rw [if_pos rfl, run_append]
          by_cases inside : s.place = .literal '\x60'
          · rw [run_literal_blanks s _ inside]
            refine moves_congr (moves_blanks count later) ?_
            simp [inside]
          · rw [run_blanks s _ (fresh rfl) inside]
            refine moves_congr later ?_
            simp [own, inside]

theorem indent_moves (level : Nat) (text : String) (rests : (start.run text.toList).2.Rests) :
    Moves (pieces text) (start.run (indent (level + 1) text).toList)
      (.text '\n' ∈ pieces text) := by
  have moves := pad_moves (2 * level + 1) true text.toList start (fun _ => .inl rfl) rests
  rw [indent_padded]
  refine moves_congr moves ?_
  simp [pieces, start]

theorem thin_feed (read : List Piece) : .text '\n' ∈ thin read ↔ .text '\n' ∈ read := by
  simp [thin]

-- What was read of a text moved in, and moved in once more.
theorem indent_moves_on (level : Nat) {text : String} {own : List Piece} {moved : Prop}
    (moves : Moves own (start.run text.toList) moved) (within : moved → .text '\n' ∈ own) :
    Moves own (start.run (indent (level + 1) text).toList) (.text '\n' ∈ own) := by
  obtain ⟨rests, thinned, fewer, kept, grown⟩ := moves
  have later := indent_moves level text rests
  have feeds : .text '\n' ∈ pieces text ↔ .text '\n' ∈ own := by
    rw [← thin_feed own, ← thinned, thin_feed, pieces]
  exact {
    rests := later.rests
    thinned := later.thinned.trans thinned
    fewer := fewer.trans later.fewer
    kept := fun still => (later.kept (mt feeds.mp still)).trans (kept (mt within still))
    grown := fun feed => fewer.trans_lt (later.grown (feeds.mpr feed)) }

end ApiContract.Literals
