import ApiContract.Proofs.Code.Grammar
import ApiContract.Proofs.Identifier

/-!
The texts of the operators and their tokens: a name, a text in parentheses, a sign in front of a
text, and two texts with a sign between them. Each is the phrase that the grammar makes of the
phrases inside.
-/

set_option autoImplicit false

namespace ApiContract.Grammar

open Code

theorem start_solid (c : Char) (start : Name.isStart c = true) : c.isWhitespace = false ∧ c ≠ '=' :=
  Name.part_all (fun c => c.isWhitespace = false ∧ c ≠ '=') (by decide) c (Name.start_part c start)

-- No word goes on in what comes next.
def Breaks (rest : List Char) : Prop :=
  ∀ c ∈ rest.head?, Name.isPart c = false

theorem breaks_nil : Breaks [] := by
  rintro c ⟨⟩

theorem breaks_cons (c : Char) (rest : List Char) (other : Name.isPart c = false) :
    Breaks (c :: rest) := by
  rintro d ⟨rfl⟩
  exact other

theorem tokens_word (name : String) (rest : List Char) (identifier : Name.isIdentifier name = true)
    (breaks : Breaks rest) :
    tokens (name.toList ++ rest) = (tokens rest).map (Token.word name :: ·) := by
  obtain ⟨c, cs, spelled, start, parts⟩ := Name.identifier_parts name identifier
  rw [spelled] at parts
  have within := fun d (mem : d ∈ cs) => parts d (List.mem_cons_of_mem c mem)
  have stops : rest.takeWhile Name.isPart = [] ∧ rest.dropWhile Name.isPart = rest := by
    cases rest with
    | nil => exact ⟨rfl, rfl⟩
    | cons d rest => simp [breaks d rfl]
  rw [spelled, List.cons_append, tokens, if_neg (by simp [(start_solid c start).1]), if_pos start,
    List.takeWhile_append_of_pos within, List.dropWhile_append_of_pos within, stops.1, stops.2,
    List.append_nil, ← spelled, String.ofList_toList]

theorem tokens_mark (m : String) (c : Char) (cs rest : List Char) (spelled : m.toList = c :: cs)
    (solid : c.isWhitespace = false) (other : Name.isStart c = false)
    (next : nextMark (m.toList ++ rest) = some m) :
    tokens (m.toList ++ rest) = (tokens rest).map (Token.mark m :: ·) := by
  have size : m.length - 1 = cs.length := by
    rw [← String.length_toList, spelled]
    rfl
  rw [spelled, List.cons_append] at next ⊢
  rw [tokens, if_neg (by simp [solid]), if_neg (by simp [other]), next, Option.bind_some, size,
    List.drop_left]

theorem tokens_blank (rest : List Char) : tokens (' ' :: rest) = tokens rest := by
  rw [tokens, if_pos (by decide)]

-- A sign with a blank on both sides.
def Spaced (symbol : String) (t : Token) : Prop :=
  ∀ rest, tokens (' ' :: (symbol.toList ++ ' ' :: rest)) = (tokens rest).map (t :: ·)

theorem spaced_word (name : String) (identifier : Name.isIdentifier name = true) :
    Spaced name (.word name) := by
  intro rest
  rw [tokens_blank, tokens_word name _ identifier (breaks_cons ' ' rest (by decide)), tokens_blank]

theorem spaced_mark (m : String) (c : Char) (cs : List Char) (spelled : m.toList = c :: cs)
    (solid : c.isWhitespace = false) (other : Name.isStart c = false)
    (next : ∀ rest, nextMark (m.toList ++ ' ' :: rest) = some m) : Spaced m (.mark m) := by
  intro rest
  rw [tokens_blank, tokens_mark m c cs _ spelled solid other (next rest), tokens_blank]

theorem spaced_sign (op : BinaryOp) : Spaced op.symbol (sign op) := by
  cases op with
  | instanceOf => exact spaced_word "instanceof" (by decide)
  | isIn => exact spaced_word "in" (by decide)
  | _ => exact spaced_mark _ _ _ rfl rfl rfl (fun rest => rfl)

-- No mark in front of the text becomes a longer one by an equals sign.
def Opens (text : String) : Prop :=
  ∃ c rest, text.toList = c :: rest ∧ c ≠ '='

theorem Opens.append {text : String} (opens : Opens text) (more : String) : Opens (text ++ more) := by
  obtain ⟨c, rest, spelled, other⟩ := opens
  exact ⟨c, rest ++ more.toList, by rw [String.toList_append, spelled, List.cons_append], other⟩

-- A text that is cut into the same tokens wherever no word goes on behind it.
structure Spelled (text : String) (ts : List Token) : Prop where
  opens : Opens text
  cut : ∀ rest, Breaks rest → tokens (text.toList ++ rest) = (tokens rest).map (ts ++ ·)

-- A text that stands for the tree as the phrase.
def Told (casts : Bool) (phrase : Phrase) (text : String) (e : Expr) : Prop :=
  ∃ ts, Spelled text ts ∧ Derives casts phrase ts e

theorem spelled_joined (left right symbol : String) (t : Token) (ts us : List Token)
    (spaced : Spaced symbol t) (leftCut : Spelled left ts) (rightCut : Spelled right us) :
    Spelled (left ++ " " ++ symbol ++ " " ++ right) (ts ++ t :: us) := by
  refine ⟨(((leftCut.opens.append " ").append symbol).append " ").append right, ?_⟩
  intro rest breaks
  have text : (left ++ " " ++ symbol ++ " " ++ right).toList ++ rest =
      left.toList ++ ' ' :: (symbol.toList ++ ' ' :: (right.toList ++ rest)) := by
    simp
  rw [text, leftCut.cut _ (breaks_cons ' ' _ (by decide)), spaced, rightCut.cut rest breaks]
  simp [Function.comp_def]

theorem spelled_name (name : String) (identifier : Name.isIdentifier name = true) :
    Spelled name [.word name] := by
  obtain ⟨c, others, spelled, start, -⟩ := Name.identifier_parts name identifier
  refine ⟨⟨c, others, spelled, (start_solid c start).2⟩, ?_⟩
  exact fun rest breaks => tokens_word name rest identifier breaks

-- A character that is a mark whatever follows it.
def Lone (c : Char) (m : String) : Prop :=
  ∀ rest, tokens (c :: rest) = (tokens rest).map (Token.mark m :: ·)

theorem lone_mark (m : String) (c : Char) (spelled : m.toList = [c])
    (solid : c.isWhitespace = false) (other : Name.isStart c = false)
    (next : ∀ rest, nextMark (c :: rest) = some m) : Lone c m := by
  intro rest
  have mark := tokens_mark m c [] rest spelled solid other
  rw [spelled, List.singleton_append] at mark
  exact mark (next rest)

theorem lone_open : Lone '(' "(" := lone_mark "(" '(' rfl rfl rfl (fun _ => rfl)

theorem lone_close : Lone ')' ")" := lone_mark ")" ')' rfl rfl rfl (fun _ => rfl)

theorem enclosed_cut (left right : Char) (l r text : String) (ts : List Token) (rest : List Char)
    (opens : Lone left l) (closes : Lone right r) (other : Name.isPart right = false)
    (inner : Spelled text ts) : tokens (left :: (text.toList ++ right :: rest)) =
      (tokens rest).map ((.mark l :: (ts ++ [.mark r])) ++ ·) := by
  rw [opens, inner.cut _ (breaks_cons right rest other), closes]
  simp [Function.comp_def]

theorem spelled_parens (text : String) (ts : List Token) (inner : Spelled text ts) :
    Spelled ("(" ++ text ++ ")") (.mark "(" :: (ts ++ [.mark ")"])) := by
  refine ⟨⟨'(', text.toList ++ [')'], by simp, by decide⟩, ?_⟩
  intro rest breaks
  have enclosed := enclosed_cut '(' ')' "(" ")" text ts rest lone_open lone_close (by decide) inner
  simpa using enclosed

theorem spelled_keyword (name text : String) (ts : List Token)
    (identifier : Name.isIdentifier name = true) (inner : Spelled text ts) :
    Spelled (name ++ " " ++ text) (.word name :: ts) := by
  refine ⟨((spelled_name name identifier).opens.append " ").append text, ?_⟩
  intro rest breaks
  have word := tokens_word name (' ' :: (text.toList ++ rest)) identifier
    (breaks_cons ' ' _ (by decide))
  rw [tokens_blank, inner.cut rest breaks] at word
  simpa [Function.comp_def] using word

-- A `!` does not become one mark with what follows, which never begins with an equals sign.
theorem spelled_not (text : String) (ts : List Token) (inner : Spelled text ts) :
    Spelled ("!" ++ text) (.mark "!" :: ts) := by
  obtain ⟨c, others, spelled, other⟩ := inner.opens
  refine ⟨⟨'!', text.toList, by simp, by decide⟩, ?_⟩
  intro rest breaks
  have alone : nextMark ('!' :: (text.toList ++ rest)) = some "!" := by
    simp [nextMark, marks, spelled, other.symm]
  have mark := tokens_mark "!" '!' [] (text.toList ++ rest) rfl rfl rfl alone
  rw [inner.cut rest breaks] at mark
  simpa [Function.comp_def] using mark

-- The text of an expression where only what binds as tight as a name goes without parentheses.
def primaryText (e : Expr) : String :=
  Expr.wrapIf (decide (e.strength < Expr.primary)) e.render

variable (casts : Bool)

theorem told_unary (op : UnaryOp) (text : String) (e : Expr) (plain : op ≠ .neg)
    (inner : Told casts .prefixed text e) :
    Told casts .prefixed (op.symbol ++ text) (.unary op e) := by
  obtain ⟨ts, spelled, derived⟩ := inner
  refine ⟨prefixSign op :: ts, ?_, .unary op ts e derived⟩
  cases op with
  | not => exact spelled_not text ts spelled
  | neg => exact absurd rfl plain
  | typeOf => exact spelled_keyword "typeof" text ts (by decide) spelled

theorem told_await (text : String) (e : Expr)
    (inner : Told casts .prefixed text e) : Told casts .prefixed ("await " ++ text) (.await e) := by
  obtain ⟨ts, spelled, derived⟩ := inner
  exact ⟨_, spelled_keyword "await" text ts (by decide) spelled, .awaited ts e derived⟩

theorem told_binary (op : BinaryOp) (leftText rightText : String) (left right : Expr)
    (leftTold : Told casts (.level (level op)) leftText left)
    (rightTold : Told casts (rightOf (level op)) rightText right) :
    Told casts (.level (level op)) (leftText ++ " " ++ op.symbol ++ " " ++ rightText)
      (.binary left op right) := by
  obtain ⟨ts, leftSpelled, leftRead⟩ := leftTold
  obtain ⟨us, rightSpelled, rightRead⟩ := rightTold
  exact ⟨_, spelled_joined _ _ _ _ ts us (spaced_sign op) leftSpelled rightSpelled,
    .binary op ts us left right leftRead rightRead⟩

theorem told_conditional (testText trueText falseText : String)
    (test whenTrue whenFalse : Expr) (testTold : Told casts .shortCircuit testText test)
    (trueTold : Told casts .expression trueText whenTrue)
    (falseTold : Told casts .expression falseText whenFalse) :
    Told casts .expression (testText ++ " ? " ++ trueText ++ " : " ++ falseText)
      (.conditional test whenTrue whenFalse) := by
  obtain ⟨ts, testSpelled, testRead⟩ := testTold
  obtain ⟨us, trueSpelled, trueRead⟩ := trueTold
  obtain ⟨vs, falseSpelled, falseRead⟩ := falseTold
  have question : Spaced "?" (.mark "?") := spaced_mark "?" '?' [] rfl rfl rfl (fun rest => rfl)
  have colon : Spaced ":" (.mark ":") := spaced_mark ":" ':' [] rfl rfl rfl (fun rest => rfl)
  have branches := spelled_joined _ _ _ _ us vs colon trueSpelled falseSpelled
  have whole := spelled_joined _ _ _ _ ts _ question testSpelled branches
  refine ⟨_, ?_, .conditional ts us vs _ _ _ testRead trueRead falseRead⟩
  have text : testText ++ " " ++ "?" ++ " " ++ (trueText ++ " " ++ ":" ++ " " ++ falseText) =
      testText ++ " ? " ++ trueText ++ " : " ++ falseText := by
    rw [← String.toList_inj]
    simp
  rwa [text] at whole

end ApiContract.Grammar
