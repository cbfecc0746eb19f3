import ApiContract.Proofs.Code.Unambiguous

/-!
Chains of calls, constructions, property and index accesses. A row of tokens tells how many `new`
stand in front of a chain and which argument lists stand in it, but not which list belongs to a
`new`. A reader that goes through the row from the left gives each list to a `new` as long as one
waits for it, as ECMAScript does, and comes to one tree.
-/

set_option autoImplicit false

namespace ApiContract.Grammar

open Code

-- The argument lists of a chain that belong to no `new`, and those that do.
def calls : Expr → Nat
  | .call callee _ => calls callee + 1
  | .construct callee _ => calls callee
  | .member target _ _ => calls target
  | .index target _ => calls target
  | _ => 0

def constructions : Expr → Nat
  | .call callee _ => constructions callee
  | .construct callee _ => constructions callee + 1
  | .member target _ _ => constructions target
  | .index target _ => constructions target
  | _ => 0

-- What an argument list makes of a chain in front of which `news` wait for one.
def applied (news : Nat) (callee : Expr) (args : List Expr) : Expr :=
  if news = 0 then .call callee args else .construct callee args

mutual

-- The tree that is read where a chain has `news` further `new` in front of it.
def settled (news : Nat) : Expr → Expr
  | .call callee args =>
      applied (news - calls callee) (settled news callee) (settledAll args)
  | .construct callee args =>
      applied (news + 1 - calls callee) (settled (news + 1) callee) (settledAll args)
  | .member target property optional => .member (settled news target) property optional
  | .index target key => .index (settled news target) (settled 0 key)
  | .unary op operand => .unary op (settled 0 operand)
  | .await operand => .await (settled 0 operand)
  | e => e

def settledAll : List Expr → List Expr
  | [] => []
  | e :: rest => settled 0 e :: settledAll rest

end

inductive Link where
  | property (optional : Bool)
  | key
  | args

-- How a token goes on with a chain.
def linking (t : Token) : Option Link :=
  if t = .mark "." then some (.property false)
  else if t = .mark "?." then some (.property true)
  else if t = .mark "[" then some .key
  else if t = .mark "(" then some .args
  else none

-- No chain goes on in what comes next.
def Rests (rest : List Token) : Prop :=
  ∀ t ∈ rest.head?, linking t = none

theorem rests_nil : Rests [] := by
  rintro t ⟨⟩

inductive Stage where
  | operand
  | head (news : Nat)
  | behind (news : Nat) (chain : Expr)
  | listed (news : Nat) (callee : Expr) (args : List Expr)

-- What the reader comes to from a row of tokens: a tree and what is left of the row.
inductive Leads : Stage → List Token → Expr → List Token → Prop where
  | built (t : Token) (build : Expr → Expr) (ts rest : List Token) (e : Expr)
      (sign : prefixing t = some build) (inner : Leads .operand ts e rest) :
      Leads .operand (t :: ts) (build e) rest
  | bare (t : Token) (ts rest : List Token) (e : Expr) (plain : prefixing t = none)
      (inner : Leads (.head 0) (t :: ts) e rest) : Leads .operand (t :: ts) e rest
  | new (news : Nat) (ts rest : List Token) (e : Expr) (inner : Leads (.head (news + 1)) ts e rest) :
      Leads (.head news) (.word "new" :: ts) e rest
  | name (news : Nat) (spelling : String) (ts rest : List Token) (e : Expr)
      (other : spelling ≠ "new") (plain : prefixing (.word spelling) = none)
      (further : Leads (.behind news (.ident spelling)) ts e rest) :
      Leads (.head news) (.word spelling :: ts) e rest
  | parenthesised (news : Nat) (ts us rest : List Token) (inner e : Expr)
      (within : Leads .operand ts inner (.mark ")" :: us))
      (further : Leads (.behind news inner) us e rest) :
      Leads (.head news) (.mark "(" :: ts) e rest
  | member (news : Nat) (t : Token) (optional : Bool) (property : String) (target e : Expr)
      (ts rest : List Token) (sign : linking t = some (.property optional))
      (further : Leads (.behind news (.member target property optional)) ts e rest) :
      Leads (.behind news target) (t :: .word property :: ts) e rest
  | index (news : Nat) (t : Token) (target key e : Expr) (ts us rest : List Token)
      (sign : linking t = some .key) (within : Leads .operand ts key (.mark "]" :: us))
      (further : Leads (.behind news (.index target key)) us e rest) :
      Leads (.behind news target) (t :: ts) e rest
  | noArgs (news : Nat) (t : Token) (callee e : Expr) (ts rest : List Token)
      (sign : linking t = some .args)
      (further : Leads (.behind (news - 1) (applied news callee [])) ts e rest) :
      Leads (.behind news callee) (t :: .mark ")" :: ts) e rest
  | args (news : Nat) (t : Token) (callee first e : Expr) (ts us rest : List Token)
      (sign : linking t = some .args) (within : Leads .operand ts first us)
      (further : Leads (.listed news callee [first]) us e rest) :
      Leads (.behind news callee) (t :: ts) e rest
  | more (news : Nat) (t : Token) (callee next e : Expr) (args : List Expr) (ts us rest : List Token)
      (comma : t = .mark ",") (within : Leads .operand ts next us)
      (further : Leads (.listed news callee (args ++ [next])) us e rest) :
      Leads (.listed news callee args) (t :: ts) e rest
  | close (news : Nat) (t : Token) (callee e : Expr) (args : List Expr) (ts rest : List Token)
      (closing : t = .mark ")")
      (further : Leads (.behind (news - 1) (applied news callee args)) ts e rest) :
      Leads (.listed news callee args) (t :: ts) e rest
  | stop (e : Expr) (ts : List Token) (rests : Rests ts) : Leads (.behind 0 e) ts e ts

theorem head_first (news : Nat) (ts rest : List Token) (e : Expr)
    (leads : Leads (.head news) ts e rest) :
    ∃ t us, ts = t :: us ∧ prefixing t = none ∧ t ≠ .mark ")" := by
  cases leads with
  | new => exact ⟨_, _, rfl, by decide, by decide⟩
  | name _ _ _ _ _ _ plain => exact ⟨_, _, rfl, plain, nofun⟩
  | parenthesised => exact ⟨_, _, rfl, by decide, by decide⟩

theorem operand_first (ts rest : List Token) (e : Expr)
    (leads : Leads .operand (.mark ")" :: ts) e rest) : False := by
  cases leads with
  | built _ _ _ _ _ sign => cases sign
  | bare _ _ _ _ _ inner =>
      obtain ⟨t, us, same, -, other⟩ := head_first 0 _ _ _ inner
      cases same
      exact other rfl

-- By induction on how the reader goes: the stage and the next tokens decide on each step.
theorem leads_unique (stage : Stage) (ts rest others : List Token) (e other : Expr)
    (leads : Leads stage ts e rest) (again : Leads stage ts other others) :
    other = e ∧ others = rest := by
  induction leads generalizing other others with
  | built t build ts rest e sign inner ih =>
      cases again with
      | built _ _ _ _ _ sign' inner' =>
          rw [sign] at sign'
          cases sign'
          obtain ⟨rfl, rfl⟩ := ih _ _ inner'
          exact ⟨rfl, rfl⟩
      | bare _ _ _ _ plain' =>
          rw [sign] at plain'
          cases plain'
  | bare t ts rest e plain inner ih =>
      cases again with
      | built _ _ _ _ _ sign' =>
          rw [plain] at sign'
          cases sign'
      | bare _ _ _ _ _ inner' => exact ih _ _ inner'
  | new news ts rest e inner ih =>
      cases again with
      | new _ _ _ _ inner' => exact ih _ _ inner'
      | name _ _ _ _ _ other' => exact absurd rfl other'
  | name news spelling ts rest e other plain further ih =>
      cases again with
      | new => exact absurd rfl other
      | name _ _ _ _ _ _ _ further' => exact ih _ _ further'
  | parenthesised news ts us rest inner e within further withinIh furtherIh =>
      cases again with
      | parenthesised _ _ _ _ _ _ within' further' =>
          obtain ⟨rfl, same⟩ := withinIh _ _ within'
          cases same
          exact furtherIh _ _ further'
  | member news t optional property target e ts rest sign further ih =>
      cases again with
      | member _ _ _ _ _ _ _ _ sign' further' =>
          rw [sign] at sign'
          cases sign'
          exact ih _ _ further'
      | index _ _ _ _ _ _ _ _ sign' => simp [sign] at sign'
      | args _ _ _ _ _ _ _ _ sign' => simp [sign] at sign'
      | stop _ _ rests => simp [rests t rfl] at sign
  | index news t target key e ts us rest sign within further withinIh furtherIh =>
      cases again with
      | member _ _ _ _ _ _ _ _ sign' => simp [sign] at sign'
      | index _ _ _ _ _ _ _ _ _ within' further' =>
          obtain ⟨rfl, same⟩ := withinIh _ _ within'
          cases same
          exact furtherIh _ _ further'
      | noArgs _ _ _ _ _ _ sign' => simp [sign] at sign'
      | args _ _ _ _ _ _ _ _ sign' => simp [sign] at sign'
      | stop _ _ rests => simp [rests t rfl] at sign
  | noArgs news t callee e ts rest sign further ih =>
      cases again with
      | index _ _ _ _ _ _ _ _ sign' => simp [sign] at sign'
      | noArgs _ _ _ _ _ _ _ further' => exact ih _ _ further'
      | args _ _ _ _ _ _ _ _ _ within' => exact absurd within' (operand_first _ _ _)
      | stop _ _ rests => simp [rests t rfl] at sign
  | args news t callee first e ts us rest sign within further withinIh furtherIh =>
      cases again with
      | member _ _ _ _ _ _ _ _ sign' => simp [sign] at sign'
      | index _ _ _ _ _ _ _ _ sign' => simp [sign] at sign'
      | noArgs => exact absurd within (operand_first _ _ _)
      | args _ _ _ _ _ _ _ _ _ within' further' =>
          obtain ⟨rfl, rfl⟩ := withinIh _ _ within'
          exact furtherIh _ _ further'
      | stop _ _ rests => simp [rests t rfl] at sign
  | more news t callee next e args ts us rest comma within further withinIh furtherIh =>
      cases again with
      | more _ _ _ _ _ _ _ _ _ _ within' further' =>
          obtain ⟨rfl, rfl⟩ := withinIh _ _ within'
          exact furtherIh _ _ further'
      | close _ _ _ _ _ _ _ closing' => simp [comma] at closing'
  | close news t callee e args ts rest closing further ih =>
      cases again with
      | more _ _ _ _ _ _ _ _ _ comma' => simp [closing] at comma'
      | close _ _ _ _ _ _ _ _ further' => exact ih _ _ further'
  | stop e ts rests =>
      cases again with
      | member _ t _ _ _ _ _ _ sign' => simp [rests t rfl] at sign'
      | index _ t _ _ _ _ _ _ sign' => simp [rests t rfl] at sign'
      | noArgs _ t _ _ _ _ sign' => simp [rests t rfl] at sign'
      | args _ t _ _ _ _ _ _ sign' => simp [rests t rfl] at sign'
      | stop => exact ⟨rfl, rfl⟩

end ApiContract.Grammar
