import ApiContract.Proofs.Code.ChainTexts

/-!
Which chains have a text of their own. A call behind a construction, or a construction of what a
call gives, could exchange their argument lists without a change of the text; where each chain has
lists of one kind only, no other tree has the text.
-/

set_option autoImplicit false

namespace ApiContract.Grammar

open Code

-- No chain has both a call and a construction.
inductive Unmixed : Expr → Prop where
  | ident (name : String) : Unmixed (.ident name)
  | call (callee : Expr) (args : List Expr) (unbuilt : constructions callee = 0)
      (ofCallee : Unmixed callee) (ofArgs : ∀ a ∈ args, Unmixed a) : Unmixed (.call callee args)
  | construct (callee : Expr) (args : List Expr) (uncalled : calls callee = 0)
      (ofCallee : Unmixed callee) (ofArgs : ∀ a ∈ args, Unmixed a) :
      Unmixed (.construct callee args)
  | member (target : Expr) (property : String) (optional : Bool) (ofTarget : Unmixed target) :
      Unmixed (.member target property optional)
  | index (target key : Expr) (ofTarget : Unmixed target) (ofKey : Unmixed key) :
      Unmixed (.index target key)
  | unary (op : UnaryOp) (e : Expr) (inner : Unmixed e) : Unmixed (.unary op e)
  | await (e : Expr) (inner : Unmixed e) : Unmixed (.await e)

theorem settled_all_same (args : List Expr) (same : ∀ a ∈ args, settled 0 a = a) :
    settledAll args = args := by
  induction args with
  | nil => rw [settledAll]
  | cons a args ih =>
      obtain ⟨first, others⟩ := List.forall_mem_cons.mp same
      rw [settledAll, first, ih others]

theorem settled_all_mem (args : List Expr) (a : Expr) (member : a ∈ args) :
    settled 0 a ∈ settledAll args := by
  induction args with
  | nil => cases member
  | cons b args ih =>
      rw [settledAll]
      cases member with
      | head => exact .head _
      | tail _ later => exact .tail _ (ih later)

-- Behind further `new`, lists that were calls go to these as long as there are some.
theorem settled_constructions (news : Nat) (e : Expr) (chains : OfChains e) :
    constructions (settled news e) = constructions e + min news (calls e) := by
  have of_applied (waiting : Nat) (callee : Expr) (args : List Expr) :
      constructions (applied waiting callee args) =
        constructions callee + min waiting 1 := by
    cases waiting with
    | zero => rfl
    | succ waiting => simp [applied, constructions]
  induction chains generalizing news with
  | ident | unary | await => simp [settled, constructions, calls]
  | call callee args ofCallee ofArgs calleeIh argsIh =>
      rw [settled, of_applied, calleeIh news, constructions, calls]
      omega
  | construct callee args ofCallee ofArgs calleeIh argsIh =>
      rw [settled, of_applied, calleeIh (news + 1), constructions, calls]
      omega
  | member target property optional ofTarget identifier ih => exact ih news
  | index target key ofTarget ofKey targetIh keyIh => exact targetIh news

theorem settled_strength (news : Nat) (e : Expr) (chains : OfChains e) :
    (settled news e).strength = e.strength := by
  have of_applied (waiting : Nat) (callee : Expr) (args : List Expr) :
      (applied waiting callee args).strength = Expr.primary := by
    rw [applied]
    split <;> rfl
  cases chains with
  | call | construct => exact of_applied _ _ _
  | _ => rfl

-- By induction on the expression: an unmixed tree is read as it is, also behind further `new` when
-- no list of it could go to one.
theorem unmixed_settled (news : Nat) (e : Expr) (unmixed : Unmixed e)
    (free : news = 0 ∨ calls e = 0) : settled news e = e := by
  induction unmixed generalizing news with
  | ident name => rfl
  | call callee args unbuilt ofCallee ofArgs calleeIh argsIh =>
      obtain rfl : news = 0 := free.resolve_right (Nat.succ_ne_zero _)
      rw [settled, calleeIh 0 (.inl rfl),
        settled_all_same args (fun a member => argsIh a member 0 (.inl rfl)), Nat.zero_sub, applied,
        if_pos rfl]
  | construct callee args uncalled ofCallee ofArgs calleeIh argsIh =>
      rw [settled, calleeIh (news + 1) (.inr uncalled),
        settled_all_same args (fun a member => argsIh a member 0 (.inl rfl)), uncalled, Nat.sub_zero,
        applied, if_neg (Nat.succ_ne_zero news)]
  | member target property optional ofTarget ih => rw [settled, ih news free]
  | index target key ofTarget ofKey targetIh keyIh =>
      rw [settled, targetIh news free, keyIh 0 (.inl rfl)]
  | unary op e inner ih => rw [settled, ih 0 (.inl rfl)]
  | await e inner ih => rw [settled, ih 0 (.inl rfl)]

-- By induction on the expression: a tree that is read as an unmixed one is that one.
theorem settled_unmixed (news : Nat) (e : Expr) (chains : OfChains e)
    (unmixed : Unmixed (settled news e)) (free : news = 0 ∨ calls e = 0) :
    settled news e = e := by
  have of_args (args : List Expr) (ofSettled : ∀ a ∈ settledAll args, Unmixed a)
      (argsIh : ∀ a ∈ args, ∀ news, Unmixed (settled news a) → news = 0 ∨ calls a = 0 →
        settled news a = a) : settledAll args = args :=
    settled_all_same args (fun a member =>
      argsIh a member 0 (ofSettled _ (settled_all_mem args a member)) (.inl rfl))
  induction chains generalizing news with
  | ident name identifier free => rfl
  | call callee args ofCallee ofArgs calleeIh argsIh =>
      obtain rfl : news = 0 := free.resolve_right (Nat.succ_ne_zero _)
      rw [settled, Nat.zero_sub, applied, if_pos rfl] at unmixed ⊢
      cases unmixed with
      | call _ _ _ inner ofSettled =>
          rw [calleeIh 0 inner (.inl rfl), of_args args ofSettled argsIh]
  | construct callee args ofCallee ofArgs calleeIh argsIh =>
      rw [calls] at free
      by_cases uncalled : calls callee = 0
      · rw [settled, uncalled, Nat.sub_zero, applied, if_neg (Nat.succ_ne_zero news)] at unmixed ⊢
        cases unmixed with
        | construct _ _ _ inner ofSettled =>
            rw [calleeIh (news + 1) inner (.inr uncalled), of_args args ofSettled argsIh]
      · -- A list inside goes to the `new`, and the last one is left for a call.
        have last : news + 1 - calls callee = 0 := by
          omega
        rw [settled, last, applied, if_pos rfl] at unmixed
        cases unmixed with
        | call _ _ unbuilt =>
            rw [settled_constructions (news + 1) callee ofCallee] at unbuilt
            omega
  | member target property optional ofTarget identifier ih =>
      rw [settled] at unmixed ⊢
      cases unmixed with
      | member _ _ _ inner => rw [ih news inner free]
  | index target key ofTarget ofKey targetIh keyIh =>
      rw [settled] at unmixed ⊢
      cases unmixed with
      | index _ _ inner ofSettled => rw [targetIh news inner free, keyIh 0 ofSettled (.inl rfl)]
  | unary op e plain inner ih =>
      rw [settled] at unmixed ⊢
      cases unmixed with
      | unary _ _ ofSettled => rw [ih 0 ofSettled (.inl rfl)]
  | await e inner ih =>
      rw [settled] at unmixed ⊢
      cases unmixed with
      | await _ ofSettled => rw [ih 0 ofSettled (.inl rfl)]

-- No other chain has the text.
def Alone (e : Expr) : Prop :=
  ∀ other, OfChains other → other.render = e.render → other = e

theorem unmixed_alone (e : Expr) (chains : OfChains e) (unmixed : Unmixed e) : Alone e := by
  intro other ofOther same
  have settles := same_text_settled other e ofOther chains same
  rw [unmixed_settled 0 e unmixed (.inl rfl)] at settles
  rw [← settles]
  exact (settled_unmixed 0 other ofOther (settles ▸ unmixed) (.inl rfl)).symm

theorem primary_text_same (x y : Expr) (ofX : OfChains x) (ofY : OfChains y)
    (same : x.render = y.render) : primaryText x = primaryText y := by
  have strong : x.strength = y.strength := by
    rw [← settled_strength 0 x ofX, same_text_settled x y ofX ofY same, settled_strength 0 y ofY]
  rw [primaryText, primaryText, strong, same]

theorem primary_text_bare (e : Expr) (strong : e.strength = Expr.primary) :
    primaryText e = e.render := by
  rw [primaryText, strong, decide_eq_false (Nat.lt_irrefl _)]
  rfl

-- What stands inside an expression that is alone is alone too.
theorem alone_inside (build : Expr → Expr) (e : Expr) (alone : Alone (build e))
    (builds : ∀ other, OfChains other → OfChains (build other))
    (sameText : ∀ other, OfChains other → other.render = e.render →
      (build other).render = (build e).render)
    (apart : ∀ other, build other = build e → other = e) : Alone e :=
  fun other ofOther same =>
    apart other (alone (build other) (builds other ofOther) (sameText other ofOther same))

-- A call and a construction take their callee and their arguments in the same way.
theorem alone_applied (build : Expr → List Expr → Expr) (front : String) (callee : Expr)
    (args : List Expr) (alone : Alone (build callee args)) (ofCallee : OfChains callee)
    (ofArgs : ∀ a ∈ args, OfChains a)
    (builds : ∀ c as, OfChains c → (∀ a ∈ as, OfChains a) → OfChains (build c as))
    (text : ∀ c as, (∀ a ∈ as, OfChains a) →
      (build c as).render = front ++ (primaryText c ++ argsText as))
    (apart : ∀ c as, build c as = build callee args → c = callee ∧ as = args) :
    Alone callee ∧ ∀ a ∈ args, Alone a := by
  constructor
  · refine alone_inside (fun other => build other args) callee alone
      (fun other ofOther => builds other args ofOther ofArgs) ?_
      (fun other same => (apart other args same).1)
    intro other ofOther same
    rw [text other args ofArgs, text callee args ofArgs,
      primary_text_same other callee ofOther ofCallee same]
  · intro a member
    obtain ⟨before, after, rfl⟩ := List.append_of_mem member
    have ofOthers (other : Expr) (ofOther : OfChains other) :
        ∀ b ∈ before ++ other :: after, OfChains b := by
      simp only [List.forall_mem_append, List.forall_mem_cons] at ofArgs ⊢
      exact ⟨ofArgs.1, ofOther, ofArgs.2.2⟩
    refine alone_inside (fun other => build callee (before ++ other :: after)) a alone
      (fun other ofOther => builds callee _ ofCallee (ofOthers other ofOther)) ?_ ?_
    · intro other ofOther same
      rw [text callee _ (ofOthers other ofOther), text callee _ ofArgs]
      simp [argsText, same]
    · intro other same
      exact (List.cons.inj (List.append_cancel_left (apart callee _ same).2)).1

theorem calls_primary (e : Expr) (chains : OfChains e) (called : 0 < calls e) :
    e.strength = Expr.primary := by
  cases chains with
  | unary | await => cases called
  | _ => rfl

theorem constructions_primary (e : Expr) (chains : OfChains e) (built : 0 < constructions e) :
    e.strength = Expr.primary := by
  cases chains with
  | unary | await => cases built
  | _ => rfl

theorem primary_text_new (longer e : Expr) (strong : longer.strength = Expr.primary)
    (strongE : e.strength = Expr.primary) (text : longer.render = "new " ++ e.render)
    (suffix : String) : primaryText longer ++ suffix = "new " ++ (primaryText e ++ suffix) := by
  rw [primary_text_bare longer strong, primary_text_bare e strongE, text, String.append_assoc]

-- The last call of a chain made a construction puts one more `new` in front of the text.
theorem call_raised (e : Expr) (chains : OfChains e) (called : 0 < calls e) :
    ∃ raised, OfChains raised ∧ raised.strength = Expr.primary ∧
      raised.render = "new " ++ e.render := by
  induction chains with
  | ident | unary | await => cases called
  | call callee args ofCallee ofArgs calleeIh argsIh =>
      refine ⟨_, .construct callee args ofCallee ofArgs, rfl, ?_⟩
      rw [construct_text callee args ofArgs, call_text callee args ofArgs]
  | construct callee args ofCallee ofArgs calleeIh argsIh =>
      obtain ⟨raised, ofRaised, strong, text⟩ := calleeIh called
      refine ⟨_, .construct raised args ofRaised ofArgs, rfl, ?_⟩
      rw [construct_text raised args ofArgs, construct_text callee args ofArgs,
        primary_text_new raised callee strong (calls_primary callee ofCallee called) text]
  | member target property optional ofTarget identifier ih =>
      obtain ⟨raised, ofRaised, strong, text⟩ := ih called
      refine ⟨_, .member raised property optional ofRaised identifier, rfl, ?_⟩
      rw [member_text, member_text,
        primary_text_new raised target strong (calls_primary target ofTarget called) text]
  | index target key ofTarget ofKey targetIh keyIh =>
      obtain ⟨raised, ofRaised, strong, text⟩ := targetIh called
      refine ⟨_, .index raised key ofRaised ofKey, rfl, ?_⟩
      rw [index_text, index_text,
        primary_text_new raised target strong (calls_primary target ofTarget called) text]

-- The last construction of a chain made a call takes one `new` off the text.
theorem construction_lowered (e : Expr) (chains : OfChains e) (built : 0 < constructions e) :
    ∃ lowered, OfChains lowered ∧ lowered.strength = Expr.primary ∧
      e.render = "new " ++ lowered.render := by
  induction chains with
  | ident | unary | await => cases built
  | call callee args ofCallee ofArgs calleeIh argsIh =>
      obtain ⟨lowered, ofLowered, strong, text⟩ := calleeIh built
      refine ⟨_, .call lowered args ofLowered ofArgs, rfl, ?_⟩
      rw [call_text lowered args ofArgs, call_text callee args ofArgs,
        primary_text_new callee lowered (constructions_primary callee ofCallee built) strong text]
  | construct callee args ofCallee ofArgs calleeIh argsIh =>
      refine ⟨_, .call callee args ofCallee ofArgs, rfl, ?_⟩
      rw [construct_text callee args ofArgs, call_text callee args ofArgs]
  | member target property optional ofTarget identifier ih =>
      obtain ⟨lowered, ofLowered, strong, text⟩ := ih built
      refine ⟨_, .member lowered property optional ofLowered identifier, rfl, ?_⟩
      rw [member_text, member_text,
        primary_text_new target lowered (constructions_primary target ofTarget built) strong text]
  | index target key ofTarget ofKey targetIh keyIh =>
      obtain ⟨lowered, ofLowered, strong, text⟩ := targetIh built
      refine ⟨_, .index lowered key ofLowered ofKey, rfl, ?_⟩
      rw [index_text, index_text,
        primary_text_new target lowered (constructions_primary target ofTarget built) strong text]

-- The list behind a construction could be the construction's, and the construction's list a call's.
theorem alone_unbuilt (callee : Expr) (args : List Expr) (alone : Alone (.call callee args))
    (ofCallee : OfChains callee) (ofArgs : ∀ a ∈ args, OfChains a) : constructions callee = 0 := by
  by_contra other
  have built := Nat.pos_of_ne_zero other
  obtain ⟨lowered, ofLowered, strong, text⟩ := construction_lowered callee ofCallee built
  have sameText : (Expr.construct lowered args).render = (Expr.call callee args).render := by
    rw [construct_text lowered args ofArgs, call_text callee args ofArgs,
      primary_text_new callee lowered (constructions_primary callee ofCallee built) strong text]
  have same := alone _ (.construct lowered args ofLowered ofArgs) sameText
  cases same

theorem alone_uncalled (callee : Expr) (args : List Expr) (alone : Alone (.construct callee args))
    (ofCallee : OfChains callee) (ofArgs : ∀ a ∈ args, OfChains a) : calls callee = 0 := by
  by_contra other
  have called := Nat.pos_of_ne_zero other
  obtain ⟨raised, ofRaised, strong, text⟩ := call_raised callee ofCallee called
  have sameText : (Expr.call raised args).render = (Expr.construct callee args).render := by
    rw [call_text raised args ofArgs, construct_text callee args ofArgs,
      primary_text_new raised callee strong (calls_primary callee ofCallee called) text]
  have same := alone _ (.call raised args ofRaised ofArgs) sameText
  cases same

-- By induction on the expression: what stands inside is alone too, and no two lists can change
-- places.
theorem alone_unmixed (e : Expr) (chains : OfChains e) (alone : Alone e) : Unmixed e := by
  induction chains with
  | ident name identifier free => exact .ident name
  | call callee args ofCallee ofArgs calleeIh argsIh =>
      obtain ⟨calleeAlone, argsAlone⟩ := alone_applied .call "" callee args alone ofCallee ofArgs
        .call (fun c as ofAs => by rw [call_text c as ofAs, String.empty_append])
        (fun c as same => Expr.call.inj same)
      exact .call callee args (alone_unbuilt callee args alone ofCallee ofArgs)
        (calleeIh calleeAlone) (fun a member => argsIh a member (argsAlone a member))
  | construct callee args ofCallee ofArgs calleeIh argsIh =>
      obtain ⟨calleeAlone, argsAlone⟩ := alone_applied .construct "new " callee args alone ofCallee
        ofArgs .construct construct_text (fun c as same => Expr.construct.inj same)
      exact .construct callee args (alone_uncalled callee args alone ofCallee ofArgs)
        (calleeIh calleeAlone) (fun a member => argsIh a member (argsAlone a member))
  | member target property optional ofTarget identifier ih =>
      refine .member target property optional (ih ?_)
      refine alone_inside (fun other => .member other property optional) target alone
        (fun other ofOther => .member other property optional ofOther identifier) ?_
        (fun other same => (Expr.member.inj same).1)
      intro other ofOther same
      rw [member_text, member_text, primary_text_same other target ofOther ofTarget same]
  | index target key ofTarget ofKey targetIh keyIh =>
      refine .index target key (targetIh ?_) (keyIh ?_)
      · refine alone_inside (fun other => .index other key) target alone
          (fun other ofOther => .index other key ofOther ofKey) ?_
          (fun other same => (Expr.index.inj same).1)
        intro other ofOther same
        rw [index_text, index_text, primary_text_same other target ofOther ofTarget same]
      · refine alone_inside (fun other => .index target other) key alone
          (fun other ofOther => .index target other ofTarget ofOther) ?_
          (fun other same => (Expr.index.inj same).2)
        intro other ofOther same
        rw [index_text, index_text, same]
  | unary op e plain inner ih =>
      refine .unary op e (ih ?_)
      refine alone_inside (fun other => .unary op other) e alone
        (fun other ofOther => .unary op other plain ofOther) ?_
        (fun other same => (Expr.unary.inj same).2)
      intro other ofOther same
      rw [Expr.render, Expr.render, chains_unwrapped other ofOther _ (Nat.le_refl _),
        chains_unwrapped e inner _ (Nat.le_refl _), same]
  | await e inner ih =>
      refine .await e (ih ?_)
      refine alone_inside (fun other => .await other) e alone
        (fun other ofOther => .await other ofOther) ?_ (fun other same => Expr.await.inj same)
      intro other ofOther same
      rw [Expr.render, Expr.render, chains_unwrapped other ofOther _ (Nat.le_refl _),
        chains_unwrapped e inner _ (Nat.le_refl _), same]

theorem chain_alone_iff_unmixed (e : Expr) (chains : OfChains e) :
    (∀ other, OfChains other → other.render = e.render → other = e) ↔ Unmixed e :=
  ⟨alone_unmixed e chains, unmixed_alone e chains⟩

def pools : Expr :=
  .await (.call
    (.member (.index (.call (.ident "pools") [])
      (.construct (.construct (.ident "Key") [.call (.ident "name") [.ident "x"], .ident "y"]) []))
      "open" true)
    [.unary .not (.member (.await (.ident "ready")) "done" false)])

example : pools.render =
    "await pools()[new new Key(name(x), y)()]?.open(!(await ready).done)" := by
  rfl

theorem pools_alone : OfChains pools ∧ Unmixed pools ∧
    ∀ other, OfChains other → other.render = pools.render → other = pools := by
  have chains : OfChains pools := by
    simp only [pools]
    repeat' first | constructor | exact List.forall_mem_nil _ | rw [List.forall_mem_cons] | decide
  have unmixed : Unmixed pools := by
    simp only [pools]
    repeat' first | constructor | exact List.forall_mem_nil _ | rw [List.forall_mem_cons]
  exact ⟨chains, unmixed, (chain_alone_iff_unmixed pools chains).mpr unmixed⟩

def calledNew : Expr :=
  .call (.construct (.ident "f") []) []

def newOfCalled : Expr :=
  .construct (.call (.ident "f") []) []

theorem called_new_and_new_of_called : OfChains calledNew ∧ OfChains newOfCalled ∧
    calledNew.render = newOfCalled.render ∧ calledNew ≠ newOfCalled := by
  have name : OfChains (.ident "f") := .ident "f" (by decide) (by decide)
  exact ⟨.call _ _ (.construct _ _ name nofun) nofun, .construct _ _ (.call _ _ name nofun) nofun,
    rfl, nofun⟩

end ApiContract.Grammar
