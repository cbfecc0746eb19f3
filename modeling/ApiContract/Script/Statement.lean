import ApiContract.Script.Member

/-!
The declarations of a code: the type aliases, interfaces and classes at its top level, exported or
not. Declarations within other statements, and those of things that exist elsewhere, do not count.
-/

set_option autoImplicit false

namespace ApiContract.Script

inductive Declaration where
  | typeAlias (name : Item) (type : List Item)
  | interface (name : Item) (members : List Member)
  | class_ (name : Item) (members : List Member)

-- The first group in braces that does not stand between angle brackets, with the items in front of
-- it and behind it; `depth` angle brackets are open.
def cutBody? : Nat → List Item → Option (List Item × Item × List Item)
  | _, [] => none
  | depth, item :: rest =>
      if item.isGroup "\x7b" && depth == 0 then some ([], item, rest)
      else if item.isMark ";" || item.isStray then none
      else
        let next :=
          if item.isMark "<" then depth + 1 else if item.isMark ">" then depth - 1 else depth
        (cutBody? next rest).map fun (before, body, after) => (item :: before, body, after)

def afterBody (item : Item) (rest : List Item) : List Item :=
  match cutBody? 0 rest with
  | some (_, _, after) => after
  | none => afterStatementFrom item rest

def afterFunction (item : Item) (rest : List Item) : List Item :=
  let signature := rest.dropWhile fun item => !item.startsCall && !item.isMark ";"
  match readSignature? true signature with
  | some s =>
      match s.rest with
      | body :: after => if body.isGroup "\x7b" then after else afterStatementFrom item s.rest
      | [] => []
  | none => afterStatementFrom item rest

def nameFollows : List Item → Bool
  | [] => false
  | next :: _ => (next.isName || next.isLiteral) && !next.onNewLine

def namedBlockWords : List String :=
  ["namespace", "module", "global"]

def afterStatement : Nat → List Item → List Item
  | 0, items => items
  | _ + 1, [] => []
  | fuel + 1, item :: rest =>
      let branch (rest : List Item) : List Item :=
        match rest with
        | next :: after => if next.isWord "else" then afterStatement fuel after else rest
        | [] => []
      if item.isMark ";" || item.isGroup "\x7b" then rest
      else if item.isWord "if" then branch (dropSemicolon (afterStatement fuel (rest.drop 1)))
      else if item.isOneOf ["while", "with"] then afterStatement fuel (rest.drop 1)
      else if item.isWord "for" then
        afterStatement fuel ((rest.dropWhile (·.isWord "await")).drop 1)
      else if item.isWord "do" then
        (dropSemicolon (afterStatement fuel rest)).drop 2
      else if item.isWord "try" then
        let handled := afterBody item rest
        let finished :=
          if handled.head?.any (·.isWord "catch") then afterBody item handled else handled
        if finished.head?.any (·.isWord "finally") then afterBody item finished else finished
      else if item.isOneOf ["abstract", "class", "enum", "interface", "switch"] then
        afterBody item rest
      else if item.isOneOf namedBlockWords && nameFollows rest then afterBody item rest
      else if item.isWord "const" && rest.head?.any (·.isWord "enum") then afterBody item rest
      else if item.isWord "function" then afterFunction item rest
      else if item.isWord "async" && rest.head?.any (·.isWord "function") then
        afterFunction item (rest.drop 1)
      else if item.isWord "type" && nameFollows rest then
        match afterTypeParameters? (rest.drop 1) with
        | some (_ :: type) => (afterType? true type).getD (afterStatementFrom item rest)
        | _ => afterStatementFrom item rest
      else if item.isWord "declare" && rest.head?.any (·.isWord "global") then afterBody item rest
      else if item.isWord "declare" && nameFollows rest then afterStatement fuel rest
      else if item.isOneOf ["export", "default"] then afterStatement fuel rest
      else if item.isName && rest.head?.any (·.isMark ":") then afterStatement fuel (rest.drop 1)
      else afterStatementFrom item rest
where
  dropSemicolon : List Item → List Item
    | [] => []
    | item :: rest => if item.isMark ";" then rest else item :: rest

abbrev StatementRead := Option Declaration × List Nat × List Item

def readAlias (start name : Item) (items : List Item) : StatementRead :=
  let failed : StatementRead := (none, [start.left], afterStatementFrom name items)
  match afterTypeParameters? items with
  | some (sign :: type) =>
      if sign.isMark "=" then
        match afterType? true type with
        | some rest =>
            let consumed := upTo rest type
            let missing :=
              match rest with
              | [] => []
              | next :: _ =>
                  if next.isMark ";" || next.isStray || endsMember rest then []
                  else if next.startsStatement then [(lastOr sign.first consumed).leftAfter]
                  else [next.left]
            (some (.typeAlias name consumed), gapsOf consumed ++ missing, rest)
        | none => failed
      else failed
  | _ => failed

-- The members of an interface behind its name. Where the members end early, what follows them
-- belongs to what is around the interface.
def readInterfaceBody (start name : Item) (items : List Item) : StatementRead :=
  match cutBody? 0 items with
  | some (before, .group opening inner closing, rest) =>
      let (members, faults, left) := readInterface (inner.length + 1) (separated inner)
      if left.isEmpty then
        let missing := if closing.isNone then [(lastOr opening inner).leftAfter] else []
        (some (.interface name members), headFaults before ++ faults ++ missing, rest)
      else
        (some (.interface name members), headFaults before ++ faults,
          left ++ closing.toList.map Item.token ++ rest)
  | _ => (none, [start.left], afterStatementFrom name items)
where
  headFaults (before : List Item) : List Nat :=
    match before.getLast? with
    | some last => if last.isWord "extends" then [last.left] else gapsOf before
    | none => []
  separated : List Item → List Item
    | item :: next :: rest => if item.isSeparator then next :: rest else item :: next :: rest
    | items => items

def readClassBody (start name : Item) (items : List Item) : StatementRead :=
  match cutBody? 0 items with
  | some (before, .group opening inner closing, rest) =>
      let (members, faults) := readClass (inner.length + 1) inner
      let missing := if closing.isNone then [(lastOr opening inner).leftAfter] else []
      (some (.class_ name members), gapsOf before ++ faults ++ missing, rest)
  | _ => (none, [start.left], afterStatementFrom name items)

-- The declaration at the front of some items, if there is one of those that count; `exported` holds
-- behind the word for it, where a class needs a name, and where `type` is no name itself.
def readDeclaration? (exported : Bool) : List Item → Option StatementRead
  | item :: name :: rest =>
      if item.isWord "type" && name.isName && (exported || !name.onNewLine) &&
          rest.head?.any fun next => next.isMark "=" || next.isMark "<" then
        some (readAlias item name rest)
      else if item.isWord "interface" && name.isName then
        some (readInterfaceBody item name rest)
      else if item.isWord "interface" && name.isGroup "\x7b" then
        some (none, [item.left], rest)
      else if item.isWord "abstract" && name.isWord "class" then
        match rest with
        | called :: rest =>
            if called.isName then some (readClassBody item called rest)
            else some (none, [item.left], rest)
        | [] => some (none, [item.left], [])
      else if item.isWord "class" && name.isName && !name.isOneOf ["extends", "implements"] then
        some (readClassBody item name rest)
      else if item.isWord "class" && exported then some (none, [item.left], afterBody item (name :: rest))
      else none
  | [item] => if item.isOneOf ["interface", "class"] then some (none, [item.left], []) else none
  | [] => none

def emptyValues : List Item → List Nat
  | sign :: next :: rest =>
      if sign.isMark "=" && next.isMark ";" then sign.left :: emptyValues (next :: rest)
      else emptyValues (next :: rest)
  | _ => []

def readStatement (items : List Item) : StatementRead :=
  let skipped : StatementRead :=
    let rest := afterStatement items.length items
    (none, emptyValues (items.take (items.length - rest.length + 1)) ++ gapsOf (upTo rest items), rest)
  match withoutDecorators items with
  | [] => (none, [], [])
  | item :: rest =>
      if item.isStray then (none, [item.left], rest)
      else if item.isWord "export" then
        match withoutDecorators rest with
        | next :: after =>
            if next.isWord "default" then
              (readDeclaration? false (withoutDecorators after)).getD skipped
            else (readDeclaration? true (next :: after)).getD skipped
        | [] => skipped
      else (readDeclaration? false (item :: rest)).getD skipped

def readStatements : Nat → List Item → List Declaration × List Nat
  | 0, _ => ([], [])
  | _ + 1, [] => ([], [])
  | fuel + 1, item :: items =>
      let (found, faults, rest) := readStatement (item :: items)
      let (declarations, others) := readStatements fuel rest
      (found.toList ++ declarations, faults ++ others)

end ApiContract.Script
