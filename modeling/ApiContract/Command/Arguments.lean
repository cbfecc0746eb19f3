import ApiContract.FileFormat
import ApiContract.Text.Lines

/-!
The arguments of the command: what is asked for, read from the words behind its name.
-/

set_option autoImplicit false

namespace ApiContract.Command

structure Generation where
  pattern : Option String
  directory : Option String
  dryRun : Bool
  noHeader : Bool
deriving DecidableEq

structure Inspection where
  pattern : Option String
  schemaOnly : Bool
  asJson : Bool
  directory : Option String
deriving DecidableEq

inductive Action where
  | generate (what : Generation)
  | audit (what : Inspection)
  | render (file : String)
  | schema (format : Option FileFormat)
deriving DecidableEq

structure Invocation where
  start : Option String
  action : Action
deriving DecidableEq

inductive Refusal where
  | usage
  | help
  | version
deriving DecidableEq

structure OptionName where
  word : String
  letter : Option Char
  valued : Bool

structure Given where
  word : String
  value : String
deriving DecidableEq

def helpOption : OptionName := ⟨"help", some 'h', false⟩

def versionOption : OptionName := ⟨"version", some 'V', false⟩

def sharedOptions : List OptionName :=
  [⟨"dir", some 'C', true⟩, ⟨"verbose", some 'v', false⟩, helpOption]

def outOption : OptionName := ⟨"out", some 'o', true⟩

def accept (option : OptionName) (value : String) (given : List Given) :
    Except Refusal (List Given) :=
  if option.word == helpOption.word then .error .help
  else if option.word == versionOption.word then .error .version
  else if option.valued && value.isEmpty then .error .usage
  else if given.any fun g => g.word == option.word then .error .usage
  else .ok (⟨option.word, value⟩ :: given)

-- Reads letters behind a dash. What follows the letter of an option with a value is the value;
-- where nothing does, the option still misses it.
def readLetters (known : List OptionName) :
    List Char → List Given → Except Refusal (List Given × Option OptionName)
  | [], given => .ok (given, none)
  | letter :: rest, given =>
      match known.find? fun option => option.letter == some letter with
      | none => .error .usage
      | some option =>
          if option.valued then
            match rest with
            | [] => .ok (given, some option)
            | '=' :: value =>
                (accept option (String.ofList value) given).map fun given => (given, none)
            | value => (accept option (String.ofList value) given).map fun given => (given, none)
          else
            match accept option "" given with
            | .error refusal => .error refusal
            | .ok given => readLetters known rest given

def readWord (known : List OptionName) (argument : List Char) (given : List Given) :
    Except Refusal (List Given × Option OptionName) :=
  let (name, value) :=
    match Text.cutAt? ['='] argument with
    | some (name, value) => (name, some (String.ofList value))
    | none => (argument, none)
  match known.find? fun option => option.word == String.ofList name with
  | none => .error .usage
  | some option =>
      match option.valued, value with
      | true, none => .ok (given, some option)
      | true, some value => (accept option value given).map fun given => (given, none)
      | false, none => (accept option "" given).map fun given => (given, none)
      | false, some _ => .error .usage

-- Whether an argument gives options. A dash alone is a word.
def givesOptions (argument : String) : Bool :=
  match argument.toList with
  | '-' :: _ :: _ => true
  | _ => false

def readOptions (known : List OptionName) (one : Bool) :
    List String → Option OptionName → List Given → List String →
      Except Refusal (List Given × List String)
  | [], none, given, words => .ok (given, words)
  | [], some _, _, _ => .error .usage
  | argument :: rest, some missing, given, words =>
      if givesOptions argument then .error .usage
      else
        match accept missing argument given with
        | .error refusal => .error refusal
        | .ok given => readOptions known one rest none given words
  | argument :: rest, none, given, words =>
      match argument.toList with
      | ['-', '-'] =>
          if one || 1 < words.length + rest.length then .error .usage
          else .ok (given, words ++ rest)
      | '-' :: '-' :: name =>
          match readWord known name given with
          | .error refusal => .error refusal
          | .ok (given, missing) => readOptions known one rest missing given words
      | '-' :: letter :: letters =>
          match readLetters known (letter :: letters) given with
          | .error refusal => .error refusal
          | .ok (given, missing) => readOptions known one rest missing given words
      | _ =>
          if one then .ok (given, argument :: rest)
          else if words.isEmpty then readOptions known one rest none given [argument]
          else .error .usage

def valueOf? (word : String) (given : List Given) : Option String :=
  (given.find? fun g => g.word == word).map (·.value)

def isGiven (word : String) (given : List Given) : Bool :=
  given.any fun g => g.word == word

def ownOptions? : String → Option (List OptionName)
  | "generate" => some [outOption, ⟨"dry-run", none, false⟩, ⟨"no-header", none, false⟩]
  | "audit" | "audit:api" =>
      some [⟨"schema", none, false⟩, ⟨"json", none, false⟩, outOption]
  | "render" => some []
  | "schema" => some []
  | _ => none

def actionOf (name : String) (given : List Given) (word : Option String) : Except Refusal Action :=
  match name with
  | "generate" =>
      .ok (.generate ⟨word, valueOf? "out" given, isGiven "dry-run" given,
        isGiven "no-header" given⟩)
  | "render" =>
      match word with
      | some file => if file.isEmpty then .error .usage else .ok (.render file)
      | none => .error .usage
  | "schema" =>
      match word with
      | none => .ok (.schema none)
      | some word =>
          match FileFormat.ofWord? word with
          | some format => .ok (.schema (some format))
          | none => .error .usage
  | _ =>
      .ok (.audit ⟨word, isGiven "schema" given, isGiven "json" given, valueOf? "out" given⟩)

-- What the arguments ask for. An option of all actions may stand in front of the action or behind
-- it; there it counts first.
def Invocation.ofArguments (arguments : List String) : Except Refusal Invocation :=
  match readOptions (versionOption :: sharedOptions) true arguments none [] [] with
  | .error refusal => .error refusal
  | .ok (_, []) => .error .usage
  | .ok (_, "help" :: rest) =>
      match rest with
      | [] => .error .help
      | [name] =>
          if (ownOptions? name).isSome || name == "help" || givesOptions name then .error .help
          else .error .usage
      | _ => .error .usage
  | .ok (outer, name :: rest) =>
      match ownOptions? name with
      | none => .error .usage
      | some own =>
          match readOptions (sharedOptions ++ own) false rest none [] [] with
          | .error refusal => .error refusal
          | .ok (inner, words) =>
              (actionOf name inner words.head?).map fun action =>
                ⟨(valueOf? "dir" inner).or (valueOf? "dir" outer), action⟩

end ApiContract.Command
