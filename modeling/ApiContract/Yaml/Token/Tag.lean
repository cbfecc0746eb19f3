import ApiContract.Yaml.Cursor
import ApiContract.Yaml.Token.Basic

/-!
Names and addresses in front of values: anchors, aliases and tags; and the directives that say how
tags are abbreviated.
-/

set_option autoImplicit false

namespace ApiContract.Yaml

def readAnchor (activity : Activity) (c : Cursor) : Except Fault (String × Cursor) :=
  let name := c.skip.span isWordChar
  let after := name.2
  let ended :=
    after.blankAt 0 || after.seesAny fun d => "?:,]\x7d%@\x60".toList.contains d
  if name.1.isEmpty || !ended then .error (after.fault .anchorNameMissing activity c.mark)
  else .ok (String.ofList name.1, after)

inductive TagPlace where
  | directive
  | value
deriving DecidableEq

def TagPlace.address : TagPlace → Activity
  | .directive => .tagPrefix
  | .value => .tagAddress

def readHandle (place : TagPlace) (begun : Mark) (c : Cursor) :
    Except Fault (List Char × Cursor) :=
  if c.sees '!' then
    let word := c.skip.span isWordChar
    if word.2.sees '!' then .ok ('!' :: word.1 ++ ['!'], word.2.skip)
    else if place = .directive ∧ word.1 ≠ [] then
      .error (word.2.fault .tagMarkMissing .tagHandleEnd begun)
    else .ok ('!' :: word.1, word.2)
  else
    .error (c.fault .tagMarkMissing
      (match place with
       | .directive => .tagHandle
       | .value => .tag) begun)

-- A character of a tag; inside angle brackets there are three more.
def isTagChar (bracketed : Bool) (c : Char) : Bool :=
  isWordChar c || ";/?:@&=+$.%!~*'()".toList.contains c ||
    (bracketed && (c == ',' || c == '[' || c == ']'))

def utf8Width? (byte : Nat) : Option Nat :=
  if byte < 0x80 then some 1
  else if byte / 0x20 = 6 then some 2
  else if byte / 0x10 = 14 then some 3
  else if byte / 8 = 30 then some 4
  else none

def octet? : List Char → Option Nat
  | '%' :: a :: b :: _ =>
      match hexValue? a, hexValue? b with
      | some x, some y => some (16 * x + y)
      | _, _ => none
  | _ => none

def readOctets (place : TagPlace) (begun : Mark) :
    Nat → List Nat → Cursor → Except Fault (List Nat × Cursor)
  | 0, read, c => .ok (read, c)
  | n + 1, read, c =>
      match octet? c.rest with
      | none => .error (c.fault .octetMissing place.address begun)
      | some byte =>
          if byte / 0x40 = 2 then readOctets place begun n (read ++ [byte]) (c.skipMany 3)
          else .error (c.fault .octetWrongNext place.address begun)

def charOfOctets : List Nat → Char
  | [a] => Char.ofNat a
  | [a, b] => Char.ofNat (a % 0x20 * 0x40 + b % 0x40)
  | [a, b, c] => Char.ofNat ((a % 0x10 * 0x40 + b % 0x40) * 0x40 + c % 0x40)
  | [a, b, c, d] =>
      Char.ofNat (((a % 8 * 0x40 + b % 0x40) * 0x40 + c % 0x40) * 0x40 + d % 0x40)
  | _ => '\ufffd'

def readOctetChar (place : TagPlace) (begun : Mark) (c : Cursor) :
    Except Fault (Char × Cursor) :=
  match octet? c.rest with
  | none => .error (c.fault .octetMissing place.address begun)
  | some byte =>
      match utf8Width? byte with
      | none => .error (c.fault .octetWrongFirst place.address begun)
      | some width =>
          (readOctets place begun (width - 1) [byte] (c.skipMany 3)).map fun r =>
            (charOfOctets r.1, r.2)

def readTagChars (bracketed : Bool) (place : TagPlace) (begun : Mark) :
    Nat → Cursor → Except Fault (List Char × Cursor)
  | 0, c => .ok ([], c)
  | fuel + 1, c =>
      match c.rest with
      | [] => .ok ([], c)
      | d :: _ =>
          if isTagChar bracketed d then
            let one := if d = '%' then readOctetChar place begun c else .ok (d, c.skip)
            match one with
            | .error fault => .error fault
            | .ok (e, after) =>
                (readTagChars bracketed place begun fuel after).map fun r => (e :: r.1, r.2)
          else .ok ([], c)

def readAddress (bracketed : Bool) (place : TagPlace) (head : List Char) (begun : Mark)
    (c : Cursor) : Except Fault (List Char × Cursor) :=
  match readTagChars bracketed place begun (c.rest.length + 1) c with
  | .error fault => .error fault
  | .ok (address, after) =>
      if head.isEmpty && address.isEmpty then
        .error (after.fault .tagMissing place.address begun)
      else .ok (head.drop 1 ++ address, after)

def isFullHandle (handle : List Char) : Bool :=
  1 < handle.length && handle.getLast? == some '!'

-- Reads a tag as a handle and an address. A lone exclamation mark has no handle.
def readTagParts (c : Cursor) : Except Fault ((String × String) × Cursor) :=
  if c.skip.sees '<' then
    match readAddress true .value [] c.mark (c.skipMany 2) with
    | .error fault => .error fault
    | .ok (address, after) =>
        if after.sees '>' then .ok (("", String.ofList address), after.skip)
        else .error (after.fault .tagUnclosed .tag c.mark)
  else
    match readHandle .value c.mark c with
    | .error fault => .error fault
    | .ok (handle, after) =>
        if isFullHandle handle then
          (readAddress false .value [] c.mark after).map fun r =>
            ((String.ofList handle, String.ofList r.1), r.2)
        else
          (readAddress false .value handle c.mark after).map fun r =>
            (if r.1.isEmpty then ("", "!") else ("!", String.ofList r.1), r.2)

def readTag (flow : Bool) (c : Cursor) : Except Fault ((String × String) × Cursor) :=
  match readTagParts c with
  | .error fault => .error fault
  | .ok (tag, after) =>
      if (flow && after.sees ',') || after.blankAt 0 then .ok (tag, after)
      else .error (after.fault .blankOrLineEndMissing .tag c.mark)

def readVersionNumber (begun : Mark) (c : Cursor) : Except Fault (Nat × Cursor) :=
  let digits := c.span Char.isDigit
  if 9 < digits.1.length then
    .error ((c.skipMany 9).fault .versionTooLong .versionDirective begun)
  else if digits.1.isEmpty then .error (c.fault .versionMissing .versionDirective begun)
  else .ok (digits.1.foldl (fun n d => 10 * n + (d.toNat - 48)) 0, digits.2)

def readVersion (begun : Mark) (c : Cursor) : Except Fault (TokenKind × Cursor) :=
  match readVersionNumber begun (c.skipWhile isBlank) with
  | .error fault => .error fault
  | .ok (major, after) =>
      if after.sees '.' then
        (readVersionNumber begun after.skip).map fun minor => (.version major minor.1, minor.2)
      else .error (after.fault .versionPointMissing .versionDirective begun)

def readTagDirective (begun : Mark) (c : Cursor) : Except Fault (TokenKind × Cursor) :=
  match readHandle .directive begun (c.skipWhile isBlank) with
  | .error fault => .error fault
  | .ok (handle, after) =>
      if after.seesAny isBlank then
        match readAddress true .directive [] begun (after.skipWhile isBlank) with
        | .error fault => .error fault
        | .ok (lead, after) =>
            if after.blankAt 0 then
              .ok (.tagDirective (String.ofList handle) (String.ofList lead), after)
            else .error (after.fault .blankOrLineEndMissing .tagDirective begun)
      else .error (after.fault .blankMissing .tagDirective begun)

def readDirectiveBody (begun : Mark) (c : Cursor) : Except Fault (TokenKind × Cursor) :=
  let name := c.span isWordChar
  if name.1.isEmpty then .error (name.2.fault .directiveNameMissing .directive begun)
  else if !name.2.blankAt 0 then
    .error (name.2.fault .directiveNameUnended .directive begun)
  else if name.1 = "YAML".toList then readVersion begun name.2
  else if name.1 = "TAG".toList then readTagDirective begun name.2
  else .error (name.2.fault .directiveUnknown .directive begun)

def readDirective (c : Cursor) : Except Fault (Token × Cursor) :=
  match readDirectiveBody c.mark c.skip with
  | .error fault => .error fault
  | .ok (kind, after) =>
      let lineEnd := (after.skipWhile isBlank).skipComment
      if lineEnd.blankAt 0 then .ok (⟨kind, c.mark, after.mark⟩, lineEnd.skipLine)
      else .error (lineEnd.fault .lineEndMissing .directive c.mark)

end ApiContract.Yaml
