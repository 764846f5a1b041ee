import Ngfw.Lib.Text

/-!
# JSON texts

Reading UTF-8 and JSON as Go's `unicode/utf8` and `encoding/json` do. The members of an object keep the text of their
values; the elements of an array are checked and dropped.
-/

namespace Ngfw.Lib

/-! ## UTF-8 -/

namespace Utf8

def isTail (byte : UInt8) : Bool :=
  0x80 ≤ byte.toNat && byte.toNat ≤ 0xbf

def tail (byte : UInt8) : Nat :=
  byte.toNat % 64

def secondRange (first : Nat) : Nat × Nat :=
  if first = 0xe0 then (0xa0, 0xbf)
  else if first = 0xed then (0x80, 0x9f)
  else if first = 0xf0 then (0x90, 0xbf)
  else if first = 0xf4 then (0x80, 0x8f)
  else (0x80, 0xbf)

def isSecond (first second : UInt8) : Bool :=
  let range := secondRange first.toNat
  range.1 ≤ second.toNat && second.toNat ≤ range.2

def decode : List UInt8 → Option (List Char)
  | [] => some []
  | a :: rest =>
    let first := a.toNat
    if first < 0x80 then (decode rest).map (Char.ofNat first :: ·)
    else match rest with
      | b :: rest =>
        if !isSecond a b then none
        else if 0xc2 ≤ first ∧ first ≤ 0xdf then
          (decode rest).map (Char.ofNat (first % 32 * 64 + tail b) :: ·)
        else match rest with
          | c :: rest =>
            if !isTail c then none
            else if 0xe0 ≤ first ∧ first ≤ 0xef then
              (decode rest).map (Char.ofNat ((first % 16 * 64 + tail b) * 64 + tail c) :: ·)
            else match rest with
              | d :: rest =>
                if !isTail d then none
                else if 0xf0 ≤ first ∧ first ≤ 0xf4 then
                  (decode rest).map
                    (Char.ofNat (((first % 8 * 64 + tail b) * 64 + tail c) * 64 + tail d) :: ·)
                else none
              | [] => none
          | [] => none
      | [] => none

end Utf8

/-! ## JSON -/

inductive Json
  | null
  | bool (value : Bool)
  | number
  | string (value : List Char)
  | array
  | object (members : List (List Char × List Char × Json))

namespace Json

def skipSpace (text : List Char) : List Char :=
  text.dropWhile fun c => c = ' ' ∨ c = '\t' ∨ c = '\r' ∨ c = '\n'

/-! ### Numbers -/

def afterDigits (text : List Char) : Option (List Char) :=
  let rest := text.dropWhile Char.isDigit
  if rest.length < text.length then some rest else none

def afterInteger : List Char → Option (List Char)
  | '0' :: rest => some rest
  | text => afterDigits text

def afterFraction : List Char → Option (List Char)
  | '.' :: rest => afterDigits rest
  | text => some text

def afterExponent : List Char → Option (List Char)
  | c :: rest =>
    if c = 'e' ∨ c = 'E' then
      match rest with
      | '+' :: rest => afterDigits rest
      | '-' :: rest => afterDigits rest
      | rest => afterDigits rest
    else some (c :: rest)
  | [] => some []

def afterNumber (text : List Char) : Option (List Char) :=
  let unsigned := match text with
    | '-' :: rest => rest
    | rest => rest
  ((afterInteger unsigned).bind afterFraction).bind afterExponent

/-! ### Strings -/

abbrev StringUnit := Char ⊕ Nat

def hexDigit (c : Char) : Option Nat :=
  if '0' ≤ c ∧ c ≤ '9' then some (c.toNat - '0'.toNat)
  else if 'a' ≤ c ∧ c ≤ 'f' then some (c.toNat - 'a'.toNat + 10)
  else if 'A' ≤ c ∧ c ≤ 'F' then some (c.toNat - 'A'.toNat + 10)
  else none

def hexValue (digits : List Char) : Option Nat :=
  digits.foldlM (fun value c => (hexDigit c).map (value * 16 + ·)) 0

def simpleEscape : Char → Option Char
  | '"' => some '"'
  | '\\' => some '\\'
  | '/' => some '/'
  | 'b' => some (Char.ofNat 8)
  | 'f' => some (Char.ofNat 12)
  | 'n' => some '\n'
  | 'r' => some '\r'
  | 't' => some '\t'
  | _ => none

def stringUnits : List Char → Option (List StringUnit × List Char)
  | [] => none
  | '"' :: rest => some ([], rest)
  | '\\' :: 'u' :: a :: b :: c :: d :: rest =>
    match hexValue [a, b, c, d], stringUnits rest with
    | some code, some (units, after) => some (.inr code :: units, after)
    | _, _ => none
  | '\\' :: c :: rest =>
    match simpleEscape c, stringUnits rest with
    | some value, some (units, after) => some (.inl value :: units, after)
    | _, _ => none
  | c :: rest =>
    if c.toNat < 0x20 ∨ c = '\\' then none
    else match stringUnits rest with
      | some (units, after) => some (.inl c :: units, after)
      | none => none

def isHighSurrogate (code : Nat) : Bool := 0xd800 ≤ code && code < 0xdc00

def isLowSurrogate (code : Nat) : Bool := 0xdc00 ≤ code && code < 0xe000

/-- An escaped pair of surrogates is one character, any other surrogate the replacement character. -/
def joinUnits : List StringUnit → List Char
  | [] => []
  | .inl c :: rest => c :: joinUnits rest
  | .inr high :: .inr low :: rest =>
    if isHighSurrogate high && isLowSurrogate low then
      Char.ofNat ((high - 0xd800) * 1024 + (low - 0xdc00) + 0x10000) :: joinUnits rest
    else if isHighSurrogate high || isLowSurrogate high then Char.ofNat 0xfffd :: joinUnits (.inr low :: rest)
    else Char.ofNat high :: joinUnits (.inr low :: rest)
  | .inr code :: rest =>
    (if isHighSurrogate code || isLowSurrogate code then Char.ofNat 0xfffd else Char.ofNat code) :: joinUnits rest

/-! ### Values -/

def consumed (text rest : List Char) : List Char :=
  text.take (text.length - rest.length)

-- Of two calls, one inside the other, at least one reads a character, so twice the length of the text is fuel enough.
-- `depth` is the nesting still allowed.
mutual

def parseValue : Nat → Nat → List Char → Option (Json × List Char)
  | 0, _, _ => none
  | fuel + 1, depth, text =>
    match text with
    | '{' :: rest =>
      if depth = 0 then none
      else match skipSpace rest with
        | '}' :: rest => some (.object [], rest)
        | rest => parseMembers fuel (depth - 1) rest []
    | '[' :: rest =>
      if depth = 0 then none
      else match skipSpace rest with
        | ']' :: rest => some (.array, rest)
        | rest => parseElements fuel (depth - 1) rest
    | '"' :: rest => (stringUnits rest).map fun (units, rest) => (.string (joinUnits units), rest)
    | 'n' :: 'u' :: 'l' :: 'l' :: rest => some (.null, rest)
    | 't' :: 'r' :: 'u' :: 'e' :: rest => some (.bool true, rest)
    | 'f' :: 'a' :: 'l' :: 's' :: 'e' :: rest => some (.bool false, rest)
    | text => (afterNumber text).map fun rest => (.number, rest)

def parseMembers : Nat → Nat → List Char → List (List Char × List Char × Json) → Option (Json × List Char)
  | 0, _, _, _ => none
  | fuel + 1, depth, text, members =>
    match text with
    | '"' :: rest =>
      match stringUnits rest with
      | none => none
      | some (units, rest) =>
        match skipSpace rest with
        | ':' :: rest =>
          let start := skipSpace rest
          match parseValue fuel depth start with
          | none => none
          | some (value, rest) =>
            let members := members ++ [(joinUnits units, consumed start rest, value)]
            match skipSpace rest with
            | ',' :: rest => parseMembers fuel depth (skipSpace rest) members
            | '}' :: rest => some (.object members, rest)
            | _ => none
        | _ => none
    | _ => none

def parseElements : Nat → Nat → List Char → Option (Json × List Char)
  | 0, _, _ => none
  | fuel + 1, depth, text =>
    match parseValue fuel depth text with
    | none => none
    | some (_, rest) =>
      match skipSpace rest with
      | ',' :: rest => parseElements fuel depth (skipSpace rest)
      | ']' :: rest => some (.array, rest)
      | _ => none

end

def maxNestingDepth : Nat := 10000

def parse (text : List Char) : Option Json :=
  match parseValue (2 * text.length + 2) maxNestingDepth (skipSpace text) with
  | some (value, rest) => if (skipSpace rest).isEmpty then some value else none
  | none => none

end Json

end Ngfw.Lib
