import Kahea.Base.Json

/-!
# A JSON Parser

A strict parser of JSON texts. It accepts ASCII texts whose numbers are 64-bit
integers and whose strings use the short escapes, and agrees on them with the
parser of a JSON library: members are sorted, and the last of two members of
one name wins. Other texts it refuses. It is the concrete parser that
statements about an arbitrary parser are instantiated with.

## Main definitions

* `parseValue`: A value at the front of a text.
* `parseJsonText`, `parseJsonBytes`: The parser.
-/

namespace Kahea

def isJsonSpace (c : Char) : Bool := c == ' ' || c == '\n' || c == '\r' || c == '\t'

/-- The character of a short escape. -/
def shortEscape (c : Char) : Option Char :=
  if c = '"' ∨ c = '\\' ∨ c = '/' then some c
  else if c = 'n' then some '\n'
  else if c = 'r' then some '\r'
  else if c = 't' then some '\t'
  else if c = 'b' then some (Char.ofNat 8)
  else if c = 'f' then some (Char.ofNat 12)
  else none

/-- The rest of a string, after its opening quote; `escaped` when a backslash
    has just been read. -/
def parseStringTail (escaped : Bool) : Str → Option (Str × Str)
  | [] => none
  | c :: rest =>
      if escaped then do
        let e ← shortEscape c
        let (s, rest) ← parseStringTail false rest
        some (e :: s, rest)
      else if c = '"' then some ([], rest)
      else if c = '\\' then parseStringTail true rest
      else if c.toNat < 0x20 ∨ 0x7F ≤ c.toNat then none
      else (parseStringTail false rest).map (fun r => (c :: r.1, r.2))

/-- An integer without a leading zero. -/
def parseInteger (s : Str) : Option (Number × Str) :=
  let negative := startsWith "-" s
  let s := if negative then s.drop 1 else s
  let digits := s.takeWhile Char.isDigit
  let rest := s.dropWhile Char.isDigit
  let n := digits.foldl (fun acc c => acc * 10 + (c.toNat - 48)) 0
  if digits = [] ∨ (digits.head? = some '0' ∧ digits ≠ ['0']) ∨
      rest.head?.any (fun c => c == '.' || c == 'e' || c == 'E') then none
  else if negative then
    if n = 0 ∨ u64Bound < 2 * n then none else some (.negInt (n - 1), rest)
  else if n < u64Bound then some (.posInt n, rest) else none

/-- The literal values. -/
def parseKeyword (s : Str) : Option (Value × Str) :=
  ((stripPrefix "null" s).map (fun rest => (Value.null, rest))).or
    (((stripPrefix "true" s).map (fun rest => (Value.bool true, rest))).or
      ((stripPrefix "false" s).map (fun rest => (Value.bool false, rest))))

/-- What is being read: a value, or the items or the members after those
    already done. -/
inductive JsonGoal where
  | value
  | items (done : List Value)
  | members (done : List (Str × Value))

/-- A value at the front of a text; the first argument bounds the number of
    steps. -/
def parseValue : Nat → JsonGoal → Str → Option (Value × Str)
  | 0, _, _ => none
  | n + 1, .value, s =>
      let s := s.dropWhile isJsonSpace
      match stripPrefix "\"" s, stripPrefix "[" s, stripPrefix "\x7b" s with
      | some rest, _, _ => (parseStringTail false rest).map (fun r => (.string r.1, r.2))
      | _, some rest, _ => match stripPrefix "]" (rest.dropWhile isJsonSpace) with
          | some rest => some (.array [], rest)
          | none => parseValue n (.items []) rest
      | _, _, some rest => match stripPrefix "\x7d" (rest.dropWhile isJsonSpace) with
          | some rest => some (.object [], rest)
          | none => parseValue n (.members []) rest
      | none, none, none =>
          (parseKeyword s).or ((parseInteger s).map (fun r => (.number r.1, r.2)))
  | n + 1, .items done, s => do
      let (v, rest) ← parseValue n .value s
      let rest := rest.dropWhile isJsonSpace
      match stripPrefix "," rest with
      | some rest => parseValue n (.items (done ++ [v])) rest
      | none => (stripPrefix "]" rest).map (fun rest => (.array (done ++ [v]), rest))
  | n + 1, .members done, s => do
      let rest ← stripPrefix "\"" (s.dropWhile isJsonSpace)
      let (key, rest) ← parseStringTail false rest
      let rest ← stripPrefix ":" (rest.dropWhile isJsonSpace)
      let (v, rest) ← parseValue n .value rest
      let rest := rest.dropWhile isJsonSpace
      match stripPrefix "," rest with
      | some rest => parseValue n (.members (insert key v done)) rest
      | none => (stripPrefix "\x7d" rest).map (fun rest => (.object (insert key v done), rest))

/-- The value of a whole text. -/
def parseJsonText (s : Str) : Except Str Value :=
  match parseValue (2 * s.length + 1) .value s with
  | some (v, rest) => if rest.all isJsonSpace then .ok v else .error "trailing characters"
  | none => .error "expected value"

/-- The value of a byte string. -/
def parseJsonBytes (bytes : List UInt8) : Except Str Value :=
  if bytes.all (· < 128) then parseJsonText (bytes.map (fun b => Char.ofNat b.toNat))
  else .error "unsupported character"

example : (parseJsonText "\x7b\"b\": [1, -2, true], \"a\": \"x\\n\"\x7d").toOption.map Value.render =
    some "\x7b\"a\":\"x\\n\",\"b\":[1,-2,true]\x7d".toList := by decide +kernel

end Kahea
