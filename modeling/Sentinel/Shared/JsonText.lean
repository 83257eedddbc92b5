import Sentinel.Lib.JsonString
import Sentinel.Shared.Json

/-!
# JSON as text

`json.loads` and `json.dumps` of Python. The reader takes blanks between tokens, reads `NaN` and
the infinities, keeps the last of two fields with one key (`Dict.ofList`) and refuses what is
nested too deep and an integer with more than 4300 digits. How a float is read and where the
recursion ends is up to the interpreter.

* `loads` — the reader
* `dumps` — the writer, with the separators of the caller
* `JsonModule` — both, for one interpreter
-/

namespace Sentinel

open Lib

/-- The ways in which a text is refused. A surrogate without its other half is a character of the
language, but no text here can hold it. -/
inductive JsonError
  | malformed
  | tooDeep
  | tooLong
  | surrogate
deriving DecidableEq, Repr

/-- What the interpreter decides. -/
structure Decoder where
  recursionLimit : Nat
  parseFloat : List Char → Json

/-- The exception behind each; the last one raises none. -/
def JsonError.raised : JsonError → PyError
  | malformed => .jsonDecodeError
  | tooDeep => .other "RecursionError"
  | tooLong => .valueError "Exceeds the limit (4300 digits) for integer string conversion"
  | surrogate => .other "surrogate"

namespace Json

/-! ## the reader -/

def isBlankChar (c : Char) : Bool := c = ' ' || c = '\t' || c = '\n' || c = '\r'

def skipBlanks (text : List Char) : List Char := text.dropWhile isBlankChar

def literals : List (List Char × Json) :=
  [("null".toList, null), ("true".toList, bool true), ("false".toList, bool false),
    ("NaN".toList, nonFinite "NaN"), ("Infinity".toList, nonFinite "Infinity"),
    ("-Infinity".toList, nonFinite "-Infinity")]

def scanLiteral (text : List Char) : Option (Json × List Char) :=
  literals.findSome? fun l =>
    if l.1.isPrefixOf text then some (l.2, text.drop l.1.length) else none

/-- One zero, or the digits. -/
def integerPart : List Char → Option (List Char × List Char)
  | [] => none
  | c :: rest =>
    if c = '0' then some ([c], rest)
    else if c.isDigit then some ((c :: rest).span Char.isDigit)
    else none

/-- A point and the digits behind it, of which there is one at least. -/
def fraction (text : List Char) : List Char × List Char :=
  match text with
  | '.' :: rest =>
    match rest.span Char.isDigit with
    | ([], _) => ([], text)
    | (digits, rest) => ('.' :: digits, rest)
  | _ => ([], text)

def exponent (text : List Char) : List Char × List Char :=
  match text with
  | c :: rest =>
    if c = 'e' || c = 'E' then
      let (sign, rest) : List Char × List Char :=
        match rest with
        | s :: rest' => if s = '+' || s = '-' then ([s], rest') else ([], rest)
        | [] => ([], rest)
      match rest.span Char.isDigit with
      | ([], _) => ([], text)
      | (digits, rest) => (c :: sign ++ digits, rest)
    else ([], text)
  | [] => ([], text)

def scanSign : List Char → List Char × List Char
  | '-' :: rest => (['-'], rest)
  | text => ([], text)

/-- `int`, with the limit of the interpreter. -/
def parseInt (sign digits : List Char) : Except JsonError Int :=
  if 4300 < digits.length then .error .tooLong
  else .ok (if sign = [] then (Nat.ofDigitChars 10 digits 0 : Int)
    else -(Nat.ofDigitChars 10 digits 0 : Int))

def scanNumber (D : Decoder) (text : List Char) : Except JsonError (Json × List Char) := do
  let (sign, rest) := scanSign text
  match integerPart rest with
  | none => .error .malformed
  | some (digits, rest) =>
    let (frac, rest) := fraction rest
    let (exp, rest) := exponent rest
    if frac = [] ∧ exp = [] then
      let n ← parseInt sign digits
      return (int n, rest)
    else return (D.parseFloat (sign ++ digits ++ frac ++ exp), rest)

/-- The text behind an opening quote. -/
def scanString (text : List Char) : Except JsonError (String × List Char) :=
  match JsonString.read text with
  | none => .error .malformed
  | some (none, _) => .error .surrogate
  | some (some s, rest) => .ok (String.ofList s, rest)

mutual

/-- The value at the start of the text. Each call reads a character, so that there is enough fuel
if it is more than the length of the text. -/
def scanOnce (D : Decoder) : Nat → Nat → List Char → Except JsonError (Json × List Char)
  | 0, _, _ => .error .malformed
  | _, _, [] => .error .malformed
  | fuel + 1, depth, c :: rest =>
    if c = '"' then do
      let (s, rest) ← scanString rest
      return (str s, rest)
    else if c = '[' then
      match depth with
      | 0 => .error .tooDeep
      | depth + 1 =>
        match skipBlanks rest with
        | ']' :: rest => .ok (arr [], rest)
        | rest => do
          let (items, rest) ← scanItems D fuel depth rest
          return (arr items, rest)
    else if c = '{' then
      match depth with
      | 0 => .error .tooDeep
      | depth + 1 =>
        match skipBlanks rest with
        | '}' :: rest => .ok (obj [], rest)
        | rest => do
          let (fields, rest) ← scanFields D fuel depth rest
          return (obj fields, rest)
    else
      match scanLiteral (c :: rest) with
      | some r => .ok r
      | none => scanNumber D (c :: rest)

/-- The items up to the closing bracket. -/
def scanItems (D : Decoder) : Nat → Nat → List Char → Except JsonError (List Json × List Char)
  | 0, _, _ => .error .malformed
  | fuel + 1, depth, text => do
    let (v, rest) ← scanOnce D fuel depth text
    match skipBlanks rest with
    | ']' :: rest => return ([v], rest)
    | ',' :: rest => do
      let (items, rest) ← scanItems D fuel depth (skipBlanks rest)
      return (v :: items, rest)
    | _ => .error .malformed

/-- The fields up to the closing brace. -/
def scanFields (D : Decoder) : Nat → Nat → List Char →
    Except JsonError (List (String × Json) × List Char)
  | fuel + 1, depth, '"' :: text => do
    let (key, rest) ← scanString text
    match skipBlanks rest with
    | ':' :: rest => do
      let (v, rest) ← scanOnce D fuel depth (skipBlanks rest)
      match skipBlanks rest with
      | '}' :: rest => return ([(key, v)], rest)
      | ',' :: rest => do
        let (fields, rest) ← scanFields D fuel depth (skipBlanks rest)
        return ((key, v) :: fields, rest)
      | _ => .error .malformed
    | _ => .error .malformed
  | _, _, _ => .error .malformed

end

end Json

/-- `json.loads`. -/
def loads (D : Decoder) (text : String) : Except JsonError Json := do
  let (v, rest) ← Json.scanOnce D (text.toList.length + 1) D.recursionLimit
    (Json.skipBlanks text.toList)
  if Json.skipBlanks rest = [] then return v else .error .malformed

namespace Json

/-! ## the writer -/

/-- The arguments of `json.dumps`, and how the interpreter writes a float. -/
structure Encoder where
  ensureAscii : Bool
  itemSeparator : List Char
  keySeparator : List Char
  reprFloat : Rat → List Char

/-- `json.dumps` without further arguments. -/
def Encoder.default (reprFloat : Rat → List Char) : Encoder :=
  ⟨true, ", ".toList, ": ".toList, reprFloat⟩

/-- What FastAPI writes, and httpx from 0.28 on. -/
def Encoder.compact (reprFloat : Rat → List Char) : Encoder := ⟨false, [','], [':'], reprFloat⟩

/-- `str(n)`. -/
def intText (n : Int) : List Char :=
  if n < 0 then '-' :: Nat.toDigits 10 n.natAbs else Nat.toDigits 10 n.natAbs

mutual

def write (E : Encoder) : Json → List Char
  | null => "null".toList
  | bool true => "true".toList
  | bool false => "false".toList
  | int n => intText n
  | float q => E.reprFloat q
  | nonFinite s => s.toList
  | str s => JsonString.literal E.ensureAscii s.toList
  | arr items => '[' :: writeItems E items ++ [']']
  | obj fields => '{' :: writeFields E fields ++ ['}']

def writeItems (E : Encoder) : List Json → List Char
  | [] => []
  | [v] => write E v
  | v :: items => write E v ++ E.itemSeparator ++ writeItems E items

def writeFields (E : Encoder) : List (String × Json) → List Char
  | [] => []
  | [(key, v)] => JsonString.literal E.ensureAscii key.toList ++ E.keySeparator ++ write E v
  | (key, v) :: fields =>
    JsonString.literal E.ensureAscii key.toList ++ E.keySeparator ++ write E v ++
      E.itemSeparator ++ writeFields E fields

end

end Json

/-- `json.dumps`. -/
def dumps (E : Json.Encoder) (v : Json) : String := String.ofList (Json.write E v)

/-- The module `json` of an interpreter that reads two levels at least. -/
structure JsonModule where
  decoder : Decoder
  reprFloat : Rat → List Char
  deep : 2 ≤ decoder.recursionLimit

/-- The limit a fresh interpreter has, for documents without floats. -/
def plainJson : JsonModule := ⟨⟨1000, fun _ => .null⟩, fun _ => [], by decide⟩

namespace JsonModule

variable (J : JsonModule)

def loads (text : String) : Except PyError Json :=
  (Sentinel.loads J.decoder text).mapError JsonError.raised

def dumps (v : Json) : String := Sentinel.dumps (.default J.reprFloat) v

/-- The body of a response. -/
def render (v : Json) : String := Sentinel.dumps (.compact J.reprFloat) v

end JsonModule

end Sentinel
