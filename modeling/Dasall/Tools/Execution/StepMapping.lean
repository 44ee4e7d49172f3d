import Dasall.Lib.OrderedMap
import Dasall.Lib.Text
import Mathlib.Data.List.Lex
import Mathlib.Data.UInt

/-!
# Values between steps

The value of a member of one step's payload becomes an argument of another step. Payloads and
arguments are read as flat objects: a value that is not a string is copied up to the next comma
or brace outside all brackets. A function takes what is left of the text and returns what it read
with what is left after it.
-/

open Dasall.Lib Dasall.Lib.Text

namespace Dasall.Tools.Execution

def escapeByte (character : Byte) : Bytes :=
  if character = 92 then [92, 92]
  else if character = 34 then [92, 34]
  else if character = 10 then [92, 110]
  else if character = 13 then [92, 114]
  else if character = 9 then [92, 116]
  else [character]

def escapeJson (value : Bytes) : Bytes := value.flatMap escapeByte

def skipAsciiWs (text : Bytes) : Bytes := text.dropWhile isSpace

/-- The loop of `parse_json_string_token`, behind the opening quote. The character behind a
backslash is taken as it is. -/
def parseStringBody (value : Bytes) : Bytes → Option (Bytes × Bytes)
  | [] => none
  | character :: text =>
    if character = 92 then
      match text with
      | [] => none
      | escaped :: text => parseStringBody (value ++ [escaped]) text
    else if character = 34 then some (value, text)
    else parseStringBody (value ++ [character]) text

def parseJsonStringToken : Bytes → Option (Bytes × Bytes)
  | [] => none
  | character :: text => if character = 34 then parseStringBody [] text else none

/-- How far a value that is not a string goes. -/
def bareLength (nestedBraces nestedBrackets : Int) : Bytes → Nat
  | [] => 0
  | character :: text =>
    if character = 123 then bareLength (nestedBraces + 1) nestedBrackets text + 1
    else if character = 125 then
      if nestedBraces = 0 ∧ nestedBrackets = 0 then 0
      else bareLength (nestedBraces - 1) nestedBrackets text + 1
    else if character = 91 then bareLength nestedBraces (nestedBrackets + 1) text + 1
    else if character = 93 then bareLength nestedBraces (nestedBrackets - 1) text + 1
    else if character = 44 ∧ nestedBraces = 0 ∧ nestedBrackets = 0 then 0
    else bareLength nestedBraces nestedBrackets text + 1

def trimEnd (text : Bytes) : Bytes := (text.reverse.dropWhile isSpace).reverse

def parseJsonValueToken (text : Bytes) : Option (Bytes × Bytes) :=
  let text := skipAsciiWs text
  match text with
  | [] => none
  | character :: _ =>
    if character = 34 then
      (parseJsonStringToken text).map fun (parsed, rest) =>
        (str "\"" ++ escapeJson parsed ++ str "\"", rest)
    else
      let rawValue := trimEnd (text.take (bareLength 0 0 text))
      some (rawValue, text.drop rawValue.length)

abbrev FlatObject := OrderedMap Bytes Bytes

/-- The loop over the members. Each turn reads at least one character, so that a fuel of one more
than what is left is enough. -/
def parseMembers : Nat → FlatObject → Bytes → Option FlatObject
  | 0, _, _ => none
  | fuel + 1, values, text =>
    let text := skipAsciiWs text
    if text.head? = some 125 then some values
    else
      match parseJsonStringToken text with
      | none => none
      | some (key, text) =>
        match skipAsciiWs text with
        | [] => none
        | colon :: text =>
          if colon = 58 then
            match parseJsonValueToken text with
            | none => none
            | some (rawValue, text) =>
              let values := values.assign key rawValue
              match skipAsciiWs text with
              | [] => none
              | next :: rest =>
                if next = 44 then parseMembers fuel values rest
                else if next = 125 then some values
                else parseMembers fuel values (next :: rest)
          else none

def parseFlatJsonObject (text : Bytes) : Option FlatObject :=
  match skipAsciiWs text with
  | [] => none
  | character :: text =>
    if character = 123 then parseMembers (text.length + 1) OrderedMap.empty text else none

def serializeMember (member : Bytes × Bytes) : Bytes :=
  str "\"" ++ escapeJson member.1 ++ str "\":" ++ member.2

def serializeFlatJsonObject (values : FlatObject) : Bytes :=
  str "\x7b" ++ [44].intercalate (values.entries.map serializeMember) ++ str "\x7d"

def extractJsonPointerValue (payload pointer : Bytes) : Option Bytes :=
  match pointer with
  | [] => none
  | character :: key =>
    if character = 47 then (parseFlatJsonObject payload).bind fun values => values.entries.lookup key
    else none

def injectArgumentValue (rawArguments key rawValue : Bytes) : Option Bytes :=
  (parseFlatJsonObject rawArguments).map fun values =>
    serializeFlatJsonObject (values.assign key rawValue)

end Dasall.Tools.Execution
