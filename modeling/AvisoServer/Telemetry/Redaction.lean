import AvisoServer.Lib.Redaction
import AvisoServer.Libraries
import Mathlib.Data.List.Infix

/-!
# Redaction of logged values

What is logged passes a redaction of keys, of the user information in URLs, and of passwords and
tokens in messages. Of these the string leaves of a JSON value pass one only.
-/

namespace AvisoServer

open Redaction

/-! ## 1. Keys -/

def isSensitiveKey (key : String) : Bool :=
  let lowerKey := toAsciiLowercase key
  ["password", "secret", "token", "authorization", "api_key"].any fun part =>
    decide (part.toList <:+: lowerKey.toList)

/-! ## 2. URLs -/

/-- What is before the first `://` of a text, and what is behind it. -/
def splitScheme : List Char → Option (List Char × List Char)
  | [] => none
  | c :: text =>
    if [':', '/', '/'].isPrefixOf (c :: text) then some ([], (c :: text).drop 3)
    else (splitScheme text).map fun parts => (c :: parts.1, parts.2)

def endsAuthority (c : Char) : Bool :=
  c = '/' || c = '?' || c = '#'

/-- The text behind the first `@` of an authority takes the place of its user information. -/
def redactUrlUserinfo (raw : String) : Option String :=
  match splitScheme raw.toList with
  | none => none
  | some (scheme, rest) =>
    let authority := rest.takeWhile fun c => !endsAuthority c
    if '@' ∈ authority then
      some (String.ofList (scheme ++ "://[REDACTED]@".toList ++
        (authority.dropWhile (· ≠ '@')).drop 1 ++ rest.dropWhile fun c => !endsAuthority c))
    else none

/-! ## 3. Messages -/

/-- A letter of a pattern that ignores case, with the characters that Unicode folds to it. -/
def foldsTo (letter c : Char) : Bool :=
  c.toLower = letter || (letter = 's' && c.toNat = 0x17F) || (letter = 'k' && c.toNat = 0x212A)

def keywordSteps (letters : List Char) : List (Step Char) :=
  letters.map fun letter => .one (foldsTo letter)

/-- `\s*[=:]\s*` -/
def assignmentSteps : List (Step Char) :=
  [.many isWhitespaceChar, .one fun c => c = '=' || c = ':', .many isWhitespaceChar]

/-- `(?i)(password\s*[=:]\s*)\S+` -/
def passwordRe : Pattern Char where
  first := foldsTo 'p'
  steps := keywordSteps ['a', 's', 's', 'w', 'o', 'r', 'd'] ++ assignmentSteps
  value c := !isWhitespaceChar c

/-- `(?i)(token\s*[=:]\s*)\S+` -/
def tokenRe : Pattern Char where
  first := foldsTo 't'
  steps := keywordSteps ['o', 'k', 'e', 'n'] ++ assignmentSteps
  value c := !isWhitespaceChar c

/-- `(?i)(bearer\s+)[a-z0-9\._\-]+` -/
def bearerRe : Pattern Char where
  first := foldsTo 'b'
  steps := keywordSteps ['e', 'a', 'r', 'e', 'r'] ++ [.one isWhitespaceChar, .many isWhitespaceChar]
  value c := c.isAlphanum || c = '.' || c = '_' || c = '-' || c.toNat = 0x17F || c.toNat = 0x212A

/-- `Regex::replace_all` with the replacement `$1[REDACTED]`. -/
def replaceAll (re : Pattern Char) (text : String) : String :=
  String.ofList (re.replaceAll "[REDACTED]".toList text.toList)

def redactMessage (message : String) : String :=
  let redacted := replaceAll passwordRe message
  let redacted := replaceAll tokenRe redacted
  replaceAll bearerRe redacted

/-! ## 4. JSON values -/

mutual

/-- The values of sensitive keys are redacted, and the other string leaves are rewritten. -/
def redactLeaves (leaf : String → String) : Json → Json
  | .object fields => .object (redactFields leaf fields)
  | .array items => .array (redactItems leaf items)
  | .string s => .string (leaf s)
  | .null => .null
  | .bool value => .bool value
  | .number value => .number value

def redactItems (leaf : String → String) : List Json → List Json
  | [] => []
  | item :: items => redactLeaves leaf item :: redactItems leaf items

def redactFields (leaf : String → String) : List (String × Json) → List (String × Json)
  | [] => []
  | (key, child) :: fields =>
    (key, if isSensitiveKey key then .string "[REDACTED]" else redactLeaves leaf child) ::
      redactFields leaf fields

end

/-- A string with a URL is redacted as one, and otherwise as a message. -/
def redactString (s : String) : String :=
  (redactUrlUserinfo s).getD (redactMessage s)

def redactEmbeddedJson (value : Json) : Json :=
  redactLeaves redactString value

def redactJsonValue (lib : Libraries) (key : String) (value : Json) : Json :=
  if isSensitiveKey key then .string "[REDACTED]"
  else
    match value with
    | .string s =>
      if key = "config" then
        match lib.jsonFromStr s with
        | .ok parsed => redactEmbeddedJson parsed
        | .error _ => .string (redactString s)
      else .string (redactString s)
    | other => other

/-- `redact_value_recursive`: a string without a URL is kept. -/
def redactValueRecursive (value : Json) : Json :=
  redactLeaves (fun s => (redactUrlUserinfo s).getD s) value

end AvisoServer
