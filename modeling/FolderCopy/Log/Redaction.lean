import FolderCopy.AccessToken

/-!
# Redaction

A field whose name tells that it holds a secret, or whose value is a bearer token, leaves the
library with its value replaced. Names are compared without regard to case.
-/

namespace FolderCopy.Log

/-- A character in lower case, as far as ASCII letters can tell: of the characters beyond ASCII, the
Kelvin sign and the dotted capital I alone have a lower case with an ASCII letter. -/
def lowerChar (c : Char) : List Char :=
  if c = '\u212a' then ['k']
  else if c = '\u0130' then ['i', '\u0307']
  else [c.toLower]

/-- A name in lower case, as far as ASCII letters can tell. -/
def lower (name : String) : List Char :=
  name.toList.flatMap lowerChar

/-- The words that tell of a secret. -/
def sensitiveWords : List String :=
  ["token", "password", "secret", "api_key", "authorization", "bearer"]

/-- Whether one character list stands somewhere inside another. -/
def occursIn (word : List Char) : List Char → Bool
  | [] => word.isEmpty
  | c :: cs => word.isPrefixOf (c :: cs) || occursIn word cs

/-- Whether the name of a field tells of a secret. -/
def isSensitiveName (name : String) : Bool :=
  sensitiveWords.any fun w => occursIn w.toList (lower name)

/-- Whether a value is a bearer token. -/
def isBearer (value : String) : Bool :=
  "Bearer ".toList.isPrefixOf value.toList

/-- The value of a field as it may leave the library. -/
def redact (name value : String) : String :=
  if isSensitiveName name || isBearer value then AccessToken.redacted else value

/-- The value of a field as it leaves the library, with redaction on or off. -/
def told (redacting : Bool) (name value : String) : String :=
  if redacting then redact name value else value

end FolderCopy.Log
