import RowScope.Json.Basic

/-!
# Writing interchange documents

A document is written without blanks.  Inside a text only quotes, backslashes
and the characters below the blank are escaped, the latter by a letter where
the format has one and by four hexadecimal digits otherwise.  For what was
malformed stands half of a surrogate pair.
-/

namespace RowScope.Json

open Number

/-- The hexadecimal digit of a number below sixteen, in lower case. -/
def hexChar (n : Nat) : Char :=
  if n < 10 then Char.ofNat (48 + n) else Char.ofNat (87 + n)

/-- A character as it is written inside a text. -/
def escapeChar (c : Char) : List Char :=
  if c = '"' then ['\\', '"']
  else if c = '\\' then ['\\', '\\']
  else if c.toNat < 32 then
    if c.toNat = 8 then ['\\', 'b']
    else if c.toNat = 9 then ['\\', 't']
    else if c.toNat = 10 then ['\\', 'n']
    else if c.toNat = 12 then ['\\', 'f']
    else if c.toNat = 13 then ['\\', 'r']
    else ['\\', 'u', '0', '0', hexChar (c.toNat / 16), hexChar (c.toNat % 16)]
  else [c]

/-- The characters of a text as they are written, without the quotes around. -/
def escape (cs : List Char) : List Char := cs.flatMap escapeChar

/-- A text between quotes. -/
def quoted (s : String) : List Char := '"' :: (escape s.toList ++ ['"'])

mutual

/-- A document as it is written. -/
def chars : Json → List Char
  | .null => ['n', 'u', 'l', 'l']
  | .bool true => ['t', 'r', 'u', 'e']
  | .bool false => ['f', 'a', 'l', 's', 'e']
  | .number n => n.chars true
  | .text s => quoted s
  | .array [] => ['[', ']']
  | .array (j :: js) => '[' :: (chars j ++ itemChars js)
  | .object [] => ['{', '}']
  | .object ((name, j) :: ms) => '{' :: (quoted name ++ ':' :: (chars j ++ memberChars ms))
  | .malformed => ['"', '\\', 'u', 'd', '8', '0', '0', '"']

/-- The items after the first one, each after a comma, and the closing bracket. -/
def itemChars : List Json → List Char
  | [] => [']']
  | j :: js => ',' :: (chars j ++ itemChars js)

/-- The members after the first one, each after a comma, and the closing brace. -/
def memberChars : List (String × Json) → List Char
  | [] => ['}']
  | (name, j) :: ms => ',' :: (quoted name ++ ':' :: (chars j ++ memberChars ms))

end

/-- A document as text. -/
def print (j : Json) : String := String.ofList j.chars

end RowScope.Json
