import RowScope.Text.Invisible

/-!
# Quoted text

Two ways of setting a text off from what stands around it.

* `quote` puts it between single quotes and writes a quote inside it twice.
* `literal` puts it between double quotes and escapes quotes, backslashes and
  every character without a visible form of its own.
-/

namespace RowScope.Text

/-- A text with every single quote written twice. -/
def doubleQuotes : List Char → List Char
  | [] => []
  | c :: cs => if c = '\'' then '\'' :: '\'' :: doubleQuotes cs else c :: doubleQuotes cs

/-- A text between single quotes. -/
def quote (s : String) : String :=
  String.ofList ('\'' :: doubleQuotes s.toList ++ ['\''])

/-- A character as it stands inside a literal. -/
def literalChar (c : Char) : List Char :=
  if c = '"' then ['\\', '"']
  else if c = '\\' then ['\\', '\\']
  else if c = '\n' then ['\\', 'n']
  else if c = '\r' then ['\\', 'r']
  else if c = '\t' then ['\\', 't']
  else if c.toNat = 0 then ['\\', '0']
  else if isInvisible c then
    ['\\', 'u', '{'] ++ Nat.toDigits 16 c.toNat ++ ['}']
  else [c]

/-- A text between double quotes, escaped. -/
def literal (s : String) : String :=
  String.ofList ('"' :: s.toList.flatMap literalChar ++ ['"'])

/-- Literals between brackets. -/
def literals (texts : List String) : String :=
  "[" ++ String.intercalate ", " (texts.map literal) ++ "]"

end RowScope.Text
