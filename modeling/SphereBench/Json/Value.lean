import SphereBench.Decimal.Style
/-!
# JSON texts

The values of a JSON text and their two written forms: on one line without blanks, and indented by
two blanks for each level.
-/

namespace SphereBench

/-- A JSON value. -/
inductive Json where
  /-- The value `null`. -/
  | null
  /-- A whole number that counts something. -/
  | count (n : Nat)
  /-- A double; JSON has no text for one that is not finite, and `null` stands for it. -/
  | number (x : Float)
  /-- A string. -/
  | text (s : String)
  /-- An array. -/
  | array (items : List Json)
  /-- An object, its members in the order of the text. -/
  | object (members : List (String × Json))

namespace Json

/-- A hexadecimal digit in lower case. -/
def hexDigit (n : Nat) : Char := (Nat.digitChar n)

/-- A character inside a string literal. The quote, the backslash and the control characters below
U+0020 are escaped, nothing else is. -/
def escape (c : Char) : List Char :=
  if c = '"' then ['\\', '"']
  else if c = '\\' then ['\\', '\\']
  else if c.toNat = 0x08 then ['\\', 'b']
  else if c.toNat = 0x09 then ['\\', 't']
  else if c.toNat = 0x0A then ['\\', 'n']
  else if c.toNat = 0x0C then ['\\', 'f']
  else if c.toNat = 0x0D then ['\\', 'r']
  else if c.toNat < 0x20 then
    ['\\', 'u', '0', '0', hexDigit (c.toNat / 16), hexDigit (c.toNat % 16)]
  else [c]

/-- The string literal of a text. -/
def quote (s : String) : String := "\"" ++ String.ofList (s.toList.flatMap escape) ++ "\""

/-- The text of a double. -/
def numberText (x : Float) : String :=
  if x.isFinite then Decimal.Style.json.text x else "null"

mutual

/-- The text on one line, without blanks. -/
def compact : Json → String
  | null => "null"
  | count n => Decimal.digitsOf n
  | number x => numberText x
  | text s => quote s
  | array items => "[" ++ compactItems items ++ "]"
  | object members => "\x7b" ++ compactMembers members ++ "\x7d"

/-- The items of an array with commas between them. -/
def compactItems : List Json → String
  | [] => ""
  | [j] => compact j
  | j :: js => compact j ++ "," ++ compactItems js

/-- The members of an object with commas between them. -/
def compactMembers : List (String × Json) → String
  | [] => ""
  | [(key, j)] => quote key ++ ":" ++ compact j
  | (key, j) :: js => quote key ++ ":" ++ compact j ++ "," ++ compactMembers js

end

/-- A new line at a level of indentation. -/
def newLine (level : Nat) : String := "\n" ++ String.ofList (List.replicate (2 * level) ' ')

mutual

/-- The indented text of a value at a level of indentation. -/
def prettyAt (level : Nat) : Json → String
  | null => "null"
  | count n => Decimal.digitsOf n
  | number x => numberText x
  | text s => quote s
  | array [] => "[]"
  | array (j :: js) => "[" ++ prettyItems (level + 1) (j :: js) ++ newLine level ++ "]"
  | object [] => "\x7b\x7d"
  | object (m :: ms) =>
    "\x7b" ++ prettyMembers (level + 1) (m :: ms) ++ newLine level ++ "\x7d"

/-- The items of an array, each on a line of its own. -/
def prettyItems (level : Nat) : List Json → String
  | [] => ""
  | [j] => newLine level ++ prettyAt level j
  | j :: js => newLine level ++ prettyAt level j ++ "," ++ prettyItems level js

/-- The members of an object, each on a line of its own. -/
def prettyMembers (level : Nat) : List (String × Json) → String
  | [] => ""
  | [(key, j)] => newLine level ++ quote key ++ ": " ++ prettyAt level j
  | (key, j) :: js =>
    newLine level ++ quote key ++ ": " ++ prettyAt level j ++ "," ++ prettyMembers level js

end

/-- The text on several lines, indented by two blanks for each level. -/
def pretty (j : Json) : String := prettyAt 0 j

end Json

end SphereBench
