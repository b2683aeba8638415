/-!
# Reading string literals

The string literals of a JSON text, as far as they stand for characters of the basic plane.
-/

namespace SphereBench.Json

/-- The four characters that JSON allows between its tokens. -/
def isBlank (c : Char) : Bool := c = ' ' || c = '\t' || c = '\n' || c = '\r'

/-- The text after its leading blanks. -/
def skipBlanks (cs : List Char) : List Char := cs.dropWhile isBlank

/-- The value of a hexadecimal digit of either case. -/
def hexValue? (c : Char) : Option Nat :=
  if c.isDigit then some (c.toNat - '0'.toNat)
  else if 'a' ≤ c ∧ c ≤ 'f' then some (c.toNat - 'a'.toNat + 10)
  else if 'A' ≤ c ∧ c ≤ 'F' then some (c.toNat - 'A'.toNat + 10)
  else none

/-- The character with four hexadecimal digits; half a surrogate pair is none. -/
def charOfHex? (a b c d : Char) : Option Char := do
  let n := 4096 * (← hexValue? a) + 256 * (← hexValue? b) + 16 * (← hexValue? c) + (← hexValue? d)
  if 0xD800 ≤ n ∧ n ≤ 0xDFFF then none else some (Char.ofNat n)

/-- The character that an escape of one letter stands for. -/
def charOfEscape? : Char → Option Char
  | '"' => some '"'
  | '\\' => some '\\'
  | '/' => some '/'
  | 'b' => some '\x08'
  | 'f' => some '\x0c'
  | 'n' => some '\n'
  | 'r' => some '\r'
  | 't' => some '\t'
  | _ => none

/-- Puts a character, if there is one, before the characters read from the rest. -/
def before? (c : Option Char) (rest : Option (List Char × List Char)) :
    Option (List Char × List Char) := do
  let (cs, after) ← rest
  some ((← c) :: cs, after)

/-- The characters up to the closing quote, and the text after it. Control characters are not
allowed unescaped. -/
def readBody? : List Char → Option (List Char × List Char)
  | [] => none
  | '"' :: rest => some ([], rest)
  | '\\' :: 'u' :: a :: b :: c :: d :: rest => before? (charOfHex? a b c d) (readBody? rest)
  | '\\' :: c :: rest => before? (charOfEscape? c) (readBody? rest)
  | c :: rest => if c.toNat < 0x20 then none else before? (some c) (readBody? rest)

/-- The characters of the string literal at the start of a text, and the text after it. -/
def readQuoted? : List Char → Option (List Char × List Char)
  | '"' :: rest => readBody? rest
  | _ => none

end SphereBench.Json
