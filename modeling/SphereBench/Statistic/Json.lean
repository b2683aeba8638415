import SphereBench.Json.Literal
import SphereBench.Json.Value
import SphereBench.Scalar.Double
import SphereBench.Statistic.VectorSignal
/-!
# Statistics in JSON texts

A kind of statistic is written as its name, a signal as an object from the names of its enabled
statistics to their values. A kind may also be given as an object with its name as the only key
and `null` as the value.
-/

namespace SphereBench

namespace Statistic

/-- A kind as its name. -/
def toJson (k : Statistic) : Json := .text k.name

/-- The kind with exactly these characters as its name. -/
def ofName? (cs : List Char) : Option Statistic := all.find? fun k => k.name.toList == cs

/-- The text after a character that has to come next, blanks aside. -/
def expect? (c : Char) (cs : List Char) : Option (List Char) :=
  match Json.skipBlanks cs with
  | d :: rest => if d = c then some rest else none
  | [] => none

/-- The text after the word `null`, blanks aside. -/
def expectNull? (cs : List Char) : Option (List Char) :=
  match Json.skipBlanks cs with
  | 'n' :: 'u' :: 'l' :: 'l' :: rest => some rest
  | _ => none

/-- A kind given by name, and the text after it. -/
def readName? (cs : List Char) : Option (Statistic × List Char) := do
  let (name, rest) ← Json.readQuoted? (Json.skipBlanks cs)
  some (← ofName? name, rest)

/-- A kind given as an object, after the opening brace. -/
def readMember? (cs : List Char) : Option (Statistic × List Char) := do
  let (k, rest) ← readName? cs
  let rest ← expectNull? (← expect? ':' rest)
  some (k, ← expect? '\x7d' rest)

/-- The kind that a whole JSON text stands for. -/
def ofJson? (s : String) : Option Statistic := do
  let (k, rest) ←
    match expect? '\x7b' s.toList with
    | some rest => readMember? rest
    | none => readName? s.toList
  if Json.skipBlanks rest = [] then some k else none

/-- Statistics with their values as an object. -/
def valuesToJson (values : List (Statistic × Float)) : Json :=
  .object (values.map fun (k, x) => (k.name, .number x))

end Statistic

/-- The enabled statistics of a signal as an object. -/
def Signal.toJson (s : Signal Float) : Json := Statistic.valuesToJson s.values

/-- The four signals of a stream of vectors as an object. -/
def VectorSignal.toJson (s : VectorSignal Float) : Json :=
  .object [("x", s.x.toJson), ("y", s.y.toJson), ("z", s.z.toJson), ("mag", s.magnitude.toJson)]

end SphereBench
