/-!
# Values in configuration text

The values that a property can be given: text, whole numbers, truth values, arrays, and tables written
on one line. Numbers with a fraction and dates are left out, because no property takes one, and so are
keys with dots, because no property is a table with properties of its own.

Elements of arrays keep the place where they begin, counted in characters from the start of the text.
-/

namespace Abiscope.Toml

/-- A value. -/
inductive Value where
  | text (content : String)
  | integer (value : Int)
  | boolean (value : Bool)
  | array (elements : List (Nat × Value))
  | table (entries : List (String × Value))

/-- A line that says something: a property with its value, or the header of a new element of an array of
tables with the path to the array and the place where the header begins. -/
inductive Line where
  | property (key : String) (value : Value)
  | element (path : List String) (start : Nat)

/-- The value under a key. -/
def lookup? (entries : List (String × Value)) (key : String) : Option Value :=
  (entries.find? (·.1 == key)).map Prod.snd

end Abiscope.Toml
