import Mathlib.Data.List.Sort

/-! # Canonical JSON text

Objects with sorted keys and no white space, over integers below `2 ^ 53` and texts that
need no escape. -/

namespace Json

def ascii (text : String) : List UInt8 := text.toUTF8.toList

def string (text : String) : List UInt8 := ascii s!"\"{text}\""

def number (value : ℤ) : List UInt8 := ascii (toString value)

def array (items : List (List UInt8)) : List UInt8 :=
  ascii "[" ++ (ascii ",").intercalate items ++ ascii "]"

/-- A member list in the order of its keys. -/
def object (members : List (String × List UInt8)) : List UInt8 :=
  let sorted := members.insertionSort fun a b => a.1 ≤ b.1
  ascii "\x7b" ++ (ascii ",").intercalate (sorted.map fun member =>
    string member.1 ++ ascii ":" ++ member.2) ++ ascii "\x7d"

end Json
