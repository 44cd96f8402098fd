/-!
# JSON values

Templates and configurations are JSON documents. An object is the list of its entries in the order
of the text, so that a key that stands in it twice can be told. A value can be well formed and still
say nothing that can be held (a string with half a surrogate pair, for one): such a value is
`unreadable`, and it is accepted only where it is skipped.
-/

namespace MiniTemplate

/-- A JSON value. A number is kept as it was written. -/
inductive Json where
  | null
  | bool (b : Bool)
  | number (literal : String)
  | string (s : String)
  | array (items : List Json)
  | object (entries : List (String × Json))
  | unreadable

namespace Json

mutual

/-- No part of the value is unreadable. -/
def isReadable : Json → Bool
  | array items => allReadable items
  | object entries => entriesReadable entries
  | unreadable => false
  | _ => true

def allReadable : List Json → Bool
  | [] => true
  | j :: rest => isReadable j && allReadable rest

def entriesReadable : List (String × Json) → Bool
  | [] => true
  | (_, j) :: rest => isReadable j && entriesReadable rest

end

def string? : Json → Option String
  | string s => some s
  | _ => none

def bool? : Json → Option Bool
  | bool b => some b
  | _ => none

def items? : Json → Option (List Json)
  | array items => some items
  | _ => none

def entries? : Json → Option (List (String × Json))
  | object entries => some entries
  | _ => none

def isNull : Json → Bool
  | null => true
  | _ => false

end Json

end MiniTemplate
