import MiniTemplate.Json.Value

/-!
# Reading JSON texts

A reader that takes one character at a time. Its state is the stack of arrays and objects that are
open and the place in the grammar; a step either moves on or finds that the text is no JSON.
Blanks are the four of the grammar, numbers have no leading zeros, and control characters must be
escaped in strings.

Three things make a value unreadable instead of ending the reading: half a surrogate pair in a
string, a number too large for a double, and more open brackets than the limit allows.
-/

namespace MiniTemplate.Json

/-! ## Numbers -/

inductive NumberPlace where
  | sign
  | zero
  | integer
  | point
  | fraction
  | exponentMark
  | exponentSign
  | exponent

namespace NumberPlace

def isLeadingDigit (c : Char) : Bool := c.isDigit && c != '0'

def isExponentMark (c : Char) : Bool := c == 'e' || c == 'E'

/-- The place after a first character that can start a number. -/
def start? (c : Char) : Option NumberPlace :=
  if c == '-' then some sign
  else if c == '0' then some zero
  else if c.isDigit then some integer
  else none

/-- The place after one more character of the number. -/
def next? (c : Char) : NumberPlace → Option NumberPlace
  | sign => if c == '0' then some zero else if isLeadingDigit c then some integer else none
  | zero => if c == '.' then some point else if isExponentMark c then some exponentMark else none
  | integer =>
    if c.isDigit then some integer
    else if c == '.' then some point
    else if isExponentMark c then some exponentMark
    else none
  | point => if c.isDigit then some fraction else none
  | fraction =>
    if c.isDigit then some fraction
    else if isExponentMark c then some exponentMark
    else none
  | exponentMark =>
    if c == '+' || c == '-' then some exponentSign
    else if c.isDigit then some exponent
    else none
  | exponentSign => if c.isDigit then some exponent else none
  | exponent => if c.isDigit then some exponent else none

def isComplete : NumberPlace → Bool
  | zero | integer | fraction | exponent => true
  | _ => false

end NumberPlace

def digitsValue (digits : List Char) : Nat := digits.foldl (fun n c => 10 * n + (c.toNat - 48)) 0

/-- The leading digits that fit 64 bits as one number, and how many digits follow them. -/
def significand : Nat → List Char → Nat × Nat
  | n, [] => (n, 0)
  | n, c :: rest =>
    let longer := 10 * n + (c.toNat - 48)
    if longer < 2 ^ 64 then significand longer rest else (n, rest.length + 1)

/-- The number is small enough for a double: its significand, cut to 64 bits, times its power of
ten does not overflow. -/
def fitsDouble (literal : List Char) : Bool :=
  let unsigned := literal.dropWhile (· == '-')
  let mantissa := unsigned.takeWhile (!NumberPlace.isExponentMark ·)
  let whole := mantissa.takeWhile (· != '.')
  let fraction := (mantissa.dropWhile (· != '.')).drop 1
  let mark := (unsigned.dropWhile (!NumberPlace.isExponentMark ·)).drop 1
  let size : Int := digitsValue (mark.filter Char.isDigit)
  let (n, cut) := significand 0 (whole ++ fraction)
  let power : Int := (if mark.head? == some '-' then -size else size) + cut - fraction.length
  n == 0 || power < 0 ||
    (power ≤ 308 && (Float.ofNat n * Float.ofScientific 1 false power.toNat).isFinite)

/-! ## Strings -/

inductive EscapePlace where
  | none
  | slash
  /-- Some of the four hexadecimal digits are missing. -/
  | hex (missing value : Nat)

/-- A string being read: its characters, last one first, and a high surrogate that waits for its
other half. -/
structure Scan where
  chars : List Char := []
  place : EscapePlace := .none
  high : Option Nat := Option.none
  sound : Bool := true

namespace Scan

/-- A high surrogate that got no other half makes the string unsound. -/
def settle (s : Scan) : Scan := { s with sound := s.sound && s.high.isNone, high := none }

def push (s : Scan) (c : Char) : Scan := { s.settle with chars := c :: s.chars, place := .none }

/-- One more UTF-16 unit, given by its number. -/
def pushUnit (s : Scan) (unit : Nat) : Scan :=
  match s.high with
  | some high =>
    if 0xDC00 ≤ unit ∧ unit < 0xE000 then
      { s with
        chars := Char.ofNat (0x10000 + (high - 0xD800) * 0x400 + (unit - 0xDC00)) :: s.chars
        place := .none
        high := none }
    else
      { s with place := .none, high := none, sound := false }
  | none =>
    if 0xD800 ≤ unit ∧ unit < 0xDC00 then { s with place := .none, high := some unit }
    else if 0xDC00 ≤ unit ∧ unit < 0xE000 then { s with place := .none, sound := false }
    else s.push (Char.ofNat unit)

def hexDigit? (c : Char) : Option Nat :=
  if c.isDigit then some (c.toNat - 48)
  else if 'a' ≤ c ∧ c ≤ 'f' then some (c.toNat - 87)
  else if 'A' ≤ c ∧ c ≤ 'F' then some (c.toNat - 55)
  else none

/-- The character that a letter after a backslash stands for. -/
def escaped? (c : Char) : Option Char :=
  match c with
  | '"' => some '"'
  | '\\' => some '\\'
  | '/' => some '/'
  | 'b' => some '\x08'
  | 'f' => some '\x0c'
  | 'n' => some '\n'
  | 'r' => some '\r'
  | 't' => some '\t'
  | _ => none

/-- The string after one more character that does not end it. -/
def step? (s : Scan) (c : Char) : Option Scan :=
  match s.place with
  | .none =>
    if c == '\\' then some { s with place := .slash }
    else if c.toNat < 0x20 then none
    else some (s.push c)
  | .slash => if c == 'u' then some { s with place := .hex 4 0 } else (escaped? c).map s.push
  | .hex missing value =>
    (hexDigit? c).map fun d =>
      if missing ≤ 1 then s.pushUnit (16 * value + d)
      else { s with place := .hex (missing - 1) (16 * value + d) }

def isEnd (s : Scan) (c : Char) : Bool :=
  match s.place with
  | .none => c == '"'
  | _ => false

/-- The text of the string, unless it is unsound. -/
def text? (s : Scan) : Option String :=
  if s.settle.sound then some (String.ofList s.chars.reverse) else none

end Scan

/-! ## Values -/

/-- An open array or object that waits for a value. Its earlier contents stand last one first. -/
inductive Frame where
  | item (before : List Json)
  /-- The entry's key is none if it, or an earlier one, was unsound. -/
  | entry (before : Option (List (String × Json))) (key : Option String)

inductive Place where
  /-- A value follows, or the end of an array that is still empty. -/
  | value (mayEnd : Bool)
  /-- A key follows, or the end of an object that is still empty. -/
  | key (before : Option (List (String × Json))) (mayEnd : Bool)
  | keyText (before : Option (List (String × Json))) (scan : Scan)
  | colon (before : Option (List (String × Json))) (key : Option String)
  | text (scan : Scan)
  | number (place : NumberPlace) (chars : List Char)
  /-- The rest of a literal such as `true`. -/
  | word (rest : List Char) (value : Json)
  /-- A value has ended. -/
  | after (value : Json)

structure Reading where
  stack : List Frame
  place : Place

def isBlank (c : Char) : Bool := c == ' ' || c == '\t' || c == '\n' || c == '\r'

namespace Reading

/-- The array or object that ends with `stack` around it: unreadable if too many are open. -/
def close (limit : Option Nat) (stack : List Frame) (value : Option Json) : Reading :=
  if limit.any (· ≤ stack.length) then ⟨stack, .after .unreadable⟩
  else ⟨stack, .after (value.getD .unreadable)⟩

/-- The contents of an object with one more entry, unless a key was unsound. -/
def addEntry (before : Option (List (String × Json))) (key : Option String) (value : Json) :
    Option (List (String × Json)) :=
  match before, key with
  | some entries, some k => some ((k, value) :: entries)
  | _, _ => none

def begin? (stack : List Frame) (c : Char) : Option Reading :=
  if c == '[' then some ⟨.item [] :: stack, .value true⟩
  else if c == '\x7b' then some ⟨stack, .key (some []) true⟩
  else if c == '"' then some ⟨stack, .text {}⟩
  else if c == 't' then some ⟨stack, .word ['r', 'u', 'e'] (.bool true)⟩
  else if c == 'f' then some ⟨stack, .word ['a', 'l', 's', 'e'] (.bool false)⟩
  else if c == 'n' then some ⟨stack, .word ['u', 'l', 'l'] .null⟩
  else (NumberPlace.start? c).map fun place => ⟨stack, .number place [c]⟩

/-- A character after the value `v`: a blank, a comma or the end of what is open. -/
def follow? (limit : Option Nat) (stack : List Frame) (v : Json) (c : Char) : Option Reading :=
  if isBlank c then some ⟨stack, .after v⟩
  else
    match stack with
    | [] => none
    | .item before :: rest =>
      if c == ',' then some ⟨.item (v :: before) :: rest, .value false⟩
      else if c == ']' then some (close limit rest (some (.array (v :: before).reverse)))
      else none
    | .entry before key :: rest =>
      if c == ',' then some ⟨rest, .key (addEntry before key v) false⟩
      else if c == '\x7d' then
        some (close limit rest ((addEntry before key v).map fun es => .object es.reverse))
      else none

def numberValue (chars : List Char) : Json :=
  if fitsDouble chars.reverse then .number (String.ofList chars.reverse) else .unreadable

/-- One character. -/
def step? (limit : Option Nat) (r : Reading) (c : Char) : Option Reading :=
  match r.place with
  | .value mayEnd =>
    if isBlank c then some r
    else if mayEnd && c == ']' then
      match r.stack with
      | .item _ :: rest => some (close limit rest (some (.array [])))
      | _ => none
    else begin? r.stack c
  | .key before mayEnd =>
    if isBlank c then some r
    else if mayEnd && c == '\x7d' then some (close limit r.stack (some (.object [])))
    else if c == '"' then some { r with place := .keyText before {} }
    else none
  | .keyText before scan =>
    if scan.isEnd c then some { r with place := .colon before scan.text? }
    else (scan.step? c).map fun s => { r with place := .keyText before s }
  | .colon before key =>
    if isBlank c then some r
    else if c == ':' then some ⟨.entry before key :: r.stack, .value false⟩
    else none
  | .text scan =>
    if scan.isEnd c then
      some { r with place := .after ((scan.text?.map Json.string).getD .unreadable) }
    else (scan.step? c).map fun s => { r with place := .text s }
  | .number place chars =>
    match place.next? c with
    | some next => some { r with place := .number next (c :: chars) }
    | none => if place.isComplete then follow? limit r.stack (numberValue chars) c else none
  | .word rest value =>
    match rest with
    | [] => none
    | [d] => if c == d then some { r with place := .after value } else none
    | d :: more => if c == d then some { r with place := .word more value } else none
  | .after value => follow? limit r.stack value c

/-- The value that has been read when the text ends. -/
def value? (r : Reading) : Option Json :=
  match r.stack, r.place with
  | [], .after value => some value
  | [], .number place chars => if place.isComplete then some (numberValue chars) else none
  | _, _ => none

end Reading

/-- The value of a JSON text. With a limit, an array or object that has as many open around it is
unreadable. -/
def read? (limit : Option Nat) (text : String) : Option Json :=
  (text.toList.foldlM (Reading.step? limit) ⟨[], .value false⟩).bind Reading.value?

/-- How many arrays and objects may be open at once in a document. -/
def documentDepth : Nat := 127

def readDocument? (text : String) : Option Json := read? (some documentDepth) text

end MiniTemplate.Json
