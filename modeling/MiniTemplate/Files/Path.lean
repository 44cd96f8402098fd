import MiniTemplate.Files.Name

/-!
# Paths

A path is kept as it was written: the names between its slashes, of which some may be empty. A path
that starts with a slash has an empty first name. Names that lead nowhere (empty ones and `.`) count
for nothing at the end of a path and between other names.
-/

namespace MiniTemplate

/-- A path, as its first name and the names after each slash. -/
structure Path where
  first : Name
  rest : List Name := []
deriving DecidableEq

namespace Path

/-- The first name in some bytes and the names after each slash. -/
def names : List UInt8 → List UInt8 × List (List UInt8)
  | [] => ([], [])
  | b :: bytes =>
    let (first, rest) := names bytes
    if b = Name.slash then ([], first :: rest) else (b :: first, rest)

def ofBytes (bytes : List UInt8) : Path :=
  let (first, rest) := names bytes
  ⟨⟨first⟩, rest.map Name.mk⟩

/-- The path that a text spells. -/
def ofString (s : String) : Path := ofBytes (Name.ofText s).bytes

/-- The path as it was written. -/
def bytes (p : Path) : List UInt8 := p.first.bytes ++ p.rest.flatMap (Name.slash :: ·.bytes)

def display (p : Path) : String := String.intercalate "/" ((p.first :: p.rest).map Name.display)

def empty : Path := ⟨"", []⟩

def isEmpty (p : Path) : Bool := p.first == "" && p.rest.isEmpty

def isAbsolute (p : Path) : Bool := p.first == "" && !p.rest.isEmpty

def endsWithSlash (p : Path) : Bool := p.rest.getLast? == some ""

/-- The names without a last one that is empty. -/
def withoutFinalSlash : List Name → List Name
  | [] => []
  | [name] => if name = "" then [] else [name]
  | name :: rest => name :: withoutFinalSlash rest

/-- `p` as seen from `base`. An absolute path stays what it is. -/
def join (base p : Path) : Path :=
  if p.isAbsolute || base.isEmpty then p
  else ⟨base.first, withoutFinalSlash base.rest ++ p.first :: p.rest⟩

/-- The name leads nowhere. -/
def isIdle (name : Name) : Bool := name == "" || name == "."

/-- The names up to the last one that leads somewhere. -/
def trim : List Name → List Name
  | [] => []
  | name :: rest =>
    match trim rest with
    | [] => if isIdle name then [] else [name]
    | more => name :: more

/-- The path without its last name, if it has one. -/
def parent? (p : Path) : Option Path :=
  match trim p.rest with
  | [] => if p.first = "" then none else some empty
  | name :: more =>
    match trim (name :: more).dropLast with
    | [] => some (if p.first = "" then ⟨"", [""]⟩ else ⟨p.first, []⟩)
    | up => some ⟨p.first, up⟩

/-- The last name, if it is the name of something. -/
def fileName? (p : Path) : Option Name :=
  match (trim p.rest).getLast? with
  | some name => if name = ".." then none else some name
  | none => if isIdle p.first || p.first == ".." then none else some p.first

/-- What stands before the last dot, if there is one. -/
def beforeLastDot? : List UInt8 → Option (List UInt8)
  | [] => none
  | b :: rest =>
    match beforeLastDot? rest with
    | some before => some (b :: before)
    | none => if b = Name.dot then some [] else none

/-- A file name without its extension. A dot in front starts no extension. -/
def stem (name : Name) : Name :=
  match beforeLastDot? name.bytes with
  | none => name
  | some [] => name
  | some before => ⟨before⟩

def fileStem? (p : Path) : Option Name := p.fileName?.map stem

/-- The name is followed on the way to a path. -/
def isStep (name : Name) : Bool := name != ""

/-- The names that are followed, one after the other, to get to the path. -/
def steps (p : Path) : List Name := (p.first :: p.rest).filter isStep

/-! ## Parents are nearer to the start -/

/-- How many names lead somewhere, counted twice behind the first. -/
def weight (p : Path) : Nat :=
  2 * (p.rest.filter (!isIdle ·)).length + if p.first = "" then 0 else 1

/-- Only names that lead nowhere are trimmed. -/
theorem filter_trim (names : List Name) :
    (trim names).filter (!isIdle ·) = names.filter (!isIdle ·) := by
  induction names with
  | nil => rfl
  | cons name rest ih =>
    rw [trim]
    split
    · next h =>
      rw [h] at ih
      by_cases hn : isIdle name <;> simp_all
    · next h => by_cases hn : isIdle name <;> simp_all

theorem getLast_trim {names : List Name} (h : trim names ≠ []) :
    isIdle ((trim names).getLast h) = false := by
  induction names with
  | nil => simp [trim] at h
  | cons name rest ih =>
    by_cases hr : trim rest = []
    · have hn : isIdle name = false := by
        by_cases hn : isIdle name
        · simp [trim, hr, hn] at h
        · simpa using hn
      have ht : trim (name :: rest) = [name] := by simp [trim, hr, hn]
      simp [ht, hn]
    · have ht : trim (name :: rest) = name :: trim rest := by
        rw [trim]
        split
        · contradiction
        · rfl
      simp only [ht, List.getLast_cons hr]
      exact ih hr

/-- Going up comes to an end: the path above another one weighs less. -/
theorem weight_parent? {p q : Path} (h : p.parent? = some q) : q.weight < p.weight := by
  unfold parent? at h
  split at h
  · split at h
    · cases h
    · cases h
      next hf => simp [weight, empty, hf]
  · next name more ht =>
    have hne : trim p.rest ≠ [] := by simp [ht]
    have hlast := getLast_trim hne
    have hsplit : (p.rest.filter (!isIdle ·)).length
        = ((trim p.rest).dropLast.filter (!isIdle ·)).length + 1 := by
      have hlist := congrArg (List.filter (!isIdle ·)) (List.dropLast_concat_getLast hne).symm
      rw [filter_trim, List.filter_append] at hlist
      simp [hlist, hlast]
    rw [← ht] at h
    split at h
    · cases h
      have hroot : (([""] : List Name).filter (!isIdle ·)).length = 0 := by decide
      by_cases hf : p.first = "" <;> simp only [weight, hf, hsplit, if_true, if_false] <;> simp_all
    · cases h
      simp only [weight, filter_trim, hsplit]
      omega

end Path

end MiniTemplate
