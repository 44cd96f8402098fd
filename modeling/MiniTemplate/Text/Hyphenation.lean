/-!
# Hyphenated names

`MyButton` becomes `my-button`: every ASCII capital is lowered, and a hyphen is put in front of it
when a word character stands right before it. Characters outside ASCII are no word characters and
have no case here.
-/

namespace MiniTemplate.Text

/-- ASCII letters, digits and the underscore. -/
def isWordChar (c : Char) : Bool := c.isAlphanum || c == '_'

/-- Hyphenation after a character that was (`afterWord`) or was not a word character. -/
def hyphenateFrom (afterWord : Bool) : List Char → List Char
  | [] => []
  | c :: rest =>
    if c.isUpper && afterWord then '-' :: c.toLower :: hyphenateFrom (isWordChar c) rest
    else c.toLower :: hyphenateFrom (isWordChar c) rest

/-- Besides hyphens there is nothing but lowered characters. -/
theorem mem_hyphenateFrom {afterWord : Bool} {cs : List Char} {x : Char}
    (hx : x ∈ hyphenateFrom afterWord cs) : x = '-' ∨ ∃ c ∈ cs, x = c.toLower := by
  induction cs generalizing afterWord with
  | nil => cases hx
  | cons c rest ih =>
    have hx : x = '-' ∨ x = c.toLower ∨ x ∈ hyphenateFrom (isWordChar c) rest := by
      rw [hyphenateFrom] at hx
      split at hx
      · simpa using hx
      · exact .inr (by simpa using hx)
    rcases hx with hhyphen | hlowered | hrest
    · exact .inl hhyphen
    · exact .inr ⟨c, List.mem_cons_self, hlowered⟩
    · rcases ih hrest with hhyphen | ⟨d, hd, hlowered⟩
      · exact .inl hhyphen
      · exact .inr ⟨d, List.mem_cons_of_mem c hd, hlowered⟩

/-- The hyphenated form of a name. -/
def hyphenate (name : String) : String := String.ofList (hyphenateFrom false name.toList)

example : hyphenate "UIList2Item" = "u-i-list2-item" := by decide
example : hyphenate "x-Foo" = "x-foo" ∧ hyphenate "éB" = "éb" := by decide

end MiniTemplate.Text
