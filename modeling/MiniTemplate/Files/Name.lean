import MiniTemplate.Text.Readable

/-!
# Names of files

The system keeps the names of files as bytes. Most of them spell a text in UTF-8, but none has to. A
name is looked up by its bytes, and shown as the text that can be read off them.
-/

namespace MiniTemplate

/-- A name as the system has it. -/
structure Name where
  bytes : List UInt8
deriving DecidableEq

namespace Name

/-- The name that is spelled as a text. -/
def ofText (s : String) : Name := ⟨s.toUTF8.data.toList⟩

instance : Coe String Name := ⟨ofText⟩

/-- The text that the name is spelled as, if there is one. -/
def text? (n : Name) : Option String := String.fromUTF8? ⟨n.bytes.toArray⟩

def display (n : Name) : String := n.text?.getD (Text.readable n.bytes)

def size (n : Name) : Nat := n.bytes.length

def slash : UInt8 := 0x2F

def dot : UInt8 := 0x2E

@[simp] theorem ofText_inj {s t : String} : ofText s = ofText t ↔ s = t := by
  constructor
  · intro h
    have hbytes : s.toByteArray.data.toList = t.toByteArray.data.toList := congrArg bytes h
    exact String.toByteArray_inj.1 (ByteArray.ext (Array.toList_inj.1 hbytes))
  · rintro rfl
    rfl

/-- A name is read as the text that it spells. -/
theorem text?_eq_some_iff {n : Name} {s : String} : n.text? = some s ↔ n = ofText s := by
  constructor
  · intro h
    unfold text? String.fromUTF8? at h
    split at h
    · obtain rfl := Option.some.inj h
      rfl
    · cases h
  · rintro rfl
    have hbytes : (⟨(ofText s).bytes.toArray⟩ : ByteArray) = s.toByteArray := by simp [ofText]
    rw [text?, hbytes, String.fromUTF8?, dif_pos s.isValidUTF8]
    rfl

@[simp] theorem text?_ofText (s : String) : (ofText s).text? = some s :=
  text?_eq_some_iff.2 rfl

/-- Texts side by side are spelled by their bytes side by side. -/
theorem bytes_ofText_append (s t : String) :
    (ofText (s ++ t)).bytes = (ofText s).bytes ++ (ofText t).bytes := by
  simp [ofText]

end Name

end MiniTemplate
