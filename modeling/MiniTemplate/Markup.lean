import MiniTemplate.Fault
import MiniTemplate.Template.Node

/-!
# Markup

A template is lowered to a forest of markup: texts, interpolations and tags. Lowering never fails;
a place where the template is at fault holds the fault itself. Markup is written as a sequence of
pieces from left to right, and writing stops at the first fault, so what stands before it has been
written and nothing after it matters.

The mark of the dialect is no part of the forest. It is a piece of its own and is filled in only
when the pieces are written.
-/

namespace MiniTemplate

inductive LoopPart where
  | source
  | item
  | index
  | key
deriving DecidableEq

def LoopPart.name : LoopPart → String
  | source => "for"
  | item => "for-item"
  | index => "for-index"
  | key => "key"

/-- An attribute of a tag. Conditions and repetitions are control attributes, whose names start
with the mark of the dialect; all others are written under the name that they have. -/
inductive Attr where
  | branch (b : Branch)
  | loop (part : LoopPart) (value : String)
  | bare (name : String)
  | assign (name value : String)
  | fault (f : Fault)
deriving DecidableEq

inductive Markup where
  | text (s : String)
  | interpolation (code : String)
  | tag (name : String) (attrs : List Attr) (selfClosed : Bool) (kids : List Markup)
  | fault (f : Fault)

/-- What is written, one after the other: a text, the mark of the dialect, or a fault, which ends
the writing. -/
inductive Piece where
  | text (s : String)
  | mark
  | fault (f : Fault)
deriving DecidableEq

/-- The text written, and the fault that ended it. -/
structure Written where
  code : String
  fault : Option Fault
deriving DecidableEq

def mustache (code : String) : String := "\x7b\x7b" ++ code ++ "\x7d\x7d"

/-- A value in double quotes. Nothing in it is escaped. -/
def quoted (value : String) : String := "\"" ++ value ++ "\""

namespace Attr

def branchPieces : Branch → List Piece
  | .when c => [.text " ", .mark, .text ("if=" ++ quoted (mustache c))]
  | .elseWhen c => [.text " ", .mark, .text ("elif=" ++ quoted (mustache c))]
  | .otherwise => [.text " ", .mark, .text "else"]

/-- An attribute is written with a blank in front of it. -/
def pieces : Attr → List Piece
  | branch b => branchPieces b
  | loop part value => [.text " ", .mark, .text (part.name ++ "=" ++ quoted value)]
  | bare name => [.text (" " ++ name)]
  | assign name value => [.text (" " ++ name ++ "=" ++ quoted value)]
  | fault f => [.fault f]

end Attr

namespace Markup

/-- A group without a tag of its own on the platform, under one condition. -/
def block (b : Branch) (kids : List Markup) : Markup := tag "block" [.branch b] false kids

mutual

def pieces : Markup → List Piece
  | text s => [.text s]
  | interpolation code => [.text (mustache code)]
  | tag name attrs true _ => .text ("<" ++ name) :: (attrs.flatMap Attr.pieces ++ [.text "/>"])
  | tag name attrs false kids =>
    .text ("<" ++ name) :: (attrs.flatMap Attr.pieces ++
      .text ">" :: (forestPieces kids ++ [.text ("</" ++ name ++ ">")]))
  | fault f => [.fault f]

def forestPieces : List Markup → List Piece
  | [] => []
  | m :: rest => pieces m ++ forestPieces rest

end

end Markup

/-- Writes pieces after `code`, up to the first fault. -/
def Piece.write (mark code : String) : List Piece → Written
  | [] => ⟨code, none⟩
  | text s :: rest => write mark (code ++ s) rest
  | .mark :: rest => write mark (code ++ mark) rest
  | fault f :: _ => ⟨code, some f⟩

end MiniTemplate
