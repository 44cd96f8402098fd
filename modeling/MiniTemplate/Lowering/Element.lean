import MiniTemplate.Lowering.Control
import MiniTemplate.Lowering.Properties
import MiniTemplate.Text.Hyphenation

/-!
# Lowering elements and nodes

`Options.assemble` puts an element together from its head and the markup of its children. The rules
for each role prepare the head first: components and delayed elements get a readiness guard, slot
outlets with fallback content become a pair of blocks, templates become groups or vanish into their
only child. `lowerNode` then is a plain recursion over the template.
-/

namespace MiniTemplate

/-- The condition that holds from the first render on. -/
def readyCondition : String := "r0"

namespace Head

/-- The tag that is written: a `template` is a `view` if it is given to a slot, else a group. -/
def resolvedTag (h : Head) : String :=
  if h.tag = "template" then if (h.prop? "slot" false).isSome then "view" else "block" else h.tag

/-- The head leaves no tag behind, only its children. -/
def isTransparent (h : Head) : Bool := h.resolvedTag == "block" && h.isBare

/-- A slot outlet keeps the properties that concern its name. -/
def isNameProp : Property → Bool
  | .attribute a => a.name == "name"
  | .directive d => d.argContent? == some "name"

/-- The head of a slot outlet with only the properties that concern its name. -/
def outlet (h : Head) : Head := { h with props := h.props.filter isNameProp }

/-- The slot that an outlet stands for. -/
def outletName (h : Head) : String :=
  match h.prop? "name" false with
  | some (.attribute ⟨_, some name⟩) => if name = "" then defaultSlot else name
  | some (.directive ⟨_, _, _, _, some name⟩) => if name = "" then defaultSlot else name
  | _ => defaultSlot

/-- The property passes a template's content to a slot. -/
def isCarrier : Property → Bool
  | .attribute _ => false
  | .directive d => d.name == "slot" || (d.name == "bind" && d.argContent? == some "slot")

/-- The property that passes a template's content to a slot. -/
def carrier? (h : Head) : Option Property := h.props.find? isCarrier

/-- The head of a template as a plain element: a `view` if it is given to a slot, else a group. -/
def grouped (h : Head) : Head :=
  { h with tag := if h.carrier?.isSome then "view" else "block", role := .plain }

/-- The head of a template's only child, when that child can stand for the template and takes over
the property that passes it to a slot. -/
def spliced? (h : Head) (children : List Node) : Option Head :=
  match h.carrier?, h.loop, children with
  | some carrier, none, [.element child] =>
    if child.loop.isNone && child.role != .slotOutlet then
      some { child.toHead with props := child.props ++ [carrier] }
    else
      none
  | _, _, _ => none

def withBranch (h : Head) (b : Option Branch) : Head := { h with branch := b }

end Head

namespace Options

/-- The name of the tag. Components of the project have hyphenated names. -/
def tagName (o : Options) (h : Head) : String :=
  if o.isUserComponent h then
    let name := Text.hyphenate h.resolvedTag
    match o.component.bind (·.normalizeName) with
    | some normalize => normalize name
    | none => name
  else
    h.resolvedTag

/-- The attributes of a head apart from its condition. -/
def ownAttrs (o : Options) (h : Head) : List Attr :=
  let r := o.repetition h
  r.attrs ++ o.propertiesAttrs h (o.isUserComponent h && o.mergeVirtualHost) r.props

/-- An element from its head and the markup of its children. A condition and a repetition cannot
share a tag, so that the condition of a repeated element goes to a block around it. -/
def assemble (o : Options) (h : Head) (kids : List Markup) : List Markup :=
  if h.isTransparent then kids
  else
    let tag := fun attrs =>
      Markup.tag (o.tagName h) attrs h.selfClosing (if h.selfClosing then [] else kids)
    match h.branch, h.loop with
    | none, _ => [tag (o.ownAttrs h)]
    | some b, none => [tag (.branch b :: o.ownAttrs h)]
    | some b, some _ => [.block b [tag (o.ownAttrs h)]]

/-- A slot outlet. Where the platform has no fallback content, the outlet is shown if its slot is
filled and the fallback content otherwise. -/
def lowerOutlet (o : Options) (h : Head) (hasFallback : Bool) (kids : List Markup) : List Markup :=
  if !hasFallback || o.slotFallback then o.assemble h.outlet kids
  else
    let choice :=
      [.block (.when ("$slots." ++ h.outlet.outletName)) (o.assemble (h.outlet.withBranch none) []),
        .block .otherwise kids]
    match h.branch with
    | none => choice
    | some b => [.block b choice]

/-- A component. One that neither has a condition nor is repeated waits: for the first render if it
is native to the platform, else for the properties that are bound to it. -/
def lowerComponent (o : Options) (h : Head) (kids : List Markup) : List Markup :=
  if o.syncProperties || h.branch.isSome || h.loop.isSome then o.assemble h kids
  else if o.isNative h.tag then o.assemble (h.withBranch (some (.when readyCondition))) kids
  else
    match h.bound? "u-p" with
    | none => o.assemble h kids
    | some exp =>
      match o.serialize exp with
      | .ok condition => o.assemble (h.withBranch (some (.when condition))) kids
      | .error e => [.fault (.expression e)]

/-- A plain element that has to wait for the first render. One with a condition of its own waits
for that. -/
def lowerDelayed (o : Options) (h : Head) (kids : List Markup) : List Markup :=
  match h.branch with
  | none => [.block (.when readyCondition) (o.assemble h kids)]
  | some .otherwise =>
    [.block .otherwise (o.assemble (h.withBranch (some (.when readyCondition))) kids)]
  | some _ => o.assemble h kids

end Options

mutual

def lowerNode (o : Options) : Node → List Markup
  | .element e => lowerElement o e
  | .group branches => lowerElements o branches
  | .text s => [.text s]
  | .interpolation exp =>
    match o.serialize exp with
    | .ok code => [.interpolation code]
    | .error e => [.fault (.expression e)]

/-- The markup of an element, by its role. -/
def lowerElement (o : Options) : Element → List Markup
  | ⟨h, children⟩ =>
    match h.role with
    | .slotOutlet => o.lowerOutlet h (!children.isEmpty) (lowerNodes o children)
    | .component => o.lowerComponent h (lowerNodes o children)
    | .template =>
      match h.spliced? children with
      | some child => o.assemble child (lowerGrandchildren o children)
      | none => o.assemble h.grouped (lowerNodes o children)
    | .plain =>
      if o.isDelayed ⟨h, children⟩ then o.lowerDelayed h (lowerNodes o children)
      else o.assemble h (lowerNodes o children)

/-- The markup of the children of an only child. -/
def lowerGrandchildren (o : Options) : List Node → List Markup
  | [.element ⟨_, children⟩] => lowerNodes o children
  | _ => []

def lowerNodes (o : Options) : List Node → List Markup
  | [] => []
  | n :: rest => lowerNode o n ++ lowerNodes o rest

def lowerElements (o : Options) : List Element → List Markup
  | [] => []
  | e :: rest => lowerElement o e ++ lowerElements o rest

end

end MiniTemplate
