import MiniTemplate.Lowering.Element

/-!
# Generators

A generator writes on one buffer as it goes through a template and stops where the template is at
fault; what it has written by then stays on the buffer. Every part of a template can be generated by
itself, from a single condition to a whole node, and parts can be generated one after the other on
the same buffer.

This is compiling in one pass, without markup in between. Generators follow the same rules as
lowering, in the same order, and add to the buffer what the markup of the part is written as.
-/

namespace MiniTemplate

/-- Writes on a buffer, and may stop with a fault. -/
abbrev Generator := ExceptT Fault (StateM String)

namespace Generator

def push (s : String) : Generator Unit := modify (· ++ s)

/-- An attribute with a value, after a blank. -/
def pushAssign (name value : String) : Generator Unit := push (" " ++ name ++ "=" ++ quoted value)

def pushHostNames (virtualHost : Bool) (name value : String) : Generator Unit :=
  forM (hostNames virtualHost name) (pushAssign · value)

/-- The buffer afterwards, and the fault that the generator stopped with. -/
def write (g : Generator Unit) (code : String) : Written :=
  match g.run.run code with
  | (.ok (), code) => ⟨code, none⟩
  | (.error f, code) => ⟨code, some f⟩

end Generator

open Generator

namespace Options

/-- The text of an expression. Nothing is written. -/
def textOf (o : Options) (exp : Expression) : Generator String :=
  match o.serialize exp with
  | .ok text => pure text
  | .error e => throw (.expression e)

/-! ## Attributes -/

def pushWhen (o : Options) (condition : String) : Generator Unit :=
  pushAssign (o.mark ++ "if") (mustache condition)

def pushElseWhen (o : Options) (condition : String) : Generator Unit :=
  pushAssign (o.mark ++ "elif") (mustache condition)

def pushOtherwise (o : Options) : Generator Unit := push (" " ++ o.mark ++ "else")

def pushBranch (o : Options) : Branch → Generator Unit
  | .when condition => o.pushWhen condition
  | .elseWhen condition => o.pushElseWhen condition
  | .otherwise => o.pushOtherwise

def pushLoopPart (o : Options) (part : LoopPart) (value : String) : Generator Unit :=
  pushAssign (o.mark ++ part.name) value

def pushLoop (o : Options) (l : Loop) : Generator Unit := do
  o.pushLoopPart .source l.source
  match l.item with
  | none => pure ()
  | some item =>
    o.pushLoopPart .item item
    if item = "index" then o.pushLoopPart .index (l.index.getD "")

/-- The repetition of a head. The result is the properties that are left for it. -/
def pushRepetition (o : Options) (h : Head) : Generator (List Property) :=
  match h.loop with
  | none => pure h.props
  | some l => do
    o.pushLoop l
    match takeBound "key" h.props with
    | none => pure h.props
    | some (exp, others) =>
      let key ← o.textOf exp
      o.pushLoopPart .key (keyText key)
      pure others

def pushEvent (o : Options) (owner : Head) (d : Directive) : Generator Unit :=
  match d.argContent? with
  | none => throw (.malformedEvent d.describe owner.tag .name)
  | some event =>
    match d.exp with
    | none => throw (.malformedEvent d.describe owner.tag .handler)
    | some exp => do
      let handler ← o.textOf exp
      pushAssign (o.event.format event (o.eventFlags owner d))
        (if exp.isStatic then handler else mustache handler)

def pushSlot (o : Options) (d : Directive) : Generator Unit :=
  match d.arg with
  | none => pure ()
  | some arg => do
    let name ← o.textOf arg
    if arg.isStatic then
      if slotKey name = defaultSlot then pure () else pushAssign "slot" (slotKey name)
    else
      pushAssign "slot" (mustache name)

def pushShow (o : Options) (owner : Head) (d : Directive) : Generator Unit :=
  match d.exp with
  | none => throw (.unknownDirective d.describe owner.tag)
  | some exp => do
    let text ← o.textOf exp
    pushAssign (o.showAttribute owner) (mustache ("!" ++ text))

def pushBind (o : Options) (owner : Head) (virtualHost : Bool) (d : Directive) : Generator Unit :=
  match d.arg, d.exp with
  | some arg, some exp => do
    let name ← o.textOf arg
    let text ← o.textOf exp
    pushHostNames virtualHost name (mustache text)
  | _, _ =>
    if d.name = "bind" then pure () else throw (.unknownDirective d.describe owner.tag)

def pushDirective (o : Options) (owner : Head) (virtualHost : Bool) (d : Directive) :
    Generator Unit :=
  if d.name = "on" then o.pushEvent owner d
  else if d.name = "slot" then o.pushSlot d
  else if d.name = "show" then o.pushShow owner d
  else o.pushBind owner virtualHost d

def pushProperty (o : Options) (owner : Head) (virtualHost : Bool) : Property → Generator Unit
  | .attribute ⟨name, some value⟩ => pushHostNames virtualHost name value
  | .attribute ⟨name, none⟩ => push (" " ++ name)
  | .directive d => o.pushDirective owner virtualHost d

def pushProperties (o : Options) (owner : Head) (virtualHost : Bool) (props : List Property) :
    Generator Unit :=
  forM props (o.pushProperty owner virtualHost)

/-! ## Elements

What an element holds is a generator too, and it is run where the children belong. -/

def pushBlock (o : Options) (b : Branch) (kids : Generator Unit) : Generator Unit := do
  push "<block"
  o.pushBranch b
  push ">"
  kids
  push "</block>"

/-- One tag under a condition, or none. -/
def pushTag (o : Options) (h : Head) (branch : Option Branch) (kids : Generator Unit) :
    Generator Unit := do
  push ("<" ++ o.tagName h)
  branch.forM o.pushBranch
  let props ← o.pushRepetition h
  o.pushProperties h (o.isUserComponent h && o.mergeVirtualHost) props
  if h.selfClosing then push "/>"
  else
    push ">"
    kids
    push ("</" ++ o.tagName h ++ ">")

/-- An element as it stands, without the rule for its role. -/
def pushAssembled (o : Options) (h : Head) (kids : Generator Unit) : Generator Unit :=
  if h.isTransparent then kids
  else
    match h.branch, h.loop with
    | some b, some _ => o.pushBlock b (o.pushTag h none kids)
    | branch, _ => o.pushTag h branch kids

def pushOutlet (o : Options) (h : Head) (hasFallback : Bool) (kids : Generator Unit) :
    Generator Unit :=
  if !hasFallback || o.slotFallback then o.pushAssembled h.outlet kids
  else
    let choice := do
      o.pushBlock (.when ("$slots." ++ h.outlet.outletName))
        (o.pushAssembled (h.outlet.withBranch none) (pure ()))
      o.pushBlock .otherwise kids
    match h.branch with
    | none => choice
    | some b => o.pushBlock b choice

def pushComponent (o : Options) (h : Head) (kids : Generator Unit) : Generator Unit :=
  if o.syncProperties || h.branch.isSome || h.loop.isSome then o.pushAssembled h kids
  else if o.isNative h.tag then o.pushAssembled (h.withBranch (some (.when readyCondition))) kids
  else
    match h.bound? "u-p" with
    | none => o.pushAssembled h kids
    | some exp => do
      let condition ← o.textOf exp
      o.pushAssembled (h.withBranch (some (.when condition))) kids

def pushDelayed (o : Options) (h : Head) (kids : Generator Unit) : Generator Unit :=
  match h.branch with
  | none => o.pushBlock (.when readyCondition) (o.pushAssembled h kids)
  | some .otherwise =>
    o.pushBlock .otherwise (o.pushAssembled (h.withBranch (some (.when readyCondition))) kids)
  | some _ => o.pushAssembled h kids

end Options

/-! ## Nodes -/

mutual

def pushNode (o : Options) : Node → Generator Unit
  | .element e => pushElement o e
  | .group branches => pushElements o branches
  | .text s => push s
  | .interpolation exp => do
    let code ← o.textOf exp
    push (mustache code)

/-- An element, by its role. -/
def pushElement (o : Options) : Element → Generator Unit
  | ⟨h, children⟩ =>
    match h.role with
    | .slotOutlet => o.pushOutlet h (!children.isEmpty) (pushNodes o children)
    | .component => o.pushComponent h (pushNodes o children)
    | .template =>
      match h.spliced? children with
      | some child => o.pushAssembled child (pushGrandchildren o children)
      | none => o.pushAssembled h.grouped (pushNodes o children)
    | .plain =>
      if o.isDelayed ⟨h, children⟩ then o.pushDelayed h (pushNodes o children)
      else o.pushAssembled h (pushNodes o children)

/-- The children of an only child. -/
def pushGrandchildren (o : Options) : List Node → Generator Unit
  | [.element ⟨_, children⟩] => pushNodes o children
  | _ => pure ()

def pushNodes (o : Options) : List Node → Generator Unit
  | [] => pure ()
  | n :: rest => do
    pushNode o n
    pushNodes o rest

def pushElements (o : Options) : List Element → Generator Unit
  | [] => pure ()
  | e :: rest => do
    pushElement o e
    pushElements o rest

end

/-! ## Parts on one buffer -/

/-- A part of a template that is generated by itself. -/
inductive Emission where
  | text (s : String)
  | when (condition : String)
  | elseWhen (condition : String)
  | otherwise
  | branch (b : Branch)
  | repetition (h : Head)
  | properties (h : Head) (virtualHost : Bool)
  /-- An element as it stands, without the rule for its role. -/
  | element (e : Element)
  | node (n : Node)

namespace Emission

def generator (o : Options) : Emission → Generator Unit
  | text s => push s
  | when condition => o.pushWhen condition
  | elseWhen condition => o.pushElseWhen condition
  | otherwise => o.pushOtherwise
  | branch b => o.pushBranch b
  | repetition h => do
    let _ ← o.pushRepetition h
    pure ()
  | properties h virtualHost => o.pushProperties h virtualHost h.props
  | element e => o.pushAssembled e.toHead (pushNodes o e.children)
  | node n => pushNode o n

/-- Parts one after the other on the same buffer. A fault ends only the part that it was found in;
the result has one entry for each part. -/
def generateAll (o : Options) : List Emission → StateM String (List (Except Fault Unit))
  | [] => pure []
  | e :: rest => do
    let result ← (e.generator o).run
    let results ← generateAll o rest
    pure (result :: results)

end Emission

end MiniTemplate
