import MiniTemplate.Markup
import MiniTemplate.Options

/-!
# Attributes from properties

Every property becomes the attributes that the platform knows for it, one after the other. What a
directive lacks, or an expression that cannot be written, is a fault in its place.
-/

namespace MiniTemplate

/-- The name under which the runtime knows the default slot. -/
def defaultSlot : String := "d"

/-- Static slot names as the runtime registers them. -/
def slotKey (name : String) : String := if name = "default" then defaultSlot else name

/-- The names that an attribute is written under: its own and, on a virtual host, that of the
host's `style` or `class`. -/
def hostNames (virtualHost : Bool) (name : String) : List String :=
  if virtualHost && name == "style" then [name, "virtualHostStyle"]
  else if virtualHost && name == "class" then [name, "virtualHostClass"]
  else [name]

namespace Options

def withText (o : Options) (exp : Expression) (attrs : String → List Attr) : List Attr :=
  match o.serialize exp with
  | .ok text => attrs text
  | .error e => [.fault (.expression e)]

/-- How an event directive on the head listens. -/
def eventFlags (o : Options) (owner : Head) (d : Directive) : EventFlags where
  isCatch := d.hasModifier "stop" || d.hasModifier "prevent"
  isCapture := d.hasModifier "capture"
  isComponent := o.isUserComponent owner

/-- The attribute that hides the element when a `show` directive says so. -/
def showAttribute (o : Options) (owner : Head) : String :=
  match o.component.bind (·.showAttribute) with
  | some custom => if o.isUserComponent owner then custom else "hidden"
  | none => "hidden"

/-- An event binding: the event is its argument and the handler its expression. -/
def eventAttrs (o : Options) (owner : Head) (d : Directive) : List Attr :=
  match d.argContent? with
  | none => [.fault (.malformedEvent d.describe owner.tag .name)]
  | some event =>
    match d.exp with
    | none => [.fault (.malformedEvent d.describe owner.tag .handler)]
    | some exp => o.withText exp fun handler =>
      [.assign (o.event.format event (o.eventFlags owner d))
        (if exp.isStatic then handler else mustache handler)]

/-- The slot that the content is given to. The default slot is not named. -/
def slotAttrs (o : Options) (d : Directive) : List Attr :=
  match d.arg with
  | none => []
  | some arg => o.withText arg fun name =>
    if arg.isStatic then
      if slotKey name = defaultSlot then [] else [.assign "slot" (slotKey name)]
    else
      [.assign "slot" (mustache name)]

/-- An element shown on a condition is hidden on its negation. -/
def showAttrs (o : Options) (owner : Head) (d : Directive) : List Attr :=
  match d.exp with
  | none => [.fault (.unknownDirective d.describe owner.tag)]
  | some exp => o.withText exp fun text =>
    [.assign (o.showAttribute owner) (mustache ("!" ++ text))]

/-- Any other directive binds its expression to its argument. A `bind` that lacks one of them has
nothing to say; another directive is unknown. -/
def bindAttrs (o : Options) (owner : Head) (virtualHost : Bool) (d : Directive) : List Attr :=
  match d.arg, d.exp with
  | some arg, some exp => o.withText arg fun name => o.withText exp fun text =>
    (hostNames virtualHost name).map (.assign · (mustache text))
  | _, _ => if d.name = "bind" then [] else [.fault (.unknownDirective d.describe owner.tag)]

def directiveAttrs (o : Options) (owner : Head) (virtualHost : Bool) (d : Directive) : List Attr :=
  if d.name = "on" then o.eventAttrs owner d
  else if d.name = "slot" then o.slotAttrs d
  else if d.name = "show" then o.showAttrs owner d
  else o.bindAttrs owner virtualHost d

def propertyAttrs (o : Options) (owner : Head) (virtualHost : Bool) : Property → List Attr
  | .attribute ⟨name, some value⟩ => (hostNames virtualHost name).map (.assign · value)
  | .attribute ⟨name, none⟩ => [.bare name]
  | .directive d => o.directiveAttrs owner virtualHost d

def propertiesAttrs (o : Options) (owner : Head) (virtualHost : Bool) (props : List Property) :
    List Attr :=
  props.flatMap (o.propertyAttrs owner virtualHost)

end Options

end MiniTemplate
