import MiniTemplate.EventName
import MiniTemplate.Readiness
import MiniTemplate.Text.Quoted

/-!
# Options of a compilation

Everything about the target that lowering and writing a template depend on. The serializer, the
tag predicates and the hooks are functions, so every rule of the library holds for all of them.
-/

namespace MiniTemplate

/-- How components of the project are treated. -/
structure ComponentOptions where
  /-- Component properties can be read at once, so that components need not wait. -/
  syncProperties : Bool := false
  /-- `style` and `class` are repeated on the attributes of the virtual host. -/
  mergeVirtualHost : Bool := false
  /-- The attribute that hides a component, in place of `hidden`. -/
  showAttribute : Option String := none
  /-- The last change to the name of a component's tag. -/
  normalizeName : Option (String → String) := none

def describeOption : Option String → String
  | none => "None"
  | some text => s!"Some({text})"

/-- The treatment of components, for diagnostics. Of a hook only its presence is told. -/
def ComponentOptions.describe (c : ComponentOptions) : String :=
  "ComponentOptions \x7b get_property_sync: " ++ toString c.syncProperties ++
    ", merge_virtual_host_attributes: " ++ toString c.mergeVirtualHost ++
    ", v_show: " ++ describeOption (c.showAttribute.map Text.quote) ++
    ", normalize_name: " ++ describeOption (c.normalizeName.map fun _ => Text.quote "..") ++
    " \x7d"

structure Options where
  /-- The name under which the markup is handed over. -/
  fileName : String
  /-- What stands in front of the names of control attributes, such as `wx:`. -/
  mark : String
  scopeId : Option String := none
  event : EventStyle := .standard
  /-- The platform itself renders the children of a slot outlet that gets no content. -/
  slotFallback : Bool := false
  delay : Option DelayRule := none
  component : Option ComponentOptions := none
  /-- Tags of components that belong to the framework. -/
  isBuiltin : String → Bool := fun _ => false
  /-- Tags of components that are native to the platform. -/
  isNative : String → Bool := fun _ => false
  serialize : Serializer := Expression.raw

namespace Options

/-- The head belongs to a component that was written in the project: it is neither the dynamic
`component` tag nor a component of the framework. -/
def isUserComponent (o : Options) (h : Head) : Bool :=
  h.role == .component && h.tag != "component" && h.tag != "Component" && !o.isBuiltin h.tag

def isDelayed (o : Options) (e : Element) : Bool := o.delay.any (·.applies e)

/-- Components need not wait. -/
def syncProperties (o : Options) : Bool := o.component.any (·.syncProperties)

/-- `style` and `class` of components are repeated on the virtual host. -/
def mergeVirtualHost (o : Options) : Bool := o.component.any (·.mergeVirtualHost)

end Options

def tagSet (tags : List String) : String → Bool := tags.contains

end MiniTemplate
