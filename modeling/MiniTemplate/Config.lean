import MiniTemplate.Options

/-!
# Configurations

A configuration overrides the options of a dialect for one project. What it does not mention stays
as it was, except for the two lists of components, which are always taken from the configuration.
-/

namespace MiniTemplate

structure ComponentConfig where
  syncProperties : Option Bool := none
  mergeVirtualHost : Option Bool := none
  showAttribute : Option String := none
deriving DecidableEq

structure Config where
  mark : Option String := none
  scopeId : Option String := none
  slotFallback : Option Bool := none
  builtin : List String := []
  native : List String := []
  delay : Option DelayTable := none
  component : Option ComponentConfig := none

def ComponentConfig.apply (c : ComponentConfig) (base : ComponentOptions) : ComponentOptions :=
  { base with
    syncProperties := c.syncProperties.getD base.syncProperties
    mergeVirtualHost := c.mergeVirtualHost.getD base.mergeVirtualHost
    showAttribute := c.showAttribute.or base.showAttribute }

/-- The options with the overrides in force. -/
def Config.apply (c : Config) (o : Options) : Options :=
  { o with
    mark := c.mark.getD o.mark
    scopeId := c.scopeId.or o.scopeId
    slotFallback := c.slotFallback.getD o.slotFallback
    delay := (c.delay.map .table).or o.delay
    component :=
      match c.component with
      | some cc => some (cc.apply (o.component.getD {}))
      | none => o.component
    isBuiltin := tagSet c.builtin
    isNative := tagSet c.native }

end MiniTemplate
