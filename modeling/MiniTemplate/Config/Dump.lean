import MiniTemplate.Config
import MiniTemplate.Template.Dump

/-!
# Configurations as JSON

The full form of configurations and delay tables, where `null` stands for what is absent.
-/

namespace MiniTemplate

def Json.ofBool? : Option Bool → Json
  | none => .null
  | some b => .bool b

def Trigger.toJson (t : Trigger) : Json :=
  .object [("name", .string t.kind.directive), ("arg", .ofStrings t.args)]

def Delay.toJson : Delay → Json
  | always => .bool true
  | whenAny triggers => .array (triggers.map Trigger.toJson)

def DelayTable.toJson (t : DelayTable) : Json := .object (t.map fun (tag, d) => (tag, d.toJson))

def ComponentConfig.toJson (c : ComponentConfig) : Json :=
  .object [
    ("getPropertySync", .ofBool? c.syncProperties),
    ("mergeVirtualHostAttributes", .ofBool? c.mergeVirtualHost),
    ("vShow", .ofString? c.showAttribute)]

def Config.toJson (c : Config) : Json :=
  .object [
    ("directive", .ofString? c.mark),
    ("scopeId", .ofString? c.scopeId),
    ("slotFallback", .ofBool? c.slotFallback),
    ("builtinComponents", .ofStrings c.builtin),
    ("miniProgramComponents", .ofStrings c.native),
    ("lazyElement", (c.delay.map DelayTable.toJson).getD .null),
    ("component", (c.component.map ComponentConfig.toJson).getD .null)]

end MiniTemplate
