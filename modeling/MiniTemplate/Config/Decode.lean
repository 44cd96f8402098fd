import MiniTemplate.Config
import MiniTemplate.Dialect
import MiniTemplate.Json.Decoder

/-!
# Configurations from JSON

The decoders of configurations, of delay tables and of the names of dialects. In a delay table
`true` stands for a tag whose elements always wait and `false` for one whose elements never do; of
two entries for one tag the later counts.
-/

namespace MiniTemplate

open Json (required withDefault optional)

def Dialect.decode? (j : Json) : Option Dialect := j.unitVariant?.bind Dialect.ofName?

def TriggerKind.decode? (j : Json) : Option TriggerKind :=
  match j.unitVariant? with
  | some "on" => some .on
  | some "bind" => some .bind
  | _ => none

def Trigger.decode? (j : Json) : Option Trigger :=
  match j.fields? ["name", "arg"] with
  | some [kind, args] => do
    let kind ← required TriggerKind.decode? kind
    let args ← required Json.strings? args
    some { kind, args }
  | _ => none

def Delay.decode? : Json → Option Delay
  | .bool true => some .always
  | .bool false => some (.whenAny [])
  | j => if j.isReadable then (j.items?.bind (·.mapM Trigger.decode?)).map .whenAny else none

def DelayTable.decode? (j : Json) : Option DelayTable :=
  j.entries?.bind (·.foldlM (fun t (tag, d) => (Delay.decode? d).map (t.insert tag)) [])

def ComponentConfig.decode? (j : Json) : Option ComponentConfig :=
  match j.fields? ["getPropertySync", "mergeVirtualHostAttributes", "vShow"] with
  | some [sync, merge, show?] => do
    let syncProperties ← optional Json.bool? sync
    let mergeVirtualHost ← optional Json.bool? merge
    let showAttribute ← optional Json.string? show?
    some { syncProperties, mergeVirtualHost, showAttribute }
  | _ => none

/-- The fields of a configuration, in the order of its array form. -/
def Config.fieldNames : List String :=
  ["directive", "scopeId", "slotFallback", "builtinComponents", "miniProgramComponents",
    "lazyElement", "component"]

def Config.decode? (j : Json) : Option Config :=
  match j.fields? Config.fieldNames with
  | some [mark, scopeId, slotFallback, builtin, native, delay, component] => do
    let mark ← optional Json.string? mark
    let scopeId ← optional Json.string? scopeId
    let slotFallback ← optional Json.bool? slotFallback
    let builtin ← withDefault [] Json.strings? builtin
    let native ← withDefault [] Json.strings? native
    let delay ← optional DelayTable.decode? delay
    let component ← optional ComponentConfig.decode? component
    some { mark, scopeId, slotFallback, builtin, native, delay, component }
  | _ => none

end MiniTemplate
