import MiniTemplate.Text.Uppercase

/-!
# Names of event attributes

An event binding becomes an attribute whose name tells the event and how it is listened to. The
standard style writes `bind:tap`, `catch:tap` and `capture-bind:tap`; the camel-case style writes
`onTap` and `catchTap` and has no capture phase. Only components know `click`: on every other
element it is called `tap`.
-/

namespace MiniTemplate

/-- What decides, besides the event, the name of its attribute. -/
structure EventFlags where
  /-- The event goes no further. -/
  isCatch : Bool := false
  /-- The binding listens in the capture phase. -/
  isCapture : Bool := false
  /-- The bound element is a component of the project. -/
  isComponent : Bool := false
deriving DecidableEq

namespace EventName

/-- The event as the platform knows it. -/
def platform (event : String) (isComponent : Bool) : String :=
  if !isComponent && event == "click" then "tap" else event

def standard (event : String) (flags : EventFlags) : String :=
  (if flags.isCapture then "capture-" else "") ++ (if flags.isCatch then "catch" else "bind") ++
    ":" ++ platform event flags.isComponent

/-- Compound event names in their camel-case spelling. -/
def compound (event : String) : String :=
  match event with
  | "touchstart" => "touchStart"
  | "touchmove" => "touchMove"
  | "touchend" => "touchEnd"
  | "touchcancel" => "touchCancel"
  | "longtap" => "longTap"
  | "longpress" => "longTap"
  | "transitionend" => "transitionEnd"
  | "animationstart" => "animationStart"
  | "animationiteration" => "animationIteration"
  | "animationend" => "animationEnd"
  | "firstappear" => "firstAppear"
  | _ => event

/-- Drops hyphens. The first character after a hyphen is raised, and at the start the first
character of all if `raise` is set. -/
def camelFrom (raise : Bool) : List Char → List Char
  | [] => []
  | c :: rest =>
    if c = '-' then camelFrom true rest
    else if raise then Text.uppercase c ++ camelFrom false rest
    else c :: camelFrom false rest

def camel (event : String) (flags : EventFlags) : String :=
  (if flags.isCatch then "catch" else "on") ++
    String.ofList (camelFrom true (compound (platform event flags.isComponent)).toList)

end EventName

inductive EventStyle where
  | standard
  | camel
  | custom (format : String → EventFlags → String)

def EventStyle.format : EventStyle → String → EventFlags → String
  | standard => EventName.standard
  | camel => EventName.camel
  | custom f => f

end MiniTemplate
