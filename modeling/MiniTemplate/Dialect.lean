import MiniTemplate.Options

/-!
# Dialects

The mini-program platforms, each with its ready-made options and the extension of its template
files.
-/

namespace MiniTemplate

inductive Dialect where
  | weixin
  | qq
  | alipay
  | baidu
  | toutiao
  | kuaishou
deriving DecidableEq

namespace Dialect

def all : List Dialect := [weixin, qq, alipay, baidu, toutiao, kuaishou]

/-- The name of a dialect in documents and on the command line. -/
def name : Dialect → String
  | weixin => "weixin"
  | qq => "qq"
  | alipay => "alipay"
  | baidu => "baidu"
  | toutiao => "toutiao"
  | kuaishou => "kuaishou"

def ofName? (s : String) : Option Dialect := all.find? (·.name == s)

/-- What stands in front of control attributes. -/
def mark : Dialect → String
  | weixin => "wx:"
  | qq => "qq:"
  | alipay => "a:"
  | baidu => "s-"
  | toutiao => "tt:"
  | kuaishou => "ks:"

def extension : Dialect → String
  | weixin => "wxml"
  | qq => "qml"
  | alipay => "axml"
  | baidu => "swan"
  | toutiao => "ttml"
  | kuaishou => "ksml"

def event : Dialect → EventStyle
  | alipay => .camel
  | _ => .standard

/-- The platform renders fallback content of slot outlets. -/
def slotFallback : Dialect → Bool
  | alipay | baidu => true
  | _ => false

def component : Dialect → ComponentOptions
  | alipay => { mergeVirtualHost := true }
  | weixin | qq => { showAttribute := some "data-c-h" }
  | _ => {}

def delay : Dialect → Option DelayRule
  | weixin | qq | toutiao | kuaishou => some (.table [
      ("canvas", .whenAny [⟨.bind, ["canvas-id", "id"]⟩]),
      ("editor", .whenAny [⟨.on, ["ready"]⟩]),
      ("scroll-view", .whenAny [⟨.on, ["dragstart", "dragging", "dragend"]⟩])])
  | alipay => some (.table [
      ("swiper", .whenAny [⟨.on, ["change", "transition", "animationfinish"]⟩]),
      ("movable-view", .whenAny [⟨.on, ["change", "scale"]⟩])])
  | baidu => none

end Dialect

def Options.ofDialect (d : Dialect) (fileName : String) : Options where
  fileName
  mark := d.mark
  event := d.event
  slotFallback := d.slotFallback
  delay := d.delay
  component := some d.component

end MiniTemplate
