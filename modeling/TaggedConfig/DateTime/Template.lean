import TaggedConfig.ConfigError
import TaggedConfig.DateTime.Rendering

/-!
# Templates

A template is a text with placeholders in braces: the moment as a whole, the moment in a format, or
one of its fields.  A brace that is meant as such is written twice.  Placeholders are rendered one
after the other, and the first complaint ends the rendering.
-/

namespace TaggedConfig

/-- The fields of a moment that a placeholder can ask for. -/
inductive MomentField where
  | year
  | month
  | day
  | hour
  | minute
  | second
  | microsecond
  deriving DecidableEq, Inhabited, Repr

namespace MomentField

def ofName? : String → Option MomentField
  | "year" => some .year
  | "month" => some .month
  | "day" => some .day
  | "hour" => some .hour
  | "minute" => some .minute
  | "second" => some .second
  | "microsecond" => some .microsecond
  | _ => none

def valueAt (moment : Moment) : MomentField → Int
  | .year => moment.date.year
  | .month => moment.date.month
  | .day => moment.date.day
  | .hour => moment.hour
  | .minute => moment.minute
  | .second => moment.second
  | .microsecond => moment.microseconds

end MomentField

/-- What stands between braces. -/
inductive Placeholder where
  | whole
  | formatted (format : String)
  | field (asked : MomentField)
  deriving DecidableEq, Inhabited, Repr

namespace Placeholder

def splitAtColon (text : List Char) : List Char × Option (List Char) :=
  match text.dropWhile (· != ':') with
  | [] => (text, none)
  | _ :: format => (text.takeWhile (· != ':'), some format)

/-- The placeholder with some text between its braces. -/
def parse (text : List Char) : Except TemplateIssue Placeholder :=
  let (name, format) := splitAtColon text
  match String.ofList name, format with
  | "now", some format => .ok (.formatted (String.ofList format))
  | "now", none => .ok .whole
  | _, format =>
      match name, format with
      | 'n' :: 'o' :: 'w' :: '.' :: fieldName, none =>
          match MomentField.ofName? (String.ofList fieldName) with
          | some found => .ok (.field found)
          | none => .error (.unknownField (String.ofList name))
      | 'n' :: 'o' :: 'w' :: '.' :: _, some _ => .error (.fieldWithFormat (String.ofList name))
      | _, _ => .error (.unknownPlaceholder (String.ofList name))

def renderFormat (moment : Moment) (format : String) : Except TemplateIssue String :=
  match Directive.parse? format.toList with
  | none => .error (.badDirective format)
  | some directives =>
      match Directive.renderAll? moment directives with
      | some text => .ok text
      | none => .error (.unrenderable format)

def wholeFormat (moment : Moment) : String :=
  if moment.microseconds = 0 then "%Y-%m-%d %H:%M:%S" else "%Y-%m-%d %H:%M:%S%.6f"

def render (moment : Moment) : Placeholder → Except TemplateIssue String
  | .whole => renderFormat moment (wholeFormat moment)
  | .formatted format => renderFormat moment format
  | .field asked => .ok (toString (asked.valueAt moment))

end Placeholder

namespace Template

/--
Render a template from some place on.  Inside a placeholder, `between` has what its braces hold so
far, in reverse.
-/
def renderFrom (moment : Moment) :
    (between : Option (List Char)) → List Char → Except TemplateIssue (List Char)
  | none, [] => .ok []
  | none, '\x7b' :: '\x7b' :: rest => do return '\x7b' :: (← renderFrom moment none rest)
  | none, '\x7b' :: rest => renderFrom moment (some []) rest
  | none, '\x7d' :: '\x7d' :: rest => do return '\x7d' :: (← renderFrom moment none rest)
  | none, '\x7d' :: _ => .error .unopened
  | none, c :: rest => do return c :: (← renderFrom moment none rest)
  | some _, [] => .error .unclosed
  | some between, '\x7d' :: rest => do
      let placeholder ← Placeholder.parse between.reverse
      let text ← placeholder.render moment
      return text.toList ++ (← renderFrom moment none rest)
  | some between, c :: rest => renderFrom moment (some (c :: between)) rest

def render (template : String) (moment : Moment) : Except TemplateIssue String :=
  (renderFrom moment none template.toList).map String.ofList

end Template

end TaggedConfig
