import PropertyGraph.Decimal
import PropertyGraph.Value

/-!
# Displayed values

The text of a value for readers.  Strings are quoted without escapes, times
are marked, and floats are written positionally with their shortest digits.
The order of a map's entries is not part of its displayed form, so a value
that holds a map with two entries or more has no displayed form.
-/

namespace PropertyGraph

/--
A float as it is displayed: the fewest digits that read back, the larger of
two equally near ones, never an exponent and no point after an integer.
-/
def Binary64.text (x : Binary64) : String :=
  if x.isNaN then "NaN"
  else
    let sign := if x.negative then "-" else ""
    if x.isInfinite then sign ++ "inf"
    else
      let decimal := x.shortest .up
      let fraction := decimal.fraction
      sign ++ String.ofList (if fraction.isEmpty then decimal.whole
        else decimal.whole ++ '.' :: fraction)

namespace Value

mutual

/-- The displayed form of a value; a map with several entries has none, as their order is open. -/
def text? : Value → Option String
  | string text => some ("\"" ++ text ++ "\"")
  | integer number => some (toString number.toInt)
  | float number => some number.text
  | boolean flag => some (if flag then "true" else "false")
  | dateTime milliseconds => some ("DateTime(" ++ toString milliseconds.toInt ++ ")")
  | array items => (itemTexts? items).map fun texts => "[" ++ ", ".intercalate texts ++ "]"
  | map [] => some "\x7b\x7d"
  | map [(key, value)] => (text? value).map fun text => "\x7b" ++ key ++ ": " ++ text ++ "\x7d"
  | map _ => none
  | null => some "null"

def itemTexts? : List Value → Option (List String)
  | [] => some []
  | item :: items =>
    match text? item, itemTexts? items with
    | some text, some texts => some (text :: texts)
    | _, _ => none

end

end Value

end PropertyGraph
