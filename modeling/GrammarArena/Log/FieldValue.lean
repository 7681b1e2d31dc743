import GrammarArena.Log.Pattern.Support

/-!
What the value of a field may be required to be: a number, or what a pattern matches. Every number
is a pattern as well, unless it has a plus sign in front.
-/

namespace GrammarArena.Log.FieldValue

def isDigits (text : Text) : Bool :=
  text ≠ [] && text.all Char.isDigit

def isExponent : Text → Bool
  | [] => true
  | _ :: '+' :: digits | _ :: '-' :: digits => isDigits digits
  | _ :: digits => isDigits digits

def isDecimal (text : Text) : Bool :=
  let (mantissa, exponent) := text.breakAt fun char => char = 'e' || char = 'E'
  let (whole, fraction) := mantissa.breakAt (· = '.')
  isDigits (whole ++ fraction.tail) && isExponent exponent

def isNumber (text : Text) : Bool :=
  let names : List Text := ["inf", "infinity", "nan"]
  names.contains (Text.lowered text) || isDecimal text

def fault? (value : Text) : Option PatternFault :=
  if value.head? = some '+' && isNumber value.tail then none else Pattern.fault? value

end GrammarArena.Log.FieldValue
