import IndentLint.Encoding

/-! Reasons to refuse a document. -/
namespace IndentLint.Document

inductive Fault where
  | malformed (detail : String)
  | undecodable (fault : DecodeFault)
  | longNumeral (digits : Nat)
  | impossibleTime (detail : String)
  | notWhole (base : Nat) (text : String)
  | notReal (text : String)
  | noDigits
  | notTruth (text : String)
  | notTimestamp
  | beyondUnicode
  | hugeCode
  | hugeWeight
  | notText
  | endless
  | tooDeep (container : String)
  deriving DecidableEq, Repr

def Fault.excerpt (text : String) : String := String.ofList ((Text.quoted text).toList.take 200)

def Fault.message : Fault → String
  | .malformed detail => detail
  | .undecodable fault => fault.message
  | .longNumeral digits =>
    "Exceeds the limit (4300 digits) for integer string conversion: value has " ++ toString digits
      ++ " digits; use sys.set_int_max_str_digits() to increase the limit"
  | .impossibleTime detail => detail
  | .notWhole base text =>
    s!"invalid literal for int() with base {base}: " ++ excerpt text
  | .notReal text => "could not convert string to float: " ++ Text.quoted text
  | .noDigits => "string index out of range"
  | .notTruth text => Text.quoted text
  | .notTimestamp => "no timestamp"
  | .beyondUnicode => "chr() arg not in range(0x110000)"
  | .hugeCode => "a code point of more than 31 bits"
  | .hugeWeight => "int too large to convert to float"
  | .notText => "expected string or bytes-like object"
  | .endless => "maximum recursion depth exceeded"
  | .tooDeep container =>
    s!"maximum recursion depth exceeded while decoding a JSON {container} from a unicode string"

end IndentLint.Document
