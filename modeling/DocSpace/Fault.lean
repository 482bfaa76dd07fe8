import DocSpace.Http.Label.Fault
import DocSpace.Signature
import DocSpace.SystemFault
import DocSpace.Text.Encoding

set_option autoImplicit false

namespace DocSpace

open Number Text

inductive JsonFault where
  | expectingValue
  | expectingName
  | expectingColon
  | expectingComma
  | extraData
  | unterminatedText
  | controlCharacter
  | badEscape
  | badCodeUnit
  deriving DecidableEq

def JsonFault.text : JsonFault → String
  | expectingValue => "Expecting value"
  | expectingName => "Expecting property name enclosed in double quotes"
  | expectingColon => "Expecting ':' delimiter"
  | expectingComma => "Expecting ',' delimiter"
  | extraData => "Extra data"
  | unterminatedText => "Unterminated string starting at"
  | controlCharacter => "Invalid control character at"
  | badEscape => "Invalid \\escape"
  | badCodeUnit => "Invalid \\uXXXX escape"

/-- A place in a text: line and column from one, offset from zero. -/
structure Place where
  line : Nat
  column : Nat
  offset : Nat
  deriving DecidableEq

/-- The place after the characters `before`. -/
def Place.after (before : List Char) : Place where
  line := before.count '\n' + 1
  column := (before.reverse.takeWhile (· ≠ '\n')).length + 1
  offset := before.length

inductive SessionFault where
  | openTwice
  | reopen
  | sendWhenClosed
  deriving DecidableEq

def SessionFault.text : SessionFault → String
  | openTwice => "Cannot open a client instance more than once."
  | reopen => "Cannot reopen a client instance, once it has been closed."
  | sendWhenClosed => "Cannot send a request, as the client has been closed."

inductive FieldFault where
  | notAName
  | keyword
  | duplicate
  | sharedFactory
  | mutableDefault (type : String)
  | behindDefault
  deriving DecidableEq

def FieldFault.label : FieldFault → String
  | mutableDefault _ => "ValueError"
  | _ => "TypeError"

def FieldFault.text (name : String) : FieldFault → String
  | notAName => "Field names must be valid identifiers: " ++ quoted name
  | keyword => "Field names must not be keywords: " ++ quoted name
  | duplicate => "Field name duplicated: " ++ quoted name
  | sharedFactory => "field " ++ name ++ " cannot have a default factory"
  | mutableDefault type =>
    "mutable default " ++ type ++ " for field " ++ name ++ " is not allowed: use default_factory"
  | behindDefault => "non-default argument " ++ quoted name ++ " follows default argument"

inductive ExpressionFault where
  | notAnExpression (source : String)
  | operands (mark left right : String)
  | operand (mark type : String)
  | zeroDivisor (mark : String)
  | negativeShift
  | notAppendable (container type : String)
  | notACount (type : String)
  | notTextIn (type : String)
  | holdsNothing (type : String)
  | missingEntry (shown : String)
  | badSlice
  | notSubscriptable (name : String)
  | notGeneric (shown : String)
  | notSpreadable (type : String)
  | badIndex (container type : String)
  | notAType (shown : String)
  deriving DecidableEq

def ExpressionFault.label : ExpressionFault → String
  | notAnExpression _ => "SyntaxError"
  | zeroDivisor _ => "ZeroDivisionError"
  | negativeShift => "ValueError"
  | missingEntry _ => "KeyError"
  | _ => "TypeError"

def ExpressionFault.text : ExpressionFault → String
  | notAnExpression source => "Forward reference must be an expression -- got " ++ quoted source
  | operands mark left right =>
    "unsupported operand type(s) for " ++ mark ++ ": '" ++ left ++ "' and '" ++ right ++ "'"
  | operand mark type => "bad operand type for unary " ++ mark ++ ": '" ++ type ++ "'"
  | zeroDivisor mark =>
    if mark = "//" then "integer division or modulo by zero"
    else if mark = "%" then "integer modulo by zero"
    else if mark = "/" then "division by zero"
    else "float division by zero"
  | negativeShift => "negative shift count"
  | notAppendable container type =>
    if container = "bytes" then "can't concat " ++ type ++ " to " ++ container
    else "can only concatenate " ++ container ++ " (not \"" ++ type ++ "\") to " ++ container
  | notACount type => "can't multiply sequence by non-int of type '" ++ type ++ "'"
  | notTextIn type => "'in <string>' requires string as left operand, not " ++ type
  | holdsNothing type => "argument of type '" ++ type ++ "' is not iterable"
  | missingEntry shown => shown
  | badSlice => "slice indices must be integers or None or have an __index__ method"
  | notSubscriptable name => "type '" ++ name ++ "' is not subscriptable"
  | notGeneric shown => shown ++ " is not a generic class"
  | notSpreadable type => "Value after * must be an iterable, not " ++ type
  | badIndex container type =>
    if container = "string" then "string indices must be integers, not '" ++ type ++ "'"
    else container ++ " indices must be integers or slices, not " ++ type
  | notAType shown =>
    "Forward references must evaluate to types. Got " ++
      String.ofList (shown.toList.take 100) ++ "."

inductive Fault where
  | notIterable (type : String)
  | joinsOnlyIterables
  | itemNotText (index : Nat) (type : String)
  | unhashable (type : String)
  | notSubscriptable (type : String)
  | notOrdered (mark left right : String)
  | expression (cause : ExpressionFault)
  | indexOutOfRange (container : String)
  | noSignature (type : String)
  | keyNotEncodable (type : String)
  | notEncodable (type : String)
  | notFinite
  | anyUnchecked
  | mappingUnchecked
  | pairNotSequence (index : Nat)
  | pairLength (index length : Nat)
  | call (function : String) (cause : CallFault)
  | field (name : String) (cause : FieldFault)
  | notCallable (type : String)
  | notAnInteger (type : String)
  | integerTooLarge (type : String)
  | noAttribute (type name : String)
  | noTypeAttribute (type name : String)
  | noMember (name : String)
  | noReceiver (type method : String)
  | wrongReceiver (type method argument : String)
  | notASort (value : Value)
  | notALevel (value : Value)
  | unknownLevel (name : String)
  | notWhole (source : String)
  | notDouble (source : String)
  | tooManyDigits (count : Nat)
  | nulByte
  | illegalVariable
  | json (cause : JsonFault) (place : Place)
  | tooDeep (container : String)
  | encoding (cause : EncodingFault)
  | missingKey (key : Value)
  | notBytesLike (type : String)
  | unknownName (name : String)
  | notATypeArgument (shown : String)
  | session (cause : SessionFault)
  | invalidUrl (message : String)
  | unknownUrlType (url : String)
  | hostName (cause : Http.NameFault)
  | transport (label message : String)
  | raised (label : String) (arguments : List Value)

namespace Fault

def label : Fault → String
  | notIterable _ | joinsOnlyIterables | itemNotText _ _ | unhashable _ | notSubscriptable _
  | notOrdered _ _ _ | keyNotEncodable _ | notEncodable _ | anyUnchecked | mappingUnchecked
  | pairNotSequence _ | call _ _ | notCallable _ | notAnInteger _ | notATypeArgument _
  | notALevel _ | notBytesLike _ | noReceiver _ _ | wrongReceiver _ _ _ => "TypeError"
  | noAttribute _ _ | noTypeAttribute _ _ | noMember _ => "AttributeError"
  | notFinite | pairLength _ _ | notASort _ | notWhole _ | notDouble _ | tooManyDigits _ | nulByte
  | unknownLevel _ | illegalVariable | unknownUrlType _ | noSignature _ | integerTooLarge _ =>
    "ValueError"
  | field _ cause => cause.label
  | json _ _ => "JSONDecodeError"
  | tooDeep _ => "RecursionError"
  | encoding cause => cause.label
  | missingKey _ => "KeyError"
  | expression cause => cause.label
  | indexOutOfRange _ => "IndexError"
  | unknownName _ => "NameError"
  | session _ => "RuntimeError"
  | invalidUrl _ => "InvalidURL"
  | hostName cause => cause.label
  | transport label _ => label
  | raised label arguments =>
    if label = SystemFault.commonClass then SystemFault.label arguments else label

/-- Message of a fault raised with arguments: nothing, the one argument, or all of them; faults
of the system have a form of their own. -/
def argumentsText (label : String) : List Value → String
  | [] => ""
  | [v] => if label = "KeyError" then v.display else v.plain
  | vs =>
    let all := (Value.tuple vs).display
    if label = SystemFault.commonClass then (SystemFault.text? vs).getD all else all

def placeText (p : Place) : String :=
  ": line " ++ natText p.line ++ " column " ++ natText p.column ++ " (char " ++
    natText p.offset ++ ")"

def text : Fault → String
  | notIterable t => "'" ++ t ++ "' object is not iterable"
  | joinsOnlyIterables => "can only join an iterable"
  | itemNotText i t =>
    "sequence item " ++ natText i ++ ": expected str instance, " ++ t ++ " found"
  | unhashable t => "unhashable type: '" ++ t ++ "'"
  | notSubscriptable t => "'" ++ t ++ "' object is not subscriptable"
  | notOrdered m l r =>
    "'" ++ m ++ "' not supported between instances of '" ++ l ++ "' and '" ++ r ++ "'"
  | expression cause => cause.text
  | indexOutOfRange container =>
    (if container = "byte" then "" else container ++ " ") ++ "index out of range"
  | noSignature type => "no signature found for builtin type " ++ Value.displayType type
  | keyNotEncodable t => "keys must be str, int, float, bool or None, not " ++ t
  | notEncodable t => "Object of type " ++ t ++ " is not JSON serializable"
  | notFinite => "Out of range float values are not JSON compliant"
  | anyUnchecked => "typing.Any cannot be used with isinstance()"
  | mappingUnchecked => "TypedDict does not support instance and class checks"
  | pairNotSequence i =>
    "cannot convert dictionary update sequence element #" ++ natText i ++ " to a sequence"
  | pairLength i n =>
    "dictionary update sequence element #" ++ natText i ++ " has length " ++ natText n ++
      "; 2 is required"
  | call function cause => function ++ "() " ++ cause.text
  | field name cause => cause.text name
  | notCallable t => "'" ++ t ++ "' object is not callable"
  | notAnInteger t => "'" ++ t ++ "' object cannot be interpreted as an integer"
  | integerTooLarge t => "cannot fit '" ++ t ++ "' into an index-sized integer"
  | noAttribute t a => "'" ++ t ++ "' object has no attribute '" ++ a ++ "'"
  | noTypeAttribute t a => "type object '" ++ t ++ "' has no attribute '" ++ a ++ "'"
  | noMember name => name
  | noReceiver t m => "unbound method " ++ t ++ "." ++ m ++ "() needs an argument"
  | wrongReceiver t m a =>
    "descriptor '" ++ m ++ "' for '" ++ t ++ "' objects doesn't apply to a '" ++ a ++ "' object"
  | notASort v => v.display ++ " is not a valid Sort"
  | notALevel v => "Level not an integer or a valid string: " ++ v.display
  | unknownLevel name => "Unknown level: " ++ quoted name
  | notWhole s =>
    "invalid literal for int() with base 10: " ++ String.ofList ((quoted s).toList.take 200)
  | notDouble s => "could not convert string to float: " ++ quoted s
  | tooManyDigits n =>
    "Exceeds the limit (4300 digits) for integer string conversion: value has " ++ natText n ++
      " digits; use sys.set_int_max_str_digits() to increase the limit"
  | nulByte => "embedded null byte"
  | illegalVariable => "illegal environment variable name"
  | json cause place => cause.text ++ placeText place
  | tooDeep container =>
    "maximum recursion depth exceeded while decoding a JSON " ++ container ++
      " from a unicode string"
  | encoding cause => cause.text
  | missingKey k => k.display
  | notATypeArgument shown => shown ++ " is not valid as type argument"
  | notBytesLike t => "a bytes-like object is required, not '" ++ t ++ "'"
  | unknownName n => "name '" ++ n ++ "' is not defined"
  | session cause => cause.text
  | invalidUrl message => message
  | unknownUrlType url => "unknown url type: " ++ quoted url
  | hostName cause => cause.text
  | transport _ message => message
  | raised label arguments => argumentsText label arguments

end Fault

end DocSpace
