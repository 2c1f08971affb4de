import TraceScript.Directive.Keyword
import TraceScript.Error.Code
import TraceScript.Text.Numeral

/-!
# Script errors

What can be wrong with a line of a script.  A `Cause` says what is wrong and
fixes the kind, the code, the wording and, where there is one, the hint.  A
`ScriptError` adds where it is wrong.  The helpers that find an error work on
bare texts and know no location, so their callers attach `Context`s, each of
which may place the error, show its line and head the message with a note.

An error that is already placed stays where it is and keeps its line; notes
always apply, the last one standing first.  `ScriptError.render` is the
diagnostic: a head line, the source line with a caret under the column, and
the hint.
-/

namespace TraceScript

/-- A position in a script; column zero and below stand for the whole line. -/
structure Location where
  filename : Text
  line : Int
  column : Int
  deriving DecidableEq, Repr

/-- The spelling of a position. -/
def Location.text (l : Location) : Text :=
  let place := l.filename ++ ":".toList ++ Text.signedDecimal l.line
  if l.column > 0 then place ++ ":".toList ++ Text.signedDecimal l.column else place

/-- The kinds of script errors. -/
inductive ErrorKind
  | script
  | directiveSyntax
  | valueRange
  | label
  | undefinedLabel
  | duplicateLabel
  | labelName
  | encoder
  deriving DecidableEq, Repr

/-- The code of a kind whose errors state none of their own. -/
def ErrorKind.code : ErrorKind → ErrorCode
  | script => .internal
  | directiveSyntax => .missingDirective
  | valueRange => .intTooBig
  | label => .noLabel
  | undefinedLabel => .noLabel
  | duplicateLabel => .labelNotUnique
  | labelName => .labelName
  | encoder => .encoder

/-- What is wrong. -/
inductive Cause
  | noDirective
  | missingDirective
  | unknownDirective (name : Text)
  | missingClose (name : Text)
  | textAfterClose (name : Text)
  | trailingTokens (tokens : Text)
  | unknownCharacter (c : Char)
  | patternTooLong (size : Nat)
  | missingOperands
  | missingAddress
  | missingOperand
  | compressionTooLarge (value : Nat)
  | byteTooLarge (value : Nat)
  | labelWithoutTable (operand : Text)
  | badExecMode
  | badTsxState
  | badInteger (text : Text)
  | missingLabelName
  | labelNameTooLong (size : Nat)
  | badMaskWidth (text : Text)
  | maskWidthOutOfRange (width : Nat)
  | undefinedLabel (name : Text) (similar : List Text)
  | duplicateLabel (name : Text) (table : Text)
  | encoder (directive : Text) (status : Int) (statusText : Text)
  | stated (kind : ErrorKind) (code : Option ErrorCode) (message : Text)
  deriving DecidableEq, Repr

namespace Cause

/-- The longest pattern of taken and not-taken bits that is read. -/
def maxPatternBits : Nat := 64

/-- The longest label name that a placeholder may carry. -/
def maxLabelLength : Nat := 255

/-- The octets of an address. -/
def addressOctets : Nat := 8

/-- The kind of error that a cause makes. -/
def kind : Cause → ErrorKind
  | noDirective | missingDirective | unknownDirective _ | missingClose _ | textAfterClose _
  | trailingTokens _ | unknownCharacter _ | missingOperands | missingAddress | missingOperand
  | labelWithoutTable _ | badExecMode | badTsxState | badInteger _ | badMaskWidth _ =>
      .directiveSyntax
  | patternTooLong _ | compressionTooLarge _ | byteTooLarge _ | maskWidthOutOfRange _ =>
      .valueRange
  | missingLabelName | labelNameTooLong _ => .labelName
  | undefinedLabel _ _ => .undefinedLabel
  | duplicateLabel _ _ => .duplicateLabel
  | encoder _ _ _ => .encoder
  | stated k _ _ => k

/-- The status code that a cause makes. -/
def code : Cause → ErrorCode
  | noDirective => .noDirective
  | missingDirective => .missingDirective
  | unknownDirective _ => .unknownDirective
  | missingClose _ | missingOperands | missingAddress | missingOperand => .missingOperand
  | textAfterClose _ | trailingTokens _ => .trailingTokens
  | unknownCharacter _ => .unknownChar
  | badExecMode | badTsxState => .invalidArgument
  | badInteger _ | badMaskWidth _ => .parseInt
  | patternTooLong _ | compressionTooLarge _ | byteTooLarge _ | maskWidthOutOfRange _ => .intTooBig
  | labelWithoutTable _ | undefinedLabel _ _ => .noLabel
  | missingLabelName | labelNameTooLong _ => .labelName
  | duplicateLabel _ _ => .labelNotUnique
  | encoder _ _ _ => .encoder
  | stated k c _ => c.getD k.code

/-- The wording of a cause. -/
def message : Cause → Text
  | noDirective => "line carries no directive".toList
  | missingDirective => "missing directive".toList
  | unknownDirective name => "unknown directive ".toList ++ Text.quoted name
  | missingClose name => "missing ')' in directive ".toList ++ Text.quoted name
  | textAfterClose name =>
      "trailing tokens after ".toList ++ Text.quoted name ++ " directive".toList
  | trailingTokens tokens => "trailing tokens ".toList ++ Text.quoted tokens
  | unknownCharacter c => "unknown character ".toList ++ Text.quoted [c]
  | patternTooLong size =>
      "value too large: ".toList ++ Text.decimal size ++ " bits, at most ".toList ++
        Text.decimal maxPatternBits
  | missingOperands => "missing operands".toList
  | missingAddress => "missing ip operand".toList
  | missingOperand => "missing operand".toList
  | compressionTooLarge value =>
      "value too large: ip compression ".toList ++ Text.signedHexMarked value
  | byteTooLarge value =>
      "value too large: ".toList ++ Text.signedHexMarked value ++ " does not fit in 8 bits".toList
  | labelWithoutTable operand =>
      "cannot resolve ".toList ++ Text.quoted operand ++ " without labels".toList
  | badExecMode => "argument must be one of \"16bit\", \"64bit\" or \"32bit\"".toList
  | badTsxState => "argument must be one of \"begin\", \"abort\" or \"commit\"".toList
  | badInteger text => "cannot parse integer ".toList ++ Text.quoted text
  | missingLabelName => "missing label name after '%'".toList
  | labelNameTooLong size =>
      "label name too long (".toList ++ Text.decimal size ++ " characters, at most ".toList ++
        Text.decimal maxLabelLength ++ ")".toList
  | badMaskWidth text => "cannot parse mask width in ".toList ++ Text.quoted text
  | maskWidthOutOfRange width =>
      "mask width ".toList ++ Text.decimal width ++ " out of range".toList
  | undefinedLabel name _ => "undefined label ".toList ++ Text.quoted name
  | duplicateLabel name _ => "label ".toList ++ Text.quoted name ++ " is not unique".toList
  | encoder directive _ statusText =>
      "encoder error in directive ".toList ++ directive ++ " (status ".toList ++ statusText ++
        ")".toList
  | stated _ _ message => message

/-- The hint that goes with a cause. -/
def hint : Cause → Option Text
  | unknownDirective _ =>
      some ("known directives: ".toList ++ Text.joinWith ", ".toList (Keyword.all.map (·.text)))
  | maskWidthOutOfRange _ =>
      some ("keep between 0 and ".toList ++ Text.decimal addressOctets ++ " bytes".toList)
  | undefinedLabel _ similar =>
      if similar.isEmpty then none
      else
        some ("did you mean ".toList ++
          Text.joinWith ", ".toList ((similar.take 3).map Text.quoted) ++ "?".toList)
  | duplicateLabel name table =>
      if table.isEmpty then none
      else
        some (Text.quoted name ++ " is already defined among the ".toList ++ table ++
          " labels".toList)
  | _ => none

end Cause

/-- What a caller knows about an error that it passes on. -/
structure Context where
  location : Option Location
  sourceLine : Option Text
  note : Text

/-- Something wrong with a script, as far as it is placed. -/
structure ScriptError where
  cause : Cause
  notes : List Text
  location : Option Location
  sourceLine : Option Text
  hint : Option Text
  deriving DecidableEq, Repr

namespace ScriptError

/-- An error without a place. -/
def ofCause (cause : Cause) : ScriptError :=
  ⟨cause, [], none, none, cause.hint⟩

/-- An error at a place, with the text of its line. -/
def located (cause : Cause) (location : Option Location) (sourceLine : Option Text) :
    ScriptError :=
  ⟨cause, [], location, sourceLine, cause.hint⟩

/-- The kind of the error. -/
def kind (e : ScriptError) : ErrorKind := e.cause.kind

/-- The status code of the error. -/
def code (e : ScriptError) : ErrorCode := e.cause.code

/-- The wording of the cause behind the notes. -/
def message (e : ScriptError) : Text :=
  e.notes.foldr (fun note rest => note ++ ": ".toList ++ rest) e.cause.message

/-- Attaches what a caller knows. -/
def inContext (e : ScriptError) (c : Context) : ScriptError :=
  { e with
    location := e.location.or c.location
    sourceLine := if e.location.isNone then e.sourceLine.or c.sourceLine else e.sourceLine
    notes := if c.note.isEmpty then e.notes else c.note :: e.notes }

/-- The first line of the diagnostic. -/
def headLine (e : ScriptError) : Text :=
  match e.location with
  | some l => l.text ++ ": error: ".toList ++ e.message
  | none => "error: ".toList ++ e.message

/-- The source line and the caret under its column. -/
def excerpt (e : ScriptError) : List Text :=
  match e.location, e.sourceLine with
  | some l, some line =>
      let shown := "    ".toList ++ line
      if l.column > 0 then [shown, List.replicate (3 + l.column).toNat ' ' ++ ['^']] else [shown]
  | _, _ => []

/-- The line with the hint. -/
def hintLine (e : ScriptError) : List Text :=
  match e.hint with
  | some h => if h.isEmpty then [] else ["hint: ".toList ++ h]
  | none => []

/-- The diagnostic. -/
def render (e : ScriptError) : Text :=
  Text.joinWith ['\n'] (e.headLine :: (e.excerpt ++ e.hintLine))

/-- A context does not change the cause of an error. -/
@[simp] theorem cause_inContext (e : ScriptError) (c : Context) :
    (e.inContext c).cause = e.cause := rfl

@[simp] theorem hint_inContext (e : ScriptError) (c : Context) :
    (e.inContext c).hint = e.hint := rfl

/-- A note heads the message; an empty one leaves it alone. -/
theorem message_inContext (e : ScriptError) (c : Context) :
    (e.inContext c).message =
      if c.note.isEmpty then e.message else c.note ++ ": ".toList ++ e.message := by
  by_cases h : c.note.isEmpty <;> simp [inContext, message, h]

end ScriptError
end TraceScript
