import TraceScript.Text.Blank

/-!
# Directive markers

A script line may have a comment, which starts at its first semicolon.  A
comment that opens with `@pt`, alone or before a blank, carries a directive:
the rest of the comment without the blanks around it.  The column of a
directive counts from one; an empty directive has none and is given column
zero.
-/

namespace TraceScript

/-- A directive as found on a line. -/
structure Marked where
  directive : Text
  column : Nat
  deriving DecidableEq, Repr

namespace Marked

/-- What follows the marker of a comment; `none` for an ordinary comment. -/
def afterMarker? (comment : Text) : Option Text :=
  match Text.trimStart comment with
  | '@' :: 'p' :: 't' :: after => if after.head?.all Text.isBlank then some after else none
  | _ => none

/-- The directive of a line. -/
def find? (line : Text) : Option Marked :=
  match Text.cutAt ';' line with
  | none => none
  | some (_, comment) =>
      (afterMarker? comment).map fun after =>
        let directive := Text.trim after
        ⟨directive,
          if directive.isEmpty then 0 else line.length - (Text.trimStart after).length + 1⟩

end Marked
end TraceScript
