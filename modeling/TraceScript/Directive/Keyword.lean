import TraceScript.Text.Blank

/-!
# Directive keywords

The names that a directive may carry: one for every packet that a script can
ask for, and `.exp`, which ends the trace stream and opens a file of expected
output.  `Keyword.all` lists them by the order of their spelling, the order
in which a diagnostic offers them.
-/

namespace TraceScript

/-- The name of a directive. -/
inductive Keyword
  | exp
  | cbr
  | fup
  | modeExec
  | modeTsx
  | ovf
  | pad
  | pip
  | psb
  | psbend
  | tip
  | tipPgd
  | tipPge
  | tnt
  | tnt64
  | tsc
  deriving DecidableEq, Repr

namespace Keyword

/-- The spelling of a keyword. -/
def text : Keyword → Text
  | exp => ".exp".toList
  | cbr => "cbr".toList
  | fup => "fup".toList
  | modeExec => "mode.exec".toList
  | modeTsx => "mode.tsx".toList
  | ovf => "ovf".toList
  | pad => "pad".toList
  | pip => "pip".toList
  | psb => "psb".toList
  | psbend => "psbend".toList
  | tip => "tip".toList
  | tipPgd => "tip.pgd".toList
  | tipPge => "tip.pge".toList
  | tnt => "tnt".toList
  | tnt64 => "tnt64".toList
  | tsc => "tsc".toList

/-- Every keyword, by the order of the spellings. -/
def all : List Keyword :=
  [exp, cbr, fup, modeExec, modeTsx, ovf, pad, pip, psb, psbend, tip, tipPgd, tipPge, tnt, tnt64,
    tsc]

/-- The keyword with this spelling. -/
def ofText? (t : Text) : Option Keyword :=
  all.find? fun k => k.text == t

/-- Reading a spelling gives the keyword back. -/
theorem ofText?_text (k : Keyword) : ofText? k.text = some k := by
  cases k <;> decide

/-- Only the spelling of a keyword is read as that keyword. -/
theorem text_of_ofText? {t : Text} {k : Keyword} (h : ofText? t = some k) : k.text = t := by
  simpa using List.find?_some h

end Keyword
end TraceScript
