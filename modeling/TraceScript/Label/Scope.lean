import TraceScript.Label.Similar
import TraceScript.Label.Table

/-!
# The label scope of a script

The labels of the assembly source and those of the directives live in two
tables and form one name space: a name may be defined in at most one of
them.  `Labels.define` is the only way in which a run adds a label, and it
looks at both tables first; so it does not matter which of them
`Labels.resolve` asks first.

A name that is defined nowhere is refused together with the names that it
may be a misspelling of.
-/

namespace TraceScript

/-- The two tables that a script sees. -/
structure Labels where
  assembly : LabelTable
  directive : LabelTable
  deriving DecidableEq, Repr

namespace Labels

/-- Refuses a name that either table defines. -/
def checkUnique (l : Labels) (name : Text) : Except Failure Unit :=
  if l.assembly.contains name then .error (LabelTable.duplicate name .assembly)
  else if l.directive.contains name then .error (LabelTable.duplicate name .directive)
  else .ok ()

/-- Records an offset of the trace stream under a new name. -/
def define (l : Labels) (name : Text) (address : Int) : Except Failure Labels :=
  match l.checkUnique name with
  | .error f => .error f
  | .ok () => (l.directive.append name address).map fun t => { l with directive := t }

/-- Up to three names that a misspelt one may stand for. -/
def similar (l : Labels) (name : Text) : List Text :=
  Similar.closest name (l.assembly.names ++ l.directive.names)

/-- The table of an origin. -/
def table (l : Labels) : LabelOrigin → LabelTable
  | .assembly => l.assembly
  | .directive => l.directive

/-- The other origin. -/
def other : LabelOrigin → LabelOrigin
  | .assembly => .directive
  | .directive => .assembly

/-- The address of a name and its origin, one table asked before the other. -/
def resolveFrom (l : Labels) (first : LabelOrigin) (name : Text) :
    Except Failure (Nat × LabelOrigin) :=
  match (l.table first).find? name with
  | some address => .ok (address, first)
  | none =>
      match (l.table (other first)).find? name with
      | some address => .ok (address, other first)
      | none => .error (.ofCause (.undefinedLabel name (l.similar name)))

/-- The address of a name and its origin. -/
def resolve (l : Labels) (name : Text) : Except Failure (Nat × LabelOrigin) :=
  l.resolveFrom .assembly name

end Labels
end TraceScript
