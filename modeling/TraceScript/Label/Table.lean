import TraceScript.Literal

/-!
# Label tables

A table of labels in the order of their definition.  Nothing is ever removed
and no name is ever given a second address.  Two kinds of tables share the
type: the labels of directives, which are offsets into the trace stream and
have to fit a word (`append`), and the labels of the assembly source, whose
values are taken as words (`add`).
-/

namespace TraceScript

/-- Where a label comes from. -/
inductive LabelOrigin
  | directive
  | assembly
  deriving DecidableEq, Repr

/-- The name of an origin. -/
def LabelOrigin.text : LabelOrigin → Text
  | directive => "directive".toList
  | assembly => "assembly".toList

/-- Labels with their addresses, oldest first. -/
structure LabelTable where
  entries : List (Text × Nat)
  deriving DecidableEq, Repr

namespace LabelTable

/-- The table without labels. -/
def empty : LabelTable := ⟨[]⟩

/-- The address of a name. -/
def find? (t : LabelTable) (name : Text) : Option Nat :=
  t.entries.lookup name

/-- Whether a name is defined. -/
def contains (t : LabelTable) (name : Text) : Bool :=
  (t.find? name).isSome

/-- The names, oldest first. -/
def names (t : LabelTable) : List Text :=
  t.entries.map (·.1)

/-- The number of labels. -/
def size (t : LabelTable) : Nat :=
  t.entries.length

/-- The table with one more label at its end. -/
def push (t : LabelTable) (name : Text) (address : Nat) : LabelTable :=
  ⟨t.entries ++ [(name, address)]⟩

/-- The failure of a second definition. -/
def duplicate (name : Text) (origin : LabelOrigin) : Failure :=
  .ofCause (.duplicateLabel name origin.text)

/-- Records an offset of the trace stream. -/
def append (t : LabelTable) (name : Text) (address : Int) : Except Failure LabelTable :=
  if t.contains name then .error (duplicate name .directive)
  else if 0 ≤ address ∧ address < wordCount then .ok (t.push name address.toNat)
  else .error (.internal (.addressTooWide name address))

/-- Records a value of the assembly source. -/
def add (t : LabelTable) (name : Text) (value : Int) : Except Failure LabelTable :=
  if t.contains name then .error (duplicate name .assembly)
  else .ok (t.push name (toWord value))

/-- The address of a name that has to be defined. -/
def lookup (t : LabelTable) (name : Text) : Except Failure Nat :=
  match t.find? name with
  | some address => .ok address
  | none => .error (.ofCause (.undefinedLabel name []))

/-- Adds entries one after another.  What stands before a clash is kept, so
the table is returned in either case. -/
def addAll (t : LabelTable) : List (Text × Int) → Except Failure Unit × LabelTable
  | [] => (.ok (), t)
  | (name, value) :: rest =>
      match t.add name value with
      | .ok t => t.addAll rest
      | .error f => (.error f, t)

/-- Adds the labels of another table. -/
def merge (t other : LabelTable) : Except Failure Unit × LabelTable :=
  t.addAll (other.entries.map fun (name, address) => (name, (address : Int)))

/-- Behind a label that is pushed every name is found as before, and the new
one, too, if it was not there. -/
theorem find?_push (t : LabelTable) (name other : Text) (address : Nat) :
    (t.push name address).find? other =
      (t.find? other).or (if other = name then some address else none) := by
  unfold push find?
  rw [List.lookup_append, List.lookup_cons, List.lookup_nil]
  by_cases h : other = name
  · rw [if_pos h, beq_iff_eq.mpr h]
  · rw [if_neg h, beq_eq_false_iff_ne.mpr h]

/-- A label that is pushed is the last of the names. -/
theorem names_push (t : LabelTable) (name : Text) (address : Nat) :
    (t.push name address).names = t.names ++ [name] := by
  simp [push, names]

end LabelTable
end TraceScript
