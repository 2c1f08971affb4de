import TraceScript.Text.Blank

/-!
# Control sequences

A terminal takes some runs of characters as orders and not as text: an
escape character, an opening bracket, digits, semicolons and question marks,
and an ASCII letter that ends the order.  `withoutControls` is a text without
such runs.  They are looked for once, from left to right, so what comes together
where one was taken out is left alone.

Main fact: `withoutControls_eq_self`, a text without an escape character has none.
-/

namespace TraceScript.Text

/-- The character that starts a control sequence. -/
def escape : Char := '\x1b'

/-- A character between the bracket and the final letter. -/
def isSequenceParameter (c : Char) : Bool :=
  ('0' ≤ c && c ≤ '9') || c == ';' || c == '?'

/-- The letter that ends a control sequence. -/
def isSequenceEnd (c : Char) : Bool :=
  ('a' ≤ c && c ≤ 'z') || ('A' ≤ c && c ≤ 'Z')

/-- What follows the control sequence that a text starts with. -/
def afterSequence? : Text → Option Text
  | c :: '[' :: rest =>
      if c = escape then
        match rest.dropWhile isSequenceParameter with
        | d :: after => if isSequenceEnd d then some after else none
        | [] => none
      else none
  | _ => none

/-- A control sequence has a character at least, so what stands behind it is
shorter. -/
theorem length_of_afterSequence? {t after : Text} (h : afterSequence? t = some after) :
    after.length < t.length := by
  unfold afterSequence? at h
  split at h
  · rename_i c rest
    split at h
    · split at h
      · rename_i d rest' hd
        split at h
        · cases h
          have hle := (List.dropWhile_suffix (l := rest) isSequenceParameter).length_le
          rw [hd, List.length_cons] at hle
          simp only [List.length_cons]
          omega
        · cases h
      · cases h
    · cases h
  · cases h

/-- The text without its control sequences. -/
def withoutControls (t : Text) : Text :=
  match t with
  | [] => []
  | c :: rest =>
      match h : afterSequence? (c :: rest) with
      | some after =>
          have : after.length < (c :: rest).length := length_of_afterSequence? h
          withoutControls after
      | none => c :: withoutControls rest
termination_by t.length
decreasing_by
  · exact this
  · exact Nat.lt_succ_self _

/-- No control sequence starts with another character. -/
theorem afterSequence?_eq_none {c : Char} {rest : Text} (h : c ≠ escape) :
    afterSequence? (c :: rest) = none := by
  unfold afterSequence?
  split
  · rename_i d _ heq
    rw [List.cons.injEq] at heq
    rw [if_neg (heq.1 ▸ h)]
  · rfl

/-- A text without an escape character has no control sequence. -/
theorem withoutControls_eq_self {t : Text} (h : escape ∉ t) : withoutControls t = t := by
  induction t with
  | nil => rw [withoutControls]
  | cons c rest ih =>
      have hc : c ≠ escape := fun he => h (he ▸ List.mem_cons_self)
      rw [withoutControls]
      split
      · rename_i hs
        rw [afterSequence?_eq_none hc] at hs
        cases hs
      · rw [ih fun hr => h (List.mem_cons_of_mem c hr)]

end TraceScript.Text
