import TraceScript.Error.Script

/-!
# Contexts put together

Several callers may attach a context to an error, one after another
(`ScriptError.inContexts`).  What the error is then made of follows from the whole row of
contexts, field by field: the place is the first that was given, the line is the first that
was given to an error without a place (`findingUnplaced`), and the notes stand in front of
the message, the last one first.  Everything else is as the error was raised
(`inContexts_fields`).

The diagnostic is a function of four of these fields (`diagnosticOf`).  It shows a line only
behind a place, and a caret only under a column.
-/

namespace TraceScript

variable {e : ScriptError} {c : Context} {cs : List Context}

/-- What a context puts in front of a message. -/
def Context.heading (c : Context) : Text :=
  if c.note.isEmpty then [] else c.note ++ ": ".toList

/-- Of a row of contexts, those without a note put nothing in front of a
message. -/
theorem flatMap_heading (cs : List Context) :
    cs.flatMap Context.heading =
      (cs.filter fun c => !c.note.isEmpty).flatMap fun c => c.note ++ ": ".toList := by
  induction cs with
  | nil => rfl
  | cons c rest ih =>
      rw [List.flatMap_cons, ih, Context.heading, List.filter_cons]
      by_cases hempty : c.note.isEmpty
      · simp [hempty]
      · simp [hempty]

/-! ### The diagnostic of some fields -/

/-- What stands in front of a message. -/
def openingOf : Option Location → Text
  | some l => l.text ++ ": error: ".toList
  | none => "error: ".toList

/-- The line of a script behind a known place, and a caret under a known
column. -/
def excerptOf : Option Location → Option Text → Text
  | some l, some line =>
      '\n' :: ("    ".toList ++ line) ++
        if 0 < l.column then '\n' :: List.replicate (3 + l.column).toNat ' ' ++ ['^'] else []
  | _, _ => []

/-- The last line of a diagnostic, where there is a hint. -/
def closingOf : Option Text → Text
  | some (c :: rest) => '\n' :: ("hint: ".toList ++ c :: rest)
  | _ => []

/-- The diagnostic of an error with these fields. -/
def diagnosticOf (location : Option Location) (message : Text) (sourceLine hint : Option Text) :
    Text :=
  openingOf location ++ message ++ excerptOf location sourceLine ++ closingOf hint

/-- Every line of a diagnostic but the first stands behind a line feed. -/
theorem Text.joinWith_newline_cons (t : Text) (ts : List Text) :
    joinWith ['\n'] (t :: ts) = t ++ ts.flatMap ('\n' :: ·) := by
  induction ts generalizing t with
  | nil => simp [joinWith]
  | cons u us ih =>
      have hjoin : joinWith ['\n'] (t :: u :: us) = t ++ ['\n'] ++ joinWith ['\n'] (u :: us) := by
        rw [joinWith]
        exact List.cons_ne_nil u us
      calc joinWith ['\n'] (t :: u :: us)
          = t ++ ['\n'] ++ (u ++ us.flatMap ('\n' :: ·)) := by rw [hjoin, ih u]
        _ = t ++ (u :: us).flatMap ('\n' :: ·) := by
            rw [List.flatMap_cons, List.append_assoc, List.singleton_append, List.cons_append]

namespace ScriptError

/-- The first line of a diagnostic has the place, if there is one, and the
message. -/
theorem headLine_eq (e : ScriptError) : e.headLine = openingOf e.location ++ e.message := by
  unfold headLine openingOf
  cases e.location <;> rfl

/-- The line of the script comes next, with its caret, if it is known. -/
theorem excerpt_eq (e : ScriptError) :
    e.excerpt.flatMap ('\n' :: ·) = excerptOf e.location e.sourceLine := by
  unfold excerpt excerptOf
  cases e.location with
  | none => rfl
  | some l =>
      cases e.sourceLine with
      | none => rfl
      | some line =>
          by_cases hcolumn : 0 < l.column
          · simp [hcolumn]
          · simp [hcolumn]

/-- The hint comes last. -/
theorem hintLine_eq (e : ScriptError) :
    e.hintLine.flatMap ('\n' :: ·) = closingOf e.hint := by
  unfold hintLine
  cases e.hint with
  | none => rfl
  | some h =>
      cases h with
      | nil => rfl
      | cons c rest => exact List.flatMap_singleton ..

/-- A diagnostic says what four fields of the error say. -/
theorem render_eq (e : ScriptError) :
    e.render = diagnosticOf e.location e.message e.sourceLine e.hint := by
  calc e.render
      = e.headLine ++ (e.excerpt.flatMap ('\n' :: ·) ++ e.hintLine.flatMap ('\n' :: ·)) := by
        rw [render, Text.joinWith_newline_cons, List.flatMap_append]
    _ = (openingOf e.location ++ e.message) ++
          (excerptOf e.location e.sourceLine ++ closingOf e.hint) := by
        rw [headLine_eq, excerpt_eq, hintLine_eq]
    _ = diagnosticOf e.location e.message e.sourceLine e.hint := by
        simp only [diagnosticOf, List.append_assoc]

/-! ### A row of contexts -/

/-- An error with several contexts attached, one after another. -/
def inContexts (e : ScriptError) (cs : List Context) : ScriptError :=
  cs.foldl inContext e

/-- The contexts of a row that find the error without a place. -/
def findingUnplaced (e : ScriptError) : List Context → List Context
  | [] => []
  | c :: rest =>
      if e.location.isNone then c :: findingUnplaced (e.inContext c) rest
      else findingUnplaced (e.inContext c) rest

/-- The first context of a row is attached first. -/
theorem inContexts_cons (e : ScriptError) (c : Context) (cs : List Context) :
    e.inContexts (c :: cs) = (e.inContext c).inContexts cs :=
  rfl

/-- Contexts leave the cause of an error as it was raised. -/
theorem cause_inContexts (e : ScriptError) (cs : List Context) :
    (e.inContexts cs).cause = e.cause := by
  induction cs generalizing e with
  | nil => rfl
  | cons c rest ih => rw [inContexts_cons, ih, cause_inContext]

theorem hint_inContexts (e : ScriptError) (cs : List Context) :
    (e.inContexts cs).hint = e.hint := by
  induction cs generalizing e with
  | nil => rfl
  | cons c rest ih => rw [inContexts_cons, ih, hint_inContext]

/-- A context gives a place to an error that has none. -/
theorem location_inContext (e : ScriptError) (c : Context) :
    (e.inContext c).location = e.location.or c.location :=
  rfl

/-- The first place that is known stays. -/
theorem location_inContexts (e : ScriptError) (cs : List Context) :
    (e.inContexts cs).location = e.location.or (cs.findSome? (·.location)) := by
  induction cs generalizing e with
  | nil => exact (Option.or_none).symm
  | cons c rest ih =>
      calc (e.inContexts (c :: rest)).location
          = (e.location.or c.location).or (rest.findSome? (·.location)) := by
            rw [inContexts_cons, ih, location_inContext]
        _ = e.location.or (c.location.or (rest.findSome? (·.location))) := Option.or_assoc
        _ = e.location.or ((c :: rest).findSome? (·.location)) := by
            rw [List.findSome?_cons]
            cases c.location <;> rfl

/-- A context gives its line to an error without a place, unless it has one. -/
theorem sourceLine_inContext_of_unplaced (h : e.location.isNone) (c : Context) :
    (e.inContext c).sourceLine = e.sourceLine.or c.sourceLine :=
  if_pos h

/-- It gives no line to an error that has a place. -/
theorem sourceLine_inContext_of_placed (h : ¬ e.location.isNone) (c : Context) :
    (e.inContext c).sourceLine = e.sourceLine :=
  if_neg h

/-- The first line that is given to an error without a place stays. -/
theorem sourceLine_inContexts (e : ScriptError) (cs : List Context) :
    (e.inContexts cs).sourceLine =
      e.sourceLine.or ((e.findingUnplaced cs).findSome? (·.sourceLine)) := by
  induction cs generalizing e with
  | nil => exact (Option.or_none).symm
  | cons c rest ih =>
      rw [inContexts_cons, ih, findingUnplaced]
      by_cases hplace : e.location.isNone
      · rw [sourceLine_inContext_of_unplaced hplace, if_pos hplace, Option.or_assoc,
          List.findSome?_cons]
        cases c.sourceLine <;> rfl
      · rw [sourceLine_inContext_of_placed hplace, if_neg hplace]

/-- It puts its note in front of the message. -/
theorem message_inContext_eq (e : ScriptError) (c : Context) :
    (e.inContext c).message = c.heading ++ e.message := by
  rw [message_inContext, Context.heading]
  split <;> rfl

/-- Each note stands in front of what was there before it. -/
theorem message_inContexts (e : ScriptError) (cs : List Context) :
    (e.inContexts cs).message = cs.reverse.flatMap Context.heading ++ e.message := by
  induction cs generalizing e with
  | nil => rfl
  | cons c rest ih =>
      calc (e.inContexts (c :: rest)).message
          = rest.reverse.flatMap Context.heading ++ (c.heading ++ e.message) := by
            rw [inContexts_cons, ih, message_inContext_eq]
        _ = (c :: rest).reverse.flatMap Context.heading ++ e.message := by
            rw [List.reverse_cons, List.flatMap_append, List.flatMap_singleton,
              List.append_assoc]

/-- **Contexts compose.**  After any row of contexts an error has its own
place, or else the first that was given.  Its line is its own, or else the
first that was given while it had no place.  The notes that are not empty
stand in front of its message, the last one first.  What is wrong stays as it
was, and with it the kind, the code and what the kind has besides; so does the
hint.  The diagnostic is made of these fields and of nothing else. -/
theorem inContexts_fields (e : ScriptError) (cs : List Context) :
    (e.inContexts cs).location = e.location.or (cs.findSome? (·.location)) ∧
    (e.inContexts cs).sourceLine =
      e.sourceLine.or ((e.findingUnplaced cs).findSome? (·.sourceLine)) ∧
    (e.inContexts cs).message =
      (cs.filter fun c => !c.note.isEmpty).reverse.flatMap (fun c => c.note ++ ": ".toList) ++
        e.message ∧
    ((e.inContexts cs).cause = e.cause ∧ (e.inContexts cs).kind = e.kind ∧
      (e.inContexts cs).code = e.code ∧ (e.inContexts cs).hint = e.hint) ∧
    (e.inContexts cs).render =
      diagnosticOf (e.inContexts cs).location (e.inContexts cs).message
        (e.inContexts cs).sourceLine (e.inContexts cs).hint := by
  have hcause := cause_inContexts e cs
  refine ⟨location_inContexts e cs, sourceLine_inContexts e cs, ?_,
    ⟨hcause, congrArg Cause.kind hcause, congrArg Cause.code hcause, hint_inContexts e cs⟩,
    render_eq _⟩
  rw [message_inContexts, flatMap_heading, List.filter_reverse]

/-- A line that was given before any place stays when a place comes with
another line. -/
example (l : Location) (line other : Text) :
    ((ofCause .missingOperands).inContexts
      [⟨none, some line, []⟩, ⟨some l, some other, []⟩]).sourceLine = some line :=
  rfl

end ScriptError
end TraceScript
