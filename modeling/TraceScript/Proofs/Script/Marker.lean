import TraceScript.Expectation.Placeholder
import TraceScript.Proofs.Script.Part
import TraceScript.Proofs.Text.Trim

/-!
# Marked comments

The comment of a line is marked when `@pt` is the first thing in it that is no blank, and
nothing goes on with the marker (`MarkedBy`).  What stands behind the marker is then the
directive, but for the blanks around it.

A column is told by counting from the end of the line, so that it depends on every blank
that was trimmed.  All the same it is the place of the directive, behind the semicolon, and
the only place in the line where the directive stands up to the end (`Marked.Stands`).

A line is thus of one of three kinds (`ScriptLine.Kind`): its comment is marked, or it is
not, or there is none.
-/

namespace TraceScript

variable {line code gap after comment : Text} {m : Marked}

/-- The first comment of a line is marked: blanks stand in front of the
marker, and behind it stands nothing, or a blank and whatever follows. -/
structure MarkedBy (line code gap after : Text) : Prop where
  parts : line = code ++ ';' :: (gap ++ ("@pt".toList ++ after))
  plain : ';' ∉ code
  gap_blank : ∀ c ∈ gap, Text.isBlank c
  ends : after.head?.all Text.isBlank

namespace Marked

/-! ### The marker -/

/-- What stands behind the marker of a comment: the comment is blanks, the
marker and that text, which is empty or starts with a blank. A longer word
that only starts like the marker is none. -/
theorem afterMarker?_eq_some_iff :
    afterMarker? comment = some after ↔
      ∃ gap, comment = gap ++ ("@pt".toList ++ after) ∧ (∀ c ∈ gap, Text.isBlank c) ∧
        after.head?.all Text.isBlank := by
  constructor
  · intro h
    unfold afterMarker? at h
    split at h
    · rename_i behind hcomment
      split at h
      · rename_i hends
        cases h
        refine ⟨comment.takeWhile Text.isBlank, ?_, fun c hc => List.mem_takeWhile_imp hc, hends⟩
        have hparts : comment.takeWhile Text.isBlank ++ Text.trimStart comment = comment :=
          List.takeWhile_append_dropWhile
        rw [hcomment] at hparts
        exact hparts.symm
      · cases h
    · cases h
  · rintro ⟨gap, rfl, hgap, hends⟩
    have hmarker : Text.trimStart (gap ++ ("@pt".toList ++ after)) = '@' :: 'p' :: 't' :: after :=
      Text.trimStart_append hgap rfl
    simp only [afterMarker?, hmarker, hends, if_true]

/-- The directive behind a marker, at the column that is counted from the end
of the line. -/
def counted (line after : Text) : Marked :=
  ⟨Text.trim after,
    if Text.trim after = [] then 0 else line.length - (Text.trimStart after).length + 1⟩

/-- A marked line is found to be marked, with the directive that stands behind
its marker. -/
theorem find?_of_marked (h : MarkedBy line code gap after) :
    find? line = some (counted line after) := by
  have hcut : Text.cutAt ';' line = some (code, gap ++ ("@pt".toList ++ after)) := by
    rw [h.parts]
    exact Text.cutAt_append _ h.plain
  have hafter : afterMarker? (gap ++ ("@pt".toList ++ after)) = some after :=
    afterMarker?_eq_some_iff.mpr ⟨gap, rfl, h.gap_blank, h.ends⟩
  simp only [find?, hcut, hafter, Option.map_some, List.isEmpty_iff, counted]

/-- A line that is found to be marked has a marked comment. -/
theorem exists_marked_of_find? (h : find? line = some m) :
    ∃ code gap after, MarkedBy line code gap after := by
  unfold find? at h
  split at h
  · cases h
  · rename_i code comment hcut
    obtain ⟨after, hafter, -⟩ := Option.map_eq_some_iff.mp h
    obtain ⟨gap, rfl, hgap, hends⟩ := afterMarker?_eq_some_iff.mp hafter
    exact ⟨code, gap, after, Text.eq_append_of_cutAt hcut, Text.not_mem_of_cutAt hcut, hgap, hends⟩

/-! ### The column -/

/-- A directive is at its column: from there on the line is the directive, but
for blanks at the end, and from no other column on; and the column is behind
the semicolon.  An empty directive has column zero. -/
structure Stands (m : Marked) (line code : Text) : Prop where
  empty : m.directive = [] → m.column = 0
  behind : m.directive ≠ [] → code.length + 1 < m.column
  only : m.directive ≠ [] → ∀ column, 0 < column →
    (Text.trimEnd (line.drop (column - 1)) = m.directive ↔ column = m.column)

/-- A directive is in one place only. -/
theorem Stands.column_eq {m' : Marked} (h : m.Stands line code) (h' : m'.Stands line code)
    (hsame : m.directive = m'.directive) : m.column = m'.column := by
  by_cases hempty : m.directive = []
  · rw [h.empty hempty, h'.empty (hsame ▸ hempty)]
  · have hpositive : 0 < m.column := Nat.zero_lt_of_lt (h.behind hempty)
    have hthere := (h.only hempty m.column hpositive).mpr rfl
    rw [hsame] at hempty hthere
    exact (h'.only hempty m.column hpositive).mp hthere

/-- The column that is counted from the end of the line is where the directive
stands. -/
theorem stands_of_marked (h : MarkedBy line code gap after) :
    (counted line after).Stands line code := by
  let front := code ++ ';' :: (gap ++ ("@pt".toList ++ after.takeWhile Text.isBlank))
  have hline : line = front ++ Text.trimStart after := by
    rw [h.parts]
    simp only [front, Text.trimStart, List.append_assoc, List.cons_append,
      List.takeWhile_append_dropWhile]
  have hcolumn : line.length - (Text.trimStart after).length = front.length := by
    rw [hline, List.length_append, Nat.add_sub_cancel]
  have hfront : code.length < front.length := by
    simp only [front, List.length_append, List.length_cons]
    omega
  have hthere : Text.trimEnd (line.drop front.length) = Text.trim after := by
    rw [hline, List.drop_left, Text.trim]
  have hplace (hne : Text.trim after ≠ []) : (counted line after).column = front.length + 1 := by
    rw [counted, if_neg hne, hcolumn]
  constructor
  · exact fun hempty => if_pos hempty
  · intro hne
    rw [hplace hne]
    omega
  · intro hne column hpositive
    rw [hplace hne]
    constructor
    · intro hother
      have hplaces := Text.eq_of_trimEnd_drop (hother.trans hthere.symm) (by rwa [hother])
      omega
    · rintro rfl
      exact hthere

/-- What is found on a line is the directive of its marked comment, at its
place. -/
theorem find?_eq_some_iff :
    find? line = some m ↔
      ∃ code gap after, MarkedBy line code gap after ∧ m.directive = Text.trim after ∧
        m.Stands line code := by
  constructor
  · intro h
    obtain ⟨code, gap, after, hmarked⟩ := exists_marked_of_find? h
    have hfound := find?_of_marked hmarked
    rw [h] at hfound
    cases hfound
    exact ⟨code, gap, after, hmarked, rfl, stands_of_marked hmarked⟩
  · rintro ⟨code, gap, after, hmarked, hdirective, hstands⟩
    have hcolumn := hstands.column_eq (stands_of_marked hmarked) hdirective
    rw [find?_of_marked hmarked]
    obtain ⟨directive, column⟩ := m
    obtain rfl : directive = (counted line after).directive := hdirective
    obtain rfl : column = (counted line after).column := hcolumn
    rfl

end Marked

/-! ### Lines of a script -/

/-- A line has an expected text just if it has a comment. -/
theorem annotation?_eq_none_iff : annotation? line = none ↔ ';' ∉ line := by
  rw [annotation?, Option.map_eq_none_iff, Text.cutAt_eq_none_iff]

namespace ScriptLine

variable (filename : Text) (number : Nat) (t : Text)

/-- A line keeps its text as it stands, marked or not. -/
theorem text_ofText : (ofText filename number t).text = t := by
  unfold ofText
  cases Marked.find? t with
  | none => rfl
  | some m => rfl

/-- A line stands at its number and at the column of its directive, or at
column zero. -/
theorem location_ofText :
    (ofText filename number t).location =
      ⟨filename, number, ((Marked.find? t).elim 0 (·.column) : Nat)⟩ := by
  unfold ofText
  cases Marked.find? t with
  | none => rfl
  | some m => rfl

/-- The directive of a line is what is found behind the marker. -/
theorem directive_ofText :
    (ofText filename number t).directive = (Marked.find? t).map (·.directive) := by
  unfold ofText
  cases Marked.find? t with
  | none => rfl
  | some m => rfl

/-- What a line is.  A marked comment makes it the line of a directive, at the
place of that; another comment, the line of an expected text; and without a
comment it is neither. -/
inductive Kind (l : ScriptLine) : Prop
  | directive {code gap after : Text} {m : Marked} (hmarked : MarkedBy l.text code gap after)
      (hbehind : m.directive = Text.trim after) (hstands : m.Stands l.text code)
      (hdirective : l.directive = some m.directive) (hcolumn : l.location.column = m.column)
  | expecting {expected : Text} (hcomment : ';' ∈ l.text)
      (hunmarked : ∀ code gap after, ¬ MarkedBy l.text code gap after)
      (hdirective : l.directive = none) (hcolumn : l.location.column = 0)
      (hexpected : annotation? l.text = some expected)
  | plain (hplain : ';' ∉ l.text) (hdirective : l.directive = none)
      (hcolumn : l.location.column = 0) (hexpected : annotation? l.text = none)

/-- Every line is of one of the three kinds, whatever its text.  Which one it
is depends on the first semicolon and on what stands behind that. -/
theorem kind_ofText : (ofText filename number t).Kind := by
  have htext := text_ofText filename number t
  have hlocation := location_ofText filename number t
  have hdirective := directive_ofText filename number t
  cases hfind : Marked.find? t with
  | some m =>
      obtain ⟨code, gap, after, hmarked, hbehind, hstands⟩ := Marked.find?_eq_some_iff.mp hfind
      rw [hfind] at hlocation hdirective
      rw [← htext] at hmarked hstands
      exact .directive hmarked hbehind hstands hdirective (by rw [hlocation]; rfl)
  | none =>
      rw [hfind] at hlocation hdirective
      have hcolumn : (ofText filename number t).location.column = 0 := by
        rw [hlocation]
        rfl
      by_cases hcomment : ';' ∈ t
      · have hunmarked (code gap after : Text) : ¬ MarkedBy t code gap after := by
          intro hmarked
          rw [Marked.find?_of_marked hmarked] at hfind
          cases hfind
        obtain ⟨expected, hexpected⟩ :=
          Option.ne_none_iff_exists'.mp (mt annotation?_eq_none_iff.mp (not_not_intro hcomment))
        rw [← htext] at hcomment hunmarked hexpected
        exact .expecting hcomment hunmarked hdirective hcolumn hexpected
      · have hexpected := annotation?_eq_none_iff.mpr hcomment
        rw [← htext] at hcomment hexpected
        exact .plain hcomment hdirective hcolumn hexpected

end ScriptLine

namespace Script

/-- Numbering the lines of a script changes nothing about their texts, nor
about their order. -/
theorem map_text_numberLines (filename : Text) (n : Nat) (ts : List Text) :
    (numberLines filename n ts).map (·.text) = ts := by
  induction ts generalizing n with
  | nil => rfl
  | cons t rest ih => rw [numberLines, List.map_cons, ScriptLine.text_ofText, ih]

/-- The lines of a script are numbered one by one, from the first number on. -/
theorem map_line_numberLines (filename : Text) (n : Nat) (ts : List Text) :
    (numberLines filename n ts).map (·.location.line) =
      (List.range' n ts.length).map Int.ofNat := by
  induction ts generalizing n with
  | nil => rfl
  | cons t rest ih =>
      rw [numberLines, List.map_cons, ScriptLine.location_ofText, ih, List.length_cons,
        List.range'_succ, List.map_cons]
      rfl

end Script

/-- **Marked comments are found, and where they are.**  A directive is found
on a line just if the line's first comment is marked, and it is what stands
behind the marker, at the one place in the line where it stands up to the end;
an empty one has column zero.  So the lines of a script, which are numbered
from one on, each carry a directive, or an expected text and no directive, or
neither. -/
theorem Marked.find?_marked :
    (∀ line m, Marked.find? line = some m ↔
      ∃ code gap after, MarkedBy line code gap after ∧ m.directive = Text.trim after ∧
        m.Stands line code) ∧
    (∀ line, (∃ m, Marked.find? line = some m) ↔
      ∃ code gap after, MarkedBy line code gap after) ∧
    ∀ filename root text,
      let script := Script.ofText filename root text
      script.lines.map (·.text) = Text.lines text ∧
      script.lines.map (·.location.line) =
        (List.range' 1 script.lines.length).map Int.ofNat ∧
      ∀ l ∈ script.lines, l.Kind := by
  refine ⟨fun line m => find?_eq_some_iff, fun line => ⟨?_, ?_⟩, fun filename root text => ?_⟩
  · rintro ⟨m, hfind⟩
    exact exists_marked_of_find? hfind
  · rintro ⟨code, gap, after, hmarked⟩
    exact ⟨_, find?_of_marked hmarked⟩
  · have hlength := Script.length_numberLines filename 1 (Text.lines text)
    refine ⟨Script.map_text_numberLines filename 1 _, ?_, ?_⟩
    · show _ = (List.range' 1 (Script.numberLines filename 1 (Text.lines text)).length).map _
      rw [hlength]
      exact Script.map_line_numberLines filename 1 _
    · intro l hl
      obtain ⟨number, t, -, rfl⟩ := Script.exists_of_mem_numberLines hl
      exact ScriptLine.kind_ofText filename number t

/-- Other semicolons and the marker itself in a directive, among blanks that
are no spaces, on the second of three lines. -/
theorem Marked.find?_marked_second_semicolon :
    let line := "nop;\u00a0@pt\u2003psb() ; @ptx\t ".toList
    let script := Script.ofText "t.asm".toList "t".toList ("; @pt.\n".toList ++ line ++ "\n;".toList)
    let l := ScriptLine.ofText "t.asm".toList 2 line
    l ∈ script.lines ∧ l.Kind ∧ l.directive = some "psb() ; @ptx".toList ∧
    l.location.column = 10 ∧
    Text.trimEnd (line.drop 9) = "psb() ; @ptx".toList := by
  intro line script l
  have hmem : l ∈ script.lines := by decide
  have hkind : l.Kind := (Marked.find?_marked.2.2 _ _ _).2.2 l hmem
  exact ⟨hmem, hkind, by decide, by decide, by decide⟩

end TraceScript
