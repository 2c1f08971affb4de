import TraceScript.Text.Blank

/-!
# Lines

Where a text breaks into lines.  `lines` ends a line at every boundary code
point, the pair carriage return and line feed counting as one boundary, and
yields no empty line after the last boundary.  `unifyNewlines` is what a file
reader does first: both spellings of a return become a line feed.

Main fact: no line holds a boundary (`not_boundary_of_mem_lines`).
-/

namespace TraceScript.Text

/-- Line feed, vertical tab, form feed, carriage return, the file, group and
record separators, next line, and the line and paragraph separators. -/
def isLineBoundary (c : Char) : Bool :=
  let n := c.toNat
  (0x0A ≤ n && n ≤ 0x0D) || (0x1C ≤ n && n ≤ 0x1E) || n == 0x85 || n == 0x2028 || n == 0x2029

/-- The lines of a text, without their boundaries. -/
def lines : Text → List Text
  | [] => []
  | '\r' :: '\n' :: rest => [] :: lines rest
  | c :: rest => if isLineBoundary c then [] :: lines rest else growFirst c (lines rest)

/-- The text with a line feed for every return, alone or before a line feed. -/
def unifyNewlines : Text → Text
  | [] => []
  | '\r' :: '\n' :: rest => '\n' :: unifyNewlines rest
  | c :: rest => (if c = '\r' then '\n' else c) :: unifyNewlines rest

/-- No line holds a boundary.  A boundary ends the line in front of it and
belongs to none. -/
theorem not_boundary_of_mem_lines {t l : Text} (h : l ∈ lines t) :
    ∀ c ∈ l, isLineBoundary c = false := by
  fun_induction lines t generalizing l with
  | case1 => simp at h
  | case2 rest ih =>
      rcases List.mem_cons.mp h with rfl | h
      · simp
      · exact ih h
  | case3 c rest _ hb ih =>
      rcases List.mem_cons.mp h with rfl | h
      · simp
      · exact ih h
  | case4 c rest _ hb ih =>
      cases hr : lines rest with
      | nil =>
          rw [hr] at h
          simp only [growFirst, List.mem_singleton] at h
          subst h
          simpa using hb
      | cons v vs =>
          rw [hr] at h
          rcases List.mem_cons.mp h with rfl | h
          · intro d hd
            rcases List.mem_cons.mp hd with rfl | hd
            · simpa using hb
            · exact ih (hr ▸ List.mem_cons_self) d hd
          · exact ih (hr ▸ List.mem_cons_of_mem _ h)

end TraceScript.Text
