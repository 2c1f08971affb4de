import TraceScript.TextFile

/-!
# Texts that are written and read back

The octets of a text are read back as the text (`Utf8.decode_encode`).  The first octet of a
code point tells how many follow, each of which holds six bits of it.  The ranges that the
reader asks for leave out only what is no code point, or has a shorter form.

Lines that hold no boundary are found again in the text that they make, each with a line feed
behind it (`lines_terminated`).  In a file any other end of a line does as well, but for a
return in front of an empty line (`exists_lines_append`).
-/

namespace TraceScript.Text

namespace Utf8

variable {low high count scalar s v : Nat} {rest more : Octets} {c : Char}

/-! ### Octets that follow -/

/-- The octet that holds the last six bits of a number. -/
def following (v : Nat) : UInt8 :=
  UInt8.ofNat (0x80 + v % 64)

/-- An octet that follows stands between 0x80 and 0xBF, and its last six bits
are those of the number. -/
theorem toNat_following (v : Nat) : (following v).toNat = 0x80 + v % 64 := by
  rw [following, UInt8.toNat_ofNat']
  omega

/-- An octet in its range adds six bits. -/
theorem readTail_following (hlow : low ≤ 0x80 + v % 64) (hhigh : 0x80 + v % 64 ≤ high)
    (h : readTail (scalar * 64 + v % 64) 0x80 0xBF count rest = .complete s more) :
    readTail scalar low high (count + 1) (following v :: rest) = .complete s more := by
  have hsix : (0x80 + v % 64) % 64 = v % 64 := by omega
  rw [readTail, toNat_following, if_pos ⟨hlow, hhigh⟩, hsix, h]

/-- Behind the first octet that follows, the range leaves none out. -/
theorem readTail_following_any
    (h : readTail (scalar * 64 + v % 64) 0x80 0xBF count rest = .complete s more) :
    readTail scalar 0x80 0xBF (count + 1) (following v :: rest) = .complete s more :=
  readTail_following (by omega) (by omega) h

/-! ### First octets -/

/-- An octet below 0x80 is a code point of its own. -/
theorem lead?_one {n : Nat} (h : n < 0x80) :
    lead? (UInt8.ofNat n) = some ⟨n, 0x80, 0xBF, 0⟩ := by
  have hoctet : (UInt8.ofNat n).toNat = n :=
    UInt8.toNat_ofNat_of_lt' (by simp only [UInt8.size]; omega)
  simp only [lead?, hoctet]
  exact if_pos h

/-- The first of two octets. A shorter form would do for the two numbers that
are left out. -/
theorem lead?_two {n : Nat} (hlong : 2 ≤ n) (h : n < 32) :
    lead? (UInt8.ofNat (0xC0 + n)) = some ⟨n, 0x80, 0xBF, 1⟩ := by
  have hoctet : (UInt8.ofNat (0xC0 + n)).toNat = 0xC0 + n :=
    UInt8.toNat_ofNat_of_lt' (by simp only [UInt8.size]; omega)
  simp only [lead?, hoctet]
  rw [if_neg (by omega), if_neg (by omega), if_pos (by omega), Nat.add_sub_cancel_left]

/-- The first of three octets. Behind the lowest one a shorter form is left
out, and behind the fourteenth one the surrogates. -/
theorem lead?_three {n : Nat} (h : n < 16) :
    lead? (UInt8.ofNat (0xE0 + n)) =
      some ⟨n, if n = 0 then 0xA0 else 0x80, if n = 13 then 0x9F else 0xBF, 2⟩ := by
  have hoctet : (UInt8.ofNat (0xE0 + n)).toNat = 0xE0 + n :=
    UInt8.toNat_ofNat_of_lt' (by simp only [UInt8.size]; omega)
  have hfirst : (0xE0 + n = 0xE0) = (n = 0) := propext (by omega)
  have hsurrogate : (0xE0 + n = 0xED) = (n = 13) := propext (by omega)
  simp only [lead?, hoctet, hfirst, hsurrogate]
  rw [if_neg (by omega), if_neg (by omega), if_neg (by omega), if_pos (by omega),
    Nat.add_sub_cancel_left]

/-- The first of four octets. Behind the lowest one a shorter form is left
out, and behind the highest one what is beyond all code points. -/
theorem lead?_four {n : Nat} (h : n < 5) :
    lead? (UInt8.ofNat (0xF0 + n)) =
      some ⟨n, if n = 0 then 0x90 else 0x80, if n = 4 then 0x8F else 0xBF, 3⟩ := by
  have hoctet : (UInt8.ofNat (0xF0 + n)).toNat = 0xF0 + n :=
    UInt8.toNat_ofNat_of_lt' (by simp only [UInt8.size]; omega)
  have hfirst : (0xF0 + n = 0xF0) = (n = 0) := propext (by omega)
  have hlast : (0xF0 + n = 0xF4) = (n = 4) := propext (by omega)
  simp only [lead?, hoctet, hfirst, hlast]
  rw [if_neg (by omega), if_neg (by omega), if_neg (by omega), if_neg (by omega),
    if_pos (by omega), Nat.add_sub_cancel_left]

/-! ### Code points -/

/-- The octets of a code point start with one that announces the others, and
these complete it. -/
theorem exists_lead (c : Char) (rest : Octets) :
    ∃ b more l, encodeChar c = b :: more ∧ lead? b = some l ∧
      readTail l.payload l.low l.high l.count (more ++ rest) = .complete c.toNat rest := by
  -- there are no surrogates, and nothing beyond the last code point
  have hvalid : c.toNat < 0xD800 ∨ (0xDFFF < c.toNat ∧ c.toNat < 0x110000) := c.valid
  unfold encodeChar
  generalize c.toNat = n at hvalid
  by_cases hone : n < 0x80
  · exact ⟨_, [], _, if_pos hone, lead?_one hone, rfl⟩
  by_cases htwo : n < 0x800
  · refine ⟨_, [following n], _, ?_, lead?_two (n := n / 64) (by omega) (by omega), ?_⟩
    · rw [if_neg hone, if_pos htwo]
      rfl
    · apply readTail_following_any
      rw [Nat.div_add_mod' n 64]
      rfl
  by_cases hthree : n < 0x10000
  · refine ⟨_, [following (n / 64), following n], _, ?_, lead?_three (n := n / 4096) (by omega), ?_⟩
    · rw [if_neg hone, if_neg htwo, if_pos hthree]
      rfl
    · dsimp only
      apply readTail_following
      · split <;> omega
      · split <;> omega
      apply readTail_following_any
      have hwhole : (n / 4096 * 64 + n / 64 % 64) * 64 + n % 64 = n := by omega
      rw [hwhole]
      rfl
  · refine ⟨_, [following (n / 4096), following (n / 64), following n], _, ?_,
      lead?_four (n := n / 262144) (by omega), ?_⟩
    · rw [if_neg hone, if_neg htwo, if_neg hthree]
      rfl
    · dsimp only
      apply readTail_following
      · split <;> omega
      · split <;> omega
      apply readTail_following_any
      apply readTail_following_any
      have hwhole : ((n / 262144 * 64 + n / 4096 % 64) * 64 + n / 64 % 64) * 64 + n % 64 = n := by
        omega
      rw [hwhole]
      rfl

/-! ### Texts -/

/-- A code point is read from its octets, and then what follows them.  The
number of octets is told by the first, and the code point is in the range of
that number. -/
theorem decodeFrom_encodeChar (position : Nat) (c : Char) (rest : Octets) :
    ∃ next, decodeFrom position (encodeChar c ++ rest) = (decodeFrom next rest).map (c :: ·) := by
  obtain ⟨b, more, l, hoctets, hlead, htail⟩ := exists_lead c rest
  refine ⟨position + l.count + 1, ?_⟩
  rw [hoctets, List.cons_append, decodeFrom, hlead]
  dsimp only
  split
  · rename_i hrefused
    rw [htail] at hrefused
    cases hrefused
  · rename_i hcomplete
    rw [htail] at hcomplete
    cases hcomplete
    rw [Char.ofNat_toNat]

/-- The octets of a text are read back as the text, wherever they start. -/
theorem decodeFrom_encode (position : Nat) (t : Text) : decodeFrom position (encode t) = .ok t := by
  induction t generalizing position with
  | nil =>
      show decodeFrom position [] = _
      rw [decodeFrom]
  | cons c more ih =>
      obtain ⟨next, hfirst⟩ := decodeFrom_encodeChar position c (encode more)
      have hparts : encode (c :: more) = encodeChar c ++ encode more := List.flatMap_cons
      rw [hparts, hfirst, ih next]
      rfl

/-- What is written is read back. -/
theorem decode_encode (t : Text) : decode (encode t) = .ok t :=
  decodeFrom_encode 0 t

end Utf8

/-- Any other character than a return is left alone. -/
theorem unifyNewlines_cons {c : Char} (hc : c ≠ '\r') (t : Text) :
    unifyNewlines (c :: t) = c :: unifyNewlines t := by
  rw [unifyNewlines, if_neg hc]
  rintro _ rfl
  exact absurd rfl hc

/-- A text without returns is left alone in front of any other. -/
theorem unifyNewlines_append {t : Text} (h : '\r' ∉ t) (rest : Text) :
    unifyNewlines (t ++ rest) = t ++ unifyNewlines rest := by
  induction t with
  | nil => rfl
  | cons c more ih =>
      have hc : c ≠ '\r' := fun hc => h (hc ▸ List.mem_cons_self)
      rw [List.cons_append, unifyNewlines_cons hc, ih fun hr => h (List.mem_cons_of_mem c hr),
        List.cons_append]

theorem unifyNewlines_of_not_mem {t : Text} (h : '\r' ∉ t) : unifyNewlines t = t := by
  have hnone := unifyNewlines_append h []
  rwa [unifyNewlines, List.append_nil] at hnone

/-- A text is read back from a file up to the spelling of its line feeds. -/
theorem textOfOctets_encode_unified (t : Text) :
    textOfOctets (Utf8.encode t) = .ok (unifyNewlines t) := by
  rw [textOfOctets, Utf8.decode_encode]

/-- A text without returns is read back from a file. -/
theorem textOfOctets_encode {t : Text} (h : '\r' ∉ t) :
    textOfOctets (Utf8.encode t) = .ok t := by
  rw [textOfOctets_encode_unified, unifyNewlines_of_not_mem h]

/-! ### Lines -/

/-- Where a line breaks there is a blank. -/
theorem isBlank_of_isLineBoundary {c : Char} (h : isLineBoundary c) : isBlank c := by
  simp only [isLineBoundary, isBlank, Bool.or_eq_true, Bool.and_eq_true, decide_eq_true_eq,
    beq_iff_eq] at h ⊢
  omega

theorem isLineBoundary_of_not_isBlank {c : Char} (h : isBlank c = false) :
    isLineBoundary c = false :=
  Bool.eq_false_iff.mpr fun hc => Bool.eq_false_iff.mp h (isBlank_of_isLineBoundary hc)

/-- Lines, each with a line feed behind it. -/
def terminated (ls : List Text) : Text :=
  ls.flatMap fun l => l ++ ['\n']

/-- The first line stands in front, with its line feed. -/
theorem terminated_cons (l : Text) (ls : List Text) :
    terminated (l :: ls) = l ++ '\n' :: terminated ls := by
  simp [terminated]

/-- What is ended by a boundary is a line, if it holds none.  A return is left
out, since a line feed behind it would belong to the boundary. -/
theorem lines_append_boundary {l : Text} {b : Char} (h : ∀ c ∈ l, isLineBoundary c = false)
    (hb : isLineBoundary b) (hreturn : b ≠ '\r') (rest : Text) :
    lines (l ++ b :: rest) = l :: lines rest := by
  induction l with
  | nil =>
      rw [List.nil_append, lines, if_pos hb]
      rintro _ rfl
      exact absurd rfl hreturn
  | cons c more ih =>
      have hc : isLineBoundary c = false := h c List.mem_cons_self
      have hmore := ih fun d hd => h d (List.mem_cons_of_mem c hd)
      rw [List.cons_append, lines, hc, hmore]
      · rfl
      · rintro _ rfl
        cases hc

/-- A line feed behind a line without boundaries ends it. -/
theorem lines_append_newline {l : Text} (h : ∀ c ∈ l, isLineBoundary c = false) (rest : Text) :
    lines (l ++ '\n' :: rest) = l :: lines rest :=
  lines_append_boundary h rfl (by decide) rest

/-- A text without boundaries is one line, even if nothing ends it.  The empty
text has no line at all, so it is left out. -/
theorem lines_of_no_boundary {l : Text} (h : ∀ c ∈ l, isLineBoundary c = false) (hne : l ≠ []) :
    lines l = [l] := by
  induction l with
  | nil => exact absurd rfl hne
  | cons c more ih =>
      have hc : isLineBoundary c = false := h c List.mem_cons_self
      have hcons : lines (c :: more) = growFirst c (lines more) := by
        rw [lines, hc]
        · rfl
        · rintro _ rfl
          cases hc
      rw [hcons]
      by_cases hmore : more = []
      · rw [hmore]
        rfl
      · rw [ih (fun d hd => h d (List.mem_cons_of_mem c hd)) hmore]
        rfl

/-- Lines without boundaries are found again in the text that they make. -/
theorem lines_terminated {ls : List Text} (h : ∀ l ∈ ls, ∀ c ∈ l, isLineBoundary c = false) :
    lines (terminated ls) = ls := by
  induction ls with
  | nil => rfl
  | cons l more ih =>
      have hmore := ih fun x hx => h x (List.mem_cons_of_mem l hx)
      calc lines (terminated (l :: more))
          = l :: lines (terminated more) := by
            rw [terminated_cons, lines_append_newline (h l List.mem_cons_self)]
        _ = l :: more := by rw [hmore]

/-- What ends a line: a boundary, or a return and a line feed. -/
inductive IsLineEnd : Text → Prop
  | boundary {b : Char} (h : isLineBoundary b) : IsLineEnd [b]
  | pair : IsLineEnd ['\r', '\n']

/-- A line is found in front of its end, and behind it the lines of the rest.
Only a return in front of a line feed takes an empty line away from these. -/
theorem exists_lines_append {l ending : Text} (h : ∀ c ∈ l, isLineBoundary c = false)
    (hending : IsLineEnd ending) (rest : Text) :
    ∃ rows, lines (unifyNewlines (l ++ (ending ++ rest))) = l :: rows ∧
      (lines (unifyNewlines rest) = rows ∨ lines (unifyNewlines rest) = [] :: rows) := by
  have hreturn : '\r' ∉ l := fun hr => absurd (h '\r' hr) (by decide)
  have hfeed (more : Text) : lines (l ++ '\n' :: more) = l :: lines more :=
    lines_append_newline h more
  rw [unifyNewlines_append hreturn]
  cases hending with
  | pair => exact ⟨_, hfeed (unifyNewlines rest), .inl rfl⟩
  | @boundary b hb =>
      by_cases hr : b = '\r'
      · subst hr
        by_cases hpair : ∃ more, rest = '\n' :: more
        · obtain ⟨more, rfl⟩ := hpair
          refine ⟨_, hfeed (unifyNewlines more), .inr ?_⟩
          rw [unifyNewlines_cons (by decide)]
          exact lines_append_newline (l := []) (List.forall_mem_nil _) (unifyNewlines more)
        · have halone : unifyNewlines ('\r' :: rest) = '\n' :: unifyNewlines rest := by
            rw [unifyNewlines, if_pos rfl]
            rintro more - rfl
            exact hpair ⟨more, rfl⟩
          rw [List.singleton_append, halone]
          exact ⟨_, hfeed (unifyNewlines rest), .inl rfl⟩
      · rw [List.singleton_append, unifyNewlines_cons hr]
        exact ⟨_, lines_append_boundary h hb hr (unifyNewlines rest), .inl rfl⟩

/-- Between line feeds stand the lines, and behind the last there is nothing. -/
theorem splitOn_terminated {ls : List Text} (h : ∀ l ∈ ls, '\n' ∉ l) :
    (terminated ls).splitOn '\n' = ls ++ [[]] := by
  induction ls with
  | nil => exact List.splitOn_nil '\n'
  | cons l more ih =>
      have hmore := ih fun x hx => h x (List.mem_cons_of_mem l hx)
      calc (terminated (l :: more)).splitOn '\n'
          = l :: (terminated more).splitOn '\n' := by
            rw [terminated_cons,
              List.splitOn_append_cons_self_of_not_mem (h l List.mem_cons_self)]
        _ = l :: more ++ [[]] := by rw [hmore, List.cons_append]

/-- There are as many line feeds as lines, if no line has one of its own. -/
theorem count_terminated {ls : List Text} (h : ∀ l ∈ ls, '\n' ∉ l) :
    (terminated ls).count '\n' = ls.length := by
  induction ls with
  | nil => rfl
  | cons l more ih =>
      have hmore := ih fun x hx => h x (List.mem_cons_of_mem l hx)
      have hl : l.count '\n' = 0 := List.count_eq_zero.mpr (h l List.mem_cons_self)
      calc (terminated (l :: more)).count '\n'
          = l.count '\n' + ((terminated more).count '\n' + 1) := by
            rw [terminated_cons, List.count_append, List.count_cons_self]
        _ = (l :: more).length := by rw [hl, hmore, Nat.zero_add, List.length_cons]

/-- The octets of lines are those of each line with its line feed. -/
theorem encode_terminated (ls : List Text) :
    Utf8.encode (terminated ls) = ls.flatMap fun l => Utf8.encode (l ++ ['\n']) :=
  List.flatMap_assoc

end TraceScript.Text
