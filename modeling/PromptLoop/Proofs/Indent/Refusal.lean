import PromptLoop.Indent.Tracker

/-!
# What a tracker answers when it refuses nothing

The tracker that runs may refuse a line. What it answers otherwise, and the constructs that it then
has open, are those of the tracker without refusals.

## Main results

* `Tracker.indent?_events`: a tracker reports nothing
* `Tracker.indent?_of_ok`: a text that is not refused is indented as it is without refusals
* `Tracker.currentPrefix?_of_ok`: so is the indentation that the next line should start with
* `Tracker.indent?_ne_zeroWidth`: a width other than zero is not divided by as if it were zero
-/

namespace PromptLoop.Tracker

open Text

variable {ε : Type} {t : Tracker}

theorem indentLine?_events (line : List Char) (t : Tracker) :
    (indentLine? line t : Run ε Tracker (List Char)).events = [] := by
  rw [indentLine?]
  split
  · rfl
  · split
    · rfl
    · split <;> rfl

theorem indentLines?_events (ls : List (List Char)) (t : Tracker) :
    (indentLines? ls t : Run ε Tracker (List (List Char))).events = [] := by
  induction ls generalizing t with
  | nil => rfl
  | cons line rest ih =>
    have hline := indentLine?_events (ε := ε) line t
    rw [indentLines?, Act.bind_apply]
    rcases h : (indentLine? line t : Run ε Tracker (List Char)) with ⟨f | first, u, es⟩
    · rw [h] at hline
      exact hline
    · rw [h] at hline
      obtain rfl : es = [] := hline
      show ((List.cons first <$> indentLines? rest : Act ε Tracker _) u).events = []
      rw [Act.map_apply, ih]

/-- A tracker reports nothing. -/
theorem indent?_events (text : List Char) (t : Tracker) :
    (indent? text t : Run ε Tracker (List Char)).events = [] := by
  show ((joinLines <$> indentLines? (splitLines text) : Act ε Tracker _) t).events = []
  rw [Act.map_apply, indentLines?_events]

theorem indentLine?_of_ok {line out : List Char}
    (h : (indentLine? line t : Run ε Tracker (List Char)).result = .ok out) :
    out = (t.indentLine line).1 ∧
      (indentLine? line t : Run ε Tracker (List Char)).state = (t.indentLine line).2 := by
  rw [indentLine?] at h ⊢
  -- Where the line is not refused, the two have taken the same branches.
  by_cases hblank : (trim line).isEmpty = true
  · rw [if_pos hblank] at h ⊢
    rw [indentLine, if_pos hblank]
    exact ⟨(Except.ok.inj h).symm, rfl⟩
  · rw [if_neg hblank] at h ⊢
    by_cases hzero : t.width = 0 ∧ t.divides line = true
    · rw [if_pos hzero] at h
      cases h
    · rw [if_neg hzero] at h ⊢
      cases hblanks : Padding.blanks? t.memory (t.width * t.lineDepth line) with
      | error f =>
        rw [hblanks] at h
        cases h
      | ok blanks =>
        rw [hblanks] at h
        obtain rfl := Padding.eq_blanks_of_blanks? hblanks
        refine ⟨?_, rfl⟩
        rw [indentLine, if_neg hblank]
        exact (Except.ok.inj h).symm

theorem indentLines?_of_ok {ls out : List (List Char)}
    (h : (indentLines? ls t : Run ε Tracker (List (List Char))).result = .ok out) :
    out = (t.indentLines ls).1 ∧
      (indentLines? ls t : Run ε Tracker (List (List Char))).state = (t.indentLines ls).2 := by
  induction ls generalizing t out with
  | nil => exact ⟨(Except.ok.inj h).symm, rfl⟩
  | cons line rest ih =>
    rw [indentLines?, Act.bind_apply] at h ⊢
    rw [indentLines_cons]
    rcases hline : (indentLine? line t : Run ε Tracker (List Char)) with ⟨f | first, u, es⟩
    · rw [hline] at h
      cases h
    · -- The line was not refused, so the tracker has followed it to where the rest starts.
      have hfirst : (indentLine? line t : Run ε Tracker (List Char)).result = .ok first := by
        rw [hline]
      obtain ⟨rfl, hu⟩ := indentLine?_of_ok hfirst
      rw [hline] at h hu
      obtain rfl : u = (t.indentLine line).2 := hu
      rw [Run.andThen_ok] at h ⊢
      change ((List.cons (t.indentLine line).1 <$> indentLines? rest : Act ε Tracker _) _).result =
        .ok out at h
      change _ ∧
        ((List.cons (t.indentLine line).1 <$> indentLines? rest : Act ε Tracker _) _).state = _
      rw [Act.map_apply] at h ⊢
      rcases hrest : (indentLines? rest (t.indentLine line).2 : Run ε Tracker _).result with f | ls
      · rw [hrest] at h
        cases h
      · obtain ⟨rfl, hstate⟩ := ih hrest
        rw [hrest] at h
        exact ⟨(Except.ok.inj h).symm, hstate⟩

/-- A text that is not refused is indented as it is without refusals. -/
theorem indent?_of_ok {text out : List Char}
    (h : (indent? text t : Run ε Tracker (List Char)).result = .ok out) :
    out = (t.indent text).1 ∧
      (indent? text t : Run ε Tracker (List Char)).state = (t.indent text).2 := by
  change ((joinLines <$> indentLines? (splitLines text) : Act ε Tracker _) t).result = .ok out at h
  change _ ∧ ((joinLines <$> indentLines? (splitLines text) : Act ε Tracker _) t).state = _
  rw [Act.map_apply] at h ⊢
  rcases hlines : (indentLines? (splitLines text) t : Run ε Tracker _).result with f | ls
  · rw [hlines] at h
    cases h
  · obtain ⟨rfl, hstate⟩ := indentLines?_of_ok hlines
    rw [hlines] at h
    exact ⟨(Except.ok.inj h).symm, hstate⟩

theorem currentPrefix?_of_ok {blanks : List Char} (h : t.currentPrefix? = .ok blanks) :
    blanks = t.currentPrefix := Padding.eq_blanks_of_blanks? h

/-! ## Widths that are not zero -/

theorem blanks?_ne_zeroWidth (memory : Nat) (n : Int) :
    Padding.blanks? memory n ≠ .error zeroWidth := by
  rw [Padding.blanks?, Padding.length?]
  split
  · simp [Except.map, noIndex, zeroWidth]
  · split
    · simp [Except.map, Padding.noMemory, zeroWidth]
    · simp [Except.map]

theorem indentLine?_ne_zeroWidth (h : t.width ≠ 0) (line : List Char) :
    (indentLine? line t : Run ε Tracker (List Char)).result ≠ .error zeroWidth := by
  rw [indentLine?]
  split
  · simp
  · rw [if_neg fun hzero => h hzero.1]
    have hblanks := blanks?_ne_zeroWidth t.memory (t.width * t.lineDepth line)
    split
    · next f hf =>
      rw [hf] at hblanks
      simpa using hblanks
    · simp

theorem indentLines?_ne_zeroWidth (h : t.width ≠ 0) (ls : List (List Char)) :
    (indentLines? ls t : Run ε Tracker (List (List Char))).result ≠ .error zeroWidth := by
  induction ls generalizing t with
  | nil => nofun
  | cons line rest ih =>
    intro hfail
    rw [indentLines?, Act.bind_eq_error_iff] at hfail
    rcases hfail with hline | ⟨first, hfirst, hrest⟩
    · exact indentLine?_ne_zeroWidth h line hline
    · -- The lines that are left are measured by the same width.
      change ((List.cons first <$> indentLines? rest : Act ε Tracker _) _).result = _ at hrest
      rw [Act.map_eq_error_iff, (indentLine?_of_ok hfirst).2] at hrest
      exact ih (by rwa [indentLine_width]) hrest

/-- **A tracker with a width other than zero does not divide by zero**, whatever it is fed. -/
theorem indent?_ne_zeroWidth (h : t.width ≠ 0) (text : List Char) :
    (indent? text t : Run ε Tracker (List Char)).result ≠ .error zeroWidth := by
  change ((joinLines <$> indentLines? (splitLines text) : Act ε Tracker _) t).result ≠ _
  rw [ne_eq, Act.map_eq_error_iff]
  exact indentLines?_ne_zeroWidth h _

end PromptLoop.Tracker
