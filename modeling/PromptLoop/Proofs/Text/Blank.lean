import PromptLoop.Text.Blank

/-!
# The blanks around a text

A text is what it is trimmed to, with blanks before and after. A character that is no blank keeps
what stands on its other side from being trimmed.

## Main results

* `exists_eq_append_trim`: a text is its trimmed part between blanks
* `trim_blanks_append_trim`: blanks in front of a trimmed text are all that is trimmed from it
* `leadingBlanks_blanks_append_trim`: and they are all that it starts with
* `trim_append_cons`: a character that is no blank is trimmed from neither side
* `cutWord_append`: the first word of a text
-/

namespace PromptLoop.Text

variable {c : Char} {cs ds : List Char}

/-! ## Characters that are dropped -/

section Dropping

variable {p : Char → Bool}

/-- Nothing is dropped from a text that has none of the characters. -/
theorem dropWhile_eq_self (h : ∀ c ∈ cs, p c = false) : cs.dropWhile p = cs := by
  cases cs with
  | nil => rfl
  | cons c cs => exact List.dropWhile_cons_of_neg (Bool.eq_false_iff.mp (h c List.mem_cons_self))

/-- Characters of a class are dropped at the end of a text that has none otherwise. -/
theorem dropEndWhile_append (hcs : ∀ c ∈ cs, p c = false) (hds : ∀ d ∈ ds, p d = true) :
    dropEndWhile p (cs ++ ds) = cs := by
  rw [dropEndWhile, List.reverse_append,
    List.dropWhile_append_of_pos fun d hd => hds d (List.mem_reverse.mp hd),
    dropWhile_eq_self fun c hc => hcs c (List.mem_reverse.mp hc), List.reverse_reverse]

theorem dropEndWhile_eq_self (h : ∀ c ∈ cs, p c = false) : dropEndWhile p cs = cs := by
  have happend : dropEndWhile p (cs ++ []) = cs := dropEndWhile_append h nofun
  rwa [List.append_nil] at happend

/-- Characters of a class are dropped on both sides of a text that has none otherwise. -/
theorem dropEndWhile_dropWhile_append {before after : List Char}
    (hbefore : ∀ c ∈ before, p c = true) (hcs : ∀ c ∈ cs, p c = false)
    (hafter : ∀ c ∈ after, p c = true) :
    dropEndWhile p ((before ++ cs ++ after).dropWhile p) = cs := by
  rw [List.append_assoc, List.dropWhile_append_of_pos hbefore]
  cases cs with
  | nil =>
    rw [List.nil_append, dropWhile_eq_nil_iff.mpr hafter]
    rfl
  | cons c cs =>
    rw [List.cons_append, List.dropWhile_cons_of_neg, ← List.cons_append]
    · exact dropEndWhile_append hcs hafter
    · exact Bool.eq_false_iff.mp (hcs c List.mem_cons_self)

theorem exists_eq_dropEndWhile_append (p : Char → Bool) (cs : List Char) :
    ∃ after, cs = dropEndWhile p cs ++ after ∧ ∀ c ∈ after, p c = true := by
  refine ⟨(cs.reverse.takeWhile p).reverse, ?_, ?_⟩
  · rw [dropEndWhile, ← List.reverse_append, List.takeWhile_append_dropWhile, List.reverse_reverse]
  · intro c hc
    exact List.all_eq_true.mp List.all_takeWhile c (List.mem_reverse.mp hc)

/-- A text is what is left of it between characters that are dropped at both of its ends. -/
theorem exists_eq_append_dropEndWhile (p : Char → Bool) (cs : List Char) :
    ∃ before after, cs = before ++ dropEndWhile p (cs.dropWhile p) ++ after ∧
      (∀ c ∈ before, p c = true) ∧ ∀ c ∈ after, p c = true := by
  obtain ⟨after, hend, hafter⟩ := exists_eq_dropEndWhile_append p (cs.dropWhile p)
  refine ⟨cs.takeWhile p, after, ?_, List.all_eq_true.mp List.all_takeWhile, hafter⟩
  rw [List.append_assoc, ← hend, List.takeWhile_append_dropWhile]

end Dropping

/-! ## Blanks -/

theorem trimStart_append (h : ∀ c ∈ cs, isBlank c = true) (ds : List Char) :
    trimStart (cs ++ ds) = trimStart ds :=
  List.dropWhile_append_of_pos h

theorem trimStart_cons (h : isBlank c = false) (cs : List Char) :
    trimStart (c :: cs) = c :: cs :=
  List.dropWhile_cons_of_neg (by rw [h]; exact Bool.false_ne_true)

/-- What is left of a text starts with a character that is no blank. -/
theorem isBlank_of_trimStart_eq_cons {rest : List Char} (h : trimStart cs = c :: rest) :
    isBlank c = false := by
  have hblank := List.head?_dropWhile_not isBlank cs
  rw [show cs.dropWhile isBlank = c :: rest from h] at hblank
  simpa using hblank

theorem trimStart_trimStart (cs : List Char) : trimStart (trimStart cs) = trimStart cs := by
  rcases h : trimStart cs with _ | ⟨c, rest⟩
  · rfl
  · exact trimStart_cons (isBlank_of_trimStart_eq_cons h) rest

theorem trimEnd_cons (h : isBlank c = false) (cs : List Char) :
    trimEnd (c :: cs) = c :: trimEnd cs := by
  rw [trimEnd, dropEndWhile, List.reverse_cons, List.dropWhile_append]
  have hkept : [c].dropWhile isBlank = [c] := trimStart_cons h []
  rw [hkept, trimEnd, dropEndWhile]
  split
  · next hnil =>
    rw [List.isEmpty_iff] at hnil
    rw [hnil]
    rfl
  · rw [List.reverse_append]
    rfl

/-- Of two parts that are not all blanks the second one alone is trimmed at its end. -/
theorem trimEnd_append (h : trimEnd ds ≠ []) (cs : List Char) :
    trimEnd (cs ++ ds) = cs ++ trimEnd ds := by
  unfold trimEnd dropEndWhile at h ⊢
  rw [ne_eq, List.reverse_eq_nil_iff] at h
  rw [List.reverse_append, List.dropWhile_append, if_neg (by simpa using h), List.reverse_append,
    List.reverse_reverse]

theorem trimEnd_append_cons (h : isBlank c = false) (cs ds : List Char) :
    trimEnd (cs ++ c :: ds) = cs ++ c :: trimEnd ds := by
  have hne : trimEnd (c :: ds) ≠ [] := by
    rw [trimEnd_cons h]
    exact List.cons_ne_nil _ _
  rw [trimEnd_append hne, trimEnd_cons h]

/-- A character that is no blank is trimmed from neither side. -/
theorem trim_append_cons (h : isBlank c = false) (cs ds : List Char) :
    trim (cs ++ c :: ds) = trimStart cs ++ c :: trimEnd ds := by
  have hstart : trimStart (cs ++ c :: ds) = trimStart cs ++ c :: ds := by
    rw [trimStart, List.dropWhile_append]
    split
    · next hnil =>
      rw [List.isEmpty_iff] at hnil
      rw [trimStart, hnil]
      exact trimStart_cons h ds
    · rfl
  rw [trim, hstart, trimEnd_append_cons h]

/-- What follows a character that is no blank is not looked at for blanks in front. -/
theorem leadingBlanks_append_cons (h : isBlank c = false) (cs ds : List Char) :
    leadingBlanks (cs ++ c :: ds) = leadingBlanks cs := by
  rw [leadingBlanks, leadingBlanks, List.takeWhile_append,
    List.takeWhile_cons_of_neg (by rw [h]; exact Bool.false_ne_true)]
  split
  · next hall =>
    rw [List.append_nil]
    exact hall.symm
  · rfl

/-- A text that is not blank is trimmed to one that starts with no blank. -/
theorem exists_trim_eq_cons (h : trim cs ≠ []) :
    ∃ c rest, trim cs = c :: rest ∧ isBlank c = false := by
  rcases hstart : trimStart cs with _ | ⟨c, rest⟩
  · rw [trim, hstart] at h
    exact absurd rfl h
  · have hc := isBlank_of_trimStart_eq_cons hstart
    exact ⟨c, trimEnd rest, by rw [trim, hstart, trimEnd_cons hc], hc⟩

theorem trimEnd_trimEnd (cs : List Char) : trimEnd (trimEnd cs) = trimEnd cs := by
  have hagain := trimStart_trimStart cs.reverse
  rw [trimEnd, trimEnd, dropEndWhile, dropEndWhile, List.reverse_reverse]
  exact congrArg List.reverse hagain

/-- **Blanks in front of a trimmed text are all that is trimmed from it.** -/
theorem trim_blanks_append_trim (h : ∀ c ∈ cs, isBlank c = true) (ds : List Char) :
    trim (cs ++ trim ds) = trim ds := by
  rw [trim, trimStart_append h]
  by_cases hds : trim ds = []
  · rw [hds]
    rfl
  · obtain ⟨c, rest, hcons, hc⟩ := exists_trim_eq_cons hds
    have hstart : trimStart (trim ds) = trim ds := by
      rw [hcons]
      exact trimStart_cons hc rest
    rw [hstart, trim, trimEnd_trimEnd]

/-- **Blanks in front of a trimmed text are all that it starts with.** -/
theorem leadingBlanks_blanks_append_trim (h : ∀ c ∈ cs, isBlank c = true) (hds : trim ds ≠ []) :
    leadingBlanks (cs ++ trim ds) = cs.length := by
  obtain ⟨c, rest, hcons, hc⟩ := exists_trim_eq_cons hds
  rw [leadingBlanks, List.takeWhile_append_of_pos h, hcons,
    List.takeWhile_cons_of_neg (by rw [hc]; exact Bool.false_ne_true), List.append_nil]

theorem exists_eq_trimEnd_append (cs : List Char) :
    ∃ after, cs = trimEnd cs ++ after ∧ ∀ c ∈ after, isBlank c = true :=
  exists_eq_dropEndWhile_append isBlank cs

/-- **A text is its trimmed part between blanks.** -/
theorem exists_eq_append_trim (cs : List Char) :
    ∃ before after, cs = before ++ trim cs ++ after ∧ (∀ c ∈ before, isBlank c = true) ∧
      ∀ c ∈ after, isBlank c = true :=
  exists_eq_append_dropEndWhile isBlank cs

theorem trimEnd_append_blanks (hds : ∀ c ∈ ds, isBlank c = true) (cs : List Char) :
    trimEnd (cs ++ ds) = trimEnd cs := by
  rw [trimEnd, trimEnd, dropEndWhile, dropEndWhile, List.reverse_append,
    List.dropWhile_append_of_pos fun c hc => hds c (List.mem_reverse.mp hc)]

/-- Blanks behind a text are trimmed from it. -/
theorem trim_append_blanks (hds : ∀ c ∈ ds, isBlank c = true) (cs : List Char) :
    trim (cs ++ ds) = trim cs := by
  by_cases hcs : trimStart cs = []
  · -- Nothing but blanks is trimmed to nothing.
    have hblank : ∀ c ∈ cs, isBlank c = true := dropWhile_eq_nil_iff.mp hcs
    rw [trim_eq_nil_iff.mpr hblank, trim_eq_nil_iff]
    intro c hc
    exact (List.mem_append.mp hc).elim (hblank c) (hds c)
  · have hstart : trimStart (cs ++ ds) = trimStart cs ++ ds := by
      rw [trimStart, List.dropWhile_append, if_neg]
      · rfl
      · rwa [List.isEmpty_iff]
    rw [trim, hstart, trimEnd_append_blanks hds, ← trim]

theorem trim_trimStart (cs : List Char) : trim (trimStart cs) = trim cs := by
  rw [trim, trimStart_trimStart, ← trim]

theorem trim_trimEnd (cs : List Char) : trim (trimEnd cs) = trim cs := by
  obtain ⟨after, hcs, hafter⟩ := exists_eq_trimEnd_append cs
  rw [← trim_append_blanks hafter, ← hcs]

/-! ## The first word of a text -/

section Word

variable {before word rest : List Char}

/-- **The first word of a text** is what stands without blanks between the blanks that the text
starts with and those behind it. -/
theorem cutWord_append (hbefore : ∀ c ∈ before, isBlank c = true) (hne : word ≠ [])
    (hword : ∀ c ∈ word, isBlank c = false) (hrest : ∀ c ∈ rest.head?, isBlank c = true) :
    cutWord (before ++ word ++ rest) = some (word, trimStart rest) := by
  obtain ⟨d, tail, rfl⟩ := List.exists_cons_of_ne_nil hne
  have hkept : ∀ c ∈ d :: tail, (!isBlank c) = true := fun c hc => by rw [hword c hc]; rfl
  have hstart : trimStart (before ++ (d :: tail ++ rest)) = d :: (tail ++ rest) := by
    rw [trimStart_append hbefore]
    exact trimStart_cons (hword d List.mem_cons_self) _
  -- What follows is empty or starts with a blank, so the word goes no further.
  have hstops : rest.takeWhile (!isBlank ·) = [] ∧ rest.dropWhile (!isBlank ·) = rest := by
    rcases rest with _ | ⟨c, rest⟩
    · exact ⟨rfl, rfl⟩
    · have hc : isBlank c = true := hrest c rfl
      simp [hc]
  rw [cutWord, List.append_assoc, hstart]
  show some (((d :: tail) ++ rest).takeWhile (!isBlank ·),
    trimStart (((d :: tail) ++ rest).dropWhile (!isBlank ·))) = _
  rw [List.takeWhile_append_of_pos hkept, List.dropWhile_append_of_pos hkept, hstops.1, hstops.2,
    List.append_nil]

/-- A character that is no blank belongs to the word in front of it. -/
theorem cutWord_append_cons (hword : ∀ c ∈ word, isBlank c = false) (hc : isBlank c = false)
    (rest : List Char) :
    ∃ more behind, cutWord (word ++ c :: rest) = some (word ++ c :: more, behind) := by
  let more := rest.takeWhile (!isBlank ·)
  let behind := rest.dropWhile (!isBlank ·)
  have hsplit : word ++ c :: rest = [] ++ (word ++ c :: more) ++ behind := by
    simp [more, behind]
  refine ⟨more, trimStart behind, ?_⟩
  -- No blank comes before the word, and the word goes on up to the next one.
  rw [hsplit]
  apply cutWord_append
  · exact nofun
  · exact List.append_ne_nil_of_right_ne_nil _ (List.cons_ne_nil c more)
  · intro d hd
    rcases List.mem_append.mp hd with hd | hd
    · exact hword d hd
    · rcases List.mem_cons.mp hd with rfl | hd
      · exact hc
      · have hkept := List.all_eq_true.mp List.all_takeWhile d hd
        simpa using hkept
  · intro d hd
    have hstop := List.head?_dropWhile_not (!isBlank ·) rest
    rw [Option.mem_def.mp hd] at hstop
    simpa using hstop

theorem exists_of_cutWord {cs : List Char} (h : cutWord cs = some (word, rest)) :
    ∃ before after, cs = before ++ word ++ after ∧ (∀ c ∈ before, isBlank c = true) ∧
      (∀ c ∈ after.head?, isBlank c = true) ∧ rest = trimStart after := by
  rw [cutWord] at h
  split at h
  · cases h
  · next c tail hstart =>
    obtain ⟨rfl, rfl⟩ := Prod.mk.inj (Option.some.inj h)
    refine ⟨cs.takeWhile isBlank, (c :: tail).dropWhile (!isBlank ·), ?_,
      List.all_eq_true.mp List.all_takeWhile, ?_, rfl⟩
    · rw [List.append_assoc, List.takeWhile_append_dropWhile, ← hstart, trimStart,
        List.takeWhile_append_dropWhile]
    · intro d hd
      have hnot := List.head?_dropWhile_not (!isBlank ·) (c :: tail)
      rw [Option.mem_def.mp hd] at hnot
      simpa using hnot

/-- A word is trimmed from neither side. -/
theorem trim_append_word (hbefore : ∀ c ∈ before, isBlank c = true) (hne : word ≠ [])
    (hword : ∀ c ∈ word, isBlank c = false) (rest : List Char) :
    trim (before ++ word ++ rest) = word ++ trimEnd rest := by
  obtain ⟨d, tail, rfl⟩ := List.exists_cons_of_ne_nil hne
  have hstart : trimStart (before ++ (d :: tail ++ rest)) = d :: tail ++ rest := by
    rw [trimStart_append hbefore]
    exact trimStart_cons (hword d List.mem_cons_self) _
  rw [trim, List.append_assoc, hstart]
  -- The last character of the word is no blank, and keeps the rest of it.
  have hlast : isBlank ((d :: tail).getLast hne) = false := hword _ (List.getLast_mem hne)
  rw [← List.dropLast_concat_getLast hne, List.append_assoc, List.append_assoc]
  exact trimEnd_append_cons hlast _ rest

end Word

theorem trim_subset (cs : List Char) : trim cs ⊆ cs := by
  obtain ⟨before, after, hcs, -, -⟩ := exists_eq_append_trim cs
  intro c hc
  rw [hcs]
  exact List.mem_append_left _ (List.mem_append_right _ hc)

end PromptLoop.Text
