import PromptLoop.Proofs.Source.Steps
import PromptLoop.Proofs.Text.Blank

/-!
# Lines that end at characters of a class

A text falls into lines at the characters of a class. By which class it does makes no difference
exactly if the classes agree on its characters. Lines that are taken off a text one by one are those
between newlines; the boundaries of Unicode are a class as well, where there are no carriage
returns.

## Main definitions

* `linesAt`: the lines of a text that end at the characters of a class

## Main results

* `linesAt_eq_iff`: when two classes make the same lines
* `boundaryLines_eq_linesAt`, `linesAt_newline`: two views of the lines of a text
* `boundary_normalizeNewlines`: where newlines are the only boundaries of a text
-/

namespace PromptLoop.Text

variable {p q : Char → Bool} {c : Char} {cs : List Char}

/-- Lines with a character before the first of them. -/
def extendFirst (c : Char) : List (List Char) → List (List Char)
  | [] => [[c]]
  | line :: rest => (c :: line) :: rest

/-- The lines of a text that end at the characters of a class, without those. A text that ends with
such a character has no empty line after it. -/
def linesAt (p : Char → Bool) : List Char → List (List Char)
  | [] => []
  | c :: cs => if p c then [] :: linesAt p cs else extendFirst c (linesAt p cs)

@[simp] theorem linesAt_nil : linesAt p [] = [] := rfl

theorem extendFirst_ne_nil (c : Char) (lines : List (List Char)) : extendFirst c lines ≠ [] := by
  cases lines <;> exact List.cons_ne_nil _ _

@[simp] theorem linesAt_eq_nil_iff : linesAt p cs = [] ↔ cs = [] := by
  cases cs with
  | nil => exact iff_of_true rfl rfl
  | cons c cs =>
    refine iff_of_false ?_ (List.cons_ne_nil c cs)
    rw [linesAt]
    split
    · exact List.cons_ne_nil _ _
    · exact extendFirst_ne_nil c _

/-- A character before the lines of the same text by two classes. -/
theorem extendFirst_linesAt_inj :
    extendFirst c (linesAt p cs) = extendFirst c (linesAt q cs) ↔
      linesAt p cs = linesAt q cs := by
  refine ⟨fun h => ?_, congrArg (extendFirst c)⟩
  -- A text without lines by one class is empty, so it has none by the other.
  rcases hp : linesAt p cs with _ | ⟨line, rest⟩
  · rw [linesAt_eq_nil_iff] at hp
    rw [hp]
    rfl
  rcases hq : linesAt q cs with _ | ⟨line', rest'⟩
  · rw [linesAt_eq_nil_iff] at hq
    rw [hq] at hp
    cases hp
  rw [hp, hq] at h
  obtain ⟨hline, rfl⟩ := List.cons.inj h
  rw [(List.cons.inj hline).2]

/-- **Two classes make the same lines of a text exactly if they agree on its characters.** -/
theorem linesAt_eq_iff : linesAt p cs = linesAt q cs ↔ ∀ c ∈ cs, p c = q c := by
  induction cs with
  | nil => simp
  | cons c cs ih =>
    rw [List.forall_mem_cons, ← ih, linesAt, linesAt]
    -- The first line is empty if its first character ends it, and starts with it otherwise.
    have hfirst : ∀ lines rest : List (List Char), [] :: rest ≠ extendFirst c lines := by
      intro lines rest h
      cases lines <;> cases h
    cases hp : p c <;> cases hq : q c
    · simpa using extendFirst_linesAt_inj
    · simpa using (hfirst _ _).symm
    · simpa using hfirst _ _
    · simp

theorem mem_extendFirst {d : Char} {line : List Char} {lines : List (List Char)}
    (h : line ∈ extendFirst c lines) (hd : d ∈ line) : d = c ∨ ∃ line' ∈ lines, d ∈ line' := by
  rcases lines with _ | ⟨first, rest⟩
  · obtain rfl := List.mem_singleton.mp h
    exact .inl (List.mem_singleton.mp hd)
  · rcases List.mem_cons.mp h with rfl | hrest
    · exact (List.mem_cons.mp hd).imp_right fun hd => ⟨first, List.mem_cons_self, hd⟩
    · exact .inr ⟨line, List.mem_cons_of_mem _ hrest, hd⟩

/-- What ends a line is in none. -/
theorem eq_false_of_mem_linesAt {line : List Char} (h : line ∈ linesAt p cs) (hc : c ∈ line) :
    p c = false := by
  induction cs generalizing line with
  | nil => cases h
  | cons d cs ih =>
    rw [linesAt] at h
    by_cases hd : p d = true
    · rw [if_pos hd] at h
      rcases List.mem_cons.mp h with rfl | h
      · cases hc
      · exact ih h hc
    · rw [if_neg hd] at h
      rcases mem_extendFirst h hc with rfl | ⟨line', hline', hc'⟩
      · exact Bool.eq_false_iff.mpr hd
      · exact ih hline' hc'

/-- The lines of a text hold nothing but its characters. -/
theorem subset_of_mem_linesAt {line : List Char} (h : line ∈ linesAt p cs) : line ⊆ cs := by
  induction cs generalizing line with
  | nil => cases h
  | cons d cs ih =>
    intro c hc
    rw [linesAt] at h
    split at h
    · rcases List.mem_cons.mp h with rfl | h
      · cases hc
      · exact List.mem_cons_of_mem d (ih h hc)
    · rcases mem_extendFirst h hc with rfl | ⟨line', hline', hc'⟩
      · exact List.mem_cons_self
      · exact List.mem_cons_of_mem d (ih hline' hc')

/-- A line in front of what ends it is a line of its own. -/
theorem linesAt_append_cons {line : List Char} (hline : ∀ c ∈ line, p c = false)
    (hend : p c = true) (cs : List Char) : linesAt p (line ++ c :: cs) = line :: linesAt p cs := by
  induction line with
  | nil => simp [linesAt, hend]
  | cons d line ih =>
    obtain ⟨hd, hline⟩ := List.forall_mem_cons.mp hline
    simp [linesAt, hd, ih hline, extendFirst]

/-- What is not empty and has no end within is one line. -/
theorem linesAt_of_forall {line : List Char} (hline : ∀ c ∈ line, p c = false) (hne : line ≠ []) :
    linesAt p line = [line] := by
  induction line with
  | nil => exact absurd rfl hne
  | cons d line ih =>
    obtain ⟨hd, hline⟩ := List.forall_mem_cons.mp hline
    cases line with
    | nil => simp [linesAt, hd, extendFirst]
    | cons e line =>
      rw [linesAt, ih hline (List.cons_ne_nil e line)]
      simp [hd, extendFirst]

/-! ## Boundaries -/

theorem boundaryLines_cons (hc : c ≠ '\r') (cs : List Char) :
    boundaryLines (c :: cs) =
      if isBoundary c then [] :: boundaryLines cs else extendFirst c (boundaryLines cs) := by
  rw [boundaryLines]
  · cases cs with
    | nil => rfl
    | cons d cs => rfl
  · intro cs' hr
    exact absurd hr hc

/-- Without carriage returns the boundaries of Unicode are a class of characters. -/
theorem boundaryLines_eq_linesAt (h : '\r' ∉ cs) :
    boundaryLines cs = linesAt isBoundary cs := by
  induction cs with
  | nil => rfl
  | cons c cs ih =>
    rw [List.mem_cons, not_or] at h
    rw [boundaryLines_cons (Ne.symm h.1), linesAt, ih h.2]

/-! ## Lines that are taken off a text -/

/-- A newline. -/
def isNewline (c : Char) : Bool := c == '\n'

/-- **The lines of a text are its first one and those of the rest.** -/
theorem linesAt_newline (h : cs ≠ []) :
    linesAt isNewline cs =
      cs.takeWhile (· != '\n') :: linesAt isNewline (takeLine cs).2 := by
  rw [takeLine_snd]
  -- by induction on the first line
  induction cs with
  | nil => exact absurd rfl h
  | cons c cs ih =>
    rw [linesAt]
    by_cases hc : c = '\n'
    · simp [isNewline, hc]
    · have hnot : isNewline c = false := by simp [isNewline, hc]
      rw [hnot, List.takeWhile_cons_of_pos (by simpa using hc),
        List.dropWhile_cons_of_pos (by simpa using hc)]
      cases cs with
      | nil => rfl
      | cons d cs =>
        rw [ih (List.cons_ne_nil d cs)]
        rfl

/-- A line that is taken off a text is what stands before its newline, and that. -/
theorem takeLine_fst (cs : List Char) :
    ∃ ds, (takeLine cs).1 = cs.takeWhile (· != '\n') ++ ds ∧ ∀ d ∈ ds, d = '\n' := by
  rcases h : cs.dropWhile (· != '\n') with _ | ⟨d, rest⟩
  · refine ⟨[], ?_, nofun⟩
    have hall := List.takeWhile_append_dropWhile (p := (· != '\n')) (l := cs)
    rw [h] at hall
    rw [takeLine, h, hall]
  · refine ⟨['\n'], ?_, fun d hd => List.mem_singleton.mp hd⟩
    rw [takeLine, h]

/-- A line without the carriage returns that end it. -/
def dropReturns (cs : List Char) : List Char := dropEndWhile (· == '\r') cs

/-- A line that is taken off a text, without what ends it. -/
theorem chomp_takeLine_fst (cs : List Char) :
    chomp (takeLine cs).1 = dropReturns (cs.takeWhile (· != '\n')) := by
  obtain ⟨ds, hline, hds⟩ := takeLine_fst cs
  have hnewline : ∀ c ∈ cs.takeWhile (· != '\n'), (c == '\n') = false := fun c hc => by
    simpa using List.all_eq_true.mp List.all_takeWhile c hc
  rw [hline, chomp, dropNewlines, dropEndWhile_append hnewline fun d hd => by simp [hds d hd]]
  rfl

theorem dropReturns_of_not_mem (h : '\r' ∉ cs) : dropReturns cs = cs := by
  apply dropEndWhile_eq_self
  intro c hc
  rw [beq_eq_false_iff_ne]
  rintro rfl
  exact h hc

theorem map_dropReturns_linesAt (h : '\r' ∉ cs) :
    (linesAt p cs).map dropReturns = linesAt p cs := by
  rw [List.map_congr_left, List.map_id]
  intro line hline
  exact dropReturns_of_not_mem fun hr => h (subset_of_mem_linesAt hline hr)

/-- Where there are no carriage returns, only its newline ends a line. -/
theorem chomp_takeLine (h : '\r' ∉ cs) :
    chomp (takeLine cs).1 = cs.takeWhile (· != '\n') := by
  rw [chomp_takeLine_fst, dropReturns_of_not_mem]
  exact fun hr => h ((List.takeWhile_sublist _).subset hr)

theorem takeLine_snd_subset (cs : List Char) : (takeLine cs).2 ⊆ cs := by
  rw [takeLine_snd]
  exact ((List.tail_sublist _).trans (List.dropWhile_sublist _)).subset

/-! ## Texts whose line ends are newlines -/

/-- A text that has no boundary but the ends of lines. -/
def PlainlyEnded (cs : List Char) : Prop :=
  ∀ c ∈ cs, isBoundary c = true → c = '\n' ∨ c = '\r'

instance : Decidable (PlainlyEnded cs) :=
  inferInstanceAs (Decidable (∀ c ∈ cs, isBoundary c = true → c = '\n' ∨ c = '\r'))

/-- Line ends become newlines, and nothing else changes. -/
theorem mem_normalizeNewlines :
    c ∈ normalizeNewlines cs ↔ (c ∈ cs ∧ c ≠ '\r') ∨ (c = '\n' ∧ '\r' ∈ cs) := by
  fun_induction normalizeNewlines cs with
  | case1 => simp
  | case2 cs ih =>
    rw [List.mem_cons, ih]
    simp only [List.mem_cons]
    grind
  | case3 d cs h ih =>
    rw [List.mem_cons, ih]
    simp only [List.mem_cons]
    grind

theorem return_not_mem_normalizeNewlines (cs : List Char) : '\r' ∉ normalizeNewlines cs := by
  rw [mem_normalizeNewlines]
  rintro (⟨-, h⟩ | ⟨h, -⟩)
  · exact h rfl
  · cases h

/-- **Newlines are the only boundaries of a text with its line ends made newlines**, exactly if it
has no boundary but line ends. -/
theorem boundary_normalizeNewlines (cs : List Char) :
    (∀ c ∈ normalizeNewlines cs, isBoundary c = isNewline c) ↔ PlainlyEnded cs := by
  have hnewline : isBoundary '\n' = true := rfl
  constructor
  · intro h c hc hboundary
    by_cases hr : c = '\r'
    · exact .inr hr
    · have hsame := h c (mem_normalizeNewlines.mpr (.inl ⟨hc, hr⟩))
      rw [hboundary] at hsame
      exact .inl (beq_iff_eq.mp hsame.symm)
  · intro h c hc
    rcases mem_normalizeNewlines.mp hc with ⟨hmem, hr⟩ | ⟨rfl, -⟩
    · by_cases hn : c = '\n'
      · rw [hn]
        rfl
      · have hboundary : isBoundary c = false := Bool.eq_false_iff.mpr fun hb =>
          (h c hmem hb).elim hn hr
        rw [hboundary]
        exact (beq_eq_false_iff_ne.mpr hn).symm
    · rfl

/-- **A text has the same lines between boundaries and between newlines**, with its line ends made
newlines, exactly if it has no boundary but line ends. -/
theorem boundaryLines_eq_iff (cs : List Char) :
    boundaryLines (normalizeNewlines cs) = linesAt isNewline (normalizeNewlines cs) ↔
      PlainlyEnded cs := by
  rw [boundaryLines_eq_linesAt (return_not_mem_normalizeNewlines cs), linesAt_eq_iff]
  exact boundary_normalizeNewlines cs

end PromptLoop.Text
