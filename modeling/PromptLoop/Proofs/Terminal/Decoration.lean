import PromptLoop.Terminal.Repaint

/-!
# Decorations of a prompt

A prompt may be decorated: colour sequences stand between its characters, and the marks of line
editors stand anywhere, also inside a colour sequence. Decorations are painted and not measured. The
visible part of a decorated text is the text, so a line is painted again over the same rows.

## Main definitions

* `Terminal.IsPlain`: a text without decorations
* `Terminal.Coloured`: a text with colour sequences between its characters
* `Terminal.Marked`: a text with marks anywhere
* `Terminal.painted`: what is painted over a number of rows

## Main results

* `Terminal.Coloured.withoutControls_eq`: the colour sequences between the characters vanish
* `Terminal.Marked.withoutMarks_eq`: so do the marks
* `Terminal.decorations_unmeasured`: a decorated prompt is measured as the text that it decorates
-/

namespace PromptLoop.Terminal

variable {cs ds text coloured prompt : List Char}

/-- A text without decorations: nothing in it starts a colour sequence or is a mark. -/
def IsPlain (text : List Char) : Prop := ∀ c ∈ text, c ≠ escape ∧ isMark c = false

instance (text : List Char) : Decidable (IsPlain text) :=
  List.decidableBAll (fun c => c ≠ escape ∧ isMark c = false) text

/-- A text, and the same text with whole colour sequences between its characters. -/
inductive Coloured : List Char → List Char → Prop
  | nil : Coloured [] []
  | shown (c : Char) {text cs : List Char} (h : Coloured text cs) : Coloured (c :: text) (c :: cs)
  | control (parameters : List Char) (final : Char) {text cs : List Char}
      (hparameters : ∀ c ∈ parameters, isParameter c = true) (hfinal : final.isAlpha = true)
      (h : Coloured text cs) : Coloured text (escape :: '[' :: parameters ++ final :: cs)

/-- A text, and the same text with marks anywhere. -/
inductive Marked : List Char → List Char → Prop
  | nil : Marked [] []
  | kept (c : Char) {cs ds : List Char} (h : Marked cs ds) : Marked (c :: cs) (c :: ds)
  | mark (c : Char) {cs ds : List Char} (hc : isMark c = true) (h : Marked cs ds) :
      Marked cs (c :: ds)

/-! ## Marks -/

/-- A text may go without marks. -/
theorem Marked.refl (cs : List Char) : Marked cs cs := by
  induction cs with
  | nil => exact .nil
  | cons c cs ih => exact .kept c ih

/-- **Marks vanish**, wherever they stand. -/
theorem Marked.withoutMarks_eq (h : Marked cs ds) : withoutMarks ds = withoutMarks cs := by
  unfold withoutMarks
  induction h with
  | nil => rfl
  | kept c h ih => rw [List.filter_cons, List.filter_cons, ih]
  | mark c hc h ih => rw [List.filter_cons_of_neg (by simp [hc]), ih]

theorem withoutMarks_eq_self (h : ∀ c ∈ cs, isMark c = false) : withoutMarks cs = cs := by
  apply List.filter_eq_self.mpr
  intro c hc
  simp [h c hc]

/-- A class of characters that neither mark belongs to has no marks in it. -/
theorem isMark_of_class {p : Char → Bool} (h : p '\x01' = false) (h' : p '\x02' = false) {c : Char}
    (hc : p c = true) : isMark c = false := by
  apply Bool.eq_false_iff.mpr
  intro hmark
  simp only [isMark, Bool.or_eq_true, beq_iff_eq] at hmark
  rcases hmark with rfl | rfl
  · exact Bool.false_ne_true (h.symm.trans hc)
  · exact Bool.false_ne_true (h'.symm.trans hc)

/-! ## Colour sequences -/

/-- A text may go without colours. -/
theorem Coloured.refl (text : List Char) : Coloured text text := by
  induction text with
  | nil => exact .nil
  | cons c text ih => exact .shown c ih

/-- A colour sequence has no marks in it, unless they were put there. -/
theorem Coloured.isMark_eq_false (h : Coloured text cs) (htext : IsPlain text) :
    ∀ c ∈ cs, isMark c = false := by
  induction h with
  | nil => exact nofun
  | shown c h ih =>
    obtain ⟨hc, htext⟩ := List.forall_mem_cons.mp htext
    exact List.forall_mem_cons.mpr ⟨hc.2, ih htext⟩
  | control parameters final hparameters hfinal h ih =>
    simp only [List.cons_append, List.forall_mem_cons, List.forall_mem_append]
    refine ⟨by decide, by decide, ?_, isMark_of_class rfl rfl hfinal, ih htext⟩
    intro c hc
    exact isMark_of_class rfl rfl (hparameters c hc)

/-- **Colour sequences vanish**, also next to one another and in front of digits and letters. -/
theorem Coloured.withoutControls_eq (h : Coloured text cs) (htext : IsPlain text) :
    withoutControls cs = text := by
  induction h with
  | nil => exact withoutControls_nil
  | shown c h ih =>
    obtain ⟨hc, htext⟩ := List.forall_mem_cons.mp htext
    rw [withoutControls_cons_of_ne hc.1, ih htext]
  | control parameters final hparameters hfinal h ih =>
    rw [withoutControls_control hparameters hfinal, ih htext]

/-- A text without decorations is visible as it is. -/
theorem IsPlain.visible_eq (htext : IsPlain text) : visible text = text := by
  rw [visible, withoutMarks_eq_self fun c hc => (htext c hc).2]
  exact (Coloured.refl text).withoutControls_eq htext

/-! ## Painting a decorated prompt -/

/-- What is painted over a number of rows: the prompt as it is shown, a line, and blanks. -/
def painted (rows : Int) (shown code : List Char) (overhang : Int) (family : Family) : List Char :=
  up rows family ++ shown ++ code ++ Padding.blanks overhang ++ down rows family

/-- What is painted is known from the prompt without its marks and from its visible part. -/
theorem repaint_eq_painted (prompt code : List Char) (overhang columns : Int) (family : Family) :
    repaint prompt code overhang columns family =
      painted (rowsOf columns ((visible prompt).length + code.length)) (withoutMarks prompt) code
        overhang family := rfl

/-- **A decorated prompt is measured as the text that it decorates.** Its visible part is that text,
so a line behind it is painted again over as many rows as behind the text alone, and is refused
where it is refused there. Painted is the prompt without its marks, with all of its colours. -/
theorem decorations_unmeasured (htext : IsPlain text) (hcoloured : Coloured text coloured)
    (hmarked : Marked coloured prompt) :
    visible prompt = text ∧
      ∀ (code : List Char) (overhang columns : Int) (family : Family) (memory : Nat),
        let rows := rowsOf columns (text.length + code.length)
        repaint prompt code overhang columns family =
            painted rows coloured code overhang family ∧
          repaint text code overhang columns family = painted rows text code overhang family ∧
          repaint? prompt code overhang columns family memory =
            (repaint? text code overhang columns family memory).map fun _ =>
              painted rows coloured code overhang family := by
  have hcolours : withoutMarks prompt = coloured := by
    rw [hmarked.withoutMarks_eq]
    exact withoutMarks_eq_self (hcoloured.isMark_eq_false htext)
  have hplain : withoutMarks text = text := withoutMarks_eq_self fun c hc => (htext c hc).2
  have hprompt : visible prompt = text := by
    rw [visible, hcolours, hcoloured.withoutControls_eq htext]
  refine ⟨hprompt, ?_⟩
  intro code overhang columns family memory rows
  have hpaints : repaint prompt code overhang columns family =
      painted rows coloured code overhang family := by
    rw [repaint_eq_painted, hprompt, hcolours]
  refine ⟨hpaints, ?_, ?_⟩
  · rw [repaint_eq_painted, htext.visible_eq, hplain]
  · -- Whether the blanks are refused is a matter of the overhang alone.
    rw [repaint?, repaint?, hpaints]
    cases Padding.length? memory (max overhang 0) <;> rfl

/-- A prompt in which marks stand inside a colour sequence, and in which another such sequence ends
in front of a digit. -/
theorem decorations_unmeasured_splitSequence :
    let text := ['$', '1', ' ']
    let coloured := ['\x1b', '[', '3', '2', 'm', '$', '\x1b', '[', 'm', '1', ' ']
    let prompt := '\x01' :: '\x1b' :: '\x02' :: '[' :: '3' :: '\x01' :: coloured.drop 3
    let code := ['e', 'n', 'd']
    (IsPlain text ∧ Coloured text coloured ∧ Marked coloured prompt) ∧ visible prompt = text ∧
      repaint prompt code 4 6 .byCell = painted 2 coloured code 4 .byCell := by
  intro text coloured prompt code
  have htext : IsPlain text := by decide
  have hcoloured : Coloured text coloured :=
    .control ['3', '2'] 'm' (by simp [isParameter]) (by decide)
      (.shown '$' (.control [] 'm' nofun (by decide) (.refl ['1', ' '])))
  have hmarked : Marked coloured prompt :=
    .mark _ (by decide) (.kept _ (.mark _ (by decide) (.kept _ (.kept _
      (.mark _ (by decide) (.refl _))))))
  obtain ⟨hvisible, hpaints⟩ := decorations_unmeasured htext hcoloured hmarked
  have hrows : rowsOf 6 (text.length + code.length) = 2 := by decide
  have hpainted := (hpaints code 4 6 .byCell 0).1
  rw [hrows] at hpainted
  exact ⟨⟨htext, hcoloured, hmarked⟩, hvisible, hpainted⟩

end PromptLoop.Terminal
