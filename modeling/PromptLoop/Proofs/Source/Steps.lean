import Mathlib.Algebra.GroupWithZero.Nat
import PromptLoop.Proofs.Act.Frame
import PromptLoop.Proofs.Recovery.Draining
import PromptLoop.Source.Desk

/-!
# The steps of sources at a desk

Every source at a desk has finitely many steps: the steps of its script, or the lines of its text. A
line editor stays in place once it is at its end, and asks to end the session; every other source
fails then, and gives way to the next one if that is what it fails by.

## Main definitions

* `Text.lineCount`: the lines of a text
* `Source.steps`, `Desk.stock`: the steps of a source, and of those that a desk may yet supply
* `UsesUp`: an action that takes something of what it works on while there is something left
* `Desk.runsDry`: how many steps are left at a desk

## Main results

* `Text.lineCount_takeLine`: taking a line off a text leaves one line less
* `Source.read_usesUp`: reading a source takes a step while one is left
* `Desk.read_takes`, `Desk.refill_left`: reading and replacing sources at a desk
* `Desk.left_le_size`: a bound on the steps that are left
-/

namespace PromptLoop

/-! ## The lines of a text -/

namespace Text

/-- How many lines a text has, each with its newline but the last. -/
def lineCount : List Char → Nat
  | [] => 0
  | c :: cs => if c = '\n' then lineCount cs + 1 else max 1 (lineCount cs)

theorem takeLine_snd (cs : List Char) : (takeLine cs).2 = (cs.dropWhile (· != '\n')).tail := by
  unfold takeLine
  split
  · next h => rw [h]; rfl
  · next h => rw [h]; rfl

/-- A line that is taken off a text is one line less. -/
theorem lineCount_takeLine {cs : List Char} (h : cs ≠ []) :
    lineCount (takeLine cs).2 + 1 = lineCount cs := by
  rw [takeLine_snd]
  -- by induction on the first line: a character before its newline does not count
  induction cs with
  | nil => exact absurd rfl h
  | cons c cs ih =>
    by_cases hc : c = '\n'
    · simp [lineCount, hc]
    · have hdrop : (c :: cs).dropWhile (· != '\n') = cs.dropWhile (· != '\n') := by
        simp [hc]
      rw [hdrop, lineCount, if_neg hc]
      cases cs with
      | nil => rfl
      | cons d ds =>
        have hrest := ih (List.cons_ne_nil d ds)
        omega

/-- A text has no more lines than characters. -/
theorem lineCount_le_length (cs : List Char) : lineCount cs ≤ cs.length := by
  induction cs with
  | nil => exact Nat.le_refl 0
  | cons c cs ih =>
    rw [lineCount, List.length_cons]
    split <;> omega

end Text

/-! ## Actions that use up what they work on -/

variable {α β γ : Type}

/-- An action that takes something of what it works on while there is something left, and then fails
otherwise than by an interrupt. -/
structure UsesUp (size : β → Nat) (x : Act SourceEvent β α) : Prop where
  takes : ∀ b, size b ≠ 0 → size (x b).state < size b
  fails : ∀ b, size b = 0 → size (x b).state = 0 ∧
    ∃ f, (x b).result = .error f ∧ f.isA .keyboardInterrupt = false

namespace UsesUp

variable {size : β → Nat} {x : Act SourceEvent β α}

theorem bind {next : α → Act SourceEvent β γ} (h : UsesUp size x)
    (hnext : ∀ a, Act.Keeps size (next a)) : UsesUp size (x >>= next) where
  takes b hb := by
    have htakes := h.takes b hb
    rw [Act.bind_apply]
    rcases hx : x b with ⟨f | a, c, es⟩
    · rw [hx] at htakes
      exact htakes
    · rw [hx] at htakes
      exact Nat.lt_of_le_of_lt (Nat.le_of_eq (hnext a c)) htakes
  fails b hb := by
    obtain ⟨hnone, f, hf, hint⟩ := h.fails b hb
    rw [Act.bind_apply]
    rcases hx : x b with ⟨g | a, c, es⟩
    · rw [hx] at hnone hf
      obtain rfl := Except.error.inj hf
      exact ⟨hnone, g, rfl, hint⟩
    · rw [hx] at hf
      cases hf

theorem after_emit (h : UsesUp size x) (es : List SourceEvent) :
    UsesUp size (do Act.emit es; x) where
  takes b hb := h.takes b hb
  fails b hb := h.fails b hb

end UsesUp

namespace Source

/-! ## The steps of a source -/

/-- How many steps a source has. Those of the standard input are not its own. -/
def steps : Source → Nat
  | .scripted _ _ steps => steps.length
  | .rawLines _ steps => steps.length
  | .lines _ rest => rest.length
  | .stream _ _ rest => Text.lineCount rest
  | .file _ rest => Text.lineCount rest
  | .typed steps => steps.length
  | .editor _ _ steps => steps.length
  | .standardInput _ => 0
  | .unreadable => 0

/-- A source has no more steps than it has to yield. -/
theorem steps_le_size (s : Source) : s.steps ≤ s.size := by
  cases s with
  | stream name echo rest => exact Text.lineCount_le_length rest
  | file name rest => exact Text.lineCount_le_length rest
  | _ => exact Nat.le_refl _

/-- A line editor. -/
def isEditor : Source → Bool
  | .editor _ _ _ => true
  | _ => false

theorem exists_eq_editor {s : Source} (h : s.isEditor = true) :
    ∃ opened name steps, s = .editor opened name steps := by
  cases s with
  | editor opened name steps => exact ⟨opened, name, steps, rfl⟩
  | _ => cases h

theorem play_usesUp (name : String) (complete : Option (String → List String)) :
    UsesUp List.length (play name complete) where
  takes steps hsteps := by
    show (play.go name complete steps).state.length < steps.length
    -- by induction on the steps: a completion goes on to the next one
    induction steps with
    | nil => exact absurd rfl hsteps
    | cons step steps ih =>
      cases step with
      | answer line => exact Nat.lt_succ_self _
      | fail f => exact Nat.lt_succ_self _
      | complete fragment =>
        cases complete with
        | none => exact Nat.lt_succ_self _
        | some words =>
          cases steps with
          | nil => exact Nat.zero_lt_succ _
          | cons next steps => exact Nat.lt_succ_of_lt (ih (Nat.succ_ne_zero _))
  fails steps hsteps := by
    obtain rfl := List.eq_nil_of_length_eq_zero hsteps
    exact ⟨rfl, _, rfl, rfl⟩

theorem call_usesUp (name : Value) (complete : Option (String → List String))
    (prompt : Option String) : UsesUp List.length (call name complete prompt) :=
  (play_usesUp name.display complete).after_emit _

theorem nextLine_usesUp (name : Value) : UsesUp List.length (nextLine name) where
  takes lines hlines := by
    cases lines with
    | nil => exact absurd rfl hlines
    | cons line lines => exact Nat.lt_succ_self _
  fails lines hlines := by
    obtain rfl := List.eq_nil_of_length_eq_zero hlines
    exact ⟨rfl, _, rfl, rfl⟩

theorem nextOfText_usesUp (name : String) : UsesUp Text.lineCount (nextOfText name) where
  takes cs hcs := by
    cases cs with
    | nil => exact absurd rfl hcs
    | cons c cs =>
      have hless := Text.lineCount_takeLine (List.cons_ne_nil c cs)
      show Text.lineCount (Text.takeLine (c :: cs)).2 < _
      omega
  fails cs hcs := by
    cases cs with
    | nil => exact ⟨rfl, _, rfl, rfl⟩
    | cons c cs =>
      have hless := Text.lineCount_takeLine (List.cons_ne_nil c cs)
      omega

/-- What a read of a source comes to: a step is taken, or else the source fails otherwise than by an
interrupt. It stays a source of its kind. -/
structure Read (s : Source) (r : Run SourceEvent Source (Option String)) : Prop where
  takes : r.state.steps < s.steps ∨ r.state.steps ≤ s.steps ∧
    ∃ f, r.result = .error f ∧ f.isA .keyboardInterrupt = false
  isEditor_eq : r.state.isEditor = s.isEditor

theorem Read.of_usesUp {size : β → Nat} {x : Act SourceEvent β (Option String)}
    (h : UsesUp size x) {put : β → Source} {held : β} (hsize : ∀ b, (put b).steps = size b)
    (hput : ∀ b, (put b).isEditor = (put held).isEditor) :
    Read (put held) (holding put held x (put held)) := by
  refine ⟨?_, hput _⟩
  show (put (x held).state).steps < _ ∨ (put (x held).state).steps ≤ _ ∧ _
  rw [hsize, hsize]
  by_cases hheld : size held = 0
  · obtain ⟨hnone, hfails⟩ := h.fails held hheld
    exact .inr ⟨by omega, hfails⟩
  · exact .inl (h.takes held hheld)

/-- **Reading a source takes a step** while one is left. -/
theorem read_usesUp (complete : Option (String → List String)) (prompt : Option String)
    {s : Source} (h : s.isEditor = false) : Read s (read complete prompt s) := by
  cases s with
  | scripted convention name steps =>
    exact .of_usesUp (call_usesUp _ _ _) (fun _ => rfl) fun _ => rfl
  | rawLines name steps =>
    exact .of_usesUp ((call_usesUp _ _ _).bind fun _ => .ofExcept _) (fun _ => rfl) fun _ => rfl
  | lines name rest =>
    exact .of_usesUp ((nextLine_usesUp name).bind fun _ => .pure _) (fun _ => rfl) fun _ => rfl
  | stream name echo rest =>
    refine .of_usesUp ?_ (fun _ => rfl) fun _ => rfl
    have hnext := (nextOfText_usesUp (streamName name)).bind fun line => .pure (some line)
    cases echo with
    | false => exact hnext
    | true => exact hnext.after_emit _
  | file name rest =>
    exact .of_usesUp ((nextOfText_usesUp _).bind fun _ => .pure _) (fun _ => rfl) fun _ => rfl
  | standardInput name => exact ⟨.inr ⟨Nat.le_refl _, _, rfl, rfl⟩, rfl⟩
  | typed steps => exact .of_usesUp (call_usesUp _ _ _) (fun _ => rfl) fun _ => rfl
  | editor opened name steps => cases h
  | unreadable => exact ⟨.inr ⟨Nat.le_refl _, _, rfl, rfl⟩, rfl⟩

theorem endOfEditing_state (x : Act SourceEvent (List Step) (Option String)) (own : List Step) :
    (endOfEditing x own).state = (x own).state := by
  rw [endOfEditing, Act.rescue_apply]
  rcases x own with ⟨f | line, rest, es⟩
  · rw [Run.rescue_error]
    split <;> rfl
  · rfl

/-- A line editor does not fail by an end of input. -/
theorem endOfEditing_error {x : Act SourceEvent (List Step) (Option String)} {own : List Step}
    {f : Failure} (h : (endOfEditing x own).result = .error f) : f.isA .endOfFile = false := by
  rw [endOfEditing, Act.rescue_apply] at h
  rcases hx : x own with ⟨g | line, rest, es⟩
  · rw [hx, Run.rescue_error] at h
    by_cases hg : g.isA .endOfFile = true
    · rw [if_pos hg] at h
      cases h
    · rw [if_neg hg] at h
      obtain rfl := Except.error.inj h
      exact Bool.not_eq_true _ ▸ hg
  · rw [hx] at h
    cases h

/-- Reading a line editor takes a step, or it is at its end and asks to end the session. -/
theorem read_editor (complete : Option (String → List String)) (prompt : Option String)
    (opened : Bool) (name : Value) (own : List Step) :
    let r := read complete prompt (.editor opened name own)
    (∃ rest, r.state = .editor true name rest ∧
      (rest.length < own.length ∨ own = [] ∧ rest = [] ∧ r.result = .ok none)) ∧
      ∀ f, r.result = .error f → f.isA .endOfFile = false := by
  have hcall := call_usesUp name complete prompt
  -- Opening the editor is seen, and nothing else.
  have hread : ∃ es, read complete prompt (.editor opened name own) =
      ⟨(endOfEditing (call name complete prompt) own).result,
        .editor true name (endOfEditing (call name complete prompt) own).state, es⟩ := by
    cases opened <;> exact ⟨_, rfl⟩
  obtain ⟨es, hread⟩ := hread
  intro r
  have hr : r = _ := hread
  rw [hr]
  refine ⟨⟨_, rfl, ?_⟩, fun f => endOfEditing_error⟩
  rw [endOfEditing_state]
  cases own with
  | nil => exact .inr ⟨rfl, rfl, rfl⟩
  | cons step own => exact .inl (hcall.takes _ (Nat.succ_ne_zero _))

end Source

/-! ## Sources at a desk -/

/-- The steps that a fallback brings. -/
def Fallback.steps : Fallback → Nat
  | .source s => s.steps
  | .failure _ => 0

namespace Desk

/-- How many steps a desk may yet supply. The standard input is read as a stream or at a line
editor. -/
def stock (desk : Desk) : Nat :=
  ((desk.fallbacks.getD []).map Fallback.steps).sum +
    (desk.stdin.map fun stdin => Text.lineCount stdin.text + stdin.steps.length).getD 0

/-- How many steps are left at a desk. A line editor never gives way to another source. -/
def left (i : Intake Source Desk) : Nat :=
  if i.source.isEditor then i.source.steps else i.source.steps + i.supply.stock

/-- A line editor that is at its end. -/
def Closed (i : Intake Source Desk) : Prop :=
  ∃ opened name, i.source = .editor opened name []

/-- Reading the standard input takes a line off it. -/
theorem readStandard_stock (name : Option Value) (desk : Desk) :
    (readStandard name desk).state.stock < desk.stock ∨
      (readStandard name desk).state.stock ≤ desk.stock ∧
        ∃ f, (readStandard name desk).result = .error f ∧ f.isA .keyboardInterrupt = false := by
  obtain ⟨fallbacks, calls, _ | ⟨stream, tty, text, steps⟩⟩ := desk
  · exact .inr ⟨Nat.le_refl _, _, rfl, rfl⟩
  · cases text with
    | nil => exact .inr ⟨Nat.le_refl _, _, rfl, rfl⟩
    | cons c cs =>
      have hless := Text.lineCount_takeLine (List.cons_ne_nil c cs)
      refine .inl ?_
      show ((fallbacks.getD []).map Fallback.steps).sum +
          (Text.lineCount (Text.takeLine (c :: cs)).2 + steps.length) <
        ((fallbacks.getD []).map Fallback.steps).sum + (Text.lineCount (c :: cs) + steps.length)
      omega

/-- A fresh source brings steps that the desk has had in stock. -/
theorem fresh_stock (desk : Desk) :
    (fresh desk).state.stock ≤ desk.stock ∧ ∀ next, (fresh desk).result = .ok next →
      left ⟨next, (fresh desk).state⟩ ≤ desk.stock := by
  obtain ⟨_ | _ | ⟨s | f, fallbacks⟩, calls, stdin⟩ := desk
  · -- The standard input stays where it is, whenever it is put in place.
    have hfresh : fresh ⟨none, calls, stdin⟩ =
        ⟨.ok (standardSource stdin), ⟨none, calls, stdin⟩, []⟩ := rfl
    rw [hfresh]
    refine ⟨Nat.le_refl _, ?_⟩
    rintro next ⟨⟩
    rcases stdin with _ | ⟨stream, _ | _, text, steps⟩ <;>
      simp [left, standardSource, Source.isEditor, Source.steps, stock]
  · have hfresh : fresh ⟨some [], calls, stdin⟩ =
        ⟨.ok (.scripted .withPrompt _ []), ⟨some [], calls + 1, stdin⟩, [.supplied]⟩ := rfl
    rw [hfresh]
    refine ⟨Nat.le_refl _, ?_⟩
    rintro next ⟨⟩
    simp [left, Source.isEditor, Source.steps, stock]
  · have hfresh : fresh ⟨some (.source s :: fallbacks), calls, stdin⟩ =
        ⟨.ok s, ⟨some fallbacks, calls + 1, stdin⟩, [.supplied]⟩ := rfl
    rw [hfresh]
    constructor
    · simp only [stock, Option.getD_some, List.map_cons, List.sum_cons]
      omega
    · rintro next ⟨⟩
      simp only [left, stock, Option.getD_some, List.map_cons, List.sum_cons, Fallback.steps]
      split <;> omega
  · have hfresh : fresh ⟨some (.failure f :: fallbacks), calls, stdin⟩ =
        ⟨.error f, ⟨some fallbacks, calls + 1, stdin⟩, [.supplied]⟩ := rfl
    rw [hfresh]
    refine ⟨?_, nofun⟩
    simp [stock, Fallback.steps]

variable (complete : String → List String) (prompt : String)

/-- A source other than the standard input is read by itself. -/
theorem inputs_read {source : Source} (h : ∀ name, source ≠ .standardInput name) (desk : Desk) :
    let r := Source.read (some complete) (some prompt) source
    inputs.read complete prompt ⟨source, desk⟩ =
      ⟨r.result, ⟨r.state, desk⟩, r.events.map id⟩ := by
  cases source with
  | standardInput name => exact absurd rfl (h name)
  | _ => rfl

/-- **A read at a desk takes a step** while one is left. -/
theorem read_takes (i : Intake Source Desk) :
    let r := inputs.read complete prompt i
    left r.state < left i ∨ left r.state ≤ left i ∧
      ((∃ f, r.result = .error f ∧ f.isA .keyboardInterrupt = false) ∨
        r.result = .ok none ∧ Closed r.state) := by
  obtain ⟨source, desk⟩ := i
  by_cases hstandard : ∃ name, source = .standardInput name
  · -- The standard input takes its steps from what the desk has in stock.
    obtain ⟨name, rfl⟩ := hstandard
    have hread : inputs.read complete prompt ⟨.standardInput name, desk⟩ =
        ⟨(readStandard name desk).result, ⟨.standardInput name, (readStandard name desk).state⟩,
          (readStandard name desk).events.map id⟩ := rfl
    intro r
    have hr : r = _ := hread
    rw [hr]
    simp only [left, Source.isEditor, Source.steps, Bool.false_eq_true, if_false, Nat.zero_add]
    exact (readStandard_stock name desk).imp_right fun h => ⟨h.1, .inl h.2⟩
  have hread := inputs_read complete prompt (fun name h => hstandard ⟨name, h⟩) desk
  intro r
  have hr : r = _ := hread
  rw [hr]
  cases hsource : source.isEditor with
  | false =>
    obtain ⟨htakes, hkind⟩ := Source.read_usesUp (some complete) (some prompt) hsource
    rw [hsource] at hkind
    simp only [left, hsource, hkind, Bool.false_eq_true, if_false]
    rcases htakes with hlt | ⟨hle, hfails⟩
    · exact .inl (by omega)
    · exact .inr ⟨by omega, .inl hfails⟩
  | true =>
    -- A line editor without steps answers with the wish to end the session, again and again.
    obtain ⟨opened, name, own, rfl⟩ := Source.exists_eq_editor hsource
    obtain ⟨⟨rest, hrest, hless⟩, -⟩ :=
      Source.read_editor (some complete) (some prompt) opened name own
    rw [hrest]
    rcases hless with hlt | ⟨rfl, rfl, hnone⟩
    · exact .inl hlt
    · exact .inr ⟨Nat.le_refl _, .inr ⟨hnone, true, name, rfl⟩⟩

/-- A line editor that is at its end stays there. -/
theorem read_closed {i : Intake Source Desk} (h : Closed i) :
    (inputs.read complete prompt i).result = .ok none ∧
      Closed (inputs.read complete prompt i).state := by
  obtain ⟨source, desk⟩ := i
  obtain ⟨opened, name, rfl : source = _⟩ := h
  obtain ⟨⟨rest, hrest, hless⟩, -⟩ :=
    Source.read_editor (some complete) (some prompt) opened name []
  rcases hless with hlt | ⟨-, rfl, hnone⟩
  · exact absurd hlt (Nat.not_lt_zero _)
  · exact ⟨hnone, true, name, hrest⟩

/-- A source that gives way to another is no line editor. -/
theorem read_isEditor {i : Intake Source Desk} {f : Failure}
    (h : (inputs.read complete prompt i).result = .error f) (hend : f.isA .endOfFile = true) :
    (inputs.read complete prompt i).state.source.isEditor = false := by
  obtain ⟨source, desk⟩ := i
  cases hsource : source.isEditor with
  | true =>
    obtain ⟨opened, name, own, rfl⟩ := Source.exists_eq_editor hsource
    obtain ⟨-, hfails⟩ := Source.read_editor (some complete) (some prompt) opened name own
    rw [hfails f h] at hend
    cases hend
  | false =>
    by_cases hstandard : ∃ name, source = .standardInput name
    · obtain ⟨name, rfl⟩ := hstandard
      rfl
    · rw [inputs_read complete prompt fun name h => hstandard ⟨name, h⟩]
      exact (Source.read_usesUp _ _ hsource).isEditor_eq.trans hsource

/-- **A fresh source brings no more steps than were left.** -/
theorem refill_left {i : Intake Source Desk} (h : i.source.isEditor = false) :
    left (Attempt.refill inputs i).state ≤ left i := by
  obtain ⟨hstock, hnext⟩ := fresh_stock i.supply
  have hleft : left i = i.source.steps + i.supply.stock := by
    rw [left, h]
    rfl
  rw [Attempt.refill_state, hleft]
  change left ⟨(fresh i.supply).result.toOption.getD i.source, (fresh i.supply).state⟩ ≤ _
  cases hfresh : (fresh i.supply).result with
  | error f =>
    show left ⟨i.source, (fresh i.supply).state⟩ ≤ _
    rw [left, h]
    exact Nat.add_le_add_left hstock _
  | ok next => exact Nat.le_trans (hnext next hfresh) (Nat.le_add_left _ _)

/-- The steps that a desk may yet supply are no more than it has to yield. -/
theorem stock_le_size (desk : Desk) : desk.stock ≤ desk.size := by
  have hlaid : ∀ (fallbacks : List Fallback) (total : Nat),
      total + (fallbacks.map Fallback.steps).sum ≤
        fallbacks.foldl (fun total fallback => total + fallback.size) total := by
    -- by induction on the fallbacks, with what has been counted so far
    intro fallbacks
    induction fallbacks with
    | nil => intro total; exact Nat.le_refl total
    | cons fallback fallbacks ih =>
      intro total
      have hfallback : fallback.steps ≤ fallback.size := by
        cases fallback with
        | source s => exact Nat.le_succ_of_le s.steps_le_size
        | failure f => exact Nat.zero_le _
      have hrest := ih (total + fallback.size)
      rw [List.map_cons, List.sum_cons, List.foldl_cons]
      omega
  obtain ⟨fallbacks, calls, stdin⟩ := desk
  have hfallbacks := hlaid (fallbacks.getD []) 0
  rw [Nat.zero_add] at hfallbacks
  refine Nat.add_le_add hfallbacks ?_
  cases stdin with
  | none => exact Nat.le_refl _
  | some stdin => exact Nat.add_le_add_right (Text.lineCount_le_length stdin.text) _

/-- The steps that are left at a desk are no more than it has to yield. -/
theorem left_le_size (i : Intake Source Desk) : left i ≤ i.source.size + i.supply.size := by
  have hsource := i.source.steps_le_size
  have hsupply := i.supply.stock_le_size
  rw [left]
  split <;> omega

/-- **Every source at a desk runs dry.** -/
def runsDry : inputs.RunsDry where
  left := left
  Closed := Closed
  read_takes := read_takes
  read_closed complete prompt _ := read_closed complete prompt
  refill_le complete prompt _ _ h hend := refill_left (read_isEditor complete prompt h hend)

end Desk

end PromptLoop
