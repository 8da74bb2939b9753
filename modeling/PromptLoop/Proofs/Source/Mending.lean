import PromptLoop.Config.Basic
import PromptLoop.Proofs.Source.Steps

/-!
# Sources that are mended

A script may fail in ways that are rescued. A mended script is the same script without those
failures: when it is asked, it does what the broken one does when it is asked until it no longer
fails in such a way.

## Main definitions

* `Config.reports`, `Config.overlooks`, `Overlooked`: the failures that reads are retried after
* `Step.unfailing`: steps without such failures
* `Source.mended`, `Desk.mended`, `Intake.mended`: sources without such failures
* `Skips`: an action that passes over such failures

## Main results

* `Source.call_skips`: the reader of a script passes over what is mended
* `Desk.read_kept`, `Desk.read_skipped`: a read of a mended source
* `Desk.fresh_mended`: a mended desk supplies mended sources
-/

namespace PromptLoop

/-- A failure that is rescued and can be reported: what it says can be written. -/
def Config.reports (config : Config) (f : Failure) : Bool :=
  config.rescues f && f.text?.isSome

/-- A failure that a read is retried after: one that is reported, and no end of input. -/
def Config.overlooks (config : Config) (f : Failure) : Bool :=
  config.reports f && !f.isA .endOfFile

/-- A result that a read is retried after. -/
def Overlooked {α : Type} (config : Config) (result : Except Failure α) : Prop :=
  ∃ f, result = .error f ∧ config.overlooks f = true

namespace Step

/-- A step that is not a failure which is overlooked. -/
def stays (config : Config) : Step → Bool
  | .fail f => !config.overlooks f
  | _ => true

/-- Steps without the failures that are overlooked. -/
def unfailing (config : Config) (steps : List Step) : List Step := steps.filter (stays config)

end Step

open Step (unfailing)

/-- A source without the failures that are overlooked. -/
def Source.mended (config : Config) : Source → Source
  | .scripted convention name steps => .scripted convention name (unfailing config steps)
  | .rawLines name steps => .rawLines name (unfailing config steps)
  | .typed steps => .typed (unfailing config steps)
  | .editor opened name steps => .editor opened name (unfailing config steps)
  | s => s

/-- A fallback without the failures that are overlooked. -/
def Fallback.mended (config : Config) : Fallback → Fallback
  | .source s => .source (s.mended config)
  | .failure f => .failure f

/-- The standard input without the failures that are overlooked. -/
def StandardInput.mended (config : Config) (stdin : StandardInput) : StandardInput :=
  { stdin with steps := unfailing config stdin.steps }

/-- A desk whose sources are mended. -/
def Desk.mended (config : Config) (desk : Desk) : Desk where
  fallbacks := desk.fallbacks.map (List.map (Fallback.mended config))
  calls := desk.calls
  stdin := desk.stdin.map (StandardInput.mended config)

/-- An intake whose sources are mended. -/
def Intake.mended (config : Config) (i : Intake Source Desk) : Intake Source Desk :=
  ⟨i.source.mended config, i.supply.mended config⟩

variable {config : Config} {α : Type}

@[simp] theorem Source.mended_label (s : Source) : (s.mended config).label = s.label := by
  cases s <;> rfl

/-- An end of input is not overlooked. -/
theorem Overlooked.not_end {result : Except Failure α} {f : Failure}
    (h : Overlooked config result) (hf : result = .error f) : f.isA .endOfFile = false := by
  obtain ⟨g, hg, hover⟩ := h
  obtain rfl := Except.error.inj (hf.symm.trans hg)
  rw [Config.overlooks, Bool.and_eq_true, Bool.not_eq_true'] at hover
  exact hover.2

/-! ## Scripts -/

/-- An action on steps that passes over failures which are overlooked: where it fails in such a way,
the same action on the mended steps goes on with what it would do next. -/
structure Skips (config : Config) (x : Act SourceEvent (List Step) α) : Prop where
  kept : ∀ steps, ¬Overlooked config (x steps).result →
    x (unfailing config steps) =
      ⟨(x steps).result, unfailing config (x steps).state, (x steps).events⟩
  skipped : ∀ steps, Overlooked config (x steps).result →
    ∃ name prompt ds es result rest, (x steps).events = .called name prompt :: ds ∧
      x (unfailing config (x steps).state) = ⟨result, rest, .called name prompt :: es⟩ ∧
      x (unfailing config steps) = ⟨result, rest, .called name prompt :: (ds ++ es)⟩

namespace Source

theorem unfailing_fail (f : Failure) (steps : List Step) :
    unfailing config (.fail f :: steps) =
      if config.overlooks f then unfailing config steps else .fail f :: unfailing config steps := by
  cases hf : config.overlooks f <;> simp [unfailing, Step.stays, hf]

/-- What a script does next, unless it fails in a way that is overlooked: then a mended one does
what follows. -/
theorem go_unfailing (config : Config) (name : String) (words : String → List String)
    (steps : List Step) :
    let r := play.go name (some words) steps
    (¬Overlooked config r.result → play.go name (some words) (unfailing config steps) =
        ⟨r.result, unfailing config r.state, r.events⟩) ∧
      (Overlooked config r.result → play.go name (some words) (unfailing config steps) =
        (play.go name (some words) (unfailing config r.state)).after r.events) := by
  -- by induction on the steps: a completion goes on to the next one, and it is seen on both sides
  induction steps with
  | nil => exact ⟨fun _ => rfl, fun h => nomatch h.not_end rfl⟩
  | cons step steps ih =>
    cases step with
    | answer line =>
      refine ⟨fun _ => rfl, ?_⟩
      rintro ⟨f, hf, -⟩
      cases hf
    | fail f =>
      rw [unfailing_fail]
      by_cases hf : config.overlooks f = true
      · rw [if_pos hf]
        exact ⟨fun hnot => absurd ⟨f, rfl, hf⟩ hnot, fun _ => rfl⟩
      · rw [if_neg hf]
        refine ⟨fun _ => rfl, ?_⟩
        rintro ⟨g, ⟨⟩, hg⟩
        exact absurd hg hf
    | complete fragment =>
      obtain ⟨hkept, hskipped⟩ := ih
      refine ⟨fun hnot => ?_, fun hover => ?_⟩
      · show (play.go name (some words) (unfailing config steps)).after _ = _
        rw [hkept hnot]
        rfl
      · show (play.go name (some words) (unfailing config steps)).after _ = _
        rw [hskipped hover]
        rfl

/-- **The reader of a script passes over failures that are overlooked.** -/
theorem call_skips (name : Value) (words : String → List String) (prompt : Option String) :
    Skips config (call name (some words) prompt) where
  kept steps h := by
    show (play.go name.display (some words) (unfailing config steps)).after _ = _
    rw [(go_unfailing config name.display words steps).1 h]
    rfl
  skipped steps h := by
    refine ⟨name, prompt, (play.go name.display (some words) steps).events,
      (play.go name.display (some words) (unfailing config _)).events, _, _, rfl, rfl, ?_⟩
    show (play.go name.display (some words) (unfailing config steps)).after _ = _
    rw [(go_unfailing config name.display words steps).2 h]
    rfl

end Source

/-- The answers may be made into others, as long as failures that are no end of input stay. -/
theorem Skips.answering {x y : Act SourceEvent (List Step) α}
    {g : Except Failure α → Except Failure α} (h : Skips config x)
    (hg : ∀ f, f.isA .endOfFile = false → g (.error f) = .error f)
    (hg' : ∀ result, Overlooked config (g result) → Overlooked config result)
    (hy : ∀ steps, y steps = ⟨g (x steps).result, (x steps).state, (x steps).events⟩) :
    Skips config y where
  kept steps hnot := by
    have hx : ¬Overlooked config (x steps).result := by
      rintro ⟨f, hf, hover⟩
      have hend := Overlooked.not_end ⟨f, hf, hover⟩ hf
      refine hnot ⟨f, ?_, hover⟩
      rw [hy, hf, hg f hend]
    rw [hy, hy, h.kept steps hx]
  skipped steps hover := by
    rw [hy] at hover
    obtain ⟨name, prompt, ds, es, result, rest, hevents, hlater, hnow⟩ :=
      h.skipped steps (hg' _ hover)
    refine ⟨name, prompt, ds, es, g result, rest, ?_, ?_, ?_⟩
    · rw [hy, hevents]
    · rw [hy, hy, hlater]
    · rw [hy, hnow]

namespace Source

variable {complete : Option (String → List String)} {prompt : Option String}

/-- A read of a mended source does what a read of the source does. Where that fails in a way that is
overlooked, it goes on with what the next read does, without the call that is made once more; unless
the source is as it was before. -/
structure Mends (config : Config) (complete : Option (String → List String))
    (prompt : Option String) (s : Source) : Prop where
  kept : ¬Overlooked config (read complete prompt s).result →
    read complete prompt (s.mended config) =
      ⟨(read complete prompt s).result, (read complete prompt s).state.mended config,
        (read complete prompt s).events⟩
  skipped : Overlooked config (read complete prompt s).result →
    (read complete prompt s).state = s ∨ ∃ name shown os ds es result t,
      (read complete prompt s).events = os ++ .called name shown :: ds ∧
      read complete prompt ((read complete prompt s).state.mended config) =
        ⟨result, t, .called name shown :: es⟩ ∧
      read complete prompt (s.mended config) = ⟨result, t, os ++ .called name shown :: (ds ++ es)⟩

theorem Mends.of_skips {put : List Step → Source}
    {x : Act SourceEvent (List Step) (Option String)} (h : Skips config x)
    (hread : ∀ steps, read complete prompt (put steps) =
      ⟨(x steps).result, put (x steps).state, (x steps).events⟩)
    (hput : ∀ steps, (put steps).mended config = put (unfailing config steps))
    (steps : List Step) : Mends config complete prompt (put steps) where
  kept hnot := by
    rw [hread] at hnot ⊢
    rw [hput, hput, hread, h.kept steps hnot]
  skipped hover := by
    rw [hread] at hover ⊢
    obtain ⟨name, shown, ds, es, result, rest, hevents, hlater, hnow⟩ := h.skipped steps hover
    refine .inr ⟨name, shown, [], ds, es, result, put rest, hevents, ?_, ?_⟩
    · rw [hput, hread, hlater]
    · rw [hput, hread, hnow]
      rfl

/-- A source that has no steps of its own to fail by fails by its end, or as it was before. -/
theorem Mends.of_same {s : Source} (hmended : s.mended config = s)
    (hstate : (read complete prompt s).state.mended config = (read complete prompt s).state)
    (hfails : ∀ f, (read complete prompt s).result = .error f →
      f.isA .endOfFile = true ∨ (read complete prompt s).state = s) :
    Mends config complete prompt s where
  kept _ := by rw [hmended, hstate]
  skipped hover := by
    have hnot := fun f => hover.not_end (f := f)
    obtain ⟨f, hf, -⟩ := hover
    refine .inl ((hfails f hf).resolve_left fun hend => ?_)
    rw [hnot f hf] at hend
    cases hend

theorem nextLine_error {name : Value} {lines : List String} {f : Failure}
    (h : (nextLine name lines).result = .error f) : f.isA .endOfFile = true := by
  cases lines with
  | nil =>
    cases h
    rfl
  | cons line lines => cases h

theorem nextOfText_error {name : String} {cs : List Char} {f : Failure}
    (h : (nextOfText name cs).result = .error f) : f.isA .endOfFile = true := by
  cases cs with
  | nil =>
    cases h
    rfl
  | cons c cs => cases h

/-- What a line editor answers where the reader of its script has come to something. -/
def editorAnswer : Except Failure (Option String) → Except Failure (Option String)
  | .error f => if f.isA .endOfFile then .ok none else .error f
  | .ok line => .ok line

theorem endOfEditing_apply (x : Act SourceEvent (List Step) (Option String)) (steps : List Step) :
    endOfEditing x steps = ⟨editorAnswer (x steps).result, (x steps).state, (x steps).events⟩ := by
  rw [endOfEditing, Act.rescue_apply]
  rcases x steps with ⟨f | line, rest, es⟩
  · rw [Run.rescue_error, editorAnswer]
    by_cases hend : f.isA .endOfFile = true
    · rw [if_pos hend, if_pos hend]
      exact congrArg _ (List.append_nil es)
    · rw [if_neg hend, if_neg hend]
  · rfl

/-- The script of a line editor. -/
theorem endOfEditing_skips (name : Value) (words : String → List String) :
    Skips config (endOfEditing (call name (some words) prompt)) := by
  refine (call_skips name words prompt).answering ?_ ?_ (endOfEditing_apply _)
  · intro f hf
    rw [editorAnswer, hf, if_neg Bool.false_ne_true]
  · rintro (f | line) ⟨f', hf', hover⟩
    · by_cases hend : f.isA .endOfFile = true
      · rw [editorAnswer, if_pos hend] at hf'
        cases hf'
      · rw [editorAnswer, if_neg hend] at hf'
        exact ⟨f', hf', hover⟩
    · cases hf'

/-- A line editor that has yet to be opened. -/
theorem mends_unopened (name : Value) (words : String → List String) (steps : List Step) :
    Mends config (some words) prompt (.editor false name steps) := by
  let x := endOfEditing (call name (some words) prompt)
  have hskips : Skips config x := endOfEditing_skips name words
  have hread : ∀ own, read (some words) prompt (.editor false name own) =
      ⟨(x own).result, .editor true name (x own).state, .terminalOpened :: (x own).events⟩ :=
    fun _ => rfl
  have hmended : (Source.editor false name steps).mended config =
      .editor false name (unfailing config steps) := rfl
  refine ⟨fun hnot => ?_, fun hover => ?_⟩
  · rw [hread] at hnot ⊢
    rw [hmended, hread, hskips.kept steps hnot]
    rfl
  · rw [hread] at hover ⊢
    obtain ⟨name', shown, ds, es, result, rest, hevents, hlater, hnow⟩ := hskips.skipped steps hover
    refine .inr ⟨name', shown, [.terminalOpened], ds, es, result, .editor true name rest, ?_, ?_,
      ?_⟩
    · rw [hevents]
      rfl
    · -- Once opened, the editor is not opened again.
      show holding (.editor true name) (unfailing config (x steps).state) x .unreadable = _
      rw [holding, hlater]
    · rw [hmended, hread, hnow]
      rfl

/-- A raw line is refused where the file has come to its end. -/
theorem rawLine_error {description : String} {line : Option String} {f : Failure}
    (h : rawLine description line = .error f) : f.isA .endOfFile = true := by
  unfold rawLine at h
  split at h
  · cases h
    rfl
  · cases h
    rfl
  · cases h

/-- A script of raw lines. -/
theorem mends_rawLines (name : String) (words : String → List String) (steps : List Step) :
    Mends config (some words) prompt (.rawLines name steps) := by
  let description := (Source.rawLines name []).description
  have hskips : Skips config
      (do Act.ofExcept (rawLine description (← call (.str name) (some words) none))) := by
    refine (call_skips (.str name) words none).answering (g := (·.bind (rawLine description)))
      (fun _ _ => rfl) ?_ fun own => ?_
    · rintro (f | line) hover
      · exact hover
      · have hnot : ∀ f, rawLine description line = .error f → f.isA .endOfFile = false :=
          fun f hf => hover.not_end hf
        obtain ⟨f, hf, -⟩ := hover
        have hend := hnot f hf
        rw [rawLine_error hf] at hend
        cases hend
    · rw [Act.bind_apply]
      rcases call (.str name) (some words) none own with ⟨f | line, rest, es⟩
      · rfl
      · exact congrArg _ (List.append_nil es)
  exact .of_skips hskips (fun _ => rfl) (fun _ => rfl) steps

/-- **A mended source passes over failures that are overlooked.** -/
theorem mends (words : String → List String) (s : Source) :
    Mends config (some words) prompt s := by
  cases s with
  | scripted convention name steps =>
    exact .of_skips (call_skips (.str name) words _) (fun _ => rfl) (fun _ => rfl) steps
  | rawLines name steps => exact mends_rawLines name words steps
  | lines name rest =>
    exact .of_same rfl rfl fun f hf => .inl (nextLine_error (Act.map_eq_error_iff.mp hf))
  | stream name echo rest =>
    refine .of_same rfl rfl fun f hf => .inl ?_
    cases echo with
    | false => exact nextOfText_error (Act.map_eq_error_iff.mp hf)
    | true => exact nextOfText_error (Act.map_eq_error_iff.mp hf)
  | file name rest =>
    exact .of_same rfl rfl fun f hf => .inl (nextOfText_error (Act.map_eq_error_iff.mp hf))
  | standardInput name => exact .of_same rfl rfl fun _ _ => .inr rfl
  | typed steps =>
    exact .of_skips (call_skips (.str "input") words prompt) (fun _ => rfl) (fun _ => rfl) steps
  | editor opened name steps =>
    cases opened with
    | true => exact .of_skips (endOfEditing_skips name words) (fun _ => rfl) (fun _ => rfl) steps
    | false => exact mends_unopened name words steps
  | unreadable => exact .of_same rfl rfl fun _ _ => .inr rfl

end Source

/-! ## Mended desks -/

namespace Desk

variable (config) (words : String → List String) (prompt : String)

/-- The standard input is read as it is. -/
theorem readStandard_mended (name : Option Value) (desk : Desk) :
    readStandard name (desk.mended config) =
      ⟨(readStandard name desk).result, (readStandard name desk).state.mended config,
        (readStandard name desk).events⟩ := by
  obtain ⟨fallbacks, calls, stdin⟩ := desk
  cases stdin <;> rfl

theorem mended_ne_standardInput {s : Source} (h : ∀ name, s ≠ .standardInput name) :
    ∀ name, s.mended config ≠ .standardInput name := by
  intro name hname
  cases s with
  | standardInput name' => exact h name' rfl
  | _ => cases hname

/-- No source turns into the standard input. -/
theorem read_ne_standardInput (complete : Option (String → List String)) (prompt : Option String)
    {s : Source} (h : ∀ name, s ≠ .standardInput name) :
    ∀ name, (Source.read complete prompt s).state ≠ .standardInput name := by
  intro name hname
  cases s with
  | standardInput name' => exact h name' rfl
  | _ => cases hname

variable {words prompt} in
theorem read_own {s : Source} (h : ∀ name, s ≠ .standardInput name) (desk : Desk) :
    inputs.read words prompt ⟨s, desk⟩ =
      ⟨(Source.read (some words) (some prompt) s).result,
        ⟨(Source.read (some words) (some prompt) s).state, desk⟩,
        (Source.read (some words) (some prompt) s).events⟩ := by
  refine (inputs_read words prompt h desk).trans ?_
  rw [List.map_id]

variable {words prompt} in
theorem read_standard (name : Option Value) (desk : Desk) :
    inputs.read words prompt ⟨.standardInput name, desk⟩ =
      ⟨(readStandard name desk).result, ⟨.standardInput name, (readStandard name desk).state⟩,
        (readStandard name desk).events⟩ := by
  show Run.mk _ _ ((readStandard name desk).events.map id) = _
  rw [List.map_id]

/-- **A read of mended sources does what a read of the sources does**, unless that fails in a way
that is overlooked. -/
theorem read_kept (i : Intake Source Desk)
    (h : ¬Overlooked config (inputs.read words prompt i).result) :
    inputs.read words prompt (i.mended config) =
      ⟨(inputs.read words prompt i).result, (inputs.read words prompt i).state.mended config,
        (inputs.read words prompt i).events⟩ := by
  obtain ⟨source, desk⟩ := i
  by_cases hstandard : ∃ name, source = .standardInput name
  · obtain ⟨name, rfl⟩ := hstandard
    show inputs.read words prompt ⟨.standardInput name, desk.mended config⟩ = _
    rw [read_standard, read_standard, readStandard_mended]
    rfl
  · have hown : ∀ name, source ≠ .standardInput name := fun name hname => hstandard ⟨name, hname⟩
    rw [read_own hown] at h ⊢
    show inputs.read words prompt ⟨source.mended config, desk.mended config⟩ = _
    rw [read_own (mended_ne_standardInput config hown), (Source.mends words source).kept h]
    rfl

/-- **Where a read fails in a way that is overlooked, a read of mended sources goes on with what the
next read does**, without the call that is made once more; unless nothing has changed. -/
theorem read_skipped (i : Intake Source Desk)
    (h : Overlooked config (inputs.read words prompt i).result) :
    (inputs.read words prompt i).state = i ∨ ∃ name shown os ds es result j,
      (inputs.read words prompt i).events = os ++ .called name shown :: ds ∧
      inputs.read words prompt ((inputs.read words prompt i).state.mended config) =
        ⟨result, j, .called name shown :: es⟩ ∧
      inputs.read words prompt (i.mended config) =
        ⟨result, j, os ++ .called name shown :: (ds ++ es)⟩ := by
  obtain ⟨source, desk⟩ := i
  by_cases hstandard : ∃ name, source = .standardInput name
  · -- The standard input fails as it is, or by its end.
    obtain ⟨name, rfl⟩ := hstandard
    rw [read_standard] at h ⊢
    obtain ⟨fallbacks, calls, stdin⟩ := desk
    cases stdin with
    | none => exact .inl rfl
    | some stdin =>
      obtain ⟨f, hf, -⟩ := id h
      change (Source.nextOfText (Source.streamName name) stdin.text).result.map some = _ at hf
      have hend : f.isA .endOfFile = true := by
        rcases hr : (Source.nextOfText (Source.streamName name) stdin.text).result with g | line
        · rw [hr] at hf
          obtain rfl := Except.error.inj hf
          exact Source.nextOfText_error hr
        · rw [hr] at hf
          cases hf
      rw [h.not_end hf] at hend
      cases hend
  · have hown : ∀ name, source ≠ .standardInput name := fun name hname => hstandard ⟨name, hname⟩
    rw [read_own hown] at h ⊢
    rcases (Source.mends words source).skipped h with
      hsame | ⟨name, shown, os, ds, es, result, t, hevents, hlater, hnow⟩
    · exact .inl (congrArg (Intake.mk · desk) hsame)
    · refine .inr ⟨name, shown, os, ds, es, result, ⟨t, desk.mended config⟩, hevents, ?_, ?_⟩
      · have hnext := mended_ne_standardInput config
          (read_ne_standardInput (some words) (some prompt) hown)
        show inputs.read words prompt ⟨_, desk.mended config⟩ = _
        rw [read_own hnext, hlater]
      · show inputs.read words prompt ⟨source.mended config, desk.mended config⟩ = _
        rw [read_own (mended_ne_standardInput config hown), hnow]

/-- **A mended desk supplies mended sources.** -/
theorem fresh_mended (desk : Desk) :
    fresh (desk.mended config) =
      ⟨(fresh desk).result.map (Source.mended config), (fresh desk).state.mended config,
        (fresh desk).events⟩ := by
  obtain ⟨_ | _ | ⟨fallback, fallbacks⟩, calls, stdin⟩ := desk
  · rcases stdin with _ | ⟨name, tty, text, steps⟩
    · rfl
    · cases tty <;> rfl
  · rfl
  · cases fallback <;> rfl

end Desk

end PromptLoop
