import PromptLoop.Proofs.Console.Lines
import PromptLoop.Proofs.Session.Reads
import PromptLoop.Rehearsal.Program
import PromptLoop.Source.Desk

/-!
# The buffer of a console and the open constructs

A session with a console holds unfinished input twice: as the lines of the console's buffer, and as
the constructs that the tracker has open. Neither knows of the other, and yet they are of the same
lines whenever a source is asked.

## Main definitions

* `Tracker.feed`: a tracker after some texts
* `Reading.pending`: the reads since the last that started with an empty buffer
* `Reading.carried`: what was in the buffer before the first of them
* `Reading.StartsStatement`, `Reading.ContinuesStatement`: the two ways in which a read may start
* `Session.InStep`: the buffer and the open constructs are of the same lines

## Main results

* `Session.turn_inStep`: a turn keeps them in step
* `Session.reads_agree`: every read of a session starts in one of the two ways
-/

namespace PromptLoop

variable {ι δ π : Type}

/-- The tracker after texts, one after the other. -/
def Tracker.feed (t : Tracker) (texts : List String) : Tracker :=
  texts.foldl (fun t text => (t.indent text.toList).2) t

namespace Tracker

theorem feed_append (t : Tracker) (texts more : List String) :
    t.feed (texts ++ more) = (t.feed texts).feed more := List.foldl_append ..

/-- Only the open constructs change. -/
theorem indent_reset (t : Tracker) (text : List Char) : (t.indent text).2.reset = t.reset := by
  rw [reset, reset, indent, indentLines_rules, indentLines_width, indentLines_memory]

end Tracker

namespace Reading

/-- The buffer of the console when the source is asked. -/
def buffer (ρ : Reading ι δ (Hooked ι Console)) : List String := ρ.start.evaluator.core.buffer

/-- The line that was read, as the source yielded it. -/
def text? {σ : Type} (ρ : Reading ι δ σ) : Option String :=
  match ρ.result with
  | .ok (.line text) => some text
  | _ => none

/-- The line that was read, as it was corrected. -/
def corrected? {σ : Type} (setup : Setup ι δ σ) (ρ : Reading ι δ σ) : Option String :=
  ρ.text?.bind fun text => (Session.corrected? setup ρ.start text).toOption

/-- The reads since the last that started with an empty buffer. -/
def pending (ρs : List (Reading ι δ (Hooked ι Console))) : List (Reading ι δ (Hooked ι Console)) :=
  ρs.foldl (fun before ρ => if ρ.buffer = [] then [ρ] else before ++ [ρ]) []

theorem pending_snoc (ρs : List (Reading ι δ (Hooked ι Console)))
    (ρ : Reading ι δ (Hooked ι Console)) :
    pending (ρs ++ [ρ]) = if ρ.buffer = [] then [ρ] else pending ρs ++ [ρ] := by
  rw [pending, List.foldl_append]
  rfl

/-- The lines in the buffer before those of the pending reads: the lines that were there before the
first read, until a read has started with an empty buffer. -/
def carried (left : List String) (ρs : List (Reading ι δ (Hooked ι Console))) : List String :=
  ρs.foldl (fun lines ρ => if ρ.buffer = [] then [] else lines) left

theorem carried_snoc (left : List String) (ρs : List (Reading ι δ (Hooked ι Console)))
    (ρ : Reading ι δ (Hooked ι Console)) :
    carried left (ρs ++ [ρ]) = if ρ.buffer = [] then [] else carried left ρs := by
  rw [carried, List.foldl_append]
  rfl

/-- Where nothing was in the buffer before the first read, only lines that were read are in it. -/
@[simp] theorem carried_nil (ρs : List (Reading ι δ (Hooked ι Console))) : carried [] ρs = [] := by
  induction ρs with
  | nil => rfl
  | cons ρ ρs ih =>
    rw [carried, List.foldl_cons, ite_self]
    exact ih

/-- A read at the start of a statement: nothing is unfinished, and the prompt says so. -/
def StartsStatement (ρ : Reading ι δ (Hooked ι Console)) : Prop :=
  ρ.buffer = [] ∧ ρ.start.tracker.stack = [] ∧ ∀ p ∈ ReadEvent.prompts ρ.events, p = ">>> "

/-- A read within a statement: the buffer holds the corrected lines of the statement, their texts
have opened the constructs that are open, and the prompt is followed by their indentation. -/
def ContinuesStatement (setup : Setup ι δ (Hooked ι Console)) (left : List String)
    (before : List (Reading ι δ (Hooked ι Console))) (ρ : Reading ι δ (Hooked ι Console)) : Prop :=
  ρ.buffer ≠ [] ∧
    ρ.buffer = carried left before ++ (pending before).filterMap (corrected? setup) ∧
    ρ.start.tracker.stack = (setup.freshTracker.feed ((pending before).filterMap text?)).stack ∧
    ∀ p ∈ ReadEvent.prompts ρ.events, p = "... " ++ String.ofList
      (List.replicate (setup.config.indentWidth.toNat * ρ.start.tracker.depth) ' ')

end Reading

namespace Session

variable {setup : Setup ι δ (Hooked ι Console)} {s : Session ι δ (Hooked ι Console)}
  {ρ : Reading ι δ (Hooked ι Console)} {before : List (Reading ι δ (Hooked ι Console))}
  {left : List String}

/-- The buffer of the console. -/
def buffer (s : Session ι δ (Hooked ι Console)) : List String := s.evaluator.core.buffer

/-- The buffer and the open constructs are of the same lines: those of the reads that are pending,
unless the buffer is empty. -/
structure InStep (setup : Setup ι δ (Hooked ι Console)) (left : List String)
    (before : List (Reading ι δ (Hooked ι Console))) (s : Session ι δ (Hooked ι Console)) :
    Prop where
  /-- The tracker goes by the rules of the session. -/
  reset_eq : s.tracker.reset = setup.freshTracker
  /-- What is unfinished comes from the pending reads. -/
  agree : s.buffer = [] ∨
    s.buffer = Reading.carried left before ++
        (Reading.pending before).filterMap (Reading.corrected? setup) ∧
      s.tracker = s.tracker.reset.feed ((Reading.pending before).filterMap Reading.text?)

section Console

variable {runtime : Console.Runtime π}

/-! ## What a console makes of a read -/

theorem console_prompt (hconsole : setup.evaluator = (Console.interpreter runtime).withHooks)
    (s : Session ι δ (Hooked ι Console)) :
    onEvaluator setup.evaluator.prompt s = ⟨.ok s.evaluator.core.prompt, s, []⟩ := by
  rw [hconsole]
  rfl

theorem console_settle (hconsole : setup.evaluator = (Console.interpreter runtime).withHooks)
    (s : Session ι δ (Hooked ι Console)) :
    settle setup s = if s.buffer = [] then { s with tracker := s.tracker.reset } else s := by
  rw [settle, hconsole]
  by_cases h : s.buffer = []
  · rw [if_pos h]
    exact if_pos (List.isEmpty_iff.mpr h)
  · rw [if_neg h]
    exact if_neg (fun hempty => h (List.isEmpty_iff.mp hempty))

theorem console_reading (hconsole : setup.evaluator = (Console.interpreter runtime).withHooks)
    (h : reading? setup s = some ρ) :
    ρ.start = settle setup s ∧
      ρ.events = (asking setup s.evaluator.core.prompt ρ.start ρ.start.intake).events := by
  rw [reading?_of_prompt (console_prompt hconsole s)] at h
  obtain rfl := Option.some.inj h
  exact ⟨rfl, rfl⟩

/-- A line that the console goes on from is the last of its buffer, or the buffer is empty. -/
theorem console_line (hconsole : setup.evaluator = (Console.interpreter runtime).withHooks)
    {line : String} {h : Hooked ι Console}
    (hproceed : (setup.evaluator.eval (some line) h).result = .ok .proceed) :
    Console.Holds h.core.buffer line (setup.evaluator.eval (some line) h).state.core := by
  rw [hconsole] at hproceed ⊢
  exact Console.evalLine_buffer hproceed

/-- After a wish to end the session that is not granted, nothing is unfinished. -/
theorem console_end (hconsole : setup.evaluator = (Console.interpreter runtime).withHooks)
    {h : Hooked ι Console} (hproceed : (setup.evaluator.eval none h).result = .ok .proceed) :
    (setup.evaluator.eval none h).state.core.buffer = [] := by
  rw [hconsole] at hproceed ⊢
  exact Console.evalEnd_buffer hproceed

theorem console_discard (hconsole : setup.evaluator = (Console.interpreter runtime).withHooks)
    (h : Hooked ι Console) : (setup.evaluator.discard h).state.core.buffer = [] := by
  rw [hconsole]
  rfl

/-! ## A turn keeps the buffer and the open constructs in step -/

theorem verdict_eq_again {σ : Type} {setup : Setup ι δ σ} {ρ : Reading ι δ σ}
    {line : Option String} (h : ρ.verdict setup line = .ok .again) :
    (setup.evaluator.eval line ρ.start.evaluator).result = .ok .proceed := by
  rw [Reading.verdict] at h
  rcases hresult : (setup.evaluator.eval line ρ.start.evaluator).result with f | (_ | v | f)
  · rw [hresult] at h
    cases h
  · rfl
  · rw [hresult] at h
    cases h
  · rw [hresult] at h
    cases h

theorem console_start (hconsole : setup.evaluator = (Console.interpreter runtime).withHooks)
    (h : reading? setup s = some ρ) :
    ρ.start.evaluator = s.evaluator ∧ ρ.start.tracker.reset = s.tracker.reset ∧
      (s.buffer = [] → ρ.start.tracker = s.tracker.reset) ∧
      (s.buffer ≠ [] → ρ.start.tracker = s.tracker) := by
  obtain ⟨hstart, -⟩ := console_reading hconsole h
  rw [console_settle hconsole] at hstart
  by_cases hempty : s.buffer = []
  · rw [if_pos hempty] at hstart
    rw [hstart]
    exact ⟨rfl, rfl, fun _ => rfl, fun hne => absurd hempty hne⟩
  · rw [if_neg hempty] at hstart
    rw [hstart]
    exact ⟨rfl, rfl, fun he => absurd he hempty, fun _ => rfl⟩

/-- A line that was corrected was not refused, and the tracker has followed it. -/
theorem trackerAfter_of_corrected? {σ : Type} {setup : Setup ι δ σ} {s : Session ι δ σ}
    {text corrected : String} (hauto : setup.config.autoIndent = true)
    (h : corrected? setup s text = .ok corrected) :
    trackerAfter setup s text = (s.tracker.indent text.toList).2 := by
  rw [corrected?, if_pos hauto] at h
  rw [trackerAfter, if_pos hauto]
  rcases hindent : (Tracker.indent? text.toList s.tracker : Run Event Tracker (List Char)).result
    with f | out
  · rw [hindent] at h
    cases h
  · exact (Tracker.indent?_of_ok hindent).2

/-- A corrected line changes what is open, and nothing else of a tracker. -/
theorem trackerAfter_reset {σ : Type} {setup : Setup ι δ σ} {s : Session ι δ σ}
    {text line : String} (h : corrected? setup s text = .ok line) :
    (trackerAfter setup s text).reset = s.tracker.reset := by
  -- Without automatic indentation the tracker is not shown the line at all.
  by_cases hauto : setup.config.autoIndent = true
  · rw [trackerAfter_of_corrected? hauto h, Tracker.indent_reset]
  · rw [trackerAfter, if_neg hauto]

theorem inStep_of_buffer_eq_nil {t : Session ι δ (Hooked ι Console)}
    (h : InStep setup left before s) (htracker : t.tracker.reset = s.tracker.reset)
    (hbuffer : t.buffer = []) : InStep setup left (before ++ [ρ]) t where
  reset_eq := htracker.trans h.reset_eq
  agree := .inl hbuffer

/-- The line that a console has added to its buffer has opened its constructs as well. -/
theorem inStep_of_line {t : Session ι δ (Hooked ι Console)} {text corrected : String}
    (hconsole : setup.evaluator = (Console.interpreter runtime).withHooks)
    (h : InStep setup left before s) (hρ : reading? setup s = some ρ)
    (hresult : ρ.result = .ok (.line text))
    (hcorrected : corrected? setup ρ.start text = .ok corrected)
    (hbuffer : t.buffer = s.buffer ++ [corrected])
    (htracker : t.tracker = (ρ.start.tracker.indent text.toList).2) :
    InStep setup left (before ++ [ρ]) t := by
  obtain ⟨hevaluator, hreset, hempty, hopen⟩ := console_start hconsole hρ
  have htext : ρ.text? = some text := by rw [Reading.text?, hresult]
  have hline : ρ.corrected? setup = some corrected := by
    rw [Reading.corrected?, htext, Option.bind_some, hcorrected]
    rfl
  have htreset : t.tracker.reset = s.tracker.reset := by
    rw [htracker, Tracker.indent_reset, hreset]
  refine ⟨htreset.trans h.reset_eq, .inr ?_⟩
  rw [Reading.pending_snoc, Reading.carried_snoc, hbuffer, htreset, htracker]
  have hstart : ρ.buffer = s.buffer := by
    rw [Reading.buffer, hevaluator]
    rfl
  by_cases hs : s.buffer = []
  · -- The read has started a statement, so the line is the only one of it.
    rw [hstart, if_pos hs, if_pos hs, hs, hempty hs]
    simp only [List.filterMap_cons, hline, htext]
    exact ⟨rfl, rfl⟩
  · -- The line is one more of the statement that was pending.
    obtain ⟨hbuffer, hfeed⟩ := h.agree.resolve_left hs
    rw [hstart, if_neg hs, if_neg hs, hopen hs, List.filterMap_append, List.filterMap_append,
      Tracker.feed_append, ← List.append_assoc, ← hbuffer, ← hfeed]
    simp only [List.filterMap_cons, hline, htext]
    exact ⟨rfl, rfl⟩

/-- **A turn keeps the buffer and the open constructs in step.** -/
theorem turn_inStep (hconsole : setup.evaluator = (Console.interpreter runtime).withHooks)
    (hauto : setup.config.autoIndent = true) (h : InStep setup left before s)
    (hρ : reading? setup s = some ρ) (hagain : ρ.response setup = .ok .again) :
    InStep setup left (before ++ [ρ]) (turn setup s).state := by
  obtain ⟨hevaluator, hreset, -, -⟩ := console_start hconsole hρ
  rcases hresult : ρ.result with f | (text | _ | _ | _)
  · rw [Reading.response, hresult] at hagain
    cases hagain
  · -- A line is added to the buffer, or the console has dealt with all that was unfinished.
    rw [Reading.response, hresult] at hagain
    obtain ⟨prompt, indentation, i, hstate⟩ := turn_state hρ hresult
    rcases hcorrected : corrected? setup ρ.start text with f | corrected
    · simp only [hcorrected] at hagain
      cases hagain
    simp only [hcorrected] at hagain
    have hholds := console_line hconsole (verdict_eq_again hagain)
    rw [follow_line_state setup prompt indentation (s := { ρ.start with intake := i }) hcorrected]
      at hstate
    have htracker : (turn setup s).state.tracker = (ρ.start.tracker.indent text.toList).2 := by
      rw [hstate]
      exact trackerAfter_of_corrected? hauto hcorrected
    rcases hholds with hbuffer | hbuffer
    · refine inStep_of_buffer_eq_nil h ?_ ?_
      · rw [htracker, Tracker.indent_reset, hreset]
      · rw [hstate]
        exact hbuffer
    · refine inStep_of_line hconsole h hρ hresult hcorrected ?_ htracker
      rw [hstate, buffer, buffer, ← hevaluator]
      exact hbuffer
  · -- A wish to end the session that is not granted drops what was unfinished.
    rw [Reading.response, hresult] at hagain
    obtain ⟨prompt, indentation, i, hstate⟩ := turn_state hρ hresult
    rw [follow_endOfSession_state] at hstate
    refine inStep_of_buffer_eq_nil h ?_ ?_
    · rw [hstate]
      exact hreset
    · rw [hstate]
      exact console_end hconsole (verdict_eq_again hagain)
  · -- So does an interrupt.
    obtain ⟨prompt, indentation, i, hstate⟩ := turn_state hρ hresult
    rw [follow_interrupted_state] at hstate
    refine inStep_of_buffer_eq_nil h ?_ ?_
    · rw [hstate]
      exact hreset
    · rw [hstate]
      exact console_discard hconsole _
  · rw [Reading.response, hresult] at hagain
    cases hagain

/-- Every read of a sequence of turns starts in step. -/
theorem reads_inStep (hconsole : setup.evaluator = (Console.interpreter runtime).withHooks)
    (hauto : setup.config.autoIndent = true) {n : Nat} {earlier later : List (Reading ι δ _)}
    (h : InStep setup left before s) (hreads : reads setup n s = earlier ++ ρ :: later) :
    ∃ t, InStep setup left (before ++ earlier) t ∧ reading? setup t = some ρ := by
  -- by induction on the earlier reads: others follow each, so its turn has kept both in step
  induction earlier generalizing before n s with
  | nil =>
    obtain ⟨m, -, hρ, -⟩ := reads_eq_cons hreads
    exact ⟨s, by rwa [List.append_nil], hρ⟩
  | cons first earlier ih =>
    obtain ⟨m, -, hfirst, ⟨-, hrest⟩ | ⟨t, es, hturn, hrest⟩⟩ := reads_eq_cons hreads
    · simp at hrest
    · have hagain : first.response setup = .ok .again := by
        rw [← (turn_of_reading hfirst).1, hturn]
      have hnext := turn_inStep hconsole hauto h hfirst hagain
      rw [hturn] at hnext
      rw [← List.singleton_append, ← List.append_assoc]
      exact ih hnext hrest.symm

/-! ## The prompt of a read -/

theorem asking_prompts {σ : Type} {setup : Setup ι δ σ} {s : Session ι δ σ} {prompt p : String}
    (hauto : setup.config.autoIndent = true) (i : Intake ι δ)
    (hp : p ∈ ReadEvent.prompts (asking setup prompt s i).events) :
    p = prompt ++ String.ofList s.tracker.currentPrefix := by
  rw [asking, Act.bind_apply, indentation?, if_pos hauto] at hp
  rcases hblanks : s.tracker.currentPrefix? with f | blanks
  · rw [hblanks] at hp
    cases hp
  · obtain rfl := Tracker.currentPrefix?_of_ok hblanks
    rw [hblanks, Act.ofExcept_apply, Run.andThen_ok, Run.after_nil] at hp
    exact ReadEvent.eq_of_mem_prompts (Pipeline.guard_asksWith (ask_asksWith _) _ i) hp

theorem currentPrefix_eq_replicate {t : Tracker} (hwidth : 0 < t.width) :
    t.currentPrefix = List.replicate (t.width.toNat * t.depth) ' ' := by
  rw [Tracker.currentPrefix, Tracker.indentation, Padding.blanks]
  obtain ⟨w, hw⟩ := Int.eq_ofNat_of_zero_le (Int.le_of_lt hwidth)
  rw [hw, Int.toNat_natCast, ← Int.natCast_mul, Int.toNat_natCast]

/-- A read that starts in step starts a statement or continues one. -/
theorem reading_of_inStep (hconsole : setup.evaluator = (Console.interpreter runtime).withHooks)
    (hauto : setup.config.autoIndent = true) (h : InStep setup left before s)
    (hρ : reading? setup s = some ρ) :
    ρ.StartsStatement ∨ ρ.ContinuesStatement setup left before := by
  obtain ⟨hstart, hevents⟩ := console_reading hconsole hρ
  obtain ⟨hevaluator, hreset, hempty, hopen⟩ := console_start hconsole hρ
  by_cases hs : s.buffer = []
  · -- Nothing is unfinished, so the tracker has been reset and nothing is open either.
    have hprompt : s.evaluator.core.prompt = ">>> " := if_pos (List.isEmpty_iff.mpr hs)
    have hstack : ρ.start.tracker.stack = [] := by rw [hempty hs, Tracker.reset_stack]
    refine .inl ⟨by rw [Reading.buffer, hevaluator]; exact hs, hstack, fun p hp => ?_⟩
    rw [hevents] at hp
    rw [asking_prompts hauto _ hp, hprompt, Tracker.currentPrefix_of_stack_eq_nil hstack,
      String.ofList_nil, String.append_empty]
  · -- What is open is what a fresh tracker makes of the lines that are pending.
    have hprompt : s.evaluator.core.prompt = "... " :=
      if_neg fun hempty => hs (List.isEmpty_iff.mp hempty)
    obtain ⟨hbuffer, hfeed⟩ := h.agree.resolve_left hs
    have hwidth : ρ.start.tracker.width = setup.config.indentWidth := by
      rw [hopen hs, ← Tracker.reset_width, h.reset_eq]
      rfl
    refine .inr ⟨by rw [Reading.buffer, hevaluator]; exact hs, ?_, ?_, fun p hp => ?_⟩
    · rw [Reading.buffer, hevaluator]
      exact hbuffer
    · rw [hopen hs, hfeed, h.reset_eq]
    · rw [hevents] at hp
      rw [asking_prompts hauto _ hp, hprompt, currentPrefix_eq_replicate, hwidth]
      rw [hwidth]
      exact setup.config.width_pos

/-- Every read of a session starts in step, with what a hook has left in the buffer before the first
turn. -/
theorem openedReads_inStep
    (hconsole : setup.evaluator = (Console.interpreter runtime).withHooks)
    (hauto : setup.config.autoIndent = true) {evaluator : Hooked ι Console} {intake : Intake ι δ}
    {n : Nat} {later : List (Reading ι δ (Hooked ι Console))}
    (hreads : openedReads setup n (initial setup evaluator intake) = before ++ ρ :: later) :
    ∃ t, InStep setup (begin setup (initial setup evaluator intake)).state.buffer before t ∧
      reading? setup t = some ρ := by
  have htracker : (begin setup (initial setup evaluator intake)).state.tracker = _ :=
    begin_keeps (fun _ _ => rfl) (fun _ _ => rfl) (initial setup evaluator intake)
  rw [openedReads] at hreads
  rcases hbegin : begin setup (initial setup evaluator intake) with ⟨f | ⟨⟩, t, es⟩
  · rw [hbegin] at hreads
    simp at hreads
  · rw [hbegin] at hreads htracker
    have hfresh : t.tracker = t.tracker.reset := by
      rw [htracker]
      rfl
    have hstep : InStep setup t.buffer [] t :=
      ⟨by rw [htracker]; rfl, .inr ⟨(List.append_nil t.buffer).symm, hfresh⟩⟩
    exact reads_inStep hconsole hauto hstep hreads

/-- **Every read of a session with a console either starts a statement or continues one.** What a
hook has left in the buffer before the first turn is the start of a statement too; without such
lines, `Reading.carried_nil`, the buffer holds lines that were read and no others. -/
theorem reads_agree (hconsole : setup.evaluator = (Console.interpreter runtime).withHooks)
    (hauto : setup.config.autoIndent = true) (evaluator : Hooked ι Console) (intake : Intake ι δ)
    (n : Nat) (before later : List (Reading ι δ (Hooked ι Console)))
    (now : Reading ι δ (Hooked ι Console))
    (hreads : openedReads setup n (initial setup evaluator intake) = before ++ now :: later) :
    let left := (begin setup (initial setup evaluator intake)).state.buffer
    (now.StartsStatement ∨ now.ContinuesStatement setup left before) ∧
      ¬(now.StartsStatement ∧ now.ContinuesStatement setup left before) := by
  intro left
  refine ⟨?_, fun h => h.2.1 h.1.1⟩
  obtain ⟨t, ht, hnow⟩ := openedReads_inStep hconsole hauto hreads
  exact reading_of_inStep hconsole hauto ht hnow

end Console

/-- A console at a desk, for which nothing is rehearsed. -/
def blockSetup : Setup Source Desk (Hooked Source Console) where
  evaluator := (Console.interpreter ({} : Rehearsal.Tables).runtime).withHooks
  inputs := Desk.inputs
  config := .standard
  screen := {}
  family := .byCell

/-- A session that reads the first line of a block and the line below it. -/
def blockSession : Session Source Desk (Hooked Source Console) :=
  initial blockSetup ⟨{}, {}⟩
    ⟨.scripted .withPrompt "scripted" [.answer (some "if x:"), .answer (some "y")], {}⟩

/-- The second read of the session continues the statement that the first one has started. -/
theorem reads_agree_in_block : ∃ first now, openedReads blockSetup 2 blockSession = [first, now] ∧
    ReadEvent.prompts now.events = ["...   "] ∧
      now.ContinuesStatement blockSetup [] [first] := by
  have hreads : (openedReads blockSetup 2 blockSession).map
      (fun ρ => (ρ.buffer, ReadEvent.prompts ρ.events)) =
        [([], [">>> "]), (["if x:"], ["...   "])] := rfl
  obtain ⟨first, rest, hcons, -, hrest⟩ := List.map_eq_cons_iff.mp hreads
  obtain ⟨now, others, rfl, hnow, hothers⟩ := List.map_eq_cons_iff.mp hrest
  obtain rfl := List.map_eq_nil_iff.mp hothers
  obtain ⟨hbuffer, hprompts⟩ := Prod.mk.inj hnow
  refine ⟨first, now, hcons, hprompts, ?_⟩
  have hagree := reads_agree rfl rfl ⟨{}, {}⟩ _ 2 [first] [] now hcons
  exact hagree.1.resolve_left fun hstarts => by simp [hstarts.1] at hbuffer

end Session

end PromptLoop
