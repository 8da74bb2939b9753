import PromptLoop.Proofs.CommandLine.Starting
import PromptLoop.Proofs.Session.Likeness
import PromptLoop.Proofs.Source.Delivery

/-!
# Files that are named and texts that are piped

The command may be given a file, or its text on the standard input. A file ends at every boundary of
Unicode, and a stream at newlines only. Where a text has no boundary but line ends, its session is
the same either way; otherwise the lines are others.

## Main definitions

* `Event.hear`: the events of a session but for records and what sources do
* `Fed`: an intake on a file, and one on a stream with the same lines

## Main results

* `guard_fed`: a read of a file and one of a stream
* `CommandLine.file_fed`: when a file is read as a stream of its text is
-/

namespace PromptLoop

open Text CommandLine

/-- Hears the events of a session but for records, what sources do and how the supply is asked. -/
def Event.hear (heard : List Event) : Event → List Event
  | .loop (.logged _) => heard
  | .reading (.notice (.logged _)) => heard
  | .reading (.source _) => heard
  | .reading .requested => heard
  | e => heard ++ [e]

/-- Hears an event of a read. -/
def Event.hearRead (heard : List Event) (e : ReadEvent) : List Event :=
  Event.hear heard (.reading e)

theorem Event.hear_unlogged : Event.Unlogged Event.hear := ⟨fun _ _ => rfl, fun _ _ => rfl⟩

/-- A desk that supplies the standard input, with a text left on it. -/
def Desk.piped (cs : List Char) : Desk where
  fallbacks := none
  stdin := some { name := some (.str "<stdin>"), text := cs }

/-- An intake on the lines of a text, and one on a stream of it. -/
inductive Fed : Intake Source Desk → Intake Source Desk → Prop
  | file (name : Value) {cs : List Char} (h : '\r' ∉ cs) :
    Fed ⟨.lines name ((linesAt isNewline cs).map String.ofList), .piped []⟩
      ⟨stdinSource, .piped cs⟩
  | dry : Fed ⟨stdinSource, .piped []⟩ ⟨stdinSource, .piped []⟩

/-! ## Reads -/

section Reads

variable {config : Config} {complete : String → List String} {prompt : String}
  {i j : Intake Source Desk}

/-- A read that finds the end of its input twice gives up. -/
theorem guard_dry {source : Source}
    (hsource : source = stdinSource ∨ ∃ name, source = .lines name []) :
    ∃ es, Pipeline.guard Desk.inputs config .standard (Attempt.ask Desk.inputs complete prompt)
        ⟨source, .piped []⟩ = ⟨.ok .noMoreInput, ⟨stdinSource, .piped []⟩, es⟩ ∧
      ∀ heard, es.foldl Event.hearRead heard =
        heard ++ [.reading (.asked prompt)] ++ [.reading (.asked prompt)] := by
  -- The standard input takes the place of what was read before, and is at its end as well.
  obtain ⟨es, hinner, hheard⟩ : ∃ es, Standing.inner Desk.inputs
      (Attempt.ask Desk.inputs complete prompt) ⟨source, .piped []⟩ =
        ⟨.ok .noMoreInput, ⟨stdinSource, .piped []⟩, es⟩ ∧
      ∀ heard, es.foldl Event.hearRead heard =
        heard ++ [.reading (.asked prompt)] ++ [.reading (.asked prompt)] := by
    rcases hsource with rfl | ⟨name, rfl⟩
    · exact ⟨_, rfl, fun _ => rfl⟩
    · exact ⟨_, rfl, fun _ => rfl⟩
  refine ⟨es, ?_, hheard⟩
  show Policy.retrying Desk.inputs config (Standing.inner Desk.inputs _) 0 _ _ = _
  rw [Standing.retrying_apply, hinner, Run.rescue_ok]

theorem ask_line (name : Value) (line : List Char) (rest : List String) (h : '\n' ∉ line)
    (desk : Desk) :
    Attempt.ask Desk.inputs complete prompt ⟨.lines name (String.ofList line :: rest), desk⟩ =
      ⟨.ok (.line (String.ofList line)), ⟨.lines name rest, desk⟩, [.asked prompt]⟩ := by
  have hkept : dropNewlines (String.ofList line).toList = line := by
    rw [String.toList_ofList]
    exact dropEndWhile_eq_self fun c hc => beq_eq_false_iff_ne.mpr fun hn => h (hn ▸ hc)
  show Run.mk (.ok (Outcome.line (String.ofList (dropNewlines (String.ofList line).toList)))) _ _ =
    _
  rw [hkept]
  rfl

theorem ask_text {c : Char} {cs : List Char} (h : '\r' ∉ c :: cs) :
    Attempt.ask Desk.inputs complete prompt ⟨stdinSource, .piped (c :: cs)⟩ =
      ⟨.ok (.line (String.ofList ((c :: cs).takeWhile (· != '\n')))),
        ⟨stdinSource, .piped (takeLine (c :: cs)).2⟩, [.asked prompt]⟩ := by
  rw [← chomp_takeLine h]
  rfl

/-- **A read of a file does as one of a stream with the same lines**, for whoever does not heed what
sources do. -/
theorem guard_fed :
    Act.Alike Event.hearRead Fed
      (Pipeline.guard Desk.inputs config .standard (Attempt.ask Desk.inputs complete prompt))
      (Pipeline.guard Desk.inputs config .standard (Attempt.ask Desk.inputs complete prompt)) := by
  have hdry : ∀ source, (source = stdinSource ∨ ∃ name, source = .lines name []) →
      Run.Alike Event.hearRead Fed
        (Pipeline.guard Desk.inputs config .standard (Attempt.ask Desk.inputs complete prompt)
          ⟨source, .piped []⟩)
        (Pipeline.guard Desk.inputs config .standard (Attempt.ask Desk.inputs complete prompt)
          ⟨stdinSource, .piped []⟩) := by
    intro source hsource
    obtain ⟨es, hread, hheard⟩ := guard_dry hsource
    obtain ⟨ds, hread', hheard'⟩ := guard_dry (.inl rfl)
    rw [hread, hread']
    exact ⟨rfl, .dry, fun heard => (hheard heard).trans (hheard' heard).symm⟩
  intro i j hfed
  cases hfed with
  | dry => exact hdry stdinSource (.inl rfl)
  | @file name cs h =>
    cases cs with
    | nil => exact hdry _ (.inr ⟨name, rfl⟩)
    | cons c cs =>
      -- Both have the same first line, and the same lines after it.
      have hnewline : '\n' ∉ (c :: cs).takeWhile (· != '\n') := fun hmem => by
        simpa using List.all_eq_true.mp List.all_takeWhile _ hmem
      rw [linesAt_newline (List.cons_ne_nil c cs), List.map_cons,
        Standing.guard_of_ok (ask_line name _ _ hnewline _), Standing.guard_of_ok (ask_text h)]
      exact ⟨rfl, .file name fun hr => h (takeLine_snd_subset _ hr), fun _ => rfl⟩

end Reads

/-! ## Sessions -/

namespace Session

variable {σ α : Type} {setup : Setup Source Desk σ} {s t : Session Source Desk σ}

/-- **A session on a file is heard as one on a stream with the same lines is.** -/
theorem opened_fed (hinputs : setup.inputs = Desk.inputs) (hpolicies : setup.policies = .standard)
    (hhooks : setup.KeepsSource "before_session" s.evaluator) (h : Like Fed s t) (n : Nat) :
    (opened setup n s).Alike Event.hear (Like Fed) (opened setup n t) := by
  have hasks : setup.AsksAlike Event.hear (fun _ => True) Fed := by
    intro s prompt i j hij _
    unfold question
    rw [hinputs, hpolicies]
    exact guard_fed i j hij
  exact opened_alike_of hasks rfl (begin_alike Event.hear_unlogged h hhooks) fun _ _ => trivial

end Session

/-! ## The command -/

namespace CommandLine

/-- What is heard of a performance. -/
def heard {σ : Type} (p : Performance Source Desk σ) : List Event := p.events.foldl Event.hear []

variable {π : Type} (runtime : Console.Runtime π) (inv : Invocation) (config : Config)

/-- The session of the command on a file. -/
def fileSession (name : Value) (text : List Char) : Session Source Desk (Hooked Source Console) :=
  .initial (commandSetup runtime inv config) console ⟨.lines name (fileLines text), .piped []⟩

/-- The session of the command on a text that is piped. -/
def pipedSession (text : List Char) : Session Source Desk (Hooked Source Console) :=
  .initial (commandSetup runtime inv config) console
    ⟨stdinSource, .piped (normalizeNewlines text)⟩

/-- **When a file is read as a stream of its text is.** The source of a file delivers the lines
between the boundaries of its text, and then its end. A stream of the text delivers the same exactly
if the text has no boundary but line ends, and so does the standard input. Then the command does the
same on the file as on its text piped to it: the evaluator is handed the same lines and comes to the
same, with the same prompts and the same on the screen. -/
theorem file_fed (text : List Char) :
    (∀ complete prompt name streamName echo,
      Delivers (Source.read complete prompt) (.lines name (fileLines text)) (fileLines text) ∧
      Delivers (Source.read complete prompt) (.stream streamName echo (normalizeNewlines text))
        (streamLines text) ∧
      ((∀ lines, Delivers (Source.read complete prompt) (.lines name (fileLines text)) lines ↔
        Delivers (Source.read complete prompt) (.stream streamName echo (normalizeNewlines text))
          lines) ↔ PlainlyEnded text)) ∧
      (∀ complete prompt, Delivers (Desk.inputs.read complete prompt)
        ⟨stdinSource, .piped (normalizeNewlines text)⟩ (streamLines text)) ∧
      (PlainlyEnded text →
        ∀ {π : Type} (runtime : Console.Runtime π) (inv : Invocation) (config : Config) name,
        ∃ p q : Performance Source Desk (Hooked Source Console),
          (plan runtime inv config (some (.lines name (fileLines text)))).perform? turnLimit console
            (supply { inv with stdin := [] }) = some p ∧
          (plan runtime inv config none).perform? turnLimit console
            (supply { inv with stdin := text }) = some q ∧
          p.result = q.result ∧ p.evaluator = q.evaluator ∧ heard p = heard q) := by
  have hreturn := return_not_mem_normalizeNewlines text
  refine ⟨fun complete prompt name streamName echo => ⟨?_, ?_, ?_⟩, fun complete prompt => ?_,
    fun hplain π runtime inv config name => ?_⟩
  · exact fileSource_delivers complete prompt name text
  · exact Source.stream_delivers complete prompt streamName echo hreturn
  · exact delivers_same_iff complete prompt name streamName echo text
  · exact Desk.standardInput_delivers complete prompt _ (.piped []) { name := _ } hreturn
  let setup := commandSetup runtime inv config
  let s := fileSession runtime inv config name text
  let t := pipedSession runtime inv config text
  -- Both sessions end, and within a common limit they end as they do within their own.
  let file : Option Source := some (.lines name (fileLines text))
  obtain ⟨r, hr⟩ : ∃ r, Session.run? setup (turnLimit s) s = some r :=
    Option.isSome_iff_exists.mp (startSession_ends runtime { inv with stdin := [] } config file)
  obtain ⟨q, hq⟩ : ∃ q, Session.run? setup (turnLimit t) t = some q :=
    Option.isSome_iff_exists.mp (startSession_ends runtime { inv with stdin := text } config none)
  have hlike : Session.Like Fed s t := by
    refine ⟨rfl, rfl, ?_⟩
    show Fed ⟨.lines name (fileLines text), _⟩ _
    rw [(fileLines_eq_iff text).mpr hplain]
    exact .file name hreturn
  have hopened : (Session.opened setup (turnLimit s + turnLimit t) s).Alike Event.hear
      (Session.Like Fed) (Session.opened setup (turnLimit s + turnLimit t) t) :=
    Session.opened_fed rfl rfl (console_keepsSource runtime inv config _) hlike _
  have hlong := Session.run?_mono hr (turnLimit t)
  have hlong' := Session.run?_mono hq (turnLimit s)
  rw [Nat.add_comm] at hlong'
  rcases Session.run?_alike_of Event.hear_unlogged hopened with
    ⟨hnone, -⟩ | ⟨r', q', hr', hq', halike⟩
  · rw [hlong] at hnone
    cases hnone
  · obtain rfl := Option.some.inj (hlong.symm.trans hr')
    obtain rfl := Option.some.inj (hlong'.symm.trans hq')
    have hp := (perform_plan runtime { inv with stdin := [] } config file).trans
      (congrArg (Option.map (performed file)) hr)
    have hp' := (perform_plan runtime { inv with stdin := text } config none).trans
      (congrArg (Option.map (performed none)) hq)
    refine ⟨performed file r, performed none q, hp, hp', halike.result_eq,
      halike.state.evaluator_eq, ?_⟩
    exact halike.noted_eq []

/-- A form feed ends a line of a file, also within a literal, and none of a stream. -/
example : fileLines "x = 'a\x0cb'\n".toList = ["x = 'a", "b'"] ∧
    streamLines "x = 'a\x0cb'\n".toList = ["x = 'a\x0cb'"] := ⟨rfl, rfl⟩

end CommandLine

end PromptLoop
