import PromptLoop.Proofs.Console.Lines

/-!
# The account of a console

The calls that a console has answered fall into segments, one after the other: lines that made a
statement, lines that were refused or discarded, and calls that were handled aside. What is left are
the lines of the unfinished statement. A console does to each segment what it would do to it alone,
so a statement is run once, when its last line has come.

## Main definitions

* `Console.Call`: a line, a wish to end the session, or a reset
* `Console.serve`: calls that are answered one after the other
* `Console.Unfinished`: lines that a console only collects
* `Console.Segment`: what becomes of consecutive calls
* `Console.Segment.Valid`: a segment that is what it says
* `Console.Segment.perform`: what a console does to a segment
* `Console.Runtime.announcing`: a runtime that tells of what it runs

## Main results

* `Console.Call.perform_cases`: a call adds a line or ends a segment
* `Console.Segment.perform_statements`: only statements enter the history
* `Console.Segment.perform_exec`: only statements are run
* `Console.Segment.perform_announcing`: and each of them once
* `Console.accounted`: the account of the calls that a console has answered
-/

namespace PromptLoop.Console

open Text

variable {π : Type} {runtime : Runtime π} {c : Console}

/-- What a console is called with. -/
inductive Call
  /-- A line, or the wish to end the session. -/
  | eval (line : Option String)
  /-- The unfinished statement is given up. -/
  | reset
  deriving DecidableEq, Repr

namespace Call

/-- Answers a call; its verdict is left out. -/
def perform (runtime : Runtime π) : Call → Act Notice Console Unit
  | .eval line => (fun _ => ()) <$> Console.eval runtime line
  | .reset => Act.change discard

/-- A call that discards the unfinished statement. -/
def Discards : Call → Prop
  | .eval (some line) => isClearing line = true
  | _ => True

/-- A call that does nothing to statements where none is unfinished: a line is blank or a command
there. -/
def IsAside : Call → Prop
  | .eval (some line) => isAside line = true
  | _ => True

/-- What a call does that adds no line, where nothing is unfinished: a line is handled as a command,
if it is one. -/
def aside (runtime : Runtime π) : Call → Act Notice Console Unit
  | .eval (some line) => (fun _ => ()) <$> dispatch runtime line
  | _ => pure ()

end Call

/-- A runtime that tells of each statement that it is about to run. -/
def Runtime.announcing (notice : Notice) (runtime : Runtime π) : Runtime π :=
  { runtime with
    exec := fun echo code => do
      Act.emit [notice]
      runtime.exec echo code }

/-- Answers calls one after the other. -/
def serve (runtime : Runtime π) (calls : List Call) : Act Notice Console Unit :=
  calls.forM (Call.perform runtime)

/-- Lines as calls. -/
def evals (lines : List String) : List Call := lines.map fun line => .eval (some line)

@[simp] theorem evals_append (lines more : List String) :
    evals (lines ++ more) = evals lines ++ evals more := List.map_append

/-- Lines that a console only collects: each goes to those before it, and with those it is the start
of a statement but no statement. -/
def Unfinished (runtime : Runtime π) (lines : List String) : Prop :=
  ∀ front line, front ++ [line] <+: lines →
    AddsTo front line ∧ runtime.compile (source (front ++ [line])) = .ok none

/-- What becomes of consecutive calls, the first where nothing is unfinished. -/
inductive Segment (π : Type)
  /-- Lines that make a statement. -/
  | statement (front : List String) (last : String) (code : π)
  /-- Lines that are refused. -/
  | refused (front : List String) (last : String) (f : Failure)
  /-- Lines of an unfinished statement and the call that discards them. -/
  | dropped (front : List String) (last : Call)
  /-- A call that adds no line. -/
  | aside (call : Call)

namespace Segment

/-- The calls of a segment. -/
def calls : Segment π → List Call
  | .statement front last _ => evals (front ++ [last])
  | .refused front last _ => evals (front ++ [last])
  | .dropped front last => evals front ++ [last]
  | .aside call => [call]

/-- What a segment adds to the history. -/
def entry? : Segment π → Option String
  | .statement front last _ => some (source (front ++ [last]))
  | _ => none

/-- A segment that is what it says: only with the last of its lines there is something to run, to
refuse or to discard. -/
def Valid (runtime : Runtime π) : Segment π → Prop
  | .statement front last code => Unfinished runtime front ∧ AddsTo front last ∧
    runtime.compile (source (front ++ [last])) = .ok (some code)
  | .refused front last f => Unfinished runtime front ∧ AddsTo front last ∧
    runtime.compile (source (front ++ [last])) = .error f ∧ f.isAny refusals = true
  | .dropped front last => Unfinished runtime front ∧ front ≠ [] ∧ last.Discards
  | .aside call => call.IsAside

/-- What a console does to a segment, where nothing is unfinished: a statement enters the history
and is run, a refusal is shown, and what adds no line may be a command. -/
def perform (runtime : Runtime π) : Segment π → Act Notice Console Unit
  | .statement front last code => do
    Act.change fun c => { c with history := c.history ++ [source (front ++ [last])] }
    (fun _ => ()) <$> runStatement runtime code
  | .refused _ _ f => refuse f
  | .dropped _ last => last.aside runtime
  | .aside call => call.aside runtime

end Segment

/-! ## What a call comes to -/

section Call

variable {line : String} {lines : List String}

theorem unfinished_nil : Unfinished runtime [] := by
  intro front line hprefix
  exact absurd (List.prefix_nil.mp hprefix) (by simp)

/-- Another line that makes no statement yet. -/
theorem Unfinished.add (h : Unfinished runtime lines) (hadds : AddsTo lines line)
    (hcompile : runtime.compile (source (lines ++ [line])) = .ok none) :
    Unfinished runtime (lines ++ [line]) := by
  intro front last hprefix
  -- A prefix is all of the lines or one of those before the last.
  rcases List.prefix_concat_iff.mp hprefix with hall | hbefore
  · obtain ⟨rfl, hlast⟩ := List.append_inj' hall rfl
    obtain rfl := List.singleton_inj.mp hlast
    exact ⟨hadds, hcompile⟩
  · exact h front last hbefore

namespace Call

variable {call : Call}

theorem IsAside.of_discards (h : call.Discards) : call.IsAside := by
  rcases call with (_ | line) | _
  · trivial
  · exact isAside_of_isClearing h
  · trivial

/-- A call that adds no line is answered as if nothing were unfinished. -/
theorem perform_eq_aside (h : call.Discards ∨ c.buffer = [] ∧ call.IsAside) :
    call.perform runtime c = call.aside runtime c.discard := by
  rcases call with (_ | line) | _
  · -- A wish to end the session leaves nothing unfinished, whether or not it is granted.
    show (_ <$> evalEnd : Act Notice Console Unit) c = _
    rw [Act.map_apply, evalEnd, Act.bind_apply, Act.current_apply, Run.andThen_ok, Run.after_nil]
    by_cases hempty : c.buffer.isEmpty = true
    · rw [if_pos hempty, discard_of_buffer_eq_nil (List.isEmpty_iff.mp hempty)]
      rfl
    · rw [if_neg hempty]
      rfl
  · have hadds : ¬AddsTo c.buffer line := by
      rintro ⟨hclear, hfirst⟩
      rcases h with hdiscards | ⟨hempty, haside⟩
      · exact Bool.false_ne_true (hclear.symm.trans hdiscards)
      · exact Bool.false_ne_true ((hfirst hempty).symm.trans haside)
    have hdispatch : dispatch runtime line c = dispatch runtime line c.discard := by
      rcases h with hdiscards | ⟨hempty, -⟩
      · rw [dispatch, recognise_of_isClearing hdiscards]
        rfl
      · rw [discard_of_buffer_eq_nil hempty]
    show (_ <$> evalLine runtime line : Act Notice Console Unit) c = _
    rw [Act.map_apply, evalLine_of_not_addsTo hadds, Act.map_apply, hdispatch]
    show _ = (_ <$> dispatch runtime line : Act Notice Console Unit) c.discard
    rw [Act.map_apply]
    rcases dispatch runtime line c.discard with ⟨f | reply?, d, es⟩ <;> rfl
  · rfl

/-- A call that adds no line ends a segment, with the lines that it discards. -/
theorem exists_aside (hlines : Unfinished runtime c.buffer)
    (h : call.Discards ∨ c.buffer = [] ∧ call.IsAside) :
    ∃ segment : Segment π, segment.Valid runtime ∧ segment.calls = evals c.buffer ++ [call] ∧
      call.perform runtime c = segment.perform runtime c.discard := by
  -- Where nothing is unfinished the call stands alone, else it discards the lines before it.
  by_cases hempty : c.buffer = []
  · have haside : call.IsAside := by
      rcases h with hdiscards | ⟨-, haside⟩
      · exact .of_discards hdiscards
      · exact haside
    refine ⟨.aside call, haside, ?_, perform_eq_aside h⟩
    rw [hempty]
    rfl
  · have hdiscards : call.Discards := h.resolve_right fun h => hempty h.1
    exact ⟨.dropped c.buffer call, ⟨hlines, hempty, hdiscards⟩, rfl, perform_eq_aside h⟩

/-- A line that is added makes a statement, is refused, or is collected. -/
theorem perform_of_addsTo (hlines : Unfinished runtime c.buffer) (hadds : AddsTo c.buffer line)
    (h : (perform runtime (.eval (some line)) c).result = .ok ()) :
    (Unfinished runtime (c.buffer ++ [line]) ∧
        perform runtime (.eval (some line)) c = ⟨.ok (), c.add line, []⟩) ∨
      ∃ segment : Segment π, segment.Valid runtime ∧ segment.calls = evals (c.buffer ++ [line]) ∧
        perform runtime (.eval (some line)) c = segment.perform runtime c.discard := by
  have htake : perform runtime (.eval (some line)) c =
      ((fun _ => ()) <$> take runtime line : Act Notice Console Unit) c := by
    show (_ <$> evalLine runtime line : Act Notice Console Unit) c = _
    rw [Act.map_apply, evalLine_of_addsTo hadds, Act.map_apply]
  rw [htake, Act.map_apply, take_apply] at h ⊢
  -- What the lines compile to decides; a failure that is no refusal would not be answered.
  rcases hcompile : runtime.compile (source (c.buffer ++ [line])) with f | (_ | code)
  · rw [hcompile] at h
    by_cases hrefused : f.isAny refusals = true
    · refine .inr ⟨.refused c.buffer line f, ⟨hlines, hadds, hcompile, hrefused⟩, rfl, ?_⟩
      simp only [if_pos hrefused]
      rw [Act.map_apply]
      show Run.mk _ _ _ = refuse f c.discard
      rcases refuse f c.discard with ⟨g | ⟨⟩, d, es⟩ <;> rfl
    · simp only [if_neg hrefused] at h
      cases h
  · exact .inl ⟨hlines.add hadds hcompile, rfl⟩
  · refine .inr ⟨.statement c.buffer line code, ⟨hlines, hadds, hcompile⟩, rfl, ?_⟩
    show _ = (_ <$> runStatement runtime code : Act Notice Console Unit) (accept (c.add line))
    rw [Act.map_apply]

/-- **A call that is answered adds a line or ends a segment**: the console then does what it does to
that segment alone. -/
theorem perform_cases (hlines : Unfinished runtime c.buffer)
    (h : (call.perform runtime c).result = .ok ()) :
    (∃ line, call = .eval (some line) ∧ Unfinished runtime (c.buffer ++ [line]) ∧
        call.perform runtime c = ⟨.ok (), c.add line, []⟩) ∨
      ∃ segment : Segment π, segment.Valid runtime ∧ segment.calls = evals c.buffer ++ [call] ∧
        call.perform runtime c = segment.perform runtime c.discard := by
  rcases call with (_ | line) | _
  · exact .inr (exists_aside hlines (.inl trivial))
  · by_cases hadds : AddsTo c.buffer line
    · rcases perform_of_addsTo hlines hadds h with ⟨hmore, hperform⟩ | ⟨s, hvalid, hcalls, hperform⟩
      · exact .inl ⟨line, rfl, hmore, hperform⟩
      · exact .inr ⟨s, hvalid, hcalls.trans (evals_append _ _), hperform⟩
    · obtain ⟨hcounts, haside⟩ := counts_of_not_addsTo hadds
      rw [Bool.or_eq_true, List.isEmpty_iff] at hcounts
      exact .inr (exists_aside hlines (hcounts.symm.imp_right fun hempty => ⟨hempty, haside⟩))
  · exact .inr (exists_aside hlines (.inl trivial))

end Call

end Call

/-! ## What a segment does -/

namespace Segment

variable (segment : Segment π)

/-- **Only statements enter the history**, and nothing is unfinished after a segment. -/
theorem perform_statements (h : c.buffer = []) :
    (segment.perform runtime c).state.statements = ([], c.history ++ segment.entry?.toList) := by
  have hstay : c.statements = ([], c.history ++ []) := by
    rw [List.append_nil, ← h]
    rfl
  -- A command may look at the statements, but where none is unfinished it leaves them alone.
  have haside : ∀ call : Call, (call.aside runtime c).state.statements = ([], c.history ++ []) := by
    intro call
    rcases call with (_ | line) | _
    · exact hstay
    · show ((_ <$> dispatch runtime line : Act Notice Console Unit) c).state.statements = _
      rw [Act.map_apply]
      rw [List.append_nil]
      exact congrArg Console.statements (dispatch_state (.inl h))
    · exact hstay
  cases segment with
  | statement front last code =>
    show ((_ <$> runStatement runtime code : Act Notice Console Unit) _).state.statements = _
    rw [Act.map_apply]
    exact (runStatement_keeps code _).trans (congrArg (fun buffer => (buffer, _)) h)
  | refused front last f => exact (refuse_keeps f c).trans hstay
  | dropped front last => exact haside last
  | aside call => exact haside call

/-- **Only statements are run.** -/
theorem perform_exec (h : segment.entry? = none)
    (exec : (Value → Act Notice Scope Unit) → π → Act Notice Scope Ending) :
    segment.perform { runtime with exec } = segment.perform runtime := by
  cases segment with
  | statement front last code => cases h
  | refused front last f => rfl
  | dropped front last => rcases last with (_ | line) | _ <;> rfl
  | aside call => rcases call with (_ | line) | _ <;> rfl

variable (runtime) in
/-- A statement is told of once, before it does anything. -/
theorem runStatement_announcing (notice : Notice) (code : π) (c : Console) :
    runStatement (runtime.announcing notice) code c =
      (runStatement runtime code c).after [notice] := by
  rw [runStatement_apply, runStatement_apply]
  rfl

/-- **Each statement is run once**: a runtime that tells of what it runs does so once for a segment
that is a statement, and for no other segment. -/
theorem perform_announcing (notice : Notice) (c : Console) :
    segment.perform (runtime.announcing notice) c =
      (segment.perform runtime c).after (segment.entry?.toList.map fun _ => notice) := by
  cases hentry : segment.entry? with
  | none => exact congrFun (segment.perform_exec hentry _) c
  | some entry =>
    cases segment with
    | statement front last code =>
      rw [perform, perform, Act.bind_apply, Act.bind_apply, Act.change_apply, Run.andThen_ok,
        Run.andThen_ok, Act.map_apply, Act.map_apply, runStatement_announcing]
      rfl
    | _ => cases hentry

end Segment

/-! ## The account -/

/-- Does one segment after the other. -/
def performAll (runtime : Runtime π) (segments : List (Segment π)) : Act Notice Console Unit :=
  segments.forM (Segment.perform runtime)

theorem serve_cons (call : Call) (calls : List Call) (c : Console) :
    serve runtime (call :: calls) c =
      (call.perform runtime c).andThen fun _ => serve runtime calls :=
  rfl

/-- The account from any point on, with the lines that are unfinished there. -/
theorem serve_cases {calls : List Call} (hlines : Unfinished runtime c.buffer)
    (h : (serve runtime calls c).result = .ok ()) :
    ∃ (segments : List (Segment π)) (rest : List String),
      evals c.buffer ++ calls = segments.flatMap Segment.calls ++ evals rest ∧
      (∀ segment ∈ segments, segment.Valid runtime) ∧ Unfinished runtime rest ∧
      serve runtime calls c =
        (do performAll runtime segments; Act.change fun d => { d with buffer := rest }) c.discard ∧
      (serve runtime calls c).state.statements =
        (rest, c.history ++ segments.filterMap Segment.entry?) := by
  -- by induction on the calls, for any lines that may be unfinished in front of them
  induction calls generalizing c with
  | nil =>
    refine ⟨[], c.buffer, ?_, ?_, hlines, rfl, ?_⟩
    · rw [List.append_nil]
      rfl
    · intro segment hsegment
      cases hsegment
    · rw [List.filterMap_nil, List.append_nil]
      rfl
  | cons call calls ih =>
    rw [serve_cons] at h ⊢
    rcases hcall : call.perform runtime c with ⟨f | _, d, es⟩
    · rw [hcall] at h
      cases h
    · have hok : (call.perform runtime c).result = .ok () := by rw [hcall]
      rw [hcall, Run.andThen_ok] at h
      rw [Run.andThen_ok]
      rcases call.perform_cases hlines hok with
        ⟨line, rfl, hmore, hperform⟩ | ⟨segment, hvalid, hcalls, hperform⟩
      · -- The line is collected, and the account goes on with it in the buffer.
        obtain ⟨-, rfl, rfl⟩ := Run.mk.inj (hcall.symm.trans hperform)
        obtain ⟨segments, rest, haccount, hall, hrest, hserve, hstatements⟩ := ih hmore h
        refine ⟨segments, rest, ?_, hall, hrest, hserve, hstatements⟩
        rw [← haccount]
        show _ = evals (c.buffer ++ [line]) ++ calls
        rw [evals_append, List.append_assoc]
        rfl
      · -- The segment ends, and the account goes on with an empty buffer.
        have hsegment : segment.perform runtime c.discard = ⟨.ok (), d, es⟩ :=
          hperform.symm.trans hcall
        have hstatements : d.statements = ([], c.history ++ segment.entry?.toList) := by
          have hdone : (segment.perform runtime c.discard).state.statements = _ :=
            segment.perform_statements rfl
          rwa [hsegment] at hdone
        have hempty : d.buffer = [] := congrArg Prod.fst hstatements
        have hhistory : d.history = c.history ++ segment.entry?.toList :=
          congrArg Prod.snd hstatements
        have hnone : Unfinished runtime d.buffer := by
          rw [hempty]
          exact unfinished_nil
        obtain ⟨segments, rest, haccount, hall, hrest, hserve, hstatements'⟩ := ih hnone h
        rw [hempty] at haccount
        refine ⟨segment :: segments, rest, ?_, ?_, hrest, ?_, ?_⟩
        · rw [List.flatMap_cons, hcalls, List.append_assoc, List.append_assoc, ← haccount]
          rfl
        · exact List.forall_mem_cons.mpr ⟨hvalid, hall⟩
        · show _ = ((segment.perform runtime >>= fun _ => performAll runtime segments) >>= _)
            c.discard
          rw [bind_assoc, Act.bind_apply, hsegment, Run.andThen_ok, hserve,
            discard_of_buffer_eq_nil hempty]
        · rw [Run.after_state, hstatements', hhistory, List.append_assoc, List.filterMap_cons]
          cases segment.entry? <;> rfl

/-- **The account of a console.** Where nothing is unfinished at first and no call fails, the calls
are segments one after the other and the lines that are unfinished at the end, and the console does
what it does to each segment alone. So its history grows by the statements among the segments, in
their order, and every other line is accounted for. Nothing else is run: a runtime that tells of
what it runs does so once for each statement. -/
theorem accounted {calls : List Call} (hempty : c.buffer = [])
    (h : (serve runtime calls c).result = .ok ()) :
    ∃ (segments : List (Segment π)) (rest : List String),
      calls = segments.flatMap Segment.calls ++ evals rest ∧
      (∀ segment ∈ segments, segment.Valid runtime) ∧ Unfinished runtime rest ∧
      serve runtime calls c =
        (do performAll runtime segments; Act.change fun d => { d with buffer := rest }) c ∧
      (serve runtime calls c).state.history =
        c.history ++ segments.filterMap Segment.entry? ∧
      (serve runtime calls c).state.buffer = rest ∧
      (∀ segment ∈ segments, segment.entry? = none →
        ∀ exec, segment.perform { runtime with exec } = segment.perform runtime) ∧
      ∀ segment ∈ segments, ∀ notice d,
        segment.perform (runtime.announcing notice) d =
          (segment.perform runtime d).after (segment.entry?.toList.map fun _ => notice) := by
  have hnone : Unfinished runtime c.buffer := by
    rw [hempty]
    exact unfinished_nil
  obtain ⟨segments, rest, haccount, hall, hrest, hserve, hstatements⟩ := serve_cases hnone h
  rw [hempty] at haccount
  rw [discard_of_buffer_eq_nil hempty] at hserve
  exact ⟨segments, rest, haccount, hall, hrest, hserve, congrArg Prod.snd hstatements,
    congrArg Prod.fst hstatements, fun segment _ hentry => segment.perform_exec hentry,
    fun segment _ => segment.perform_announcing⟩

/-- A runtime for which a colon at the end of a text means that more is to come, and a lone bracket
is refused. -/
def colons : Runtime Unit where
  compile text :=
    if text.toList.getLast? = some ':' then .ok none
    else if text = ")" then .error (.raised .invalidSyntax none)
    else .ok (some ())
  exec _ _ := pure .finished
  evaluate _ _ := .ok .null
  candidates _ _ := []

/-- A statement, a refusal, lines that are given up, a blank line and an unfinished statement. -/
def mixedCalls : List Call := evals ["if a:", "b", ")", "if c:"] ++ [.reset] ++ evals ["", "if d:"]

theorem accounted_mixedCalls :
    (({} : Console).buffer = [] ∧ (serve colons mixedCalls {}).result = .ok ()) ∧
    ∃ (segments : List (Segment Unit)) (rest : List String),
      mixedCalls = segments.flatMap Segment.calls ++ evals rest ∧
        segments.filterMap Segment.entry? = ["if a:\nb"] ∧ rest = ["if d:"] := by
  have hok : (serve colons mixedCalls {}).result = .ok () := by rfl
  obtain ⟨segments, rest, hcalls, -, -, -, hhistory, hbuffer, -⟩ := accounted rfl hok
  have hentries : segments.filterMap Segment.entry? = ["if a:\nb"] := hhistory.symm
  exact ⟨⟨rfl, hok⟩, segments, rest, hcalls, hentries, hbuffer.symm⟩

end PromptLoop.Console
