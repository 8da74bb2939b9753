import PromptLoop.Proofs.Session.Splitting

/-!
# The presentation of a session

What a session looks like depends on its screen, on the family of the terminal and on whether echoed
lines are painted again. None of them is heard of elsewhere: the presentation decides what the loop
itself writes, and nothing that it does.

## Main definitions

* `Setup.shown`: a setup with another presentation
* `Event.isPaint`, `unpainted`: what the loop itself writes, and the events without it
* `Session.SameButShown`: two runs that differ in their presentation alone

## Main results

* `Pipeline.guard_congr`: what a guarded attempt takes from the settings
* `Session.turn_shown`: a turn does the same whatever it looks like
* `Session.presentation_unseen`: so does a session
-/

namespace PromptLoop

variable {ι δ σ α : Type}

/-- A setup with another presentation: another screen, another family of terminals, and echoed lines
painted again or not. -/
def Setup.shown (setup : Setup ι δ σ) (screen : Screen) (family : Terminal.Family)
    (correctIndent : Bool) : Setup ι δ σ :=
  { setup with config := { setup.config with correctIndent }, screen, family }

/-- A write of the loop itself. -/
def Event.isPaint : Event → Bool
  | .loop (.wrote _) => true
  | _ => false

/-- Events without what the loop itself writes. -/
def unpainted (es : List Event) : List Event := es.filter fun e => !e.isPaint

/-- Notes every event but what the loop itself writes. -/
def Event.unpaint (seen : List Event) (e : Event) : List Event :=
  if e.isPaint then seen else seen ++ [e]

theorem foldl_unpaint (es seen : List Event) :
    es.foldl Event.unpaint seen = seen ++ unpainted es := by
  induction es generalizing seen with
  | nil => simp [unpainted]
  | cons e es ih =>
    rw [List.foldl_cons, ih]
    cases h : e.isPaint <;> simp [Event.unpaint, unpainted, h]

/-! ## What recovery takes from the settings -/

section Recovery

variable (inputs : Inputs ι δ) {config other : Config}
  (hretries : other.maxReadRetries = config.maxReadRetries)
  (hrescues : other.rescues = config.rescues)

include hretries

theorem Policy.reportFailure_congr (count : Nat) (f : Failure) :
    Policy.reportFailure inputs other count f = Policy.reportFailure inputs config count f := by
  unfold Policy.reportFailure Policy.failureReport Policy.failureRecord?
  rw [hretries]

include hrescues

theorem Policy.retrying_congr (attempt : Attempt ι δ) (failed left : Nat) :
    Policy.retrying inputs other attempt failed left =
      Policy.retrying inputs config attempt failed left := by
  -- by induction on the retries that are left, which the settings give only the first time
  induction left generalizing failed with
  | zero => simp only [Policy.retrying, hrescues, Policy.reportFailure_congr inputs hretries]
  | succ left ih =>
    simp only [Policy.retrying, hrescues, Policy.reportFailure_congr inputs hretries, ih]

theorem Policy.guard_congr (policy : Policy) (attempt : Attempt ι δ) :
    policy.guard inputs other attempt = policy.guard inputs config attempt := by
  cases policy with
  | readError =>
    show Policy.retrying inputs other attempt 0 (other.maxReadRetries.toNat - 1) = _
    rw [hretries, Policy.retrying_congr inputs hretries hrescues]
    rfl
  | interrupt => rfl
  | endOfInput => rfl
  | unspecified => rfl
  | recording name => rfl

/-- **A guarded attempt takes from the settings its budget and what it rescues**, and nothing
else. -/
theorem Pipeline.guard_congr (policies : Pipeline) (attempt : Attempt ι δ) :
    Pipeline.guard inputs other policies attempt =
      Pipeline.guard inputs config policies attempt := by
  unfold guard
  congr 1
  funext attempt policy
  exact policy.guard_congr inputs hretries hrescues attempt

end Recovery

namespace Session

section Presentation

variable (setup : Setup ι δ σ) (screen : Screen) (family : Terminal.Family) (correctIndent : Bool)

/-! ## What the loop writes -/

/-- Nobody who leaves out what the loop writes can tell whether it has written. -/
theorem paint_alike (w w' : Write) {c c' : Prop} [Decidable c] [Decidable c'] (a : α) :
    Act.Alike Event.unpaint Eq
      (if c then (do write w; return a : Act Event (Session ι δ σ) α) else pure a)
      (if c' then (do write w'; return a) else pure a) := by
  rintro s _ rfl
  split <;> split <;> exact ⟨rfl, rfl, fun _ => rfl⟩

theorem endPrompt_shown :
    Act.Alike Event.unpaint Eq (endPrompt setup : Act Event (Session ι δ σ) Unit)
      (endPrompt (setup.shown screen family correctIndent)) :=
  paint_alike _ _ ()

/-- A line is corrected in the same way, whether its echo is painted again or not. -/
theorem correct_shown (indentation : List Char) (prompt line : String) :
    Act.Alike Event.unpaint Eq (correct setup indentation prompt line)
      (correct (setup.shown screen family correctIndent) indentation prompt line) := by
  refine .ite (.bind (.refl _) fun corrected => ?_) (.pure _)
  exact paint_alike _ _ _

/-! ## Turns -/

theorem question_shown (s : Session ι δ σ) (prompt : String) :
    s.question (setup.shown screen family correctIndent) prompt = s.question setup prompt := by
  refine Pipeline.guard_congr setup.inputs ?_ ?_ setup.policies _
  · rfl
  · rfl

theorem read_shown (prompt : String) :
    Act.Alike Event.unpaint Eq (read setup prompt)
      (read (setup.shown screen family correctIndent) prompt) := by
  refine .bind (.refl _) fun _ => .current_bind ?_
  rintro s _ rfl
  refine .bind (.refl _) fun indentation => .bind ?_ fun outcome => ?_
  · -- The question is the same, for no policy asks what the session looks like.
    rw [question_shown]
    exact .refl _
  · cases outcome with
    | line text => exact .bind (correct_shown _ _ _ _ _ _ _) fun _ => .pure _
    | endOfSession => exact .pure _
    | interrupted => exact .pure _
    | noMoreInput => exact .pure _

theorem respond_shown (outcome : Outcome) :
    Act.Alike Event.unpaint Eq (respond setup outcome)
      (respond (setup.shown screen family correctIndent) outcome) := by
  cases outcome with
  | line text => exact .refl _
  | interrupted => exact .refl _
  | endOfSession => exact .bind (endPrompt_shown _ _ _ _) fun _ => .refl _
  | noMoreInput => exact .bind (endPrompt_shown _ _ _ _) fun _ => .refl _

/-- **A turn does the same, whatever it looks like.** -/
theorem turn_shown :
    Act.Alike Event.unpaint Eq (turn setup) (turn (setup.shown screen family correctIndent)) :=
  .bind (.refl _) fun _ => .bind (read_shown _ _ _ _ _) fun _ => respond_shown _ _ _ _ _

theorem turnsWithin_shown (n : Nat) :
    Act.Alike Event.unpaint Eq (turnsWithin setup n)
      (turnsWithin (setup.shown screen family correctIndent) n) := by
  induction n with
  | zero => exact .pure _
  | succ n ih =>
    refine .bind (turn_shown _ _ _ _) fun turned => ?_
    cases turned with
    | again => exact ih
    | done v => exact .pure _

/-! ## Before the first turn and after the last -/

theorem obey_shown (es : List (HookEvent ι)) :
    obey (setup.shown screen family correctIndent) es =
      (obey setup es : Act Event (Session ι δ σ) Unit) := by
  induction es with
  | nil => rfl
  | cons e es ih =>
    cases e with
    | ran name => simp only [obey, ih]
    | notice n => simp only [obey, ih]
    | switched source =>
      simp only [obey, ih]
      rfl

theorem fire_shown (event : String) :
    fire (setup.shown screen family correctIndent) event = fire setup event := by
  have hcall : callHooks (setup.shown screen family correctIndent) = callHooks setup := by
    funext event binding s
    show Run.mk _ _ _ = Run.mk _ _ _
    rw [obey_shown]
    rfl
  unfold fire
  rw [hcall]
  rfl

theorem finish_shown : finish (setup.shown screen family correctIndent) = finish setup := by
  unfold finish
  rw [fire_shown]

theorem prelude_shown :
    Act.Alike Event.unpaint Eq (prelude setup)
      (prelude (setup.shown screen family correctIndent)) := by
  refine .bind ?_ fun _ => paint_alike _ _ ()
  rw [fire_shown]
  exact .refl _

/-! ## A whole session -/

/-- Two runs that differ in their presentation alone. They come to the same and leave the same
state. Each starts with a record of its own, and after that they show the same, up to what the loop
itself writes. -/
structure SameButShown (record record' : Event) (r q : Run Event (Session ι δ σ) α) : Prop where
  result_eq : r.result = q.result
  state_eq : r.state = q.state
  events : ∃ es ds, r.events = record :: es ∧ q.events = record' :: ds ∧ unpainted es = unpainted ds

variable {setup screen family correctIndent} in
theorem SameButShown.of_alike {record record' : Event} {r q : Run Event (Session ι δ σ) α}
    (h : r.Alike Event.unpaint Eq q) :
    SameButShown record record' (r.after [record]) (q.after [record']) where
  result_eq := h.result_eq
  state_eq := h.state
  events := by
    refine ⟨r.events, q.events, rfl, rfl, ?_⟩
    simpa only [foldl_unpaint, List.nil_append] using h.noted_eq []

/-- **The presentation of a session has no bearing on what it does.** Two sessions that differ in
their screen, in the family of the terminal and in whether echoed lines are painted again come to
the same within any number of turns: they ask the same sources with the same prompts, tell the
evaluator the same and fire the same events, leave the same state, and end in the same way. They
differ in what the loop itself writes, and in the name of the screen that the first record gives. -/
theorem presentation_unseen (n : Nat) (s : Session ι δ σ) :
    let other := setup.shown screen family correctIndent
    SameButShown (startRecord setup s) (startRecord other s) (opened setup n s)
        (opened other n s) ∧
      Option.Rel (SameButShown (startRecord setup s) (startRecord other s)) (run? setup n s)
        (run? other n s) := by
  intro other
  have hopened : Run.Alike Event.unpaint Eq ((do prelude setup; turnsWithin setup n) s)
      ((do prelude other; turnsWithin other n) s) :=
    (prelude_shown setup screen family correctIndent).bind
      (fun _ => turnsWithin_shown setup screen family correctIndent n) s s rfl
  constructor
  · rw [opened_eq, opened_eq]
    exact .of_alike hopened
  · rw [run?_eq, run?_eq, opened_eq, opened_eq, Run.ended?_after, Run.ended?_after]
    -- What has ended on one side has ended on the other, and the same comes after it.
    rcases ended?_alike hopened with ⟨hr, hq⟩ | ⟨r, q, hr, hq, halike⟩
    · rw [hr, hq]
      exact .none
    · have hfinish : Act.Alike Event.unpaint Eq (finish setup) (finish other) := by
        rw [finish_shown]
        exact .refl _
      have hensured : Run.Alike Event.unpaint Eq (r.ensuring (finish setup))
          (q.ensuring (finish other)) := halike.ensuring hfinish
      rw [hr, hq]
      exact .some (.of_alike hensured)

end Presentation

end Session

end PromptLoop
