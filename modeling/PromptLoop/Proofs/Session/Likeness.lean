import PromptLoop.Proofs.Act.Likeness
import PromptLoop.Proofs.Session.Reads

/-!
# Sessions that differ in their intakes

Two sessions may differ in their intakes and be the same otherwise. What a turn does apart from its
question does not look at the intake; so if their questions look the same to an observer, the turns
do, and the questions need to look the same only where the reads are of a sort that is known of one
of the sessions.

## Main definitions

* `Setup.hooked`: the hooks of an event, called for a session
* `Session.Like`: two sessions that differ in their intakes alone
* `Setup.AsksAlike`: questions of a sort that look the same on related intakes
* `Setup.KeepsSource`: hooks that leave the source of a session alone
* `Event.Unlogged`: an observer who does not heed how sources are named

## Main results

* `Session.turn_alike_of`, `Session.turnsWithin_alike_of`: turns look the same if their questions do
* `Session.opened_alike_of`: so does a session up to its first turns
* `Session.openedReads_kind_of`: what is known of the reads of one session is known of the other's
* `Session.run?_alike_of`: and so does a whole session
-/

namespace PromptLoop

variable {ι δ σ α γ : Type}

/-- Questions that look the same on related intakes, if the events of the first one are of a
sort. -/
def Setup.AsksAlike (setup : Setup ι δ σ) (note : γ → Event → γ) (sort : List ReadEvent → Prop)
    (I : Intake ι δ → Intake ι δ → Prop) : Prop :=
  ∀ (s : Session ι δ σ) prompt i j, I i j → sort (s.question setup prompt i).events →
    (s.question setup prompt i).Alike (fun seen e => note seen (.reading e)) I
      (s.question setup prompt j)

/-- The hooks of an event, called for a session with its screen, what they are told of the
evaluator, and the session itself. -/
def Setup.hooked (setup : Setup ι δ σ) (event : String) (evaluator : σ) :
    Run (HookEvent ι) σ Argument :=
  setup.evaluator.fire event [.output, setup.evaluator.binding evaluator, .session] evaluator

/-- What the hooks of an event let a session see, by the state of its evaluator. -/
def Setup.hookEvents (setup : Setup ι δ σ) (event : String) (evaluator : σ) : List (HookEvent ι) :=
  (setup.evaluator.fire event [.output, setup.evaluator.binding evaluator, .session]
    evaluator).events

/-- The hooks of an event leave the source of a session alone. -/
def Setup.KeepsSource (setup : Setup ι δ σ) (event : String) (evaluator : σ) : Prop :=
  ∀ source, HookEvent.switched source ∉ setup.hookEvents event evaluator

/-- An observer who does not heed the records that name sources. -/
structure Event.Unlogged (note : γ → Event → γ) : Prop where
  loop : ∀ seen record, note seen (.loop (.logged record)) = seen
  reading : ∀ seen record, note seen (.reading (.notice (.logged record))) = seen

namespace Session

/-- Two sessions that differ in their intakes alone, and in those as it is said. -/
structure Like (I : Intake ι δ → Intake ι δ → Prop) (s t : Session ι δ σ) : Prop where
  evaluator_eq : s.evaluator = t.evaluator
  tracker_eq : s.tracker = t.tracker
  intake : I s.intake t.intake

variable {setup : Setup ι δ σ} {I : Intake ι δ → Intake ι δ → Prop} {note : γ → Event → γ}
  {s t : Session ι δ σ}

/-! ## What does not look at the intake -/

theorem onEvaluator_alike (x : Act Notice σ α) :
    Act.Alike note (Like I) (onEvaluator x : Act Event (Session ι δ σ) α) (onEvaluator x) :=
  .within (.refl x) (fun _ _ h => h.evaluator_eq)
    (fun _ _ _ _ h heq => ⟨heq, h.tracker_eq, h.intake⟩) fun _ _ => rfl

theorem onIntake_alike {x y : Act ReadEvent (Intake ι δ) α}
    (h : Act.Alike (fun seen e => note seen (.reading e)) I x y) :
    Act.Alike note (Like I) (onIntake x : Act Event (Session ι δ σ) α) (onIntake y) :=
  .within h (fun _ _ h => h.intake)
    (fun _ _ _ _ h hintake => ⟨h.evaluator_eq, h.tracker_eq, hintake⟩) fun _ _ => rfl

theorem settle_like (h : Like I s t) : Like I (settle setup s) (settle setup t) := by
  obtain ⟨evaluator, i, tracker⟩ := s
  obtain ⟨evaluator', j, tracker'⟩ := t
  obtain ⟨rfl, rfl, hintake⟩ := h
  unfold settle
  by_cases hempty : setup.evaluator.isBufferEmpty evaluator = true
  · rw [if_pos hempty, if_pos hempty]
    exact ⟨rfl, rfl, hintake⟩
  · rw [if_neg hempty, if_neg hempty]
    exact ⟨rfl, rfl, hintake⟩

theorem correct_alike (indentation : List Char) (prompt text : String) :
    Act.Alike note (Like I) (correct setup indentation prompt text)
      (correct setup indentation prompt text) := by
  have hreindent : Act.Alike note (Like I)
      (reindent text.toList : Act Event (Session ι δ σ) _) (reindent text.toList) :=
    .within (.refl _) (fun _ _ h => h.tracker_eq)
      (fun _ _ _ _ h heq => ⟨h.evaluator_eq, heq, h.intake⟩) fun _ _ => rfl
  refine .ite (.bind hreindent fun corrected => ?_) (.pure _)
  exact .ite (.bind (.emit fun _ => rfl) fun _ => .pure _) (.pure _)

theorem evaluate_alike (line : Option String) :
    Act.Alike note (Like I) (evaluate setup line) (evaluate setup line) := by
  refine .bind (.emit fun _ => rfl) fun _ => .bind (onEvaluator_alike _) fun verdict => ?_
  cases verdict with
  | proceed => exact .pure _
  | raiseUp f => exact .bind (.emit fun _ => rfl) fun _ => .raise f
  | stop v => exact .bind (.emit fun _ => rfl) fun _ => .pure _

theorem endPrompt_alike :
    Act.Alike note (Like I) (endPrompt setup : Act Event (Session ι δ σ) Unit)
      (endPrompt setup) :=
  .ite (.emit fun _ => rfl) (.pure _)

theorem follow_alike (prompt : String) (indentation : List Char) (outcome : Outcome) :
    Act.Alike note (Like I) (follow setup prompt indentation outcome)
      (follow setup prompt indentation outcome) := by
  cases outcome with
  | line text => exact .bind (correct_alike _ _ _) fun corrected => evaluate_alike _
  | endOfSession => exact .bind endPrompt_alike fun _ => evaluate_alike _
  | interrupted =>
    refine .bind (.emit fun _ => rfl) fun _ => .bind (.emit fun _ => rfl) fun _ => ?_
    exact .bind (onEvaluator_alike _) fun _ => .pure _
  | noMoreInput =>
    exact .bind endPrompt_alike fun _ => .bind (.emit fun _ => rfl) fun _ => .pure _

/-! ## Turns -/

section Turns

variable {sort : List ReadEvent → Prop} (hasks : setup.AsksAlike note sort I)

include hasks

/-- From its question on a turn does not tell intakes apart that the question does not tell
apart. -/
theorem asking_alike (prompt : String) (h : Like I s t)
    (hsort : sort (asking setup prompt s s.intake).events) :
    Run.Alike note (Like I)
      ((do
        let indentation ← Act.ofExcept (s.indentation? setup)
        let outcome ← onIntake (s.question setup (prompt ++ String.ofList indentation))
        follow setup prompt indentation outcome : Act Event (Session ι δ σ) Turn) s)
      ((do
        let indentation ← Act.ofExcept (t.indentation? setup)
        let outcome ← onIntake (t.question setup (prompt ++ String.ofList indentation))
        follow setup prompt indentation outcome : Act Event (Session ι δ σ) Turn) t) := by
  obtain ⟨evaluator, i, tracker⟩ := s
  obtain ⟨evaluator', j, tracker'⟩ := t
  obtain ⟨rfl, rfl, hintake⟩ := h
  rw [asking, Act.bind_apply] at hsort
  rw [Act.bind_apply, Act.bind_apply]
  have hindentation : (⟨evaluator, i, tracker⟩ : Session ι δ σ).indentation? setup =
      (⟨evaluator, j, tracker⟩ : Session ι δ σ).indentation? setup := rfl
  rw [← hindentation]
  rcases hind : (⟨evaluator, i, tracker⟩ : Session ι δ σ).indentation? setup with f | indentation
  · -- Without an indentation for the prompt nothing is asked.
    exact ⟨rfl, ⟨rfl, rfl, hintake⟩, fun _ => rfl⟩
  · rw [hind, Act.ofExcept_apply, Run.andThen_ok, Run.after_nil] at hsort
    rw [Act.ofExcept_apply, Act.ofExcept_apply, Run.andThen_ok, Run.andThen_ok, Run.after_nil,
      Run.after_nil, Act.bind_apply, Act.bind_apply]
    have hquestion := hasks _ _ i j hintake hsort
    refine Run.Alike.andThen ?_ fun outcome => follow_alike prompt indentation outcome
    exact hquestion.within (fun u v huv => ⟨rfl, rfl, huv⟩) fun _ _ => rfl

/-- **A turn does not tell intakes apart that its question does not tell apart.** -/
theorem turn_alike_of (h : Like I s t) (hread : ∀ ρ, reading? setup s = some ρ → sort ρ.events) :
    (turn setup s).Alike note (Like I) (turn setup t) := by
  have hprompt : (onEvaluator setup.evaluator.prompt s).Alike note (Like I)
      (onEvaluator setup.evaluator.prompt t) := onEvaluator_alike _ s t h
  obtain ⟨hresult, hlike, hnoted⟩ := hprompt
  rcases hs : onEvaluator setup.evaluator.prompt s with ⟨f | prompt, u, es⟩
  · rcases ht : onEvaluator setup.evaluator.prompt t with ⟨g | prompt', v, ds⟩
    · rw [hs, ht] at hresult hlike hnoted
      rw [turn_of_prompt_error hs, turn_of_prompt_error ht]
      exact ⟨congrArg Except.error (Except.error.inj hresult), hlike, hnoted⟩
    · rw [hs, ht] at hresult
      cases hresult
  rcases ht : onEvaluator setup.evaluator.prompt t with ⟨g | prompt', v, ds⟩
  · rw [hs, ht] at hresult
    cases hresult
  rw [hs, ht] at hresult hlike hnoted
  obtain rfl : prompt = prompt' := Except.ok.inj hresult
  rw [turn_of_prompt hs, turn_of_prompt ht]
  have hsort := hread _ (reading?_of_prompt hs)
  exact (asking_alike hasks prompt (settle_like hlike) hsort).after hnoted

theorem turnsWithin_alike_of (n : Nat) (h : Like I s t)
    (hreads : ∀ ρ ∈ reads setup n s, sort ρ.events) :
    (turnsWithin setup n s).Alike note (Like I) (turnsWithin setup n t) := by
  -- by induction on the turns: after each of them the sessions differ in their intakes alone
  induction n generalizing s t with
  | zero => exact ⟨rfl, h, fun _ => rfl⟩
  | succ n ih =>
    have hread : ∀ ρ, reading? setup s = some ρ → sort ρ.events := by
      intro ρ hρ
      refine hreads ρ ?_
      rw [reads, hρ]
      exact List.mem_append_left _ (List.mem_singleton_self ρ)
    obtain ⟨hresult, hlike, hnoted⟩ := turn_alike_of hasks h hread
    rcases hs : turn setup s with ⟨result, u, es⟩
    rcases ht : turn setup t with ⟨result', v, ds⟩
    rw [hs, ht] at hresult hlike hnoted
    obtain rfl : result = result' := hresult
    rw [turnsWithin_succ, turnsWithin_succ, hs, ht]
    rcases result with f | (_ | value)
    · exact ⟨rfl, hlike, hnoted⟩
    · refine (ih hlike fun ρ hρ => hreads ρ ?_).after hnoted
      rw [reads, hs]
      exact List.mem_append_right _ hρ
    · exact Run.Alike.after (r := ⟨.ok (some value), u, []⟩) (q := ⟨.ok (some value), v, []⟩)
        ⟨rfl, hlike, fun _ => rfl⟩ hnoted

/-- **So does a session up to its first turns**, if what comes before them does. -/
theorem opened_alike_of {setup' : Setup ι δ σ} {n : Nat}
    (hturns : turnsWithin setup' n = turnsWithin setup n)
    (hbegin : (begin setup s).Alike note (Like I) (begin setup' t))
    (hreads : ∀ ρ ∈ openedReads setup n s, sort ρ.events) :
    (opened setup n s).Alike note (Like I) (opened setup' n t) := by
  obtain ⟨hresult, hlike, hnoted⟩ := hbegin
  rw [opened, opened, Act.bind_apply, Act.bind_apply, hturns]
  rcases hs : begin setup s with ⟨result, u, es⟩
  rcases ht : begin setup' t with ⟨result', v, ds⟩
  rw [hs, ht] at hresult hlike hnoted
  obtain rfl : result = result' := hresult
  rcases result with f | ⟨⟩
  · exact ⟨rfl, hlike, hnoted⟩
  · refine (turnsWithin_alike_of hasks n hlike fun ρ hρ => hreads ρ ?_).after hnoted
    rw [openedReads, hs]
    exact hρ

/-! ## The reads of both sessions -/

section Reads

variable (kind : List ReadEvent → Prop) (hnone : kind [])
  (hkind : ∀ (s : Session ι δ σ) prompt i j, I i j → sort (s.question setup prompt i).events →
    kind (s.question setup prompt j).events)

include hnone hkind

omit hasks in
/-- Where the read of one session is of a sort, that of the other one may be of another sort. -/
theorem reading?_kind_of (h : Like I s t) (hread : ∀ ρ, reading? setup s = some ρ → sort ρ.events)
    (ρ' : Reading ι δ σ) (hρ' : reading? setup t = some ρ') : kind ρ'.events := by
  obtain ⟨prompt, v, ds, ht, rfl⟩ := reading?_eq_some hρ'
  have hprompt : (onEvaluator setup.evaluator.prompt s).Alike (fun (_ : Unit) _ => ()) (Like I)
      (onEvaluator setup.evaluator.prompt t) := onEvaluator_alike _ s t h
  obtain ⟨hresult, hlike, -⟩ := hprompt
  rcases hs : onEvaluator setup.evaluator.prompt s with ⟨result, u, es⟩
  rw [hs, ht] at hresult hlike
  obtain rfl : result = .ok prompt := hresult
  have hsort : sort (asking setup prompt (settle setup u) (settle setup u).intake).events :=
    hread _ (reading?_of_prompt hs)
  have hsettled : Like I (settle setup u) (settle setup v) := settle_like hlike
  -- What is asked depends on the settled sessions alone, and these differ by their intakes.
  show kind (asking setup prompt (settle setup v) (settle setup v).intake).events
  generalize settle setup u = start at hsort hsettled
  generalize settle setup v = start' at hsettled
  obtain ⟨evaluator, i, tracker⟩ := start
  obtain ⟨evaluator', j, tracker'⟩ := start'
  obtain ⟨rfl, rfl, hintake⟩ := hsettled
  rw [asking, Act.bind_apply] at hsort ⊢
  have hindentation : (⟨evaluator, i, tracker⟩ : Session ι δ σ).indentation? setup =
      (⟨evaluator, j, tracker⟩ : Session ι δ σ).indentation? setup := rfl
  rw [← hindentation]
  rcases hind : (⟨evaluator, i, tracker⟩ : Session ι δ σ).indentation? setup with f | indentation
  · exact hnone
  · rw [hind] at hsort
    rw [Act.ofExcept_apply, Run.andThen_ok, Run.after_nil] at hsort ⊢
    exact hkind _ _ i j hintake hsort

theorem reads_kind_of (n : Nat) (h : Like I s t) (hreads : ∀ ρ ∈ reads setup n s, sort ρ.events) :
    ∀ ρ ∈ reads setup n t, kind ρ.events := by
  -- by induction on the turns: after each of them the sessions differ in their intakes alone
  induction n generalizing s t with
  | zero => exact nofun
  | succ n ih =>
    have hread : ∀ ρ, reading? setup s = some ρ → sort ρ.events := by
      intro ρ hρ
      refine hreads ρ ?_
      rw [reads, hρ]
      exact List.mem_append_left _ (List.mem_singleton_self ρ)
    have hnow := reading?_kind_of kind hnone hkind h hread
    obtain ⟨hresult, hlike, -⟩ := turn_alike_of hasks h hread
    intro ρ' hρ'
    rw [reads] at hρ'
    rcases List.mem_append.mp hρ' with hmem | hmem
    · exact hnow ρ' (Option.mem_toList.mp hmem)
    · rcases hs : turn setup s with ⟨result, u, es⟩
      rcases ht : turn setup t with ⟨result', v, ds⟩
      rw [hs, ht] at hresult hlike
      obtain rfl : result = result' := hresult
      rw [ht] at hmem
      rcases result with f | (_ | value)
      · cases hmem
      · refine ih hlike (fun ρ hρ => hreads ρ ?_) ρ' hmem
        rw [reads, hs]
        exact List.mem_append_right _ hρ
      · cases hmem

/-- **Where all the reads of one session are of a sort, those of the other one are of another
sort**, if their questions are. -/
theorem openedReads_kind_of {setup' : Setup ι δ σ} {n : Nat}
    (hreads' : reads setup' n = reads setup n)
    (hbegin : (begin setup s).Alike note (Like I) (begin setup' t))
    (hreads : ∀ ρ ∈ openedReads setup n s, sort ρ.events) :
    ∀ ρ ∈ openedReads setup' n t, kind ρ.events := by
  obtain ⟨hresult, hlike, -⟩ := hbegin
  rw [openedReads] at hreads ⊢
  rw [hreads']
  rcases hs : begin setup s with ⟨result, u, es⟩
  rcases ht : begin setup' t with ⟨result', v, ds⟩
  rw [hs, ht] at hresult hlike
  rw [hs] at hreads
  obtain rfl : result = result' := hresult
  rcases result with f | ⟨⟩
  · intro ρ hρ
    cases hρ
  · exact reads_kind_of hasks kind hnone hkind n hlike hreads

end Reads

end Turns

/-! ## What hooks are seen to do -/

theorem obey_cons (e : HookEvent ι) (es : List (HookEvent ι)) :
    (obey setup (e :: es) : Act Event (Session ι δ σ) Unit) =
      (do obey setup [e]; obey setup es) := by
  cases e <;> simp only [obey, bind_assoc, pure_bind]

/-- What hooks are seen to do looks the same if it does one by one. -/
theorem obey_alike_of {setup' : Setup ι δ σ} {g : HookEvent ι → HookEvent ι}
    {es : List (HookEvent ι)} (h : ∀ e ∈ es, Act.Alike note (Like I)
      (obey setup [e] : Act Event (Session ι δ σ) Unit) (obey setup' [g e])) :
    Act.Alike note (Like I) (obey setup es : Act Event (Session ι δ σ) Unit)
      (obey setup' (es.map g)) := by
  induction es with
  | nil => exact .pure _
  | cons e es ih =>
    obtain ⟨hfirst, hrest⟩ := List.forall_mem_cons.mp h
    rw [List.map_cons, obey_cons e es, obey_cons (g e) (es.map g)]
    exact .bind hfirst fun _ => ih hrest

/-- Hooks that do the same to the evaluator fire alike, if what they are seen to do looks the
same. -/
theorem fire_alike_of {setup' : Setup ι δ σ} {event : String} {g : HookEvent ι → HookEvent ι}
    (h : Like I s t) (hbinding : setup'.evaluator.binding = setup.evaluator.binding)
    (hhooked : setup'.hooked event t.evaluator =
      ⟨(setup.hooked event s.evaluator).result, (setup.hooked event s.evaluator).state,
        (setup.hookEvents event s.evaluator).map g⟩)
    (hobey : ∀ e ∈ setup.hookEvents event s.evaluator, Act.Alike note (Like I)
      (obey setup [e] : Act Event (Session ι δ σ) Unit) (obey setup' [g e])) :
    (fire setup event s).Alike note (Like I) (fire setup' event t) := by
  obtain ⟨evaluator, i, tracker⟩ := s
  obtain ⟨evaluator', j, tracker'⟩ := t
  obtain ⟨rfl, rfl, hintake⟩ := h
  change setup'.hooked event evaluator = ⟨(setup.hooked event evaluator).result,
    (setup.hooked event evaluator).state, (setup.hookEvents event evaluator).map g⟩ at hhooked
  -- The hooks see the evaluator and not the intake, so they leave it in the same state.
  have hlike : Like I
      (⟨(setup.hooked event evaluator).state, i, tracker⟩ : Session ι δ σ)
      ⟨(setup'.hooked event evaluator).state, j, tracker⟩ := by
    refine ⟨?_, rfl, hintake⟩
    rw [hhooked]
  obtain ⟨hresult, hstate, hnoted⟩ := obey_alike_of hobey _ _ hlike
  have hevents : (setup'.hooked event evaluator).events =
      (setup.hookEvents event evaluator).map g := congrArg Run.events hhooked
  rw [← hevents] at hresult hstate hnoted
  have hcall : (callHooks setup event (setup.evaluator.binding evaluator)
        ⟨evaluator, i, tracker⟩).Alike note (Like I)
      (callHooks setup' event (setup'.evaluator.binding evaluator) ⟨evaluator, j, tracker⟩) := by
    refine ⟨?_, hstate, hnoted⟩
    show (obey setup (setup.hooked event evaluator).events _).result.bind
        (fun _ => (setup.hooked event evaluator).result.map fun _ => ()) =
      (obey setup' (setup'.hooked event evaluator).events _).result.bind
        fun _ => (setup'.hooked event evaluator).result.map fun _ => ()
    have hanswer : (setup'.hooked event evaluator).result =
        (setup.hooked event evaluator).result := by rw [hhooked]
    rw [hanswer]
    exact congrArg (fun r => Except.bind r _) hresult
  refine (hcall.after fun seen => ?_).after fun _ => rfl
  show [Event.fired event (setup.evaluator.binding evaluator)].foldl note seen =
    [Event.fired event (setup'.evaluator.binding evaluator)].foldl note seen
  rw [hbinding]

/-- What hooks are seen to do looks the same, if the sources that they put in place do. -/
theorem obey_alike {e : HookEvent ι}
    (hswitch : ∀ source, .switched source = e → Act.Alike (fun seen e => note seen (.reading e)) I
      (Attempt.switchTo setup.inputs source) (Attempt.switchTo setup.inputs source)) :
    Act.Alike note (Like I) (obey setup [e] : Act Event (Session ι δ σ) Unit)
      (obey setup [e]) := by
  cases e with
  | ran name => exact .bind (.emit fun _ => rfl) fun _ => .pure _
  | notice n => exact .bind (.emit fun _ => rfl) fun _ => .pure _
  | switched source => exact .bind (onIntake_alike (hswitch source rfl)) fun _ => .pure _

theorem fire_alike {event : String} (h : Like I s t)
    (hswitch : ∀ source, .switched source ∈ setup.hookEvents event s.evaluator →
      Act.Alike (fun seen e => note seen (.reading e)) I
        (Attempt.switchTo setup.inputs source) (Attempt.switchTo setup.inputs source)) :
    (fire setup event s).Alike note (Like I) (fire setup event t) := by
  refine fire_alike_of h rfl ?_ fun e he => obey_alike ?_
  · rw [← h.evaluator_eq, List.map_id']
    rfl
  · rintro source rfl
    exact hswitch source he

/-! ## Before the first turn and after the last -/

section Unlogged

variable (hunlogged : Event.Unlogged note)

include hunlogged

/-- What comes before the first turn looks the same to an observer who does not heed how sources are
named, if hooks leave the sources alone. -/
theorem begin_alike (h : Like I s t) (hhooks : setup.KeepsSource "before_session" s.evaluator) :
    (begin setup s).Alike note (Like I) (begin setup t) := by
  have hfire : (fire setup "before_session" s).Alike note (Like I)
      (fire setup "before_session" t) :=
    fire_alike h fun source hmem => absurd hmem (hhooks source)
  rw [begin_eq, begin_eq]
  refine (hfire.andThen fun _ => ?_).after fun seen => ?_
  · exact Act.Alike.ite (.emit fun _ => rfl) (.pure _)
  · exact (hunlogged.loop seen _).trans (hunlogged.loop seen _).symm

/-- After the last turn a source may be put in place that nothing is read from. -/
theorem finish_alike :
    Act.Alike note (Like fun _ _ => True) (finish setup) (finish setup) := by
  intro s t h
  -- Nothing is asked of the intakes any more, so hooks may put any source in place.
  have hfire : (fire setup "after_session" s).Alike note (Like fun _ _ => True)
      (fire setup "after_session" t) := by
    refine fire_alike h fun source _ => .current_bind fun _ _ _ => ?_
    refine .bind (.emit fun seen => ?_) fun _ => .change fun _ _ _ => trivial
    exact (hunlogged.reading seen _).trans (hunlogged.reading seen _).symm
  have hend : Act.Alike note (Like fun _ _ => True)
      (log .debug "session_end" : Act Event (Session ι δ σ) Unit) (log .debug "session_end") :=
    .emit fun _ => rfl
  exact hfire.andThen fun _ => hend

end Unlogged

/-- Of runs that are alike either both have ended or none. -/
theorem ended?_alike {R : Session ι δ σ → Session ι δ σ → Prop}
    {r q : Run Event (Session ι δ σ) (Option α)} (h : r.Alike note R q) :
    (r.ended? = none ∧ q.ended? = none) ∨
      ∃ r' q', r.ended? = some r' ∧ q.ended? = some q' ∧ r'.Alike note R q' := by
  obtain ⟨result, s, es⟩ := r
  obtain ⟨result', t, ds⟩ := q
  obtain rfl : result = result' := h.result_eq
  rcases result with f | (_ | a)
  · exact .inr ⟨_, _, rfl, rfl, rfl, h.state, h.noted_eq⟩
  · exact .inl ⟨rfl, rfl⟩
  · exact .inr ⟨_, _, rfl, rfl, rfl, h.state, h.noted_eq⟩

/-- **Sessions whose first turns look the same end in the same way**, or neither of them ends. -/
theorem run?_alike_of (hunlogged : Event.Unlogged note) {n : Nat}
    (h : (opened setup n s).Alike note (Like I) (opened setup n t)) :
    (run? setup n s = none ∧ run? setup n t = none) ∨
      ∃ r q, run? setup n s = some r ∧ run? setup n t = some q ∧
        r.Alike note (Like fun _ _ => True) q := by
  rw [run?_eq, run?_eq]
  rcases ended?_alike h with ⟨hr, hq⟩ | ⟨r, q, hr, hq, halike⟩
  · rw [hr, hq]
    exact .inl ⟨rfl, rfl⟩
  · rw [hr, hq]
    -- What comes after the last turn does not depend on the intake at all.
    have hlast : r.Alike note (Like fun _ _ => True) q :=
      halike.mono fun s t hlike => ⟨hlike.evaluator_eq, hlike.tracker_eq, trivial⟩
    exact .inr ⟨_, _, rfl, rfl, hlast.ensuring (finish_alike hunlogged)⟩

end Session

end PromptLoop
